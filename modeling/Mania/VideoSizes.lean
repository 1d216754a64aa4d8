/-
The sizes of a video and of its thumbnail, from `message/builder.rs` to the
request and the uploads.

A file's size is taken when it is opened, and a stream's is what the entity
says. That is zero for a stream the builder was given: it is announced as
empty, and nothing of it is uploaded (`streamed_unsized`).
-/
import Mania.UploadDigests

namespace Mania

open Effect World

/-! ## `MessageChainBuilder` -/

def VideoEntity.default : VideoEntity where
  fileName := ""
  height := 0
  width := 0
  videoSize := 0
  videoLength := 0
  node := none

structure MessageChainBuilder where
  chains : MessageChain

namespace MessageChainBuilder

/-- `self.chains.entities.push(entity)`. -/
def push (self : MessageChainBuilder) (entity : Entity) : MessageChainBuilder :=
  { chains := { self.chains with entities := self.chains.entities ++ [entity] } }

def video (self : MessageChainBuilder) (videoPath : String) (videoLength : Int32) : MessageChainBuilder :=
  self.push (.video { VideoEntity.default with videoPath := some videoPath, videoLength })

def videoWithThumb (self : MessageChainBuilder) (videoPath : String) (videoLength : Int32) (thumbPath : String) :
    MessageChainBuilder :=
  self.push
    (.video { VideoEntity.default with videoPath := some videoPath, videoLength, videoThumbPath := some thumbPath })

def videoStream (self : MessageChainBuilder) (videoStream : AsyncStream) (videoLength : Int32) : MessageChainBuilder :=
  self.push (.video { VideoEntity.default with videoStream := some videoStream, videoLength })

def videoStreamWithThumb (self : MessageChainBuilder) (videoStream : AsyncStream) (videoLength : Int32)
    (thumbStream : AsyncStream) : MessageChainBuilder :=
  self.push
    (.video
      { VideoEntity.default with
        videoStream := some videoStream
        videoThumbStream := some thumbStream
        videoLength })

/-- What was pushed last. -/
def pushed (self : MessageChainBuilder) : Option Entity := self.chains.entities.getLast?

@[simp] theorem pushed_push (self : MessageChainBuilder) (entity : Entity) : (self.push entity).pushed = some entity :=
  List.getLast?_concat

/-- A video by its stream, with its thumbnail's or without. -/
def streamed (self : MessageChainBuilder) (x : AsyncStream) (length : Int32) : Option AsyncStream → MessageChainBuilder
  | none => self.videoStream x length
  | some y => self.videoStreamWithThumb x length y

/-- A video by its path, with its thumbnail's or without. -/
def filed (self : MessageChainBuilder) (path : String) (length : Int32) : Option String → MessageChainBuilder
  | none => self.video path length
  | some thumbPath => self.videoWithThumb path length thumbPath

theorem streamed_pushed (self : MessageChainBuilder) (x : AsyncStream) (length : Int32) (thumb : Option AsyncStream) :
    (self.streamed x length thumb).pushed =
      some (.video
        { VideoEntity.default with
          videoStream := some x
          videoThumbStream := thumb
          videoLength := length }) := by
  cases thumb with
  | none => exact pushed_push self _
  | some y => exact pushed_push self _

theorem filed_pushed (self : MessageChainBuilder) (path : String) (length : Int32) (thumbPath : Option String) :
    (self.filed path length thumbPath).pushed =
      some (.video
        { VideoEntity.default with
          videoPath := some path
          videoThumbPath := thumbPath
          videoLength := length }) := by
  cases thumbPath with
  | none => exact pushed_push self _
  | some thumbPath => exact pushed_push self _

end MessageChainBuilder

/-! ## What is announced and uploaded -/

/-- Nothing was handed to either connection. -/
def HighwayWorld.Idle (hw : HighwayWorld) : Prop := hw.sent = [] ∧ hw.posted = []

variable {τ : Type} {io : StreamIo τ} {h : Handle τ} {w w' : World (Streams τ)}

/-- The uploads between the two are of this stream, and at size zero of
nothing of it. -/
def Uploads (x : AsyncStream) (size : UInt32) (w w' : World (Streams τ)) : Prop :=
  ∃ new, w'.shared.outside.uploaded = w.shared.outside.uploaded ++ new ∧
    ∀ upload ∈ new, upload.1 = .shared x ∧ (size = 0 → upload.2.Idle)

theorem UploadedOnce.uploads {x : AsyncStream} {size : UInt32} (hupload : UploadedOnce h io x size w w') :
    Uploads x size w w' := by
  rcases hupload with rfl | ⟨args, hargs, hclient⟩
  · exact ⟨[], (List.append_nil _).symm, fun _ hmem => absurd hmem List.not_mem_nil⟩
  · obtain ⟨client, tcp, http, fuel, hw, hrun, -, hlog⟩ := clientUpload_returned hclient
    refine ⟨[(.shared x, hw)], hlog, ?_⟩
    intro upload hmem
    cases List.mem_singleton.mp hmem
    refine ⟨rfl, fun hsize => ?_⟩
    have hzero : args.size = 0 := by
      rw [hargs, hsize]
      rfl
    have hsilent := upload_silent h.crates.highway client hzero tcp http fuel
      { content := (w.shared.stream x).content, position := (w.shared.stream x).position, sent := [], posted := [] }
    rw [hrun] at hsilent
    exact hsilent

theorem Source.uploaded {video entity : VideoEntity} {x : AsyncStream} (hsource : Source io video w x entity w') :
    w'.shared.outside.uploaded = w.shared.outside.uploaded := by
  cases hsource with
  | given => rfl
  | file => rfl

theorem Thumbnail.uploaded {video entity : VideoEntity} {thumb : Option AsyncStream}
    (hthumb : Thumbnail video w thumb entity w') : w'.shared.outside.uploaded = w.shared.outside.uploaded := by
  cases hthumb with
  | missing => rfl
  | given => rfl
  | new => rfl

/-- **The sizes in the request are those of the resolved entity**, and so
are those of the two uploads. -/
theorem VideoSent.sizes {ρ : Type} {event : VideoUploadArgs ρ → ClientEvent} {self : VideoEntity} {media : VideoStreams}
    (hevent : Announces event) (hsent : VideoSent h io event self media w w') :
    ∃ w₁ w₂ w₃, Thumbnail self w (some media.thumb) media.entity w₁ ∧
      w'.announced ClientEvent.videoSizes =
        some (media.entity.videoSize.toUInt32, media.entity.videoThumbSize.toUInt32) ∧
      w₂.shared.outside.uploaded = w.shared.outside.uploaded ∧
      Uploads media.video media.entity.videoSize.toUInt32 w₂ w₃ ∧
      Uploads media.thumb media.entity.videoThumbSize.toUInt32 w₃ w' := by
  obtain @⟨w₁, w₂, w₃, _, shared, req, hthumb, hshared, -, -, hsizes, hannounced, hw₂, hfirst, hsecond⟩ := hsent
  refine ⟨w₁, w₂, w₃, hthumb, ?_, ?_, hfirst.uploads, hsecond.uploads⟩
  · rw [hannounced, hevent.sizes, hsizes]
  · rw [hw₂.2, ← hthumb.uploaded, hshared]
    rfl

/-! ## A video by its stream -/

/-- The stream, and its thumbnail's if there is one, are announced as empty
and nothing of either is handed over. -/
structure AnnouncedEmpty (x : AsyncStream) (thumb : Option AsyncStream) (w w' : World (Streams τ)) : Prop where
  sizes : ∃ thumbSize, w'.announced ClientEvent.videoSizes = some (0, thumbSize) ∧ (thumb.isSome → thumbSize = 0)
  uploads : ∃ new, w'.shared.outside.uploaded = w.shared.outside.uploaded ++ new ∧
    ∀ y hw, (UploadData.shared y, hw) ∈ new → y = x ∨ thumb = some y → hw.Idle

theorem VideoSent.empty {ρ : Type} {event : VideoUploadArgs ρ → ClientEvent} {self : VideoEntity} {media : VideoStreams}
    {b : ByteStream} (hevent : Announces event) (hx : w.shared.stream? media.video = some b) (hsize : self.videoSize = 0)
    (hthumbSize : self.videoThumbSize = 0) (hpath : self.videoThumbPath = none) (hsent : VideoSent h io event self media w w') :
    AnnouncedEmpty media.video self.videoThumbStream w w' := by
  obtain ⟨w₁, w₂, w₃, hthumb, hannounced, hsame, hfirst, hsecond⟩ := hsent.sizes hevent
  have hleaves := hthumb.leaves hx
  have hvideoSize : media.entity.videoSize.toUInt32 = 0 := by
    rw [hleaves.videoSize, hsize]
    rfl
  have hgiven : ∀ y, self.videoThumbStream = some y → media.thumb = y ∧ media.entity.videoThumbSize.toUInt32 = 0 := by
    intro y hstream
    obtain ⟨hmedia, hentity, -⟩ := hthumb.of_given hpath hstream
    cases hmedia
    rw [hentity, hthumbSize]
    exact ⟨rfl, rfl⟩
  have hidle : media.thumb = media.video ∨ self.videoThumbStream = some media.thumb →
      media.entity.videoThumbSize.toUInt32 = 0 := by
    rintro (hsame | hstream)
    · exact (hgiven media.video (hleaves.given hsame).2.1).2
    · exact (hgiven media.thumb hstream).2
  obtain ⟨first, hnew, hfirst⟩ := hfirst
  obtain ⟨second, hnew', hsecond⟩ := hsecond
  refine ⟨⟨media.entity.videoThumbSize.toUInt32, by rw [hannounced, hvideoSize], ?_⟩, first ++ second, ?_, ?_⟩
  · intro hsome
    obtain ⟨y, hstream⟩ := Option.isSome_iff_exists.mp hsome
    exact (hgiven y hstream).2
  · rw [hnew', hnew, hsame, List.append_assoc]
  · intro y hw hmem hof
    rcases List.mem_append.mp hmem with hmem | hmem
    · exact (hfirst _ hmem).2 hvideoSize
    · obtain ⟨hdata, hempty⟩ := hsecond _ hmem
      cases hdata
      exact hempty (hidle hof)

theorem Shared.stream?_of_pos {s : Shared (Streams τ)} {x : AsyncStream} (hx : 1 ≤ (s.stream x).content.length) :
    s.stream? x = some (s.stream x) := by
  rw [stream] at hx ⊢
  cases hstream : s.stream? x with
  | some b => rfl
  | none =>
    rw [hstream] at hx
    exact absurd hx (Nat.not_succ_le_zero 0)

/-- **A stream keeps the size that the entity says**, and so does its
thumbnail's that is given. -/
theorem resolveStream_given {video entity : VideoEntity} {x : AsyncStream} {v t : Option AsyncStream}
    (hpath : video.videoPath = none) (hstream : video.videoStream = some x) (hthumbPath : video.videoThumbPath = none)
    (hrun : (video.resolveStream (h.onStreams io)).run w = (.ok (v, t, entity), w')) :
    v = some x ∧ entity.videoSize = video.videoSize ∧
      ∀ y, video.videoThumbStream = some y → t = some y ∧ entity.videoThumbSize = video.videoThumbSize := by
  rw [VideoEntity.resolveStream, VideoEntity.resolveVideoStream, hpath, hstream] at hrun
  obtain ⟨⟨v', self⟩, w₁, hpure, hresolved⟩ := bind_eq_ok.mp hrun
  cases hpure
  obtain ⟨⟨t', entity'⟩, w₂, hthumb, hpure⟩ := bind_eq_ok.mp hresolved
  cases hpure
  refine ⟨rfl, ?_⟩
  cases resolveThumbStream_returned hthumb with
  | missing hsome => exact absurd hthumbPath hsome
  | given _ hgiven => exact ⟨rfl, fun y hy => ⟨hgiven.symm.trans hy, rfl⟩⟩
  | new b hnone => exact ⟨rfl, fun y hy => absurd ((hnone hthumbPath).symm.trans hy) nofun⟩

/-- A stream that is not empty does not have the size zero. -/
theorem toInt_zero_ne {n : Nat} (hn : 1 ≤ n) : (0 : Int32).toInt ≠ n := by
  have hzero : (0 : Int32).toInt = 0 := rfl
  rw [hzero]
  omega

/-- Main result. **The size of a video that is given as a stream is lost**:
the resolved entity says zero of it, and of the thumbnail's stream that is
given with it, whatever they hold. So a message with it is announced as
empty, and no byte of either stream is handed over. -/
theorem streamed_unsized {builder : MessageChainBuilder} {x : AsyncStream} {length : Int32} {thumb : Option AsyncStream}
    {video : VideoEntity} (hvideo : (builder.streamed x length thumb).pushed = some (.video video))
    (hx : 1 ≤ (w.shared.stream x).content.length) (hthumb : ∀ y ∈ thumb, 1 ≤ (w.shared.stream y).content.length) :
    (∀ {v t : Option AsyncStream} {entity : VideoEntity} {w' : World (Streams τ)},
      (video.resolveStream (h.onStreams io)).run w = (.ok (v, t, entity), w') →
      v = some x ∧ entity.videoSize.toInt ≠ (w.shared.stream x).content.length ∧
        ∀ y ∈ thumb, t = some y ∧ entity.videoThumbSize.toInt ≠ (w.shared.stream y).content.length) ∧
    (thumb.isSome → (video.resolveStream (h.onStreams io)).run w = (.ok (some x, thumb, video), w)) ∧
    ∀ {scene : Scene} {out : VideoEntity} {w' : World (Streams τ)},
      (sendVideo (h.onStreams io) video scene).run w = (.ok out, w') → AnnouncedEmpty x thumb w w' := by
  rw [MessageChainBuilder.streamed_pushed] at hvideo
  cases hvideo
  refine ⟨?_, ?_, ?_⟩
  · intro v t entity w' hrun
    obtain ⟨hv, hsize, hgiven⟩ := resolveStream_given rfl rfl rfl hrun
    refine ⟨hv, ?_, fun y hy => ⟨(hgiven y hy).1, ?_⟩⟩
    · rw [hsize]
      exact toInt_zero_ne hx
    · rw [(hgiven y hy).2]
      exact toInt_zero_ne (hthumb y hy)
  · intro hsome
    obtain ⟨y, rfl⟩ := Option.isSome_iff_exists.mp hsome
    rfl
  · intro scene out w' hrun
    obtain ⟨ρ, event, w₁, w₂, self, media, hevent, hw₁, hsource, hsent⟩ := sendVideo_sent hrun
    obtain ⟨rfl, rfl, rfl⟩ := hsource.of_given rfl rfl
    have hopen : w₂.shared.stream? media.video = some (w.shared.stream media.video) :=
      (hw₁.stream? media.video).trans (Shared.stream?_of_pos hx)
    obtain ⟨hsizes, new, hnew, hidle⟩ := hsent.empty hevent hopen rfl rfl rfl
    exact ⟨hsizes, new, by rw [hnew, hw₁.2], hidle⟩

/-! ## A video by its path -/

/-- The stream of a file is at its start, and the entity has its size. -/
theorem Source.of_file {video entity : VideoEntity} {x : AsyncStream} {path : String}
    (hsource : Source io video w x entity w') (hpath : video.videoPath = some path) :
    ∃ content, io.file path w.shared = some content ∧ entity = { video with videoSize := Int32.ofNat content.length } ∧
      w'.shared.stream? x = some { content, position := 0 } := by
  cases hsource with
  | given hnone => cases hnone.symm.trans hpath
  | @file path' content hpath' hfile =>
    cases hpath'.symm.trans hpath
    exact ⟨content, hfile, rfl, List.getElem?_concat_length⟩

/-- **By its path it has its size**: that of the file is announced, and all
of the file is uploaded. -/
theorem filed_sized {builder : MessageChainBuilder} {path : String} {length : Int32} {thumbPath : Option String}
    {video out : VideoEntity} {scene : Scene}
    (hvideo : (builder.filed path length thumbPath).pushed = some (.video video))
    (hrun : (sendVideo (h.onStreams io) video scene).run w = (.ok out, w')) :
    ∃ content shared, io.file path shared = some content ∧
      (∃ thumbSize, w'.announced ClientEvent.videoSizes = some (UInt32.ofNat content.length, thumbSize)) ∧
      (content.length < 2 ^ 32 → ∃ x, Sent x content w w') := by
  rw [MessageChainBuilder.filed_pushed] at hvideo
  cases hvideo
  obtain ⟨ρ, event, w₁, w₂, self, media, hevent, hw₁, hsource, hsent⟩ := sendVideo_sent hrun
  obtain ⟨w₃, w₄, w₅, hthumb, hannounced, -, -, -⟩ := hsent.sizes hevent
  obtain ⟨content, hfile, rfl, hx⟩ := hsource.of_file rfl
  refine ⟨content, w₁.shared, hfile, ⟨media.entity.videoThumbSize.toUInt32, ?_⟩, fun h32 => ⟨media.video, ?_⟩⟩
  · rw [hannounced, (hthumb.leaves hx).videoSize, Int32.toUInt32_ofNat']
  · have hsize : (Int32.ofNat content.length).toUInt32.toNat = content.length := by
      rw [Int32.toUInt32_ofNat']
      exact UInt32.toNat_ofNat_of_lt' h32
    obtain ⟨-, hsent⟩ := hsent.video hevent hx hsize fun _ hstream => by cases hstream
    exact hsent.of_uploaded (hsource.uploaded.trans hw₁.2)

/-! ## A clip, by its stream and by its path -/

/-- Both the clip and its thumbnail have to go to the highway. -/
def clipAnswer : UploadRes VideoFile where
  msgInfo :=
    { msgInfoBody :=
        [{ index := some { info := some sampleFile, fileUuid := "clip" } },
          { index := some { info := some sampleFile, fileUuid := "thumb" } }]
      extBizInfo := none }
  compat := { fileUuid := "", fileMd5 := [], fileSize := 0, fileWidth := 0, fileHeight := 0 }
  uKey := some "key"
  ipv4s := []
  subFileInfo := [{ uKey := "sub" }]

def clipHandle : Handle Unit :=
  { sampleHandle true with
    outside :=
      { sampleOutside true with
        sendPacket := fun packet =>
          if packet.command = "OidbSvcTrpcTcp.0x11ea_100" then pure (.videoGroupUpload clipAnswer)
          else (sampleOutside true).sendPacket packet } }

/-- Streams that answer every call, and files with what the streams hold. -/
def clipFiles : StreamIo Unit :=
  { openStreams with
    file := fun path _ => if path = "clip.mp4" then some [7, 8, 9] else if path = "clip.jpg" then some [5, 6] else none }

def clipWorld : World (Streams Unit) :=
  .start
    { sigSession := none
      client := sampleShared.client
      cache := none
      outside :=
        { table := [{ content := [7, 8, 9], position := 0 }, { content := [5, 6], position := 0 }]
          uploaded := []
          rest := () } }

def clipBuilder : MessageChainBuilder := { chains := Entity.sampleChain }

/-- By its stream and its thumbnail's. -/
def clipStreamed : VideoEntity :=
  { VideoEntity.default with
    videoStream := some { handle := 0 }
    videoThumbStream := some { handle := 1 }
    videoLength := 2 }

/-- By its path and its thumbnail's. -/
def clipFiled : VideoEntity :=
  { VideoEntity.default with
    videoPath := some "clip.mp4"
    videoThumbPath := some "clip.jpg"
    videoLength := 2 }

def sendClip (video : VideoEntity) : Op (Streams Unit) ManiaError VideoEntity :=
  sendVideo (clipHandle.onStreams clipFiles) video (.group 9)

/-- The world once it was sent. -/
def clipSent (video : VideoEntity) : World (Streams Unit) := ((sendClip video).run clipWorld).2

/-- What each upload handed to TCP, and posted. -/
def World.handed (w : World (Streams τ)) : List (Bytes × List Bytes) :=
  w.shared.outside.uploaded.map fun upload => (upload.2.sent.flatMap HighwayFrame.body, upload.2.posted)

/-- Its three and two bytes come to nothing. -/
theorem streamed_unsized_clip :
    (clipBuilder.videoStreamWithThumb { handle := 0 } 2 { handle := 1 }).pushed = some (.video clipStreamed) ∧
    (clipStreamed.resolveStream (clipHandle.onStreams clipFiles)).run clipWorld =
      (.ok (some { handle := 0 }, some { handle := 1 }, clipStreamed), clipWorld) ∧
    clipStreamed.videoSize.toInt ≠ 3 ∧ clipStreamed.videoThumbSize.toInt ≠ 2 ∧
    AnnouncedEmpty { handle := 0 } (some { handle := 1 }) clipWorld (clipSent clipStreamed) := by
  have hvideo : (clipBuilder.streamed { handle := 0 } 2 (some { handle := 1 })).pushed = some (.video clipStreamed) := rfl
  have hx : 1 ≤ (clipWorld.shared.stream { handle := 0 }).content.length := by decide
  have hthumb : ∀ y ∈ some { handle := 1 }, 1 ≤ (clipWorld.shared.stream y).content.length := by
    intro y hy
    cases hy
    decide
  have hresolves : (clipStreamed.resolveStream (clipHandle.onStreams clipFiles)).run clipWorld =
      (.ok (some { handle := 0 }, some { handle := 1 }, clipStreamed), clipWorld) :=
    (streamed_unsized hvideo hx hthumb).2.1 rfl
  obtain ⟨-, hsize, hgiven⟩ := (streamed_unsized hvideo hx hthumb).1 hresolves
  have hsent : (sendVideo (clipHandle.onStreams clipFiles) clipStreamed (.group 9)).run clipWorld =
      (.ok { clipStreamed with msgInfo := some clipAnswer.msgInfo, compat := some clipAnswer.compat },
        clipSent clipStreamed) := rfl
  exact ⟨hvideo, hresolves, hsize, (hgiven { handle := 1 } rfl).2, (streamed_unsized hvideo hx hthumb).2.2 hsent⟩

/-- **The clip by its stream is announced as empty and nothing of it is
handed over; by its path it is announced with its three bytes**, and they
are. -/
theorem clip_lost :
    (clipStreamed.resolveStream (clipHandle.onStreams clipFiles)).run clipWorld =
      (.ok (some { handle := 0 }, some { handle := 1 }, clipStreamed), clipWorld) ∧
    clipStreamed.videoSize.toInt = 0 ∧ clipStreamed.videoThumbSize.toInt = 0 ∧
    (clipWorld.shared.stream { handle := 0 }).content = [7, 8, 9] ∧
    (clipWorld.shared.stream { handle := 1 }).content = [5, 6] ∧
    (clipSent clipStreamed).announced ClientEvent.videoSizes = some (0, 0) ∧
    (clipSent clipStreamed).handed = [([], []), ([], [])] ∧
    (clipSent clipFiled).announced ClientEvent.videoSizes = some (3, 2) ∧
    (clipSent clipFiled).handed = [([7, 8, 9], []), ([5, 6], [])] := by
  have hresolves : (clipStreamed.resolveStream (clipHandle.onStreams clipFiles)).run clipWorld =
      (.ok (some { handle := 0 }, some { handle := 1 }, clipStreamed), clipWorld) := rfl
  have hsizes : (clipSent clipStreamed).announced ClientEvent.videoSizes = some (0, 0) := by decide +kernel
  have hhanded : (clipSent clipStreamed).handed = [([], []), ([], [])] := by decide +kernel
  have hsizes' : (clipSent clipFiled).announced ClientEvent.videoSizes = some (3, 2) := by decide +kernel
  have hhanded' : (clipSent clipFiled).handed = [([7, 8, 9], []), ([5, 6], [])] := by decide +kernel
  exact ⟨hresolves, rfl, rfl, rfl, rfl, hsizes, hhanded, hsizes', hhanded'⟩

end Mania
