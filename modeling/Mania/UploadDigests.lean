/-
The digests an upload announces, and the bytes it then transmits.

The digests are those of what is left of the caller's stream, where it
stands; the bytes are all of it, from its start. So a stream that was read
before is announced wrong, and so is one that is sent twice: the first time
leaves nothing of it.
-/
import Mania.MediaSend
import Mania.MessagingLogicFacts

namespace Mania

open Effect World

variable {σ τ ε α : Type}

/-! ## Sending -/

inductive Scene where
  | group (groupUin : UInt32)
  | c2c (targetUid : String)

def sendImage (h : Handle σ) (image : ImageEntity) : Scene → Op σ ManiaError ImageEntity
  | .group groupUin => uploadGroupImage h groupUin image
  | .c2c targetUid => uploadC2cImage h targetUid image

def sendVideo (h : Handle σ) (video : VideoEntity) : Scene → Op σ ManiaError VideoEntity
  | .group groupUin => uploadGroupVideo h groupUin video
  | .c2c targetUid => uploadC2cVideo h targetUid video

namespace ClientEvent

/-- The MD5 and the SHA-1 in the request for an image. -/
def imageDigests : ClientEvent → Option (Bytes × Bytes)
  | imageGroupUpload req => some (req.md5, req.sha1)
  | imageC2CUpload req => some (req.md5, req.sha1)
  | _ => none

def videoDigests : ClientEvent → Option (Bytes × Bytes)
  | videoGroupUpload req => some (req.videoMd5, req.videoSha1)
  | videoC2CUpload req => some (req.videoMd5, req.videoSha1)
  | _ => none

def thumbDigests : ClientEvent → Option (Bytes × Bytes)
  | videoGroupUpload req => some (req.thumbMd5, req.thumbSha1)
  | videoC2CUpload req => some (req.thumbMd5, req.thumbSha1)
  | _ => none

/-- The sizes in the request for a video and its thumbnail. -/
def videoSizes : ClientEvent → Option (UInt32 × UInt32)
  | videoGroupUpload req => some (req.videoSize, req.thumbSize)
  | videoC2CUpload req => some (req.videoSize, req.thumbSize)
  | _ => none

end ClientEvent

/-- What the last request of all announces. -/
def World.announced (w : World σ) (announces : ClientEvent → Option α) : Option α :=
  w.answered.getLast?.bind fun exchange => announces exchange.1

/-! ## One send -/

variable {io : StreamIo τ} {h : Handle τ} {w w' : World (Streams τ)}

theorem uploadMedia_returned {media ρ κ : Type} {resolve : Op (Streams τ) ManiaError (media × ρ)}
    {event : ρ → ClientEvent} {downcast : AnswerEvent → Option (UploadRes κ)}
    {transfer : media → UploadRes κ → Op (Streams τ) ManiaError Unit} {m : media} {res : UploadRes κ}
    (htransfer : ∀ m res, Keeps Quiet (transfer m res))
    (hrun : (uploadMedia (h.onStreams io) resolve event downcast transfer).run w = (.ok (m, res), w')) :
    ∃ w₁ req w₂ w₃, Unmoved w w₁ ∧ resolve.run w₁ = (.ok (m, req), w₂) ∧ Unmoved w₂ w₃ ∧
      (transfer m res).run w₃ = (.ok (), w') ∧
      ∀ {β : Type} (announces : ClientEvent → Option β), w'.announced announces = announces (event req) := by
  obtain ⟨u, w₁, hprepare, hprepared⟩ := bind_eq_ok.mp hrun
  obtain ⟨⟨m', req⟩, w₂, hresolve, hresolved⟩ := bind_eq_ok.mp hprepared
  obtain ⟨answer, w₃, hrequest, hrequested⟩ := bind_eq_ok.mp hresolved
  obtain ⟨res', w₄, hcast, hcasted⟩ := bind_eq_ok.mp hrequested
  obtain ⟨u', w₅, hupload, hpure⟩ := bind_eq_ok.mp hcasted
  cases hpure
  obtain ⟨-, rfl⟩ := lift_eq_ok.mp hcast
  have hw₁ := prepareHighway_unmoved io h w
  rw [hprepare] at hw₁
  have hw₃ := request_unmoved io h (event req) w₂
  rw [hrequest] at hw₃
  have hquiet := (htransfer m res w₃).2
  rw [hupload] at hquiet
  refine ⟨w₁, req, w₂, w₃, hw₁, hresolve, hw₃, hupload, ?_⟩
  intro β announces
  rw [World.announced, hquiet, request_ok hrequest, List.getLast?_concat, Option.bind_some]

theorem World.Sent.of_uploaded {x : AsyncStream} {content : Bytes} {w₁ : World (Streams τ)} (hsent : Sent x content w₁ w')
    (hsame : w₁.shared.outside.uploaded = w.shared.outside.uploaded) : Sent x content w w' where
  uploads := by
    rw [← hsame]
    exact hsent.uploads
  spent := hsent.spent

theorem uploadImage_returned {ρ κ : Type} {cmd : Nat} {event : ImageUploadArgs ρ → ClientEvent}
    {downcast : AnswerEvent → Option (UploadRes κ)} {target : ρ} {image : ImageEntity} {x : AsyncStream} {b : ByteStream}
    {out : (AsyncStream × ImageEntity) × UploadRes κ}
    (hevent : ∀ req, (event req).imageDigests = some (req.md5, req.sha1))
    (hpath : image.filePath = none) (hstream : image.imageStream = some x) (hstands : w.shared.stream? x = some b)
    (hsize : image.size.toNat = b.content.length)
    (hrun : (uploadImage (h.onStreams io) cmd event downcast target image).run w = (.ok out, w')) :
    w'.announced ClientEvent.imageDigests = some (h.crates.digests b.rest) ∧ Sent x b.content w w' := by
  obtain ⟨media, res⟩ := out
  obtain ⟨w₁, req, w₂, w₃, hw₁, hresolve, hw₃, htransfer, hannounced⟩ :=
    uploadMedia_returned (fun _ _ => uploadFirst_quiet _ _ _ _ _ _) hrun
  have hstands₁ : w₁.shared.stream? x = some b := (hw₁.stream? x).trans hstands
  obtain ⟨rfl, hdigests, hw₂⟩ := requestImage_returned hpath hstream hresolve
  rw [Shared.stream_eq hstands₁] at hdigests hw₂
  have hspent : w₂.Spent x b.content := .drained hstands₁ (congrArg World.shared hw₂)
  have hspent₃ := (hw₃.sent hspent).spent
  have hsent : Sent x b.content w₃ w' := (uploadFirst_once htransfer).sent hspent₃ fun _ => hsize
  refine ⟨?_, hsent.of_uploaded ?_⟩
  · rw [hannounced, hevent, hdigests]
  · rw [hw₃.2, hw₂]
    exact hw₁.2

theorem sendImage_returned {scene : Scene} {image out : ImageEntity} {x : AsyncStream} {b : ByteStream}
    (hpath : image.filePath = none) (hstream : image.imageStream = some x) (hstands : w.shared.stream? x = some b)
    (hsize : image.size.toNat = b.content.length)
    (hrun : (sendImage (h.onStreams io) image scene).run w = (.ok out, w')) :
    w'.announced ClientEvent.imageDigests = some (h.crates.digests b.rest) ∧ Sent x b.content w w' := by
  cases scene with
  | group groupUin =>
    obtain ⟨uploaded, w₁, hupload, hpure⟩ := bind_eq_ok.mp hrun
    cases hpure
    exact uploadImage_returned (fun _ => rfl) hpath hstream hstands hsize hupload
  | c2c targetUid =>
    obtain ⟨uploaded, w₁, hupload, hpure⟩ := bind_eq_ok.mp hrun
    cases hpure
    exact uploadImage_returned (fun _ => rfl) hpath hstream hstands hsize hupload

/-- What is said of a video and of its thumbnail in the request for both. -/
structure Announces {ρ : Type} (event : VideoUploadArgs ρ → ClientEvent) : Prop where
  video : ∀ req, (event req).videoDigests = some (req.videoMd5, req.videoSha1)
  thumb : ∀ req, (event req).thumbDigests = some (req.thumbMd5, req.thumbSha1)
  sizes : ∀ req, (event req).videoSizes = some (req.videoSize, req.thumbSize)

theorem World.Spent.drain {x : AsyncStream} {content : Bytes} (hx : w.Spent x content) (y : AsyncStream)
    (hw' : w'.shared = w.shared.putStream y (w.shared.stream y).drained) : w'.Spent x content := by
  by_cases hsame : x = y
  · subst hsame
    obtain ⟨position, hlength, hstands⟩ := hx
    rw [Shared.stream_eq hstands] at hw'
    exact .drained hstands hw'
  · obtain ⟨position, hlength, hstands⟩ := hx
    refine ⟨position, hlength, ?_⟩
    rw [hw', Shared.stream?_putStream_ne hsame, hstands]

/-- A video is sent once its stream is there: what its request says of the
two streams as they stand, and the two uploads. -/
inductive VideoSent {ρ : Type} (h : Handle τ) (io : StreamIo τ) (event : VideoUploadArgs ρ → ClientEvent)
    (self : VideoEntity) (media : VideoStreams) (w : World (Streams τ)) : World (Streams τ) → Prop
  | mk {w₁ w₂ w₃ w' : World (Streams τ)} {shared : Shared (Streams τ)} {req : VideoUploadArgs ρ}
      (hthumb : Thumbnail self w (some media.thumb) media.entity w₁)
      (hshared : shared = w₁.shared.putStream media.video (w₁.shared.stream media.video).drained)
      (hvideo : (req.videoMd5, req.videoSha1) = h.crates.digests (w₁.shared.stream media.video).rest)
      (hthumbnail : (req.thumbMd5, req.thumbSha1) = h.crates.digests (shared.stream media.thumb).rest)
      (hsizes : (req.videoSize, req.thumbSize) = (media.entity.videoSize.toUInt32, media.entity.videoThumbSize.toUInt32))
      (hannounced : ∀ {β : Type} (announces : ClientEvent → Option β), w'.announced announces = announces (event req))
      (hw₂ : Unmoved { w₁ with shared := shared.putStream media.thumb (shared.stream media.thumb).drained } w₂)
      (hfirst : UploadedOnce h io media.video media.entity.videoSize.toUInt32 w₂ w₃)
      (hsecond : UploadedOnce h io media.thumb media.entity.videoThumbSize.toUInt32 w₃ w') :
      VideoSent h io event self media w w'

theorem uploadVideo_sent {ρ : Type} {cmd : Nat} {event : VideoUploadArgs ρ → ClientEvent}
    {downcast : AnswerEvent → Option (UploadRes VideoFile)} {target : ρ} {video out : VideoEntity}
    (hrun : (uploadVideo (h.onStreams io) cmd event downcast target video).run w = (.ok out, w')) :
    ∃ w₁ w₂ self media, Unmoved w w₁ ∧ Source io video w₁ media.video self w₂ ∧ VideoSent h io event self media w₂ w' := by
  obtain ⟨⟨media, res⟩, w₀, hupload, hpure⟩ := bind_eq_ok.mp hrun
  cases hpure
  obtain ⟨w₁, req, w₂, w₄, hw₁, hresolve, hw₄, htransfer, hannounced⟩ :=
    uploadMedia_returned (fun _ _ => (uploadFirst_quiet _ _ _ _ _ _).bind fun _ => uploadThumb_quiet _ _ _ _ _) hupload
  obtain ⟨self, w₂', w₃, shared, hsource, hthumb, hshared, hvideo, hthumbnail, hsizes, rfl⟩ :=
    requestVideo_returned hresolve
  obtain ⟨u, w₅, hfirst, hsecond⟩ := bind_eq_ok.mp htransfer
  exact ⟨w₁, w₂', self, media, hw₁, hsource,
    .mk (resolveThumbStream_returned hthumb) hshared hvideo hthumbnail hsizes hannounced hw₄ (uploadFirst_once hfirst)
      (uploadThumb_once hsecond)⟩

/-- The event is one of the two. -/
theorem sendVideo_sent {scene : Scene} {video out : VideoEntity}
    (hrun : (sendVideo (h.onStreams io) video scene).run w = (.ok out, w')) :
    ∃ (ρ : Type) (event : VideoUploadArgs ρ → ClientEvent) (w₁ w₂ : World (Streams τ)) (self : VideoEntity)
      (media : VideoStreams), Announces event ∧ Unmoved w w₁ ∧ Source io video w₁ media.video self w₂ ∧
      VideoSent h io event self media w₂ w' := by
  cases scene with
  | group groupUin =>
    obtain ⟨w₁, w₂, self, media, hsent⟩ := uploadVideo_sent hrun
    exact ⟨_, .videoGroupUpload, w₁, w₂, self, media, ⟨fun _ => rfl, fun _ => rfl, fun _ => rfl⟩, hsent⟩
  | c2c targetUid =>
    obtain ⟨w₁, w₂, self, media, hsent⟩ := uploadVideo_sent hrun
    exact ⟨_, .videoC2CUpload, w₁, w₂, self, media, ⟨fun _ => rfl, fun _ => rfl, fun _ => rfl⟩, hsent⟩

theorem VideoSent.video {ρ : Type} {event : VideoUploadArgs ρ → ClientEvent} {self : VideoEntity} {media : VideoStreams}
    {b : ByteStream} (hevent : Announces event) (hx : w.shared.stream? media.video = some b)
    (hsize : self.videoSize.toUInt32.toNat = b.content.length)
    (hthumb : self.videoThumbPath = none → self.videoThumbStream = some media.video →
      self.videoThumbSize.toUInt32.toNat = b.content.length)
    (hsent : VideoSent h io event self media w w') :
    w'.announced ClientEvent.videoDigests = some (h.crates.digests b.rest) ∧ Sent media.video b.content w w' := by
  obtain @⟨w₁, w₂, w₃, _, shared, req, hresolved, hshared, hdigests, -, -, hannounced, hw₂, hfirst, hsecond⟩ := hsent
  have hleaves := hresolved.leaves hx
  have hx₁ : w₁.shared.stream? media.video = some b := hleaves.stream?.trans hx
  rw [Shared.stream_eq hx₁] at hdigests hshared
  have hread : Spent media.video b.content { w₁ with shared } := .drained hx₁ hshared
  have hspent := (hw₂.sent (hread.drain media.thumb rfl)).spent
  have hsent : Sent media.video b.content w₂ w₃ := by
    refine hfirst.sent hspent fun _ => ?_
    rw [hleaves.videoSize, hsize]
  have hsent' : Sent media.video b.content w₃ w' := by
    refine hsecond.sent hsent.spent fun hsame => ?_
    obtain ⟨hthumbPath, hthumbStream, hthumbSize⟩ := hleaves.given hsame
    rw [hthumbSize, hthumb hthumbPath hthumbStream]
  refine ⟨?_, (hsent.trans hsent').of_uploaded ?_⟩
  · rw [hannounced, hevent.video, hdigests]
  · rw [hw₂.2, ← hleaves.uploaded, hshared]
    rfl

theorem VideoSent.thumb {ρ : Type} {event : VideoUploadArgs ρ → ClientEvent} {self : VideoEntity} {media : VideoStreams}
    {y : AsyncStream} {b : ByteStream} (hevent : Announces event) (hpath : self.videoThumbPath = none)
    (hstream : self.videoThumbStream = some y)
    (hy : (w.shared.putStream media.video (w.shared.stream media.video).drained).stream? y = some b)
    (hvideo : media.video = y → self.videoSize.toUInt32.toNat = b.content.length)
    (hsize : self.videoThumbSize.toUInt32.toNat = b.content.length) (hsent : VideoSent h io event self media w w') :
    w'.announced ClientEvent.thumbDigests = some (h.crates.digests b.rest) ∧ Sent y b.content w w' := by
  obtain @⟨w₁, w₂, w₃, _, shared, req, hresolved, hshared, -, hdigests, -, hannounced, hw₂, hfirst, hsecond⟩ := hsent
  obtain ⟨hmedia, hentity, rfl⟩ := hresolved.of_given hpath hstream
  cases hmedia
  rw [hentity] at hfirst hsecond
  have hstands : shared.stream? media.thumb = some b := by
    rw [hshared]
    exact hy
  rw [Shared.stream_eq hstands] at hdigests hw₂
  have hread : Spent media.thumb b.content { w₁ with shared := shared.putStream media.thumb b.drained } :=
    ⟨_, Nat.le_max_right _ _, Shared.stream?_putStream hstands b.drained⟩
  have hspent := (hw₂.sent hread).spent
  have hsent : Sent media.thumb b.content w₂ w₃ := hfirst.sent hspent hvideo
  have hsent' : Sent media.thumb b.content w₃ w' := hsecond.sent hsent.spent fun _ => hsize
  refine ⟨?_, (hsent.trans hsent').of_uploaded ?_⟩
  · rw [hannounced, hevent.thumb, hdigests]
  · rw [hw₂.2, hshared]
    rfl

theorem toUInt32_toNat {x : Int32} {n : Nat} (h : x.toInt = n) : x.toUInt32.toNat = n := by
  have hnat : x.toUInt32.toNat = x.toBitVec.toNat := rfl
  have hint : x.toInt = x.toBitVec.toInt := rfl
  rw [hint, BitVec.toInt_eq_toNat_cond] at h
  have hlt := x.toBitVec.isLt
  rw [hnat]
  split at h <;> omega

/-- Where the thumbnail's stream stands once the video's was read: at its
end, if they are one, or else as before. -/
inductive ThumbStands (video : VideoEntity) (y : AsyncStream) (b : ByteStream) (w : World (Streams τ)) : Prop
  | stream {x : AsyncStream} {bx : ByteStream} (hpath : video.videoPath = none) (hstream : video.videoStream = some x)
      (hx : w.shared.stream? x = some bx) (hstands : (w.shared.putStream x bx.drained).stream? y = some b)
      (hsize : video.videoSize.toInt = bx.content.length)
  | file {path : String} (hpath : video.videoPath = some path) (hstands : w.shared.stream? y = some b)

theorem ThumbStands.unmoved {video : VideoEntity} {y : AsyncStream} {b : ByteStream} (hy : ThumbStands video y b w)
    (hw : Unmoved w w') : ThumbStands video y b w' := by
  cases hy with
  | @stream x bx hpath hstream hx hstands hsize =>
    refine .stream hpath hstream ((hw.stream? x).trans hx) ?_ hsize
    rw [← hstands]
    exact congrArg (fun table => (List.set table x.handle bx.drained)[y.handle]?) hw.1
  | file hpath hstands => exact .file hpath ((hw.stream? y).trans hstands)

/-- What the thumbnail of a video is taken of, once the video's stream is read. -/
structure Source.Leaves (video : VideoEntity) (y : AsyncStream) (b : ByteStream) (w : World (Streams τ)) (x : AsyncStream)
    (entity : VideoEntity) (w' : World (Streams τ)) : Prop where
  stands : (w'.shared.putStream x (w'.shared.stream x).drained).stream? y = some b
  videoSize : x = y → entity.videoSize.toUInt32.toNat = b.content.length
  uploaded : w'.shared.outside.uploaded = w.shared.outside.uploaded
  thumbPath : entity.videoThumbPath = video.videoThumbPath
  thumbStream : entity.videoThumbStream = video.videoThumbStream
  thumbSize : entity.videoThumbSize = video.videoThumbSize

theorem Source.leaves {video entity : VideoEntity} {x y : AsyncStream} {b : ByteStream}
    (hsource : Source io video w x entity w') (hy : ThumbStands video y b w) : Source.Leaves video y b w x entity w' := by
  cases hy with
  | @stream x' bx hpath hstream hx hstands hsize =>
    obtain ⟨rfl, rfl, rfl⟩ := hsource.of_given hpath hstream
    refine ⟨?_, ?_, rfl, rfl, rfl, rfl⟩
    · rw [Shared.stream_eq hx]
      exact hstands
    · rintro rfl
      cases (Shared.stream?_putStream hx bx.drained).symm.trans hstands
      exact toUInt32_toNat hsize
  | file hpath hstands =>
    cases hsource with
    | given hnone _ => cases hpath.symm.trans hnone
    | file _ _ =>
      refine ⟨?_, ?_, rfl, rfl, rfl, rfl⟩
      · rw [Shared.stream?_putStream_ne (Shared.fresh_ne hstands)]
        exact Shared.stream?_pushStream hstands _
      · intro hsame
        exact absurd hsame.symm (Shared.fresh_ne hstands)

theorem sendVideo_returned {scene : Scene} {video out : VideoEntity} {x : AsyncStream} {b : ByteStream}
    (hpath : video.videoPath = none) (hstream : video.videoStream = some x)
    (hx : w.shared.stream? x = some b) (hsize : video.videoSize.toUInt32.toNat = b.content.length)
    (hthumb : video.videoThumbPath = none → video.videoThumbStream = some x →
      video.videoThumbSize.toUInt32.toNat = b.content.length)
    (hrun : (sendVideo (h.onStreams io) video scene).run w = (.ok out, w')) :
    w'.announced ClientEvent.videoDigests = some (h.crates.digests b.rest) ∧ Sent x b.content w w' := by
  obtain ⟨ρ, event, w₁, w₂, self, media, hevent, hw₁, hsource, hsent⟩ := sendVideo_sent hrun
  obtain ⟨rfl, rfl, rfl⟩ := hsource.of_given hpath hstream
  obtain ⟨hannounced, hsent⟩ := hsent.video hevent ((hw₁.stream? media.video).trans hx) hsize hthumb
  exact ⟨hannounced, hsent.of_uploaded hw₁.2⟩

theorem sendVideo_thumb {scene : Scene} {video out : VideoEntity} {y : AsyncStream} {b : ByteStream}
    (hpath : video.videoThumbPath = none) (hstream : video.videoThumbStream = some y) (hy : ThumbStands video y b w)
    (hsize : video.videoThumbSize.toUInt32.toNat = b.content.length)
    (hrun : (sendVideo (h.onStreams io) video scene).run w = (.ok out, w')) :
    w'.announced ClientEvent.thumbDigests = some (h.crates.digests b.rest) ∧ Sent y b.content w w' := by
  obtain ⟨ρ, event, w₁, w₂, self, media, hevent, hw₁, hsource, hsent⟩ := sendVideo_sent hrun
  have hleaves := hsource.leaves (hy.unmoved hw₁)
  obtain ⟨hannounced, hsent⟩ := hsent.thumb hevent (hleaves.thumbPath.trans hpath) (hleaves.thumbStream.trans hstream)
    hleaves.stands hleaves.videoSize (hleaves.thumbSize ▸ hsize)
  exact ⟨hannounced, hsent.of_uploaded (hleaves.uploaded.trans hw₁.2)⟩

/-! ## What is announced of a stream -/

/-- A send, from `w` to `w'`, with one of the caller's streams in it: what
the stream holds, where it stands when it is hashed, and what is announced
of it. The entity says the size of what the stream holds. -/
inductive SendsStream (h : Handle τ) (io : StreamIo τ) (x : AsyncStream) (content : Bytes) (position : Nat)
    (w w' : World (Streams τ)) : Option (Bytes × Bytes) → Prop
  | image {scene : Scene} {image out : ImageEntity} (hpath : image.filePath = none) (hstream : image.imageStream = some x)
      (hstands : w.shared.stream? x = some { content, position }) (hsize : image.size.toNat = content.length)
      (hrun : (sendImage (h.onStreams io) image scene).run w = (.ok out, w')) :
      SendsStream h io x content position w w' (w'.announced ClientEvent.imageDigests)
  | video {scene : Scene} {video out : VideoEntity} (hpath : video.videoPath = none) (hstream : video.videoStream = some x)
      (hstands : w.shared.stream? x = some { content, position }) (hsize : video.videoSize.toInt = content.length)
      (hthumb : video.videoThumbPath = none → video.videoThumbStream = some x →
        video.videoThumbSize.toInt = content.length)
      (hrun : (sendVideo (h.onStreams io) video scene).run w = (.ok out, w')) :
      SendsStream h io x content position w w' (w'.announced ClientEvent.videoDigests)
  /-- The video's stream, or its file, is hashed first. -/
  | thumb {scene : Scene} {video out : VideoEntity} (hpath : video.videoThumbPath = none)
      (hstream : video.videoThumbStream = some x) (hstands : ThumbStands video x { content, position } w)
      (hsize : video.videoThumbSize.toInt = content.length)
      (hrun : (sendVideo (h.onStreams io) video scene).run w = (.ok out, w')) :
      SendsStream h io x content position w w' (w'.announced ClientEvent.thumbDigests)

/-- Two byte strings with one MD5 and one SHA-1. -/
def UploadCrates.Collide (crates : UploadCrates) (bytes bytes' : Bytes) : Prop :=
  bytes ≠ bytes' ∧ crates.digests bytes = crates.digests bytes'

theorem UploadCrates.digests_eq_iff (crates : UploadCrates) (bytes bytes' : Bytes) :
    crates.digests bytes = crates.digests bytes' ↔ bytes = bytes' ∨ crates.Collide bytes bytes' := by
  constructor
  · intro hdigests
    by_cases heq : bytes = bytes'
    · exact .inl heq
    · exact .inr ⟨heq, hdigests⟩
  · rintro (rfl | hcollide)
    · rfl
    · exact hcollide.2

theorem drop_eq_self_iff {bs : Bytes} {n : Nat} : bs.drop n = bs ↔ n = 0 ∨ bs = [] := by
  constructor
  · intro hdrop
    have hlength := congrArg List.length hdrop
    rw [List.length_drop] at hlength
    rw [← List.length_eq_zero_iff]
    omega
  · rintro (rfl | rfl)
    · exact List.drop_zero
    · exact List.drop_nil

namespace SendsStream

variable {x : AsyncStream} {content : Bytes} {position : Nat} {announced : Option (Bytes × Bytes)}

theorem returned (hsend : SendsStream h io x content position w w' announced) :
    announced = some (h.crates.digests (content.drop position)) ∧ Sent x content w w' := by
  cases hsend with
  | image hpath hstream hstands hsize hrun => exact sendImage_returned hpath hstream hstands hsize hrun
  | video hpath hstream hstands hsize hthumb hrun =>
    exact sendVideo_returned hpath hstream hstands (toUInt32_toNat hsize)
      (fun hthumbPath hthumbStream => toUInt32_toNat (hthumb hthumbPath hthumbStream)) hrun
  | thumb hpath hstream hstands hsize hrun => exact sendVideo_thumb hpath hstream hstands (toUInt32_toNat hsize) hrun

/-- A stream that has nothing left has nothing left when it is hashed. -/
theorem spent (hsend : SendsStream h io x content position w w' announced) {content' : Bytes} (hx : w.Spent x content') :
    content = content' ∧ content'.length ≤ position := by
  obtain ⟨position', hlength, hspent⟩ := hx
  cases hsend with
  | image hpath hstream hstands hsize hrun =>
    cases hstands.symm.trans hspent
    exact ⟨rfl, hlength⟩
  | video hpath hstream hstands hsize hthumb hrun =>
    cases hstands.symm.trans hspent
    exact ⟨rfl, hlength⟩
  | thumb hpath hstream hstands hsize hrun =>
    cases hstands with
    | @stream y b _ _ hvideo hstands _ =>
      by_cases hsame : x = y
      · subst hsame
        cases hvideo.symm.trans hspent
        rw [Shared.stream?_putStream hspent] at hstands
        cases hstands
        exact ⟨rfl, Nat.le_max_right _ _⟩
      · rw [Shared.stream?_putStream_ne hsame] at hstands
        cases hstands.symm.trans hspent
        exact ⟨rfl, hlength⟩
    | file _ hstands =>
      cases hstands.symm.trans hspent
      exact ⟨rfl, hlength⟩

end SendsStream

/-- Main result. **What is announced of a stream is right exactly where it
stands at its start**, or is empty, or has a tail with the digests of the
whole: what is uploaded of it is all of it. A stream that is sent again is
announced as before exactly where nothing of it was left before, or its
rest has the digests of nothing. -/
theorem announcesDigests_iff {x : AsyncStream} {content : Bytes} {position : Nat} {announced : Option (Bytes × Bytes)}
    (hsend : SendsStream h io x content position w w' announced) :
    (∃ new, w'.shared.outside.uploaded = w.shared.outside.uploaded ++ new ∧
      ∀ hw, (UploadData.shared x, hw) ∈ new → hw.Carries content) ∧
    (announced = some (h.crates.digests content) ↔
      position = 0 ∨ content = [] ∨ h.crates.Collide (content.drop position) content) ∧
    ∀ {content' : Bytes} {position' : Nat} {w₂ w₂' : World (Streams τ)} {again : Option (Bytes × Bytes)},
      w₂.shared.stream? x = w'.shared.stream? x → SendsStream h io x content' position' w₂ w₂' again →
      content' = content ∧
        (again = announced ↔ content.length ≤ position ∨ h.crates.Collide [] (content.drop position)) := by
  obtain ⟨hannounced, hsent⟩ := hsend.returned
  refine ⟨hsent.uploads, ?_, ?_⟩
  · rw [hannounced, Option.some.injEq, UploadCrates.digests_eq_iff, drop_eq_self_iff, or_assoc]
  · intro content' position' w₂ w₂' again hstands hsend'
    have hspent : w₂.Spent x content := by
      obtain ⟨left, hlength, hleft⟩ := hsent.spent
      exact ⟨left, hlength, hstands.trans hleft⟩
    obtain ⟨rfl, hlength⟩ := hsend'.spent hspent
    have hagain := hsend'.returned.1
    rw [List.drop_eq_nil_of_le hlength] at hagain
    refine ⟨rfl, ?_⟩
    rw [hagain, hannounced, Option.some.injEq, UploadCrates.digests_eq_iff, @eq_comm _ [], List.drop_eq_nil_iff]

/-! ## A bitmap, sent twice -/

def bitmap : Bytes := [0x42, 0x4D] ++ List.replicate 30 0

/-- The digests of the bitmap and of nothing. -/
def bitmapCrates : UploadCrates :=
  { (sampleHandle true).crates with
    md5 := fun bytes =>
      if bytes = [] then [0xD4, 0x1D, 0x8C, 0xD9, 0x8F, 0x00, 0xB2, 0x04, 0xE9, 0x80, 0x09, 0x98, 0xEC, 0xF8, 0x42, 0x7E]
      else [0x14, 0x77, 0xF7, 0x26, 0xEF, 0x21, 0x92, 0xD1, 0x63, 0x91, 0xCA, 0x2E, 0xA4, 0x83, 0xC2, 0x88]
    sha1 := fun bytes =>
      if bytes = [] then
        [0xDA, 0x39, 0xA3, 0xEE, 0x5E, 0x6B, 0x4B, 0x0D, 0x32, 0x55, 0xBF, 0xEF, 0x95, 0x60, 0x18, 0x90, 0xAF, 0xD8,
          0x07, 0x09]
      else
        [0x4D, 0x9A, 0x40, 0x5E, 0x81, 0x63, 0xBC, 0xA2, 0xF6, 0xCF, 0x80, 0xBE, 0x72, 0x74, 0x38, 0x31, 0xE8, 0x24,
          0x7C, 0x52] }

def bitmapHandle : Handle Unit :=
  { sampleHandle true with
    config := { highwayChuckSize := 64, fetchGroupMemberStrategy := .simple }
    crates := bitmapCrates }

/-- Streams that answer every call, and no files. -/
def openStreams : StreamIo Unit where
  file _ _ := none
  thumbnail _ := .ok none
  chunks _ _ _ := .ok 8191
  calls _ _ _ := .ok ()

def bitmapImage : ImageEntity := { samplePicture with size := 32 }

def bitmapWorld : World (Streams Unit) :=
  .start
    { sigSession := none
      client := sampleShared.client
      cache := none
      outside := { table := [{ content := bitmap, position := 0 }], uploaded := [], rest := () } }

def sendBitmap : Op (Streams Unit) ManiaError ImageEntity :=
  sendImage (bitmapHandle.onStreams openStreams) bitmapImage (.group 9)

/-- The world once the bitmap was sent, and once it was sent again. -/
def bitmapSent : World (Streams Unit) := (sendBitmap.run bitmapWorld).2

def bitmapResent : World (Streams Unit) := (sendBitmap.run bitmapSent).2

theorem sendsBitmap :
    SendsStream bitmapHandle openStreams { handle := 0 } bitmap 0 bitmapWorld bitmapSent
      (bitmapSent.announced ClientEvent.imageDigests) := by
  have hpath : bitmapImage.filePath = none := rfl
  have hrun : (sendImage (bitmapHandle.onStreams openStreams) bitmapImage (.group 9)).run bitmapWorld =
      (.ok { bitmapImage with msgInfo := some sampleAnswer.msgInfo }, bitmapSent) := rfl
  exact .image hpath rfl rfl rfl hrun

theorem sendsBitmap_again :
    SendsStream bitmapHandle openStreams { handle := 0 } bitmap 32 bitmapSent bitmapResent
      (bitmapResent.announced ClientEvent.imageDigests) := by
  have hpath : bitmapImage.filePath = none := rfl
  have hrun : (sendImage (bitmapHandle.onStreams openStreams) bitmapImage (.group 9)).run bitmapSent =
      (.ok { bitmapImage with msgInfo := some sampleAnswer.msgInfo }, bitmapResent) := rfl
  exact .image hpath rfl rfl rfl hrun

/-- From its start it is announced right, and not so again. -/
theorem announcesDigests_bitmap :
    (∃ new, bitmapSent.shared.outside.uploaded = [] ++ new ∧
      ∀ hw, (UploadData.shared { handle := 0 }, hw) ∈ new → hw.Carries bitmap) ∧
    bitmapSent.announced ClientEvent.imageDigests = some (bitmapCrates.digests bitmap) ∧
    bitmapResent.announced ClientEvent.imageDigests ≠ bitmapSent.announced ClientEvent.imageDigests := by
  obtain ⟨huploads, hright, hagain⟩ := announcesDigests_iff sendsBitmap
  refine ⟨huploads, hright.mpr (.inl rfl), fun hsame => ?_⟩
  rcases (hagain rfl sendsBitmap_again).2.mp hsame with hlength | hcollide
  · exact absurd hlength (by decide)
  · exact absurd hcollide.2 (by decide)

/-- **The second time, what is uploaded is the bitmap again, and what is
announced of it are the digests of nothing.** -/
theorem bitmap_again :
    SendsStream bitmapHandle openStreams { handle := 0 } bitmap 32 bitmapSent bitmapResent
      (bitmapResent.announced ClientEvent.imageDigests) ∧
    (∃ first hw, bitmapResent.shared.outside.uploaded = [first, (.shared { handle := 0 }, hw)] ∧
      hw.sent.flatMap HighwayFrame.body = bitmap) ∧
    bitmapResent.announced ClientEvent.imageDigests = some (bitmapCrates.digests []) ∧
    bitmapResent.announced ClientEvent.imageDigests ≠ some (bitmapCrates.digests bitmap) ∧
    bitmapResent.announced ClientEvent.imageDigests ≠ bitmapSent.announced ClientEvent.imageDigests := by
  have hsent : bitmapSent.announced ClientEvent.imageDigests = some (bitmapCrates.digests bitmap) := rfl
  have hresent : bitmapResent.announced ClientEvent.imageDigests = some (bitmapCrates.digests []) := rfl
  have hdiffer : bitmapCrates.digests [] ≠ bitmapCrates.digests bitmap := by decide
  refine ⟨sendsBitmap_again, ⟨_, _, rfl, rfl⟩, hresent, ?_, ?_⟩
  · rw [hresent]
    exact fun hsame => hdiffer (Option.some.inj hsame)
  · rw [hresent, hsent]
    exact fun hsame => hdiffer (Option.some.inj hsame)

end Mania
