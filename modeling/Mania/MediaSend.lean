/-
Where the streams of an image or a video stand before and after it is sent,
and what its upload delivers.
-/
import Mania.HwReturns
import Mania.MediaStreams

namespace Mania

open Effect ByteStream

variable {τ ε α : Type} {io : StreamIo τ} {h : Handle τ} {w w' : World (Streams τ)}

/-! ## Calls that move no stream -/

namespace World

/-- The streams are as they were, and nothing was uploaded. -/
def Unmoved (w w' : World (Streams τ)) : Prop :=
  w'.shared.outside.table = w.shared.outside.table ∧ w'.shared.outside.uploaded = w.shared.outside.uploaded

instance : Std.Refl (Unmoved (τ := τ)) := ⟨fun _ => ⟨rfl, rfl⟩⟩

instance : IsTrans (World (Streams τ)) Unmoved :=
  ⟨fun _ _ _ hfirst hrest => ⟨hrest.1.trans hfirst.1, hrest.2.trans hfirst.2⟩⟩

end World

open World

theorem modify_unmoved {f : World (Streams τ) → World (Streams τ)} (hf : ∀ w, Unmoved w (f w)) :
    Keeps Unmoved (modify f : Op (Streams τ) ε Unit) := Keeps.modify hf

theorem sendPacket_unmoved (io : StreamIo τ) (h : Handle τ) (event : ClientEvent) (packet : Packet) :
    Keeps Unmoved (sendPacket (h.onStreams io) event packet) := by
  have hask : Keeps Unmoved (ask ((h.onStreams io).outside.sendPacket packet)) := by
    intro w
    exact ⟨rfl, rfl⟩
  exact Keeps.bind (modify_unmoved fun _ => ⟨rfl, rfl⟩) fun _ => hask.bind fun _ =>
    Keeps.bind (modify_unmoved fun _ => ⟨rfl, rfl⟩) fun _ => Keeps.pure _

theorem request_unmoved (io : StreamIo τ) (h : Handle τ) (event : ClientEvent) :
    Keeps Unmoved (request (h.onStreams io) event) := by
  refine Keeps.mapErr ?_
  rw [sendEvent, pure_bind]
  exact Keeps.get.bind fun _ => (Keeps.lift _).bind fun _ => sendPacket_unmoved io h event _

theorem prepareHighway_unmoved (io : StreamIo τ) (h : Handle τ) : Keeps Unmoved (prepareHighway (h.onStreams io)) := by
  have hfetch : Keeps Unmoved (fetchSigSession (h.onStreams io)) :=
    (request_unmoved io h _).bind fun _ => (Keeps.lift _).bind fun _ =>
      Keeps.bind (modify_unmoved fun _ => ⟨rfl, rfl⟩) fun _ => Keeps.pure _
  have hload : Keeps Unmoved (loadSigSession (h.onStreams io)) := by
    refine Keeps.get.bind fun w => ?_
    cases w.shared.sigSession with
    | some sig => exact Keeps.pure _
    | none => exact hfetch
  exact hload.bind fun _ => modify_unmoved fun _ => ⟨rfl, rfl⟩

/-! ## One stream -/

namespace Shared

variable {s : Shared (Streams τ)} {x y : AsyncStream} {b b' : ByteStream}

theorem stream_eq (hx : s.stream? x = some b) : s.stream x = b := by
  rw [stream, hx]
  rfl

theorem putStream_self (s : Shared (Streams τ)) (x : AsyncStream) : s.putStream x (s.stream x) = s := by
  have htable : s.outside.table.set x.handle (s.stream x) = s.outside.table := by
    rw [stream, stream?]
    cases hx : s.outside.table[x.handle]? with
    | none => exact List.set_eq_of_length_le (List.getElem?_eq_none_iff.mp hx)
    | some b =>
      obtain ⟨hlt, rfl⟩ := List.getElem?_eq_some_iff.mp hx
      exact List.set_getElem_self hlt
  rw [putStream, htable]

theorem stream?_putStream (hx : s.stream? x = some b) (b' : ByteStream) : (s.putStream x b').stream? x = some b' := by
  obtain ⟨hlt, -⟩ := List.getElem?_eq_some_iff.mp hx
  exact List.getElem?_set_self hlt

theorem stream?_putStream_ne (hne : y ≠ x) (b' : ByteStream) : (s.putStream x b').stream? y = s.stream? y := by
  have hhandle : x.handle ≠ y.handle := by
    intro heq
    cases x
    cases y
    cases heq
    exact hne rfl
  exact List.getElem?_set_ne hhandle

theorem stream?_pushStream (hx : s.stream? x = some b) (b' : ByteStream) : (s.pushStream b').stream? x = some b := by
  obtain ⟨hlt, -⟩ := List.getElem?_eq_some_iff.mp hx
  exact (List.getElem?_append_left hlt).trans hx

/-- A new handle is no open stream's. -/
theorem fresh_ne (hx : s.stream? x = some b) : x ≠ { handle := s.outside.table.length } := by
  obtain ⟨hlt, -⟩ := List.getElem?_eq_some_iff.mp hx
  rintro rfl
  exact Nat.lt_irrefl _ hlt

end Shared

/-- What was left is read, and the stream is at its end. -/
theorem readChunks_returned {x : AsyncStream} {chunks : List Bytes}
    (hrun : (askIo ((h.onStreams io).outside.readChunks x)).run w = (.ok chunks, w')) :
    chunks.flatten = (w.shared.stream x).rest ∧
      w' = { w with shared := w.shared.putStream x (w.shared.stream x).drained } := by
  obtain ⟨s, hread, rfl⟩ := zoom_eq_ok.mp (mapErr_eq_ok.mp hrun)
  change (onStream x (streamPipeline (io.chunks x w.shared))).run w.shared = (.ok chunks, s) at hread
  obtain ⟨b, hpipeline, rfl⟩ := zoom_eq_ok.mp hread
  obtain ⟨hflat, rfl⟩ := streamPipeline_ok hpipeline
  exact ⟨hflat, rfl⟩

theorem resolveImageMetadata_returned {x : AsyncStream} {info : ImageInfo} {f : String → ManiaError}
    (hrun : ((ask ((h.onStreams io).outside.resolveImageMetadata x)).mapErr f).run w = (.ok info, w')) : w' = w := by
  obtain ⟨s, hread, rfl⟩ := zoom_eq_ok.mp (mapErr_eq_ok.mp hrun)
  change ((onStream x (resolveImageMetadata (io.calls x w.shared))).mapErr _).run w.shared = (.ok info, s) at hread
  obtain ⟨b, hresolve, rfl⟩ := zoom_eq_ok.mp (mapErr_eq_ok.mp hread)
  rw [resolveImageMetadata_restores hresolve, Shared.putStream_self]

/-- The MD5 and the SHA-1 of these bytes. -/
def UploadCrates.digests (crates : UploadCrates) (bytes : Bytes) : Bytes × Bytes := (crates.md5 bytes, crates.sha1 bytes)

/-- **The digests of an image are those of what was left of its stream.** -/
theorem requestImage_returned {ρ : Type} {target : ρ} {image : ImageEntity} {x : AsyncStream}
    {media : AsyncStream × ImageEntity} {req : ImageUploadArgs ρ} (hpath : image.filePath = none)
    (hstream : image.imageStream = some x)
    (hrun : (requestImage (h.onStreams io) target image).run w = (.ok (media, req), w')) :
    media = (x, image) ∧ (req.md5, req.sha1) = h.crates.digests (w.shared.stream x).rest ∧
      w' = { w with shared := w.shared.putStream x (w.shared.stream x).drained } := by
  obtain ⟨m, w₁, hresolved, hrest⟩ := bind_eq_ok.mp hrun
  have hlift := mapErr_eq_ok.mp hresolved
  rw [ImageEntity.resolveStream, hpath, hstream] at hlift
  cases hlift
  obtain ⟨⟨info, sha1, md5⟩, w₂, himage, hpure⟩ := bind_eq_ok.mp hrest
  cases hpure
  obtain ⟨chunks, w₃, hread, hrest⟩ := bind_eq_ok.mp himage
  obtain ⟨info', w₄, hinfo, hpure⟩ := bind_eq_ok.mp hrest
  cases hpure
  obtain ⟨hflat, rfl⟩ := readChunks_returned hread
  cases resolveImageMetadata_returned hinfo
  refine ⟨rfl, ?_, rfl⟩
  rw [← hflat]
  rfl

theorem streamSha1_same {σ : Type} (h : Handle σ) (chunks : List Bytes) : Keeps Eq (streamSha1 h chunks) := by
  refine Keeps.get.bind fun w => ?_
  split
  · exact Keeps.pure _
  · exact Keeps.spins
  · next e _ => exact e.elim
  · exact Keeps.panic

/-- The two streams, one after the other. -/
theorem resolveVideo_returned {x y : AsyncStream} {hashes : VideoHashes}
    (hrun : (resolveVideo (h.onStreams io) x y).run w = (.ok hashes, w')) :
    ∃ shared, shared = w.shared.putStream x (w.shared.stream x).drained ∧
      (hashes.fileMd5, hashes.fileSha1) = h.crates.digests (w.shared.stream x).rest ∧
      (hashes.thumbMd5, hashes.thumbSha1) = h.crates.digests (shared.stream y).rest ∧
      w' = { w with shared := shared.putStream y (shared.stream y).drained } := by
  obtain ⟨chunks, w₁, hread, hrest⟩ := bind_eq_ok.mp hrun
  obtain ⟨fileStreamSha1, w₂, hsha1, hrest⟩ := bind_eq_ok.mp hrest
  obtain ⟨thumbChunks, w₃, hthumb, hpure⟩ := bind_eq_ok.mp hrest
  cases hpure
  cases (streamSha1_same _ chunks).unchanged hsha1
  obtain ⟨hflat, rfl⟩ := readChunks_returned hread
  obtain ⟨hthumbFlat, rfl⟩ := readChunks_returned hthumb
  refine ⟨_, rfl, ?_, ?_, rfl⟩
  · rw [← hflat]
    rfl
  · rw [← hthumbFlat]
    rfl

/-! ## The streams of a video -/

theorem openStream_missing {path : String} (hfile : io.file path w.shared = none) :
    (openStream (h.onStreams io) path).run w = (.err (), w) := by
  have hopen : ((h.onStreams io).outside.openFile path).run w.shared = (.err (), w.shared) := by
    show (Effect.lift (Outcome.okOr () (io.file path w.shared)) >>= _).run w.shared = _
    rw [hfile]
    rfl
  rw [openStream, run, ask, zoom, hopen]

/-- A file that is opened is a new stream, at its start. -/
theorem openStream_opened {path : String} {content : Bytes} (hfile : io.file path w.shared = some content) :
    (openStream (h.onStreams io) path).run w =
      (.ok ({ handle := w.shared.outside.table.length }, content.length),
        { w with shared := w.shared.pushStream { content, position := 0 } }) := by
  have hopen : ((h.onStreams io).outside.openFile path).run w.shared =
      (.ok ({ handle := w.shared.outside.table.length }, content.length),
        w.shared.pushStream { content, position := 0 }) := by
    show (Effect.lift (Outcome.okOr () (io.file path w.shared)) >>= _).run w.shared = _
    rw [hfile]
    rfl
  rw [openStream, run, ask, zoom, hopen]

theorem loadStream_returned {path : String} {file : Option (AsyncStream × Nat)}
    (hrun : (loadStream (h.onStreams io) path).run w = (.ok file, w')) :
    file = none ∧ w' = w ∨
      ∃ content, io.file path w.shared = some content ∧
        file = some ({ handle := w.shared.outside.table.length }, content.length) ∧
        w' = { w with shared := w.shared.pushStream { content, position := 0 } } := by
  cases hfile : io.file path w.shared with
  | none =>
    have hnone : (loadStream (h.onStreams io) path).run w = (.ok none, w) :=
      orElse_err (bind_err (openStream_missing hfile))
    cases hnone.symm.trans hrun
    exact .inl ⟨rfl, rfl⟩
  | some content =>
    have hmap : (some <$> openStream (h.onStreams io) path).run w =
        (.ok (some ({ handle := w.shared.outside.table.length }, content.length)),
          { w with shared := w.shared.pushStream { content, position := 0 } }) := by
      rw [map_eq_pure_bind, Effect.bind_ok (openStream_opened hfile)]
      rfl
    rw [run, loadStream, orElse, hmap] at hrun
    cases hrun
    exact .inr ⟨content, rfl, rfl, rfl⟩

/-- A thumbnail that is drawn is a new stream, where its cursor stands. -/
theorem genThumbnail_returned {s s' : Shared (Streams τ)} {thumb : Option (AsyncStream × Nat)}
    (hrun : (h.onStreams io).outside.genThumbnail.run s = (.ok thumb, s')) :
    thumb = none ∧ s' = s ∨
      ∃ b, thumb = some ({ handle := s.outside.table.length }, b.content.length) ∧ s' = s.pushStream b := by
  unfold Handle.onStreams Outside.onStreams at hrun
  rw [get_bind] at hrun
  split at hrun
  · cases hrun
  · cases hrun
    exact .inl ⟨rfl, rfl⟩
  · next b _ =>
    cases hrun
    exact .inr ⟨b, rfl, rfl⟩

/-- The stream of a video is the one that was given, or a file's. -/
inductive Source (io : StreamIo τ) (video : VideoEntity) (w : World (Streams τ)) :
    AsyncStream → VideoEntity → World (Streams τ) → Prop
  | given {x : AsyncStream} (hpath : video.videoPath = none) (hstream : video.videoStream = some x) :
      Source io video w x video w
  | file {path : String} {content : Bytes} (hpath : video.videoPath = some path)
      (hfile : io.file path w.shared = some content) :
      Source io video w { handle := w.shared.outside.table.length } { video with videoSize := Int32.ofNat content.length }
        { w with shared := w.shared.pushStream { content, position := 0 } }

theorem resolveVideoStream_returned {video entity : VideoEntity} {x : AsyncStream}
    (hrun : (video.resolveVideoStream (h.onStreams io)).run w = (.ok (some x, entity), w')) :
    Source io video w x entity w' := by
  unfold VideoEntity.resolveVideoStream at hrun
  split at hrun
  · next path hpath =>
    obtain ⟨file, w₁, hload, hrest⟩ := bind_eq_ok.mp hrun
    rcases loadStream_returned hload with ⟨rfl, rfl⟩ | ⟨content, hfile, rfl, rfl⟩
    · cases hrest
    · cases hrest
      exact .file hpath hfile
  · next hpath =>
    rw [pure_run, Prod.mk.injEq, Exit.ok.injEq, Prod.mk.injEq] at hrun
    obtain ⟨⟨hstream, rfl⟩, rfl⟩ := hrun
    exact .given hpath hstream

theorem Source.of_given {video entity : VideoEntity} {x y : AsyncStream} (hsource : Source io video w y entity w')
    (hpath : video.videoPath = none) (hstream : video.videoStream = some x) : y = x ∧ entity = video ∧ w' = w := by
  cases hsource with
  | given _ hstream' =>
    cases hstream'.symm.trans hstream
    exact ⟨rfl, rfl, rfl⟩
  | file hsome _ => cases hsome.symm.trans hpath

/-- **The digests of a video and its thumbnail**, of whatever streams they
come from: the video's is read first. -/
theorem requestVideo_returned {ρ : Type} {target : ρ} {video : VideoEntity} {media : VideoStreams} {req : VideoUploadArgs ρ}
    (hrun : (requestVideo (h.onStreams io) target video).run w = (.ok (media, req), w')) :
    ∃ entity w₁ w₂ shared, Source io video w media.video entity w₁ ∧
      (entity.resolveThumbStream (h.onStreams io)).run w₁ = (.ok (some media.thumb, media.entity), w₂) ∧
      shared = w₂.shared.putStream media.video (w₂.shared.stream media.video).drained ∧
      (req.videoMd5, req.videoSha1) = h.crates.digests (w₂.shared.stream media.video).rest ∧
      (req.thumbMd5, req.thumbSha1) = h.crates.digests (shared.stream media.thumb).rest ∧
      (req.videoSize, req.thumbSize) = (media.entity.videoSize.toUInt32, media.entity.videoThumbSize.toUInt32) ∧
      w' = { w₂ with shared := shared.putStream media.thumb (shared.stream media.thumb).drained } := by
  obtain ⟨⟨vs, is, entity⟩, w₁, hstreams, hstreamed⟩ := bind_eq_ok.mp hrun
  obtain ⟨⟨video', entity'⟩, w₂, hvideo, hresolved⟩ := bind_eq_ok.mp (mapErr_eq_ok.mp hstreams)
  obtain ⟨⟨thumb, entity''⟩, w₃, hthumb, hpure⟩ := bind_eq_ok.mp hresolved
  cases hpure
  obtain ⟨vs', w₃, hfound, hrest⟩ := bind_eq_ok.mp hstreamed
  obtain ⟨hsome, rfl⟩ := lift_eq_ok.mp hfound
  cases Outcome.okOr_eq_ok.mp hsome
  obtain ⟨is', w₄, hfound, hboth⟩ := bind_eq_ok.mp hrest
  obtain ⟨hsome, rfl⟩ := lift_eq_ok.mp hfound
  cases Outcome.okOr_eq_ok.mp hsome
  obtain ⟨hashes, w₅, hhashes, hpure⟩ := bind_eq_ok.mp hboth
  cases hpure
  obtain ⟨shared, hshared, hfile, hthumbnail, hw'⟩ := resolveVideo_returned hhashes
  exact ⟨entity', w₂, _, shared, resolveVideoStream_returned hvideo, hthumb, hshared, hfile, hthumbnail, rfl, hw'⟩

/-- The thumbnail is the stream that was given, or a new one. -/
inductive Thumbnail (video : VideoEntity) (w : World (Streams τ)) :
    Option AsyncStream → VideoEntity → World (Streams τ) → Prop
  | missing (hpath : video.videoThumbPath ≠ none) : Thumbnail video w none video w
  | given {y : AsyncStream} (hpath : video.videoThumbPath = none) (hstream : video.videoThumbStream = some y) :
      Thumbnail video w (some y) video w
  | new (b : ByteStream) (hgiven : video.videoThumbPath = none → video.videoThumbStream = none) :
      Thumbnail video w (some { handle := w.shared.outside.table.length })
        { video with videoThumbSize := Int32.ofNat b.content.length } { w with shared := w.shared.pushStream b }

theorem resolveThumbStream_returned {video entity : VideoEntity} {thumb : Option AsyncStream}
    (hrun : (video.resolveThumbStream (h.onStreams io)).run w = (.ok (thumb, entity), w')) :
    Thumbnail video w thumb entity w' := by
  unfold VideoEntity.resolveThumbStream at hrun
  split at hrun
  · next path hpath =>
    obtain ⟨file, w₁, hload, hrest⟩ := bind_eq_ok.mp hrun
    rcases loadStream_returned hload with ⟨rfl, rfl⟩ | ⟨content, -, rfl, rfl⟩
    · cases hrest
      exact .missing fun hnone => absurd (hpath.symm.trans hnone) nofun
    · cases hrest
      exact .new { content, position := 0 } fun hnone => absurd (hpath.symm.trans hnone) nofun
  · next y hpath hstream =>
    cases hrun
    exact .given hpath hstream
  · next hpath hstream =>
    obtain ⟨thumb, w₁, hgen, hrest⟩ := bind_eq_ok.mp hrun
    obtain ⟨s, hthumb, rfl⟩ := zoom_eq_ok.mp hgen
    rcases genThumbnail_returned hthumb with ⟨rfl, rfl⟩ | ⟨b, rfl, rfl⟩
    · cases hrest
    · cases hrest
      exact .new b fun _ => hstream

theorem Thumbnail.of_given {video entity : VideoEntity} {y : AsyncStream} {thumb : Option AsyncStream}
    (hthumb : Thumbnail video w thumb entity w') (hpath : video.videoThumbPath = none)
    (hstream : video.videoThumbStream = some y) : thumb = some y ∧ entity = video ∧ w' = w := by
  cases hthumb with
  | missing hsome => exact absurd hpath hsome
  | given _ hstream' =>
    cases hstream'.symm.trans hstream
    exact ⟨rfl, rfl, rfl⟩
  | new _ hgiven => cases (hgiven hpath).symm.trans hstream

/-- An open stream is not touched, and is the thumbnail only where it was given. -/
structure Thumbnail.Leaves (video : VideoEntity) (x : AsyncStream) (w : World (Streams τ)) (y : AsyncStream)
    (entity : VideoEntity) (w' : World (Streams τ)) : Prop where
  stream? : w'.shared.stream? x = w.shared.stream? x
  uploaded : w'.shared.outside.uploaded = w.shared.outside.uploaded
  videoSize : entity.videoSize = video.videoSize
  given : y = x → video.videoThumbPath = none ∧ video.videoThumbStream = some x ∧
    entity.videoThumbSize = video.videoThumbSize

theorem Thumbnail.leaves {video entity : VideoEntity} {x y : AsyncStream} {b : ByteStream}
    (hthumb : Thumbnail video w (some y) entity w') (hx : w.shared.stream? x = some b) :
    Thumbnail.Leaves video x w y entity w' := by
  cases hthumb with
  | given hpath hstream =>
    refine ⟨rfl, rfl, rfl, ?_⟩
    rintro rfl
    exact ⟨hpath, hstream, rfl⟩
  | new b' _ =>
    refine ⟨(Shared.stream?_pushStream hx b').trans hx.symm, rfl, rfl, ?_⟩
    intro hsame
    exact absurd hsame.symm (Shared.fresh_ne hx)

/-! ## One upload -/

/-- The upload of a stream, from where it stands. -/
theorem clientUpload_returned {x : AsyncStream} {args : UploadArgs} {u : Unit}
    (hrun : (clientUpload (h.onStreams io) (.shared x) args).run w = (.ok u, w')) :
    ∃ client tcp http fuel hw,
      (upload h.crates.highway client args tcp http fuel).run
        { content := (w.shared.stream x).content, position := (w.shared.stream x).position, sent := [], posted := [] } =
          (.ok (), hw) ∧
      w'.shared.outside.table = w.shared.outside.table.set x.handle { content := hw.content, position := hw.position } ∧
      w'.shared.outside.uploaded = w.shared.outside.uploaded ++ [(.shared x, hw)] := by
  rw [clientUpload, get_bind] at hrun
  obtain ⟨hw, hupload, rfl⟩ := zoom_eq_ok.mp (mapErr_eq_ok.mp hrun)
  exact ⟨_, _, _, _, hw, hupload, rfl, rfl⟩

/-- An upload that returned handed over frames with these bytes, over one
connection or the other. -/
def HighwayWorld.Carries (hw : HighwayWorld) (bytes : Bytes) : Prop :=
  ∃ frames : List HighwayFrame, frames.flatMap HighwayFrame.body = bytes ∧
    (hw.sent = frames ∧ hw.posted = [] ∨ hw.posted = frames.map HighwayFrame.encode)

namespace World

/-- The stream holds this and has nothing left. -/
def Spent (x : AsyncStream) (content : Bytes) (w : World (Streams τ)) : Prop :=
  ∃ position, content.length ≤ position ∧ w.shared.stream? x = some { content, position }

/-- What was uploaded of the stream between the two is all it holds, and it
has nothing left. -/
structure Sent (x : AsyncStream) (content : Bytes) (w w' : World (Streams τ)) : Prop where
  uploads : ∃ new, w'.shared.outside.uploaded = w.shared.outside.uploaded ++ new ∧
    ∀ hw, (UploadData.shared x, hw) ∈ new → hw.Carries content
  spent : w'.Spent x content

variable {x : AsyncStream} {content : Bytes} {w₁ : World (Streams τ)}

theorem Spent.drained {b : ByteStream} (hx : w.shared.stream? x = some b)
    (htable : w'.shared = w.shared.putStream x b.drained) : w'.Spent x b.content := by
  refine ⟨b.drained.position, Nat.le_max_right _ _, ?_⟩
  rw [htable]
  exact Shared.stream?_putStream hx b.drained

theorem Unmoved.stream? (h : Unmoved w w') (x : AsyncStream) : w'.shared.stream? x = w.shared.stream? x := by
  rw [Shared.stream?, h.1]
  rfl

theorem Unmoved.sent (h : Unmoved w w') (hx : w.Spent x content) : Sent x content w w' where
  uploads := ⟨[], by rw [h.2, List.append_nil], fun hw hmem => absurd hmem List.not_mem_nil⟩
  spent := by
    obtain ⟨position, hlength, hstands⟩ := hx
    exact ⟨position, hlength, (h.stream? x).trans hstands⟩

theorem Sent.trans (h : Sent x content w w₁) (h' : Sent x content w₁ w') : Sent x content w w' where
  uploads := by
    obtain ⟨new, hnew, hcarries⟩ := h.uploads
    obtain ⟨new', hnew', hcarries'⟩ := h'.uploads
    refine ⟨new ++ new', by rw [hnew', hnew, List.append_assoc], ?_⟩
    intro hw hmem
    rcases List.mem_append.mp hmem with hmem | hmem
    · exact hcarries hw hmem
    · exact hcarries' hw hmem
  spent := h'.spent

end World

/-- An upload of the stream at its size, or of another one. -/
theorem clientUpload_sent {x y : AsyncStream} {args : UploadArgs} {u : Unit} {content : Bytes} (hx : w.Spent x content)
    (hsize : y = x → args.size = content.length) (h32 : args.size < 2 ^ 32)
    (hrun : (clientUpload (h.onStreams io) (.shared y) args).run w = (.ok u, w')) : Sent x content w w' := by
  obtain ⟨client, tcp, http, fuel, hw, hupload, htable, hlog⟩ := clientUpload_returned hrun
  obtain ⟨position, hlength, hstands⟩ := hx
  by_cases hsame : y = x
  · subst hsame
    have hargs := hsize rfl
    rw [Shared.stream_eq hstands] at hupload
    have hdelivered := upload_returned hargs (hargs ▸ h32) hupload
    have hbodies : (blockFrames h.crates.highway client args content).flatMap HighwayFrame.body = content :=
      blockFrames_bodies hdelivered.chunkSize content
    have hcarries : hw.Carries content := ⟨_, hbodies, by simpa using hdelivered.frames⟩
    refine ⟨⟨_, hlog, ?_⟩, hw.position, Nat.le_of_eq hdelivered.position.symm, ?_⟩
    · intro hw' hmem
      cases List.mem_singleton.mp hmem
      exact hcarries
    · have hcontent : hw.content = content := hdelivered.content
      rw [hcontent] at htable
      rw [Shared.stream?, htable]
      exact Shared.stream?_putStream hstands { content, position := hw.position }
  · refine ⟨⟨_, hlog, ?_⟩, position, hlength, ?_⟩
    · intro hw' hmem
      cases List.mem_singleton.mp hmem
      exact absurd rfl hsame
    · rw [← hstands, Shared.stream?, htable]
      exact Shared.stream?_putStream_ne (Ne.symm hsame) _

theorem lift_same {σ : Type} (o : Outcome ε α) : Keeps Eq (lift o : Op σ ε α) := Keeps.lift o

/-- Nothing had to be uploaded, or one upload of the stream was of this size. -/
def UploadedOnce (h : Handle τ) (io : StreamIo τ) (x : AsyncStream) (size : UInt32) (w w' : World (Streams τ)) : Prop :=
  w' = w ∨ ∃ args : UploadArgs, args.size = size.toNat ∧
    (clientUpload (h.onStreams io) (.shared x) args).run w = (.ok (), w')

theorem uploadBody_once {x : AsyncStream} {cmd body : Nat} {size : UInt32} {res : UploadRes α} {uKey : String}
    {streamSha1 : Option (List Bytes)} {u : Unit}
    (hrun : (uploadBody (h.onStreams io) cmd (.shared x) size res uKey body streamSha1).run w = (.ok u, w')) :
    UploadedOnce h io x size w w' := by
  obtain ⟨⟨index, info⟩, w₁, hindex, hrest⟩ := bind_eq_ok.mp hrun
  obtain ⟨fileSha1, w₂, hsha1, hrest⟩ := bind_eq_ok.mp hrest
  obtain ⟨md5, w₃, hmd5, hclient⟩ := bind_eq_ok.mp hrest
  have hnode : Keeps Eq (indexNode res.msgInfo body : Op (Streams τ) _ _) :=
    (lift_same _).bind fun _ => (lift_same _).bind fun _ => (lift_same _).bind fun _ => Keeps.pure _
  have hhashes : Keeps Eq (fileHashes streamSha1 info : Op (Streams τ) _ _) := by
    cases streamSha1 with
    | some hashes => exact Keeps.pure _
    | none => exact (lift_same _).bind fun _ => Keeps.pure _
  cases hnode.unchanged hindex
  cases hhashes.unchanged hsha1
  cases (lift_same _).unchanged hmd5
  exact .inr ⟨_, rfl, hclient⟩

theorem uploadFirst_once {x : AsyncStream} {cmd : Nat} {size : UInt32} {res : UploadRes α}
    {streamSha1 : Option (List Bytes)} {u : Unit}
    (hrun : (uploadFirst (h.onStreams io) cmd (.shared x) size res streamSha1).run w = (.ok u, w')) :
    UploadedOnce h io x size w w' := by
  unfold uploadFirst at hrun
  cases hkey : res.uKey with
  | none =>
    rw [hkey] at hrun
    cases hrun
    exact .inl rfl
  | some uKey =>
    rw [hkey] at hrun
    exact uploadBody_once hrun

theorem uploadThumb_once {x : AsyncStream} {cmd : Nat} {size : UInt32} {res : UploadRes α} {u : Unit}
    (hrun : (uploadThumb (h.onStreams io) cmd (.shared x) size res).run w = (.ok u, w')) :
    UploadedOnce h io x size w w' := by
  unfold uploadThumb at hrun
  cases hsub : res.subFileInfo.head? with
  | none =>
    rw [hsub] at hrun
    cases hrun
    exact .inl rfl
  | some subFile =>
    rw [hsub] at hrun
    change (if subFile.uKey ≠ "" then _ else _ : Op (Streams τ) ManiaError Unit).run w = _ at hrun
    split at hrun
    · exact uploadBody_once hrun
    · cases hrun
      exact .inl rfl

theorem UploadedOnce.sent {x y : AsyncStream} {size : UInt32} {content : Bytes} (hupload : UploadedOnce h io y size w w')
    (hx : w.Spent x content) (hsize : y = x → size.toNat = content.length) : Sent x content w w' := by
  rcases hupload with rfl | ⟨args, hargs, hclient⟩
  · exact Unmoved.sent ⟨rfl, rfl⟩ hx
  · exact clientUpload_sent hx (fun hsame => hargs.trans (hsize hsame)) (hargs ▸ size.toNat_lt) hclient

end Mania
