/-
When the message of a chain is posted.

`Quiet` calls post no message and are answered nothing; an upload posts no
message (`Unsent`), and one that returns ends with the answer to its own
request, whose info the entity then has (`uploadEntity_uploading`). So the
message is posted only after every upload has returned, and it carries what
they returned (`sendMessage_posts`).
-/
import Mania.EntityPackFacts
import Mania.HwClientFacts
import Mania.MessagingLogic

namespace Mania

open Effect

variable {σ ε α : Type}

/-! ## What a call posts and is answered -/

namespace World

/-- No message is posted. -/
def Unsent (w : World σ) : Prop := ∀ packet ∈ w.posted, packet.command ≠ "MessageSvc.PbSendMsg"

/-- No message is posted between the two. -/
def StaysUnsent (w w' : World σ) : Prop := w.Unsent → w'.Unsent

instance : Std.Refl (StaysUnsent (σ := σ)) := ⟨fun _ h => h⟩

instance : IsTrans (World σ) StaysUnsent := ⟨fun _ _ _ hfirst hrest h => hrest (hfirst h)⟩

/-- Nothing is posted and nothing answered. -/
def Quiet (w w' : World σ) : Prop := w'.posted = w.posted ∧ w'.answered = w.answered

instance : Std.Refl (Quiet (σ := σ)) := ⟨fun _ => ⟨rfl, rfl⟩⟩

instance : IsTrans (World σ) Quiet := ⟨fun _ _ _ hfirst hrest => ⟨hrest.1.trans hfirst.1, hrest.2.trans hfirst.2⟩⟩

theorem Quiet.staysUnsent {w w' : World σ} (h : Quiet w w') : StaysUnsent w w' := by
  intro hw
  rw [Unsent, h.1]
  exact hw

end World

open World

/-! ## Quiet calls -/

theorem ask_quiet (x : Effect (Shared σ) ε α) : Keeps Quiet (ask x) := Keeps.zoom (fun _ _ => ⟨rfl, rfl⟩) x

theorem askIo_quiet (x : Effect (Shared σ) String α) : Keeps Quiet (askIo x) := (ask_quiet x).mapErr

theorem orGeneric_quiet (message : String) (o : Option α) : Keeps Quiet (orGeneric message o : Op σ _ _) := Keeps.lift _

theorem unhexed_quiet (s : String) : Keeps Quiet (unhexed s : Op σ _ _) := Keeps.lift _

theorem clientUpload_quiet (h : Handle σ) (data : UploadData) (args : UploadArgs) :
    Keeps Quiet (clientUpload h data args) :=
  Keeps.get.bind fun _ => (Keeps.zoom (fun _ _ => ⟨rfl, rfl⟩) _).mapErr

theorem indexNode_quiet (msgInfo : MsgInfo) (body : Nat) : Keeps Quiet (indexNode msgInfo body : Op σ _ _) :=
  (orGeneric_quiet _ _).bind fun _ => (orGeneric_quiet _ _).bind fun _ => (orGeneric_quiet _ _).bind fun _ => Keeps.pure _

theorem fileHashes_quiet (streamSha1 : Option (List Bytes)) (info : FileInfo) :
    Keeps Quiet (fileHashes streamSha1 info : Op σ _ _) := by
  cases streamSha1 with
  | some fileStreamSha1 => exact Keeps.pure _
  | none => exact (unhexed_quiet _).bind fun _ => Keeps.pure _

theorem uploadBody_quiet (h : Handle σ) (cmd : Nat) (data : UploadData) (size : UInt32) (res : UploadRes α)
    (uKey : String) (body : Nat) (streamSha1 : Option (List Bytes)) :
    Keeps Quiet (uploadBody h cmd data size res uKey body streamSha1) :=
  (indexNode_quiet _ _).bind fun _ => (fileHashes_quiet _ _).bind fun _ => (unhexed_quiet _).bind fun _ =>
    clientUpload_quiet h data _

theorem uploadFirst_quiet (h : Handle σ) (cmd : Nat) (data : UploadData) (size : UInt32) (res : UploadRes α)
    (streamSha1 : Option (List Bytes)) : Keeps Quiet (uploadFirst h cmd data size res streamSha1) := by
  unfold uploadFirst
  cases res.uKey with
  | some uKey => exact uploadBody_quiet h cmd data size res uKey 0 streamSha1
  | none => exact Keeps.pure _

theorem uploadThumb_quiet (h : Handle σ) (cmd : Nat) (data : UploadData) (size : UInt32) (res : UploadRes α) :
    Keeps Quiet (uploadThumb h cmd data size res) := by
  unfold uploadThumb
  cases res.subFileInfo.head? with
  | none => exact Keeps.pure _
  | some subFile =>
    show Keeps Quiet (if subFile.uKey ≠ "" then _ else _)
    split
    · exact uploadBody_quiet h cmd data size res subFile.uKey 1 none
    · exact Keeps.pure _

/-! ## Reading the streams -/

theorem ImageEntity.resolveStream_quiet (h : Handle σ) (image : ImageEntity) : Keeps Quiet (image.resolveStream h) := by
  unfold ImageEntity.resolveStream
  cases image.filePath with
  | some filePath => exact (ask_quiet _).bind fun _ => Keeps.pure _
  | none => exact Keeps.lift _

theorem RecordEntity.resolveStream_quiet (h : Handle σ) (record : RecordEntity) : Keeps Quiet (record.resolveStream h) := by
  unfold RecordEntity.resolveStream
  cases record.filePath with
  | some filePath => exact (ask_quiet _).bind fun _ => Keeps.pure _
  | none => exact Keeps.lift _

theorem loadStream_quiet (h : Handle σ) (path : String) : Keeps Quiet (loadStream h path) :=
  ((ask_quiet _).map _).orElse fun _ => Keeps.pure _

theorem VideoEntity.resolveVideoStream_quiet (h : Handle σ) (video : VideoEntity) :
    Keeps Quiet (video.resolveVideoStream h) := by
  unfold VideoEntity.resolveVideoStream
  cases video.videoPath with
  | none => exact Keeps.pure _
  | some videoPath =>
    refine (loadStream_quiet h videoPath).bind fun file => ?_
    cases file <;> exact Keeps.pure _

theorem VideoEntity.resolveThumbStream_quiet (h : Handle σ) (video : VideoEntity) :
    Keeps Quiet (video.resolveThumbStream h) := by
  unfold VideoEntity.resolveThumbStream
  cases video.videoThumbPath with
  | some thumbPath =>
    refine (loadStream_quiet h thumbPath).bind fun file => ?_
    cases file <;> exact Keeps.pure _
  | none =>
    cases video.videoThumbStream with
    | some stream => exact Keeps.pure _
    | none =>
      refine (ask_quiet _).bind fun thumb => ?_
      cases thumb with
      | some file => exact Keeps.pure _
      | none => exact Keeps.panic

theorem VideoEntity.resolveStream_quiet (h : Handle σ) (video : VideoEntity) : Keeps Quiet (video.resolveStream h) :=
  (VideoEntity.resolveVideoStream_quiet h video).bind fun (_, video) =>
    (VideoEntity.resolveThumbStream_quiet h video).bind fun _ => Keeps.pure _

theorem streamSha1_quiet (h : Handle σ) (chunks : List Bytes) : Keeps Quiet (streamSha1 h chunks) := by
  refine Keeps.get.bind fun w => ?_
  cases StreamSha1.digest h.crates.streamSha1 (1024 * 1024) (h.outside.fuel w.shared) chunks with
  | ok digests => cases digests with
    | some digests => exact Keeps.pure _
    | none => exact Keeps.spins
  | err e => exact e.elim
  | panic => exact Keeps.panic

theorem requestImage_quiet {τ : Type} (h : Handle σ) (target : τ) (image : ImageEntity) :
    Keeps Quiet (requestImage h target image) :=
  (image.resolveStream_quiet h).mapErr.bind fun _ =>
    ((askIo_quiet _).bind fun _ => (ask_quiet _).mapErr.bind fun _ => Keeps.pure _).bind fun _ => Keeps.pure _

theorem requestVideo_quiet {τ : Type} (h : Handle σ) (target : τ) (video : VideoEntity) :
    Keeps Quiet (requestVideo h target video) := by
  have hhashes (vs is : AsyncStream) : Keeps Quiet (resolveVideo h vs is) :=
    (askIo_quiet _).bind fun _ => (streamSha1_quiet h _).bind fun _ => (askIo_quiet _).bind fun _ => Keeps.pure _
  exact (video.resolveStream_quiet h).mapErr.bind fun _ => (orGeneric_quiet _ _).bind fun _ =>
    (orGeneric_quiet _ _).bind fun _ => (hhashes _ _).bind fun _ => Keeps.pure _

theorem requestRecord_quiet {τ : Type} (h : Handle σ) (name : Bytes → Bytes → String) (target : τ) (record : RecordEntity) :
    Keeps Quiet (requestRecord h name target record) := by
  have haudio (stream : AsyncStream) : Keeps Quiet (resolveAudio h stream) := by
    refine (askIo_quiet _).bind fun data => (askIo_quiet _).bind fun _ => ?_
    cases h.crates.silk data with
    | error e => exact Keeps.throw _
    | ok silk => exact Keeps.pure _
  exact (record.resolveStream_quiet h).mapErr.bind fun _ => (haudio _).bind fun _ => Keeps.pure _

/-! ## One request -/

def ClientEvent.IsUpload : ClientEvent → Prop
  | .fetchHighwayTicket | .sendMessage _ => False
  | _ => True

theorem ClientEvent.IsUpload.command {event : ClientEvent} (h : event.IsUpload) :
    event.command ≠ "MessageSvc.PbSendMsg" := by
  cases event with
  | fetchHighwayTicket | sendMessage _ => exact h.elim
  | _ => simp [ClientEvent.command]

/-- The info of an upload's answer. -/
def AnswerEvent.msgInfo : AnswerEvent → Option MsgInfo
  | imageGroupUpload res => some res.msgInfo
  | imageC2CUpload res => some res.msgInfo
  | videoGroupUpload res => some res.msgInfo
  | videoC2CUpload res => some res.msgInfo
  | recordGroupUpload res => some res.msgInfo
  | recordC2CUpload res => some res.msgInfo
  | fetchHighwayTicket _ | other => none

/-- A packet that is no message is posted. -/
theorem sendPacket_unsent (h : Handle σ) (event : ClientEvent) {packet : Packet}
    (hpacket : packet.command ≠ "MessageSvc.PbSendMsg") : Keeps StaysUnsent (sendPacket h event packet) := by
  have hpost (w : World σ) : StaysUnsent w { w with posted := w.posted ++ [packet] } := by
    intro hw p hp
    rcases List.mem_append.mp hp with hp | hp
    · exact hw p hp
    · rw [List.mem_singleton.mp hp]
      exact hpacket
  exact (Keeps.modify hpost).bind fun _ => ((ask_quiet _).imp fun _ _ => Quiet.staysUnsent).bind fun _ =>
    (Keeps.modify fun _ h => h).bind fun _ => Keeps.pure _

/-- What comes back is the answer to the event. -/
theorem sendPacket_ok {h : Handle σ} {event : ClientEvent} {packet : Packet} {answer : AnswerEvent} {w w' : World σ}
    (hrun : (sendPacket h event packet).run w = (.ok answer, w')) : w'.answered = w.answered ++ [(event, answer)] := by
  rw [sendPacket, modify_bind] at hrun
  obtain ⟨a, w₁, hask, hrest⟩ := bind_eq_ok.mp hrun
  have hquiet := ask_quiet (h.outside.sendPacket packet) { w with posted := w.posted ++ [packet] }
  rw [hask] at hquiet
  rw [modify_bind, pure_run, Prod.mk.injEq, Exit.ok.injEq] at hrest
  obtain ⟨rfl, rfl⟩ := hrest
  rw [hquiet.2]

theorem request_unsent (h : Handle σ) {event : ClientEvent} (hevent : event.command ≠ "MessageSvc.PbSendMsg") :
    Keeps StaysUnsent (request h event) := by
  refine Keeps.mapErr ?_
  show Keeps StaysUnsent (sendEvent h pure event)
  rw [sendEvent, pure_bind]
  exact Keeps.get.bind fun _ => (Keeps.lift _).bind fun _ => sendPacket_unsent h event hevent

theorem request_ok {h : Handle σ} {event : ClientEvent} {answer : AnswerEvent} {w w' : World σ}
    (hrun : (request h event).run w = (.ok answer, w')) : w'.answered = w.answered ++ [(event, answer)] := by
  have hsend := mapErr_eq_ok.mp hrun
  rw [sendEvent, pure_bind, get_bind] at hsend
  obtain ⟨payload, w₁, hbuild, hpacket⟩ := bind_eq_ok.mp hsend
  obtain ⟨hbuilt, rfl⟩ := lift_eq_ok.mp hbuild
  exact sendPacket_ok hpacket

/-! ## Getting ready -/

/-- Tickets are all that is answered. -/
def Tickets (w w' : World σ) : Prop :=
  ∃ tickets, w'.answered = w.answered ++ tickets ∧ ∀ exchange ∈ tickets, exchange.1 = .fetchHighwayTicket

theorem prepareHighway_unsent (h : Handle σ) : Keeps StaysUnsent (prepareHighway h) := by
  have hfetch : Keeps StaysUnsent (fetchSigSession h) :=
    (request_unsent h (by decide)).bind fun _ => (Keeps.lift _).bind fun _ => (Keeps.modify fun _ h => h).bind fun _ =>
      Keeps.pure _
  have hload : Keeps StaysUnsent (loadSigSession h) := by
    refine Keeps.get.bind fun w => ?_
    cases w.shared.sigSession with
    | some sig => exact Keeps.pure _
    | none => exact hfetch
  exact hload.bind fun _ => Keeps.modify fun _ h => h

theorem fetchSigSession_ok {h : Handle σ} {sig : Bytes} {w w' : World σ}
    (hrun : (fetchSigSession h).run w = (.ok sig, w')) : Tickets w w' := by
  obtain ⟨answer, w₁, hrequest, hrest⟩ := bind_eq_ok.mp hrun
  obtain ⟨sigSession, w₂, hdowncast, hstore⟩ := bind_eq_ok.mp hrest
  obtain ⟨hticket, rfl⟩ := lift_eq_ok.mp hdowncast
  rw [modify_bind, pure_run, Prod.mk.injEq] at hstore
  obtain ⟨hsig, rfl⟩ := hstore
  have hanswered := request_ok hrequest
  exact ⟨[(.fetchHighwayTicket, answer)], hanswered, by simp⟩

theorem prepareHighway_ok {h : Handle σ} {w w' : World σ} (hrun : (prepareHighway h).run w = (.ok (), w')) :
    Tickets w w' := by
  obtain ⟨ticket, w₁, hload, hstore⟩ := bind_eq_ok.mp hrun
  have htickets : Tickets w w₁ := by
    rw [loadSigSession, get_bind] at hload
    cases hsig : w.shared.sigSession with
    | some sig =>
      rw [hsig, pure_run, Prod.mk.injEq] at hload
      rw [← hload.2]
      exact ⟨[], by simp, by simp⟩
    | none =>
      rw [hsig] at hload
      exact fetchSigSession_ok hload
  rw [modify_run, Prod.mk.injEq] at hstore
  rw [← hstore.2]
  exact htickets

/-! ## One upload -/

/-- Between the two an upload was requested, and its answer has the info. -/
def UploadAnswered (info : MsgInfo) (w w' : World σ) : Prop :=
  ∃ tickets event answer, w'.answered = w.answered ++ tickets ++ [(event, answer)] ∧
    (∀ exchange ∈ tickets, exchange.1 = .fetchHighwayTicket) ∧ ClientEvent.IsUpload event ∧ answer.msgInfo = some info

/-- An upload posts no message, and what it returns has the info it was
answered. -/
structure Uploading {β : Type} (x : Op σ ε β) (info : β → Option MsgInfo) : Prop where
  unsent : Keeps StaysUnsent x
  answered : ∀ w b w', x.run w = (.ok b, w') → ∃ i, info b = some i ∧ UploadAnswered i w w'

namespace Uploading

variable {β γ ε' : Type} {x : Op σ ε β} {info : β → Option MsgInfo} {info' : γ → Option MsgInfo}

/-- What is returned is stored where its info is kept. -/
theorem store (hx : Uploading x info) {k : β → Op σ ε γ} (hk : ∀ b, ∃ c, k b = pure c ∧ info' c = info b) :
    Uploading (x >>= k) info' where
  unsent := by
    refine hx.unsent.bind fun b => ?_
    obtain ⟨c, hpure, -⟩ := hk b
    rw [hpure]
    exact Keeps.pure c
  answered := by
    intro w c w' hrun
    obtain ⟨b, w₁, hfirst, hrest⟩ := bind_eq_ok.mp hrun
    obtain ⟨c', hpure, hinfo⟩ := hk b
    rw [hpure, pure_run, Prod.mk.injEq, Exit.ok.injEq] at hrest
    obtain ⟨rfl, rfl⟩ := hrest
    rw [hinfo]
    exact hx.answered w b w₁ hfirst

theorem displayed {x : Op σ ManiaError β} (hx : Uploading x info) {g : β → γ} (hg : ∀ b, info' (g b) = info b) :
    Uploading (Mania.displayed (g <$> x)) info' where
  unsent := (hx.unsent.map g).mapErr
  answered := by
    intro w c w' hrun
    have hmap := mapErr_eq_ok.mp hrun
    rw [map_eq_pure_bind] at hmap
    exact (hx.store fun b => ⟨g b, rfl, hg b⟩).answered w c w' hmap

end Uploading

/-- The shape the six uploads share. -/
theorem uploadMedia_uploading {media ρ κ : Type} (h : Handle σ) {resolve : Op σ ManiaError (media × ρ)}
    {event : ρ → ClientEvent} {downcast : AnswerEvent → Option (UploadRes κ)}
    {transfer : media → UploadRes κ → Op σ ManiaError Unit}
    (hresolve : Keeps Quiet resolve) (htransfer : ∀ media res, Keeps Quiet (transfer media res))
    (hevent : ∀ req, (event req).IsUpload)
    (hdowncast : ∀ answer res, downcast answer = some res → answer.msgInfo = some res.msgInfo) :
    Uploading (uploadMedia h resolve event downcast transfer) fun r => some r.2.msgInfo where
  unsent :=
    (prepareHighway_unsent h).bind fun _ => (hresolve.imp fun _ _ => Quiet.staysUnsent).bind fun _ =>
      (request_unsent h (hevent _).command).bind fun _ => (Keeps.lift _).bind fun _ =>
        ((htransfer _ _).imp fun _ _ => Quiet.staysUnsent).bind fun _ => Keeps.pure _
  answered := by
    intro w r w' hrun
    obtain ⟨u, w₁, hprepare, hrun⟩ := bind_eq_ok.mp hrun
    obtain ⟨⟨media, req⟩, w₂, hread, hrun⟩ := bind_eq_ok.mp hrun
    obtain ⟨answer, w₃, hrequest, hrun⟩ := bind_eq_ok.mp hrun
    obtain ⟨res, w₄, hcast, hrun⟩ := bind_eq_ok.mp hrun
    obtain ⟨u', w₅, hhighway, hrun⟩ := bind_eq_ok.mp hrun
    rw [pure_run, Prod.mk.injEq, Exit.ok.injEq] at hrun
    obtain ⟨rfl, rfl⟩ := hrun
    obtain ⟨hres, rfl⟩ := lift_eq_ok.mp hcast
    obtain ⟨tickets, htickets, hall⟩ := prepareHighway_ok hprepare
    have hresolved := (hresolve w₁).2
    rw [hread] at hresolved
    have htransferred := (htransfer media res w₃).2
    rw [hhighway] at htransferred
    refine ⟨res.msgInfo, rfl, tickets, event req, answer, ?_, hall, hevent req, ?_⟩
    · calc w₅.answered = w₃.answered := htransferred
        _ = w₂.answered ++ [(event req, answer)] := request_ok hrequest
        _ = w.answered ++ tickets ++ [(event req, answer)] := by rw [hresolved, htickets]
    · exact hdowncast answer res (Outcome.okOr_eq_ok.mp hres)

theorem uploadImage_uploading {τ κ : Type} (h : Handle σ) (cmd : Nat) {event : ImageUploadArgs τ → ClientEvent}
    {downcast : AnswerEvent → Option (UploadRes κ)} (hevent : ∀ req, (event req).IsUpload)
    (hdowncast : ∀ answer res, downcast answer = some res → answer.msgInfo = some res.msgInfo) (target : τ)
    (image : ImageEntity) : Uploading (uploadImage h cmd event downcast target image) fun r => some r.2.msgInfo :=
  uploadMedia_uploading h (requestImage_quiet h target image) (fun _ res => uploadFirst_quiet h cmd _ _ res none)
    hevent hdowncast

theorem uploadGroupImage_uploading (h : Handle σ) (groupUin : UInt32) (image : ImageEntity) :
    Uploading (uploadGroupImage h groupUin image) (·.msgInfo) := by
  refine (uploadImage_uploading h 1004 (fun _ => ?_) ?_ groupUin image).store fun ((_, image), res) => ⟨_, rfl, rfl⟩
  · trivial
  · intro answer res hdowncast
    cases answer <;> cases hdowncast
    rfl

theorem uploadC2cImage_uploading (h : Handle σ) (targetUid : String) (image : ImageEntity) :
    Uploading (uploadC2cImage h targetUid image) (·.msgInfo) := by
  refine (uploadImage_uploading h 1003 (fun _ => ?_) ?_ targetUid image).store fun ((_, image), res) => ⟨_, rfl, rfl⟩
  · trivial
  · intro answer res hdowncast
    cases answer <;> cases hdowncast
    rfl

theorem uploadVideo_uploading {τ : Type} (h : Handle σ) (cmd : Nat) {event : VideoUploadArgs τ → ClientEvent}
    {downcast : AnswerEvent → Option (UploadRes VideoFile)} (hevent : ∀ req, (event req).IsUpload)
    (hdowncast : ∀ answer res, downcast answer = some res → answer.msgInfo = some res.msgInfo) (target : τ)
    (video : VideoEntity) : Uploading (uploadVideo h cmd event downcast target video) (·.msgInfo) := by
  refine (uploadMedia_uploading h (requestVideo_quiet h target video) (fun streams res => ?_) hevent hdowncast).store
    fun (streams, res) => ⟨_, rfl, rfl⟩
  exact (uploadFirst_quiet h cmd _ _ res _).bind fun _ => uploadThumb_quiet h (cmd + 1) _ _ res

theorem uploadGroupVideo_uploading (h : Handle σ) (groupUin : UInt32) (video : VideoEntity) :
    Uploading (uploadGroupVideo h groupUin video) (·.msgInfo) := by
  refine uploadVideo_uploading h 1005 (fun _ => ?_) ?_ groupUin video
  · trivial
  · intro answer res hdowncast
    cases answer <;> cases hdowncast
    rfl

theorem uploadC2cVideo_uploading (h : Handle σ) (targetUid : String) (video : VideoEntity) :
    Uploading (uploadC2cVideo h targetUid video) (·.msgInfo) := by
  refine uploadVideo_uploading h 1001 (fun _ => ?_) ?_ targetUid video
  · trivial
  · intro answer res hdowncast
    cases answer <;> cases hdowncast
    rfl

theorem uploadRecord_uploading {τ : Type} (h : Handle σ) (cmd : Nat) (name : Bytes → Bytes → String)
    {event : RecordUploadArgs τ → ClientEvent} {downcast : AnswerEvent → Option (UploadRes RichText)}
    (hevent : ∀ req, (event req).IsUpload)
    (hdowncast : ∀ answer res, downcast answer = some res → answer.msgInfo = some res.msgInfo) (target : τ)
    (record : RecordEntity) : Uploading (uploadRecord h cmd name event downcast target record) (·.msgInfo) :=
  (uploadMedia_uploading h (requestRecord_quiet h name target record)
    (fun _ res => uploadFirst_quiet h cmd _ _ res none) hevent hdowncast).store fun ((_, _), _) => ⟨_, rfl, rfl⟩

theorem uploadGroupRecord_uploading (h : Handle σ) (groupUin : UInt32) (record : RecordEntity) :
    Uploading (uploadGroupRecord h groupUin record) (·.msgInfo) := by
  refine uploadRecord_uploading h 1008 _ (fun _ => ?_) ?_ groupUin record
  · trivial
  · intro answer res hdowncast
    cases answer <;> cases hdowncast
    rfl

theorem uploadC2cRecord_uploading (h : Handle σ) (targetUid : String) (record : RecordEntity) :
    Uploading (uploadC2cRecord h targetUid record) (·.msgInfo) := by
  refine uploadRecord_uploading h 1007 _ (fun _ => ?_) ?_ targetUid record
  · trivial
  · intro answer res hdowncast
    cases answer <;> cases hdowncast
    rfl

/-! ## One entity -/

namespace Entity

/-- A kind that is uploaded. -/
def IsMedia : Entity → Prop
  | image _ | video _ | record _ => True
  | _ => False

def msgInfo : Entity → Option MsgInfo
  | image inner => inner.msgInfo
  | video inner => inner.msgInfo
  | record inner => inner.msgInfo
  | _ => none

end Entity

/-- A turn of the loop uploads what is to be uploaded. -/
theorem uploadEntity_uploading (h : Handle σ) {chain : MessageChain} (htyp : chain.typ ≠ .none) {entity : Entity}
    (hmedia : entity.IsMedia) : Uploading (uploadEntity h chain entity) Entity.msgInfo := by
  unfold uploadEntity
  cases entity with
  | image image =>
    cases hcase : chain.typ with
    | none => exact absurd hcase htyp
    | group grp => exact (uploadGroupImage_uploading h grp.groupUin image).displayed fun _ => rfl
    | friend | temp => exact (uploadC2cImage_uploading h chain.uid image).displayed fun _ => rfl
  | video video =>
    cases hcase : chain.typ with
    | none => exact absurd hcase htyp
    | group grp => exact (uploadGroupVideo_uploading h grp.groupUin video).displayed fun _ => rfl
    | friend | temp => exact (uploadC2cVideo_uploading h chain.uid video).displayed fun _ => rfl
  | record record =>
    cases hcase : chain.typ with
    | none => exact absurd hcase htyp
    | group grp => exact (uploadGroupRecord_uploading h grp.groupUin record).displayed fun _ => rfl
    | friend | temp => exact (uploadC2cRecord_uploading h chain.uid record).displayed fun _ => rfl
  | _ => exact hmedia.elim

/-- And does nothing else. -/
theorem uploadEntity_pure (h : Handle σ) (chain : MessageChain) {entity : Entity} (hmedia : ¬ entity.IsMedia) :
    uploadEntity h chain entity = pure entity := by
  cases entity with
  | image | video | record => exact absurd trivial hmedia
  | _ => rfl

theorem uploadEntity_unsent (h : Handle σ) {chain : MessageChain} (htyp : chain.typ ≠ .none) (entity : Entity) :
    Keeps StaysUnsent (uploadEntity h chain entity) := by
  by_cases hmedia : entity.IsMedia
  · exact (uploadEntity_uploading h htyp hmedia).unsent
  · rw [uploadEntity_pure h chain hmedia]
    exact Keeps.pure entity

/-! ## The chain -/

variable {h : Handle σ} {chain : MessageChain}

theorem resolveChainMetadata_typ (h : Handle σ) (htyp : chain.typ ≠ .none) (s : Shared σ) :
    (resolveChainMetadata h chain s).1.typ ≠ .none := by
  unfold resolveChainMetadata
  split
  · split
    · exact MessageType.noConfusion
    · exact htyp
  · dsimp only
    split
    · exact MessageType.noConfusion
    · exact htyp
  · exact htyp
  · exact htyp

theorem resolveOutgoingChain_ok {resolved : MessageChain} {w w' : World σ}
    (hrun : (resolveOutgoingChain h chain).run w = (.ok resolved, w')) :
    ∃ entities, resolved = { chain with entities } ∧
      Through (Returns (uploadEntity h chain)) w chain.entities entities w' := by
  obtain ⟨entities, w₁, hentities, hrest⟩ := bind_eq_ok.mp hrun
  rw [pure_run, Prod.mk.injEq, Exit.ok.injEq] at hrest
  obtain ⟨rfl, rfl⟩ := hrest
  exact ⟨entities, rfl, mapM_eq_ok.mp hentities⟩

theorem resolveOutgoingChain_unsent (h : Handle σ) (htyp : chain.typ ≠ .none) :
    Keeps StaysUnsent (resolveOutgoingChain h chain) :=
  (Keeps.mapM (uploadEntity_unsent h htyp) _).bind fun _ => Keeps.pure _

/-! ## The message -/

/-- What `send_event` does with a chain that is resolved. -/
def sendResolved (h : Handle σ) (chain : MessageChain) : Op σ (BusinessError String) AnswerEvent := do
  let w ← Effect.get
  let payload ← Effect.lift ((ClientEvent.sendMessage chain).build h (h.outside.now w.shared))
  sendPacket h (.sendMessage chain) { command := "MessageSvc.PbSendMsg", payload }

theorem sendMessage_state (h : Handle σ) (chain : MessageChain) (s : Shared σ) :
    ((sendMessage h chain).run (.start s)).2 =
      ((do
        let resolved ← resolveOutgoingChain h (resolveChainMetadata h chain s).1
        sendResolved h resolved).run (.start (resolveChainMetadata h chain s).2)).2 := by
  rw [sendMessage, bind_pure_state, mapErr_state, sendEvent, messagingLogicOutgoing]
  simp only [bind_assoc, get_bind, modify_bind, pure_bind]
  rfl

theorem sendPacket_posted (h : Handle σ) (event : ClientEvent) (packet : Packet) (w : World σ) :
    ((sendPacket h event packet).run w).2.posted = w.posted ++ [packet] := by
  rw [sendPacket, modify_bind]
  have hquiet := ask_quiet (h.outside.sendPacket packet) { w with posted := w.posted ++ [packet] }
  rw [bind_run]
  rcases hask : (ask (h.outside.sendPacket packet)).run { w with posted := w.posted ++ [packet] } with ⟨exit, w₁⟩
  rw [hask] at hquiet
  cases exit with
  | ok answer => exact hquiet.1
  | err e => exact hquiet.1
  | panic => exact hquiet.1
  | spins => exact hquiet.1

theorem sendResolved_posted {w : World σ} (hw : w.Unsent) {packet : Packet}
    (hpacket : packet ∈ ((sendResolved h chain).run w).2.posted) (hcommand : packet.command = "MessageSvc.PbSendMsg") :
    ∃ now message, MessagePacker.build h.enc now chain = (.ok message : Outcome (BusinessError String) _) ∧
      packet.payload = h.enc.message message := by
  rw [sendResolved, get_bind] at hpacket
  cases hbuild : (ClientEvent.sendMessage chain).build h (h.outside.now w.shared) with
  | err e =>
    rw [hbuild, lift_err, throw_bind] at hpacket
    exact absurd hcommand (hw packet hpacket)
  | panic =>
    rw [hbuild, lift_panic, panic_bind] at hpacket
    exact absurd hcommand (hw packet hpacket)
  | ok payload =>
    rw [hbuild, lift_ok, pure_bind, sendPacket_posted] at hpacket
    obtain ⟨message, hmessage, hpayload⟩ := Outcome.bind_eq_ok.mp hbuild
    cases hpayload
    rcases List.mem_append.mp hpacket with hpacket | hpacket
    · exact absurd hcommand (hw packet hpacket)
    · rw [List.mem_singleton.mp hpacket]
      exact ⟨_, message, hmessage, rfl⟩

/-- The packed entity has the info, in its elements in the message. -/
structure Carries (h : Handle σ) (message : Message) (info : MsgInfo) (entity : Entity) : Prop where
  msgInfo : entity.msgInfo = some info
  packed : ∃ elems businessType, entity.packElement h.enc = (.ok elems : Outcome (BusinessError String) _) ∧
    mediaElem h.enc (some info) businessType ∈ elems ∧ elems <:+: message.elems

theorem Carries.of_build {now : Int} {message : Message}
    (hbuild : MessagePacker.build h.enc now chain = (.ok message : Outcome (BusinessError String) _)) {info : MsgInfo}
    {entity : Entity} (hentity : entity ∈ chain.entities) (hinfo : entity.msgInfo = some info) :
    Carries h message info entity := by
  obtain ⟨elems, hpack, hinfix⟩ := MessagePacker.build_elems hbuild hentity
  refine ⟨hinfo, elems, ?_⟩
  cases entity with
  | image image =>
    cases hpack
    refine ⟨if image.msgInfo.any (·.isGroup) then 20 else 10, rfl, ?_, hinfix⟩
    rw [Entity.msgInfo] at hinfo
    simp [ImageEntity.packElement, hinfo]
  | video video =>
    cases hpack
    refine ⟨21, rfl, ?_, hinfix⟩
    rw [Entity.msgInfo] at hinfo
    simp [VideoEntity.packElement, hinfo]
  | record record =>
    cases hpack
    refine ⟨22, rfl, ?_, hinfix⟩
    rw [Entity.msgInfo] at hinfo
    simp [RecordEntity.packElement, hinfo]
  | _ => cases hinfo

/-- An entity is uploaded, and the message carries the info its own upload
was answered. -/
structure Uploaded (h : Handle σ) (chain : MessageChain) (message : Message) (w : World σ) (entity entity' : Entity)
    (w' : World σ) : Prop where
  returns : Returns (uploadEntity h chain) w entity entity' w'
  carried : entity.IsMedia → ∃ info, UploadAnswered info w w' ∧ Carries h message info entity'

/-- The upload of one of the entities fails, the ones before it having
returned. -/
def UploadFails (h : Handle σ) (chain : MessageChain) (w : World σ) : Prop :=
  ∃ before entity after before' w₁ e w₂, chain.entities = before ++ entity :: after ∧
    Through (Returns (uploadEntity h chain)) w before before' w₁ ∧ (uploadEntity h chain entity).run w₁ = (.err e, w₂)

theorem World.start_unsent (s : Shared σ) : (World.start s).Unsent := fun _ h => nomatch h

/-- A message is posted only when every upload has returned. -/
theorem sendMessage_uploads (htyp : chain.typ ≠ .none) (s : Shared σ) {packet : Packet}
    (hpacket : packet ∈ ((sendMessage h chain).run (.start s)).2.posted)
    (hcommand : packet.command = "MessageSvc.PbSendMsg") :
    ∃ entities now message w,
      MessagePacker.build h.enc now { (resolveChainMetadata h chain s).1 with entities } =
        (.ok message : Outcome (BusinessError String) _) ∧
      packet.payload = h.enc.message message ∧
      Through (Uploaded h (resolveChainMetadata h chain s).1 message) (.start (resolveChainMetadata h chain s).2)
        (resolveChainMetadata h chain s).1.entities entities w := by
  have htyp' := resolveChainMetadata_typ h htyp s
  rw [sendMessage_state] at hpacket
  generalize (resolveChainMetadata h chain s).1 = chain' at htyp' hpacket ⊢
  generalize (resolveChainMetadata h chain s).2 = s' at hpacket ⊢
  have hunsent := resolveOutgoingChain_unsent h htyp' (.start s') (World.start_unsent s')
  rw [bind_run] at hpacket
  rcases hrun : (resolveOutgoingChain h chain').run (.start s') with ⟨exit, w⟩
  rw [hrun] at hpacket hunsent
  cases exit with
  | err e => exact absurd hcommand (hunsent packet hpacket)
  | panic => exact absurd hcommand (hunsent packet hpacket)
  | spins => exact absurd hcommand (hunsent packet hpacket)
  | ok resolved =>
    obtain ⟨now, message, hbuild, hpayload⟩ := sendResolved_posted hunsent hpacket hcommand
    obtain ⟨entities, rfl, hthrough⟩ := resolveOutgoingChain_ok hrun
    refine ⟨entities, now, message, w, hbuild, hpayload,
      hthrough.imp fun w entity entity' w' hmem hreturns => ⟨hreturns, fun hmedia => ?_⟩⟩
    obtain ⟨info, hinfo, hanswered⟩ := (uploadEntity_uploading h htyp' hmedia).answered w entity' w' hreturns
    exact ⟨info, hanswered, Carries.of_build hbuild hmem hinfo⟩

theorem sendMessage_err {s : Shared σ} {e : BusinessError String} {w : World σ}
    (hrun : (resolveOutgoingChain h (resolveChainMetadata h chain s).1).run
      (.start (resolveChainMetadata h chain s).2) = (.err e, w)) :
    (sendMessage h chain).run (.start s) = (.err (.internalBusinessError e), w) := by
  refine bind_err (mapErr_err ?_)
  rw [sendEvent, messagingLogicOutgoing]
  simp only [bind_assoc, get_bind, modify_bind]
  exact bind_err hrun

/-- Main result. **The message of a chain is posted only after the uploads
of all its images, videos and records have returned, and it carries the info
each of them was answered**; an upload that fails makes the call fail, and
no message is posted. -/
theorem sendMessage_posts (h : Handle σ) {chain : MessageChain} (htyp : chain.typ ≠ .none) (s : Shared σ) :
    (∀ packet ∈ ((sendMessage h chain).run (.start s)).2.posted, packet.command = "MessageSvc.PbSendMsg" →
      ∃ entities now message w,
        MessagePacker.build h.enc now { (resolveChainMetadata h chain s).1 with entities } =
          (.ok message : Outcome (BusinessError String) _) ∧
        packet.payload = h.enc.message message ∧
        Through (Uploaded h (resolveChainMetadata h chain s).1 message) (.start (resolveChainMetadata h chain s).2)
          (resolveChainMetadata h chain s).1.entities entities w) ∧
    (UploadFails h (resolveChainMetadata h chain s).1 (.start (resolveChainMetadata h chain s).2) →
      (∃ e, ((sendMessage h chain).run (.start s)).1 = .err e) ∧ ((sendMessage h chain).run (.start s)).2.Unsent) := by
  refine ⟨fun packet hpacket hcommand => sendMessage_uploads htyp s hpacket hcommand, ?_⟩
  rintro ⟨before, entity, after, before', w₁, e, w₂, hentities, hbefore, herr⟩
  have hrun : (resolveOutgoingChain h (resolveChainMetadata h chain s).1).run (.start (resolveChainMetadata h chain s).2) =
      (.err e, w₂) := by
    rw [resolveOutgoingChain, hentities]
    exact bind_err (mapM_err hbefore herr)
  have hunsent := resolveOutgoingChain_unsent h (resolveChainMetadata_typ h htyp s)
    (.start (resolveChainMetadata h chain s).2) (World.start_unsent _)
  rw [hrun] at hunsent
  rw [sendMessage_err hrun]
  exact ⟨⟨_, rfl⟩, hunsent⟩

/-! ## A message with a picture -/

def sampleFile : FileInfo :=
  { fileSize := 3, fileHash := "00", fileName := "p", width := 1, height := 1, time := 0, fileSha1 := "00" }

/-- The picture has to go to the highway. -/
def sampleAnswer : UploadRes CustomFace where
  msgInfo := { msgInfoBody := [{ index := some { info := some sampleFile, fileUuid := "id" } }], extBizInfo := none }
  compat := .default
  uKey := some "key"
  ipv4s := []

/-- A server that has a ticket, and takes the picture if it is `up`. -/
def sampleOutside (up : Bool) : Outside Unit where
  sendPacket packet :=
    if packet.command = "HttpConn.0x6ff_501" then pure (.fetchHighwayTicket [1])
    else if packet.command = "OidbSvcTrpcTcp.0x11c4_100" then
      if up then pure (.imageGroupUpload sampleAnswer) else Effect.throw (.networkError "closed")
    else pure .other
  openFile _ := Effect.throw ()
  genThumbnail := pure none
  readChunks _ := pure [[7, 8, 9]]
  readToEnd _ := pure [7, 8, 9]
  rewind _ := pure ()
  resolveImageMetadata _ := pure (.png, 1, 1)
  content _ _ := ([7, 8, 9], 3)
  tcp _ := .accepting
  http _ := .accepting
  fuel _ := 2
  afterUpload _ _ s := s
  server _ := { friends := .fail .internalEventDowncastError, members := fun _ => .fail .internalEventDowncastError }
  afterFetch s := s
  now _ := 0

def sampleHandle (up : Bool) : Handle Unit where
  context := { keyStore := { uin := 7, session := { d2Key := .replicate 16 0 } } }
  config := { highwayChuckSize := 2, fetchGroupMemberStrategy := .simple }
  enc := Entity.sampleEncoders
  crates :=
    { highway := .accepting
      ext := fun _ => []
      build := fun _ => []
      md5 := fun _ => []
      sha1 := fun _ => []
      streamSha1 := .lists
      silk := fun _ => .error ""
      seconds := fun _ => 0 }
  outside := sampleOutside up

def samplePicture : ImageEntity where
  height := 1
  width := 1
  filePath := none
  md5 := []
  size := 3
  url := ""
  msgInfo := none
  notOnlineImage := .default
  customFace := .default
  summary := none
  subType := 0
  isGroup := true
  imageStream := some { handle := 0 }

def pictureChain : MessageChain :=
  { Entity.sampleChain with
    typ := .group { groupUin := 9, groupMemberInfo := none }
    entities := [.text { text := "hi" }, .image samplePicture] }

def sampleShared : Shared Unit where
  sigSession := none
  client := { uin := "", ticket := [], chunkSize := 0 }
  cache := none
  outside := ()

/-- The picture is taken and then the message posted; or it is refused. -/
theorem sendMessage_posts_picture :
    (((sendMessage (sampleHandle true) pictureChain).run (.start sampleShared)).2.posted =
        [⟨"HttpConn.0x6ff_501", []⟩, ⟨"OidbSvcTrpcTcp.0x11c4_100", []⟩, ⟨"MessageSvc.PbSendMsg", []⟩] ∧
      ∃ entities message w, Through (Uploaded (sampleHandle true) pictureChain message) (.start sampleShared)
        pictureChain.entities entities w) ∧
    (∃ e, ((sendMessage (sampleHandle false) pictureChain).run (.start sampleShared)).1 = .err e) ∧
    ((sendMessage (sampleHandle false) pictureChain).run (.start sampleShared)).2.Unsent := by
  have htyp : pictureChain.typ ≠ .none := nofun
  have hposted : ((sendMessage (sampleHandle true) pictureChain).run (.start sampleShared)).2.posted =
      [⟨"HttpConn.0x6ff_501", []⟩, ⟨"OidbSvcTrpcTcp.0x11c4_100", []⟩, ⟨"MessageSvc.PbSendMsg", []⟩] := rfl
  have hsent : ⟨"MessageSvc.PbSendMsg", []⟩ ∈
      ((sendMessage (sampleHandle true) pictureChain).run (.start sampleShared)).2.posted := by
    rw [hposted]
    simp
  have hfails : UploadFails (sampleHandle false) pictureChain (.start sampleShared) :=
    ⟨[.text { text := "hi" }], .image samplePicture, [], [.text { text := "hi" }], _, _, _, rfl, .cons rfl (.nil _), rfl⟩
  obtain ⟨entities, _, message, w, _, _, hthrough⟩ :=
    (sendMessage_posts (sampleHandle true) htyp sampleShared).1 _ hsent rfl
  exact ⟨⟨hposted, entities, message, w, hthrough⟩,
    (sendMessage_posts (sampleHandle false) htyp sampleShared).2 hfails⟩

end Mania
