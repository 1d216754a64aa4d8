/-
What a chain comes to when other tasks run beside its own: every entity is
the one that was unpacked, with a URL that it had or that the server gave for
this very entity (`resolveIncomingChain_seeks`), and the sender is a friend
or a member that the directory has (`resolveChainMetadata_seeks`).
-/
import Mania.CacheRoutinesFacts
import Mania.IncomingChain

namespace Mania

open Coroutine (Rely)

variable {σ ω α β : Type} {mode : CacheMode} {d : Directory}
  {reply : (r : IncomingRequest) → σ → r.Reply × σ} {w : CacheWorld σ}

/-! ## What a task finds out -/

/-- The server can answer so. -/
def Possible (reply : (r : IncomingRequest) → σ → r.Reply × σ) (r : IncomingRequest) (a : r.Reply) : Prop :=
  ∃ outside, (reply r outside).1 = a

/-- From every good cache the routine tells nothing, and what it finds is
`P`. It panics only where the bot's uid is missing. -/
def Seeks (mode : CacheMode) (d : Directory) (reply : (r : IncomingRequest) → σ → r.Reply × σ) (P : α → Prop)
    (t : IncomingRoutine ω α) : Prop :=
  ∀ w : CacheWorld σ, w.Good mode d → (rely mode d reply).Finds (Possible reply .selfUid none) (fun a _ => P a) t w

namespace Seeks

variable {P : α → Prop} {Q : β → Prop} {t : IncomingRoutine ω α}

theorem pure {a : α} (h : P a) : Seeks mode d reply P (Pure.pure a : IncomingRoutine ω α) := fun _ _ => .done fun _ _ => h

theorem panicked (h : Possible reply .selfUid none) : Seeks mode d reply P (.panicked : IncomingRoutine ω α) :=
  fun _ _ _ _ hduring => ⟨hduring, h⟩

/-- An operation on the cache, which does not panic. -/
theorem of_finds (h : ∀ w : CacheWorld σ, w.Good mode d → (rely mode d reply).Finds False (fun a _ => P a) t w) :
    Seeks mode d reply P t := fun w hw => (h w hw).weaken False.elim

theorem mono {P' : α → Prop} (h : Seeks mode d reply P t) (hP : ∀ a, P a → P' a) : Seeks mode d reply P' t :=
  fun w hw => (h w hw).mono fun a _ => hP a

theorem bind {f : α → IncomingRoutine ω β} (h : Seeks mode d reply P t)
    (hf : ∀ a, P a → Seeks mode d reply Q (f a)) : Seeks mode d reply Q (t >>= f) := fun w hw =>
  ((h w hw).carry (fun _ _ => CacheWorld.Good.stable) hw).bind fun a w ha => hf a ha.1 w ha.2

theorem map {f : α → β} (h : Seeks mode d reply P t) (hf : ∀ a, P a → Q (f a)) : Seeks mode d reply Q (f <$> t) :=
  h.bind fun a ha => .pure (hf a ha)

theorem mapM {R : α → β → Prop} {f : α → IncomingRoutine ω β} (h : ∀ a, Seeks mode d reply (R a) (f a)) (as : List α) :
    Seeks mode d reply (List.Forall₂ R as) (as.mapM f) := by
  induction as with
  | nil => exact .pure .nil
  | cons a as ih =>
    rw [List.mapM_cons]
    exact (h a).bind fun b hb => ih.bind fun bs hbs => .pure (.cons hb hbs)

theorem option {R : α → β → Prop} {f : α → IncomingRoutine ω β} (h : ∀ a, Seeks mode d reply (R a) (f a))
    (a : Option α) : Seeks mode d reply (Option.Rel R a) (a.mapM f) := by
  cases a with
  | none => exact .pure .none
  | some a => exact (h a).bind fun b hb => .pure (.some hb)

/-- Before a routine that may tell something. -/
theorem meets_bind {panics : Prop} {during : List ω → Prop} {after : β → List ω → CacheWorld σ → Prop}
    {f : α → IncomingRoutine ω β} {events : List ω} (h : Seeks mode d reply P t) (hw : w.Good mode d)
    (hpanics : Possible reply .selfUid none → panics) (hduring : during events)
    (hf : ∀ a w, P a → w.Good mode d → (rely mode d reply).Meets panics during after (f a) events w) :
    (rely mode d reply).Meets panics during after (t >>= f) events w :=
  (((h w hw).weaken hpanics).carry (fun _ _ => CacheWorld.Good.stable) hw).meets_bind hduring fun a w ha => hf a w ha.1 ha.2

end Seeks

/-! ## Requests and lookups -/

namespace IncomingRoutine

theorem request_seeks (r : IncomingRequest) :
    Seeks mode d reply (Possible reply r) (request r : IncomingRoutine ω r.Reply) :=
  fun _ _ => .call (c := Access.request r) trivial fun w' _ => .done fun _ _ => ⟨w'.outside, rfl⟩

theorem expectSelfUid_seeks :
    Seeks mode d reply (fun uid => Possible reply .selfUid (some uid)) (expectSelfUid : IncomingRoutine ω String) :=
  (request_seeks .selfUid).bind fun r hr => by
    cases r with
    | some uid => exact .pure hr
    | none => exact .panicked hr

/-- A URL is one the server gives for the download. -/
theorem download_seeks (event : DownloadEvent) :
    Seeks mode d reply (fun r => ∀ url, r = .ok url → Possible reply (.download event) (.ok url))
      (download event : IncomingRoutine ω (Except ManiaError String)) := by
  unfold download
  split
  · exact (request_seeks (.download event)).mono fun r hr url hurl => hurl ▸ hr
  · exact .pure nofun

end IncomingRoutine

/-- The uin the server has for a stranger, or zero. -/
def StrangerUin (reply : (r : IncomingRequest) → σ → r.Reply × σ) (uid : String) (uin : UInt32) : Prop :=
  ∃ r, Possible reply (.fetchUserInfo uid) r ∧ uin = r.toOption.getD 0

/-- The uin of a lookup, or zero. -/
def FoundUin (d : Directory) (uid : String) (groupUin : Option UInt32) (uin : UInt32) : Prop :=
  ∃ r, FindsUin d uid groupUin r ∧ uin = r.toOption.getD 0

/-- The same of a uid. -/
def FoundUid (d : Directory) (uin : UInt32) (groupUin : Option UInt32) (uid : String) : Prop :=
  ∃ r, FindsUid d uin groupUin r ∧ uid = r.toOption.getD ""

section
variable {x : IncomingContext}

namespace IncomingRoutine

theorem resolveStrangerUid2uinFast_seeks (uid : String) :
    Seeks mode d reply (StrangerUin reply uid) (resolveStrangerUid2uinFast uid : IncomingRoutine ω UInt32) :=
  (request_seeks (.fetchUserInfo uid)).bind fun r hr => .pure ⟨r, hr, rfl⟩

theorem uid2uinFast_seeks (hserver : x.server = d.toServer) (uid : String) (groupUin : Option UInt32) :
    Seeks x.mode d reply (FoundUin d uid groupUin) (uid2uinFast x uid groupUin : IncomingRoutine ω UInt32) := by
  unfold uid2uinFast
  rw [hserver]
  have hfinds : Seeks x.mode d reply (FindsUin d uid groupUin)
    (Routine.uid2uin x.mode d.toServer uid groupUin : CacheRoutine IncomingRequest.Reply ω UInt32).run :=
    .of_finds fun w hw => Routine.uid2uin_finds hw uid groupUin
  exact hfinds.bind fun r hr => .pure ⟨r, hr, rfl⟩

theorem uin2uidFast_seeks (hserver : x.server = d.toServer) (uin : UInt32) (groupUin : Option UInt32) :
    Seeks x.mode d reply (FoundUid d uin groupUin) (uin2uidFast x uin groupUin : IncomingRoutine ω String) := by
  unfold uin2uidFast
  rw [hserver]
  have hfinds : Seeks x.mode d reply (FindsUid d uin groupUin)
    (Routine.uin2uid x.mode d.toServer uin groupUin : CacheRoutine IncomingRequest.Reply ω String).run :=
    .of_finds fun w hw => Routine.uin2uid_finds hw uin groupUin
  exact hfinds.bind fun r hr => .pure ⟨r, hr, rfl⟩

end IncomingRoutine

end

/-! ## Entities -/

/-- A message of one person to the bot. -/
def MessageChain.IsPrivate (chain : MessageChain) : Prop :=
  chain.typ = .temp ∨ ∃ friendElem, chain.typ = .friend friendElem

/-- A record is asked for by its node, and otherwise by its uuid. -/
inductive RecordEntity.AskedBy (record : RecordEntity) : Option IndexNode → String → Prop
  | node (msgInfo : MsgInfo) (h : record.msgInfo = some msgInfo) : AskedBy record msgInfo.firstIndex ""
  | uuid (uuid : String) (hnone : record.msgInfo = none) (h : record.audioUuid = some uuid) : AskedBy record none uuid

/-- What may be asked of the server for an entity of a chain. -/
inductive MessageChain.Downloads (d : Directory) (reply : (r : IncomingRequest) → σ → r.Reply × σ)
    (chain : MessageChain) : Entity → DownloadEvent → Prop
  | imageGroup {image : ImageEntity} {grp : GroupMessageUniqueElem} {node : IndexNode} (htyp : chain.typ = .group grp)
      (hurl : ¬ "&rkey=".toList <:+: image.url.toList) (hnode : image.msgInfo.bind MsgInfo.firstIndex = some node) :
      Downloads d reply chain (.image image) (.imageGroup grp.groupUin node)
  | imageC2C {image : ImageEntity} {selfUid : String} {node : IndexNode} (htyp : chain.IsPrivate)
      (hurl : ¬ "&rkey=".toList <:+: image.url.toList) (hnode : image.msgInfo.bind MsgInfo.firstIndex = some node)
      (hself : Possible reply .selfUid (some selfUid)) :
      Downloads d reply chain (.image image) (.imageC2C selfUid node)
  | fileGroup {file : FileEntity} {grp : GroupMessageUniqueElem} {fileId : String} (htyp : chain.typ = .group grp)
      (hextra : file.extra = some (.group (some fileId))) :
      Downloads d reply chain (.file file) (.fileGroup grp.groupUin fileId)
  | fileC2C {file : FileEntity} {selfUid fileUuid fileHash : Option String}
      (hextra : file.extra = some (.c2c fileUuid fileHash)) (hself : Possible reply .selfUid selfUid) :
      Downloads d reply chain (.file file) (.fileC2C (some chain.uid) selfUid fileUuid fileHash)
  | recordGroup {record : RecordEntity} {grp : GroupMessageUniqueElem} {node : Option IndexNode} {uuid : String}
      (htyp : chain.typ = .group grp) (hasked : record.AskedBy node uuid) :
      Downloads d reply chain (.record record) (.recordGroup grp.groupUin node uuid)
  | recordC2C {record : RecordEntity} {selfUid : String} {node : Option IndexNode} {uuid : String}
      (htyp : chain.IsPrivate) (hasked : record.AskedBy node uuid) (hself : Possible reply .selfUid (some selfUid)) :
      Downloads d reply chain (.record record) (.recordC2C selfUid node uuid)
  | videoOfMember {video : VideoEntity} {grp : GroupMessageUniqueElem} {uid : String} (htyp : chain.typ = .group grp)
      (huid : FoundUid d chain.friendUin (some grp.groupUin) uid) :
      Downloads d reply chain (.video video) (.videoC2C uid video.fileName "" (some "") video.node true)
  | videoGroup {video : VideoEntity} {grp : GroupMessageUniqueElem} {selfUid : String} (htyp : chain.typ = .group grp)
      (hself : Possible reply .selfUid (some selfUid)) :
      Downloads d reply chain (.video video) (.videoGroup grp.groupUin selfUid video.fileName "" (some "") video.node)
  | videoC2C {video : VideoEntity} (htyp : chain.IsPrivate) :
      Downloads d reply chain (.video video) (.videoC2C chain.uid video.fileName "" (some "") video.node false)

/-- The server gave the URL for the entity. -/
def MessageChain.Gave (d : Directory) (reply : (r : IncomingRequest) → σ → r.Reply × σ) (chain : MessageChain)
    (entity : Entity) (url : String) : Prop :=
  ∃ event, chain.Downloads d reply entity event ∧ Possible reply (.download event) (.ok url)

/-- The entity as it was unpacked, with what may have been downloaded for
it. -/
inductive MessageChain.Linked (d : Directory) (reply : (r : IncomingRequest) → σ → r.Reply × σ) (chain : MessageChain) :
    Entity → IncomingEntity → Prop
  | image {image : ImageEntity} {url : String} (h : url = image.url ∨ chain.Gave d reply (.image image) url) :
      Linked d reply chain (.image image) (.image { image with url })
  | multiMsg {multi : MultiMsgEntity} {chains : List MessageChain}
      (h : chains = [] ∨ Possible reply (.multiMsgDownload (some chain.uid) (some multi.resId)) (.ok (some chains))) :
      Linked d reply chain (.multiMsg multi) (.multiMsg multi chains)
  | file {file : FileEntity} {fileUrl : Option String}
      (h : ∀ url, fileUrl = some url → chain.Gave d reply (.file file) url) :
      Linked d reply chain (.file file) (.file file fileUrl)
  | record {record : RecordEntity} {audioUrl : String}
      (h : audioUrl = "" ∨ chain.Gave d reply (.record record) audioUrl) :
      Linked d reply chain (.record record) (.record record audioUrl)
  | video {video : VideoEntity} {videoUrl : String} (h : videoUrl = "" ∨ chain.Gave d reply (.video video) videoUrl) :
      Linked d reply chain (.video video) (.video video videoUrl)
  | other {entity : Entity} (h : entity.incoming = .other entity) : Linked d reply chain entity (.other entity)

namespace IncomingRoutine

variable {chain : MessageChain} {x : IncomingContext}

theorem urlOr_cases {P : String → Prop} {url : String} {r : Except ManiaError String} (h : ∀ url, r = .ok url → P url) :
    urlOr url r = url ∨ P (urlOr url r) := by
  cases r with
  | ok url' => exact .inr (h url' rfl)
  | error e => exact .inl rfl

/-- A URL that is replaced when the download succeeds. -/
theorem download_urlOr_seeks {entity : Entity} {event : DownloadEvent} (h : chain.Downloads d reply entity event)
    (url : String) {f : String → α} :
    Seeks mode d reply (fun a => ∃ url', (url' = url ∨ chain.Gave d reply entity url') ∧ a = f url')
      (do
        let r ← download event
        pure (f (urlOr url r)) : IncomingRoutine ω α) :=
  (download_seeks event).bind fun r hr => .pure
    ⟨urlOr url r, (urlOr_cases hr).imp id fun hgave => ⟨event, h, hgave⟩, rfl⟩

theorem resolveImage_seeks (image : ImageEntity) :
    Seeks mode d reply
      (fun out => ∃ url, (url = image.url ∨ chain.Gave d reply (.image image) url) ∧ out = { image with url })
      (resolveImage chain image : IncomingRoutine ω ImageEntity) := by
  have hsame : Seeks mode d reply
      (fun out => ∃ url, (url = image.url ∨ chain.Gave d reply (.image image) url) ∧ out = { image with url })
      (pure image : IncomingRoutine ω ImageEntity) := .pure ⟨image.url, .inl rfl, rfl⟩
  unfold resolveImage
  split
  · exact hsame
  · next hurl =>
    split
    · exact hsame
    · next node grp hnode htyp => exact download_urlOr_seeks (.imageGroup htyp hurl hnode) image.url
    · next node friendElem hnode htyp =>
      simp only [downloadC2cImage, bind_assoc]
      exact expectSelfUid_seeks.bind fun uid hself =>
        download_urlOr_seeks (.imageC2C (.inr ⟨friendElem, htyp⟩) hurl hnode hself) image.url
    · next node hnode htyp =>
      simp only [downloadC2cImage, bind_assoc]
      exact expectSelfUid_seeks.bind fun uid hself =>
        download_urlOr_seeks (.imageC2C (.inl htyp) hurl hnode hself) image.url
    · exact hsame

theorem resolveMultiMsg_seeks (multi : MultiMsgEntity) :
    Seeks mode d reply (fun chains => chains = [] ∨
        Possible reply (.multiMsgDownload (some chain.uid) (some multi.resId)) (.ok (some chains)))
      (resolveMultiMsg chain multi [] : IncomingRoutine ω (List MessageChain)) :=
  (request_seeks (.multiMsgDownload (some chain.uid) (some multi.resId))).bind fun r hr => by
    cases r with
    | error e => exact .pure (.inl rfl)
    | ok chains =>
      cases chains with
      | none => exact .pure (.inl rfl)
      | some chains => exact .pure (.inr hr)

theorem download_toOption_seeks {entity : Entity} {event : DownloadEvent} (h : chain.Downloads d reply entity event) :
    Seeks mode d reply (fun fileUrl => ∀ url, fileUrl = some url → chain.Gave d reply entity url)
      (do
        let r ← download event
        pure r.toOption : IncomingRoutine ω (Option String)) :=
  (download_seeks event).bind fun r hr => .pure fun url hurl => by
    cases r with
    | error e => cases hurl
    | ok url' =>
      cases hurl
      exact ⟨event, h, hr url rfl⟩

theorem resolveFile_seeks (file : FileEntity) :
    Seeks mode d reply (fun fileUrl => ∀ url, fileUrl = some url → chain.Gave d reply (.file file) url)
      (resolveFile chain file none : IncomingRoutine ω (Option String)) := by
  unfold resolveFile
  split
  · next fileId grp hextra htyp => exact download_toOption_seeks (.fileGroup htyp hextra)
  · exact .pure nofun
  · next fileUuid fileHash hextra =>
    simp only [downloadC2cFile, bind_assoc]
    exact (request_seeks .selfUid).bind fun selfUid hself => download_toOption_seeks (.fileC2C hextra hself)
  · exact .pure nofun

theorem resolveRecord_seeks (record : RecordEntity) :
    Seeks mode d reply (fun audioUrl => audioUrl = "" ∨ chain.Gave d reply (.record record) audioUrl)
      (resolveRecord chain record "" : IncomingRoutine ω String) := by
  have hgroup (grp : GroupMessageUniqueElem) (node : Option IndexNode) (uuid : String) (htyp : chain.typ = .group grp)
      (hasked : record.AskedBy node uuid) :
      Seeks mode d reply (fun audioUrl => audioUrl = "" ∨ chain.Gave d reply (.record record) audioUrl)
        (do
          let r ← download (.recordGroup grp.groupUin node uuid)
          pure (urlOr "" r) : IncomingRoutine ω String) :=
    (download_urlOr_seeks (f := id) (.recordGroup htyp hasked) "").mono fun _ h => by
      obtain ⟨url, h, rfl⟩ := h
      exact h
  have hprivate (node : Option IndexNode) (uuid : String) (htyp : chain.IsPrivate) (hasked : record.AskedBy node uuid) :
      Seeks mode d reply (fun audioUrl => audioUrl = "" ∨ chain.Gave d reply (.record record) audioUrl)
        (do
          let selfUid ← expectSelfUid
          let r ← download (.recordC2C selfUid node uuid)
          pure (urlOr "" r) : IncomingRoutine ω String) :=
    expectSelfUid_seeks.bind fun selfUid hself =>
      (download_urlOr_seeks (f := id) (.recordC2C htyp hasked hself) "").mono fun _ h => by
        obtain ⟨url, h, rfl⟩ := h
        exact h
  unfold resolveRecord
  simp only [downloadC2cRecordInner, downloadGroupRecordInner, bind_assoc]
  split
  · next msgInfo grp h htyp => exact hgroup grp _ _ htyp (.node msgInfo h)
  · next msgInfo friendElem h htyp => exact hprivate _ _ (.inr ⟨friendElem, htyp⟩) (.node msgInfo h)
  · next msgInfo h htyp => exact hprivate _ _ (.inl htyp) (.node msgInfo h)
  · next uuid grp hnone h htyp => exact hgroup grp _ _ htyp (.uuid uuid hnone h)
  · next uuid friendElem hnone h htyp => exact hprivate _ _ (.inr ⟨friendElem, htyp⟩) (.uuid uuid hnone h)
  · next uuid hnone h htyp => exact hprivate _ _ (.inl htyp) (.uuid uuid hnone h)
  · exact .pure (.inl rfl)

theorem resolveVideo_seeks (hserver : x.server = d.toServer) (video : VideoEntity) :
    Seeks x.mode d reply (fun videoUrl => videoUrl = "" ∨ chain.Gave d reply (.video video) videoUrl)
      (resolveVideo x chain video "" : IncomingRoutine ω String) := by
  have hvideo {event : DownloadEvent} (h : chain.Downloads d reply (.video video) event) :
      Seeks x.mode d reply (fun videoUrl => videoUrl = "" ∨ chain.Gave d reply (.video video) videoUrl)
        (do
          let r ← download event
          pure (urlOr "" r) : IncomingRoutine ω String) :=
    (download_urlOr_seeks (f := id) h "").mono fun _ h => by
      obtain ⟨url, h, rfl⟩ := h
      exact h
  unfold resolveVideo
  split
  · next grp htyp =>
    refine (uin2uidFast_seeks hserver chain.friendUin (some grp.groupUin)).bind fun uid huid => ?_
    refine (download_seeks _).bind fun r hr => ?_
    cases r with
    | ok url => exact .pure (.inr ⟨_, .videoOfMember htyp huid, hr url rfl⟩)
    | error e =>
      simp only [downloadGroupVideo, bind_assoc]
      exact expectSelfUid_seeks.bind fun selfUid hself => hvideo (.videoGroup htyp hself)
  · next friendElem htyp => exact hvideo (.videoC2C (.inr ⟨friendElem, htyp⟩))
  · next htyp => exact hvideo (.videoC2C (.inl htyp))
  · exact .pure (.inl rfl)

theorem resolveEntity_seeks (hserver : x.server = d.toServer) (entity : Entity) :
    Seeks x.mode d reply (chain.Linked d reply entity)
      (resolveEntity x chain entity.incoming : IncomingRoutine ω IncomingEntity) := by
  cases entity with
  | image image =>
    refine (resolveImage_seeks image).map fun out hout => ?_
    obtain ⟨url, hurl, rfl⟩ := hout
    exact .image hurl
  | multiMsg multi => exact (resolveMultiMsg_seeks multi).map fun _ h => .multiMsg h
  | file file => exact (resolveFile_seeks file).map fun _ h => .file h
  | record record => exact (resolveRecord_seeks record).map fun _ h => .record h
  | video video => exact (resolveVideo_seeks hserver video).map fun _ h => .video h
  | _ => exact .pure (.other rfl)

/-- In order, and none is lost. -/
theorem resolveIncomingChain_seeks (hserver : x.server = d.toServer) (chain : MessageChain) :
    Seeks x.mode d reply (List.Forall₂ (chain.Linked d reply) chain.entities)
      (resolveIncomingChain x chain : IncomingRoutine ω (List IncomingEntity)) := by
  rw [resolveIncomingChain, List.mapM_map]
  exact .mapM (fun entity => resolveEntity_seeks hserver entity) chain.entities

end IncomingRoutine

/-! ## Metadata -/

/-- The member of the group that a chain is from. With a cache it is found if
the directory has it. -/
structure MessageChain.FromMember (x : IncomingContext) (d : Directory) (chain : MessageChain) (groupUin : UInt32)
    (info : Option BotGroupMember) : Prop where
  sound : ∀ member, info = some member →
    member ∈ d.memberList groupUin ∧ member.uin = if chain.friendUin = 0 then x.selfUin else chain.friendUin
  complete : x.mode ≠ .none →
    info = (d.memberList groupUin).find? (·.uin = if chain.friendUin = 0 then x.selfUin else chain.friendUin)

/-- The chain with who it is from. Nothing else of it changes. -/
inductive MessageChain.Completed (x : IncomingContext) (d : Directory) (chain : MessageChain) : MessageChain → Prop
  | group {grp : GroupMessageUniqueElem} {info : Option BotGroupMember} (htyp : chain.typ = .group grp)
      (hfull : x.strategy = .full) (h : chain.FromMember x d grp.groupUin info) :
      Completed x d chain
        (({ chain with typ := .group { grp with groupMemberInfo := info } } : MessageChain).fillUid (info.map (·.uid)))
  | friend {friendElem : FriendMessageUniqueElem} {friend : BotFriend} (htyp : chain.typ = .friend friendElem)
      (hlisted : friend.ListedIn d) (huin : friend.uin = chain.friendUin) :
      Completed x d chain
        (({ chain with typ := .friend { friendElem with friendInfo := some friend } } : MessageChain).fillUid
          (some friend.uid))
  | same (h : ∀ grp, chain.typ = .group grp → x.strategy ≠ .full) : Completed x d chain chain

namespace IncomingRoutine

variable {x : IncomingContext}

theorem fromMember {chain : MessageChain} {groupUin : UInt32} {groups : DashMap UInt32 (List BotGroupMember)}
    (h : HasMembers x.mode d groupUin groups) : chain.FromMember x d groupUin
      (((groups.lookup groupUin).getD []).find? fun member =>
        member.uin = if chain.friendUin = 0 then x.selfUin else chain.friendUin) := by
  obtain ⟨members, hmembers, hlisted, hall⟩ := h
  rw [hmembers]
  refine ⟨fun member hfind => ?_, fun hmode => ?_⟩
  · have huin := List.find?_some hfind
    exact ⟨hlisted member (List.mem_of_find?_eq_some hfind), by simpa using huin⟩
  · rw [hall hmode]
    rfl

theorem resolveChainMetadata_seeks (hserver : x.server = d.toServer) (chain : MessageChain) :
    Seeks x.mode d reply (chain.Completed x d) (resolveChainMetadata x chain : IncomingRoutine ω MessageChain) := by
  unfold resolveChainMetadata
  rw [hserver]
  split
  · next grp htyp =>
    split
    · next hfull =>
      refine .of_finds fun w hw => ?_
      refine Rely.Finds.bind (Routine.fetchMaybeCachedGroupMembers_gives hw grp.groupUin _ false) fun r w hr => ?_
      obtain ⟨_, rfl, groups, hgroups, rfl⟩ := hr
      exact .done fun _ _ => .group htyp hfull (fromMember hgroups)
    · next hfull => exact .pure (.same fun _ _ => hfull)
  · next friendElem htyp =>
    refine .of_finds fun w hw => ?_
    refine Rely.Finds.bind (Routine.fetchMaybeCachedFriends_gives hw (some chain.friendUin) _ false) fun r w hr => ?_
    obtain ⟨_, rfl, friends, hfriends, rfl⟩ := hr
    simp only [orEmpty]
    split
    · next friend hfind =>
      obtain ⟨entry, hentry, rfl⟩ := List.mem_map.mp (List.mem_of_find?_eq_some hfind)
      have hlisted := hfriends entry.1 entry.2 (DashMap.mem_toList.mp hentry)
      have huin := List.find?_some hfind
      exact .done fun _ _ => .friend htyp hlisted.2 (by simpa using huin)
    · exact .done fun _ _ => .same fun grp hgrp => by cases htyp.symm.trans hgrp
  · next htyp => exact .pure (.same fun grp hgrp => by cases htyp.symm.trans hgrp)
  · next htyp => exact .pure (.same fun grp hgrp => by cases htyp.symm.trans hgrp)

end IncomingRoutine

end Mania
