/-
A chain as it comes in: `resolve_incoming_chain` and `resolve_chain_metadata`
of `core/business/messaging_logic.rs` as the task of the packet runs them,
and the downloads of `core/operation/common_op.rs`.

A request is answered from outside, by whatever the server sends, and a
download event's own `build` and `parse` are part of the answer. The entities
of a chain have no place for what a download gives, so an `IncomingEntity` is
one with that beside it.
-/
import Mania.CacheRoutines
import Mania.GroupRequests
import Mania.MessagingLogic

namespace Mania

/-! ## Requests -/

/-- The download events of `core/event/message`. -/
inductive DownloadEvent where
  | imageGroup (groupUin : UInt32) (indexNode : IndexNode)
  | imageC2C (selfUid : String) (indexNode : IndexNode)
  | fileGroup (groupUin : UInt32) (fileId : String)
  | fileC2C (senderUid receiverUid fileUuid fileHash : Option String)
  | recordGroup (groupUin : UInt32) (node : Option IndexNode) (fileUuid : String)
  | recordC2C (selfUid : String) (node : Option IndexNode) (fileUuid : String)
  | videoC2C (selfUid fileName fileMd5 : String) (fileSha1 : Option String) (node : Option IndexNode) (isGroup : Bool)
  | videoGroup (groupUin : UInt32) (selfUid fileName fileMd5 : String) (fileSha1 : Option String)
      (node : Option IndexNode)

/-- The checks of `build`, which only a file of a friend has. -/
def DownloadEvent.check : DownloadEvent → Except String Unit
  | fileC2C _ receiverUid fileUuid fileHash => do
    let _ ← receiverUid.elim (.error "Missing receiver_uid") Except.ok
    let _ ← fileUuid.elim (.error "Missing file_uuid") Except.ok
    let _ ← fileHash.elim (.error "Missing file_hash") Except.ok
  | _ => pure ()

/-- What a packet task asks besides pages. `key_store.uid` is outside too. -/
inductive IncomingRequest where
  | selfUid
  | fetchUserInfo (uid : String)
  | fetchGroupRequests
  | fetchFilteredGroupRequests
  | download (event : DownloadEvent)
  | multiMsgDownload (uid resId : Option String)

@[reducible] def IncomingRequest.Reply : IncomingRequest → Type
  | selfUid => Option String
  | fetchUserInfo _ => Except ManiaError UInt32
  | fetchGroupRequests | fetchFilteredGroupRequests => Except ManiaError OidbSvcTrpcTcp0x10C0Response
  | download _ => Except ManiaError String
  | multiMsgDownload _ _ => Except ManiaError (Option (List MessageChain))

/-- What a packet task only reads. -/
structure IncomingContext where
  mode : CacheMode
  server : Server
  strategy : FetchGroupMemberStrategy
  /-- `key_store.uin`. -/
  selfUin : UInt32

variable {ω α : Type}

abbrev IncomingRoutine (ω α : Type) := Routine IncomingRequest.Reply ω α

namespace IncomingRoutine

def request (r : IncomingRequest) : IncomingRoutine ω r.Reply := Coroutine.ask (Access.request r)

/-- `expect("Missing self_uid")`. -/
def expectSelfUid : IncomingRoutine ω String := do
  match ← request .selfUid with
  | some uid => pure uid
  | none => .panicked

/-! ## Downloads -/

/-- `send_event` of a download. -/
def download (event : DownloadEvent) : IncomingRoutine ω (Except ManiaError String) :=
  match event.check with
  | .ok () => request (.download event)
  | .error e => pure (.error (.internalBusinessError (.internalEventError (.parse e))))

def downloadGroupImage (groupUin : UInt32) (indexNode : IndexNode) : IncomingRoutine ω (Except ManiaError String) :=
  download (.imageGroup groupUin indexNode)

def downloadC2cImage (indexNode : IndexNode) : IncomingRoutine ω (Except ManiaError String) := do
  let uid ← expectSelfUid
  download (.imageC2C uid indexNode)

def multiMsgDownload (uid resId : String) : IncomingRoutine ω (Except ManiaError (Option (List MessageChain))) :=
  request (.multiMsgDownload (some uid) (some resId))

def downloadGroupFile (groupUin : UInt32) (fileId : String) : IncomingRoutine ω (Except ManiaError String) :=
  download (.fileGroup groupUin fileId)

def downloadC2cFile (fileUuid fileHash senderUid : Option String) : IncomingRoutine ω (Except ManiaError String) := do
  let selfUid ← request .selfUid
  download (.fileC2C senderUid selfUid fileUuid fileHash)

/-- By the node, or by the uuid. -/
def downloadGroupRecordInner (groupUin : UInt32) (node : Option IndexNode) (audioUuid : Option String) :
    IncomingRoutine ω (Except ManiaError String) :=
  download (.recordGroup groupUin node (audioUuid.getD ""))

def downloadC2cRecordInner (node : Option IndexNode) (audioUuid : Option String) :
    IncomingRoutine ω (Except ManiaError String) := do
  let selfUid ← expectSelfUid
  download (.recordC2C selfUid node (audioUuid.getD ""))

def downloadVideo (selfUid fileName fileMd5 : String) (fileSha1 : Option String) (node : Option IndexNode)
    (isGroup : Bool) : IncomingRoutine ω (Except ManiaError String) :=
  download (.videoC2C selfUid fileName fileMd5 fileSha1 node isGroup)

def downloadGroupVideo (groupUin : UInt32) (fileName fileMd5 : String) (fileSha1 : Option String)
    (node : Option IndexNode) : IncomingRoutine ω (Except ManiaError String) := do
  let selfUid ← expectSelfUid
  download (.videoGroup groupUin selfUid fileName fileMd5 fileSha1 node)

/-! ## Lookups -/

def resolveStrangerUid2uin (strangerUid : String) : IncomingRoutine ω (Except ManiaError UInt32) :=
  request (.fetchUserInfo strangerUid)

/-- Zero, or the empty text, for what is not found. -/
def resolveStrangerUid2uinFast (strangerUid : String) : IncomingRoutine ω UInt32 := do
  let r ← resolveStrangerUid2uin strangerUid
  pure (r.toOption.getD 0)

def uid2uinFast (x : IncomingContext) (uid : String) (groupUin : Option UInt32) : IncomingRoutine ω UInt32 := do
  let r ← (Routine.uid2uin x.mode x.server uid groupUin).run
  pure (r.toOption.getD 0)

def uin2uidFast (x : IncomingContext) (uin : UInt32) (groupUin : Option UInt32) : IncomingRoutine ω String := do
  let r ← (Routine.uin2uid x.mode x.server uin groupUin).run
  pure (r.toOption.getD "")

end IncomingRoutine

/-! ## Entities -/

/-- An entity with `chains` of a merged message, or with its `file_url`,
`audio_url` or `video_url`. -/
inductive IncomingEntity where
  | image (inner : ImageEntity)
  | multiMsg (inner : MultiMsgEntity) (chains : List MessageChain)
  | file (inner : FileEntity) (fileUrl : Option String)
  | record (inner : RecordEntity) (audioUrl : String)
  | video (inner : VideoEntity) (videoUrl : String)
  | other (entity : Entity)

/-- As it is unpacked. -/
def Entity.incoming : Entity → IncomingEntity
  | image inner => .image inner
  | multiMsg inner => .multiMsg inner []
  | file inner => .file inner none
  | record inner => .record inner ""
  | video inner => .video inner ""
  | entity => .other entity

/-- `info.msg_info_body.first().and_then(|node| node.index.clone())`. -/
def MsgInfo.firstIndex (info : MsgInfo) : Option IndexNode := info.msgInfoBody.head?.bind (·.index)

namespace IncomingRoutine

/-- `Ok(url) => url`, and what was there on an error. -/
def urlOr (url : String) : Except ManiaError String → String
  | .ok url => url
  | .error _ => url

def resolveImage (chain : MessageChain) (image : ImageEntity) : IncomingRoutine ω ImageEntity :=
  if "&rkey=".toList <:+: image.url.toList then pure image
  else
    match image.msgInfo.bind MsgInfo.firstIndex, chain.typ with
    | none, _ => pure image
    | some node, .group grp => do
      let r ← downloadGroupImage grp.groupUin node
      pure { image with url := urlOr image.url r }
    | some node, .friend _ | some node, .temp => do
      let r ← downloadC2cImage node
      pure { image with url := urlOr image.url r }
    | some _, .none => pure image

def resolveMultiMsg (chain : MessageChain) (multi : MultiMsgEntity) (chains : List MessageChain) :
    IncomingRoutine ω (List MessageChain) :=
  if chains.isEmpty then do
    let msg ← multiMsgDownload chain.uid multi.resId
    match msg with
    | .ok (some chains) => pure chains
    | .ok none | .error _ => pure chains
  else pure chains

def resolveFile (chain : MessageChain) (file : FileEntity) (fileUrl : Option String) :
    IncomingRoutine ω (Option String) :=
  match file.extra, chain.typ with
  | some (.group (some fileId)), .group grp => do
    let r ← downloadGroupFile grp.groupUin fileId
    pure r.toOption
  | some (.group _), _ => pure fileUrl
  | some (.c2c fileUuid fileHash), _ => do
    let r ← downloadC2cFile fileUuid fileHash (some chain.uid)
    pure r.toOption
  | none, _ => pure none

def resolveRecord (chain : MessageChain) (record : RecordEntity) (audioUrl : String) : IncomingRoutine ω String :=
  match record.msgInfo, record.audioUuid, chain.typ with
  | some msgInfo, _, .group grp => do
    let r ← downloadGroupRecordInner grp.groupUin msgInfo.firstIndex none
    pure (urlOr audioUrl r)
  | some msgInfo, _, .friend _ | some msgInfo, _, .temp => do
    let r ← downloadC2cRecordInner msgInfo.firstIndex none
    pure (urlOr audioUrl r)
  | none, some uuid, .group grp => do
    let r ← downloadGroupRecordInner grp.groupUin none (some uuid)
    pure (urlOr audioUrl r)
  | none, some uuid, .friend _ | none, some uuid, .temp => do
    let r ← downloadC2cRecordInner none (some uuid)
    pure (urlOr audioUrl r)
  | _, _, _ => pure audioUrl

def resolveVideo (x : IncomingContext) (chain : MessageChain) (video : VideoEntity) (videoUrl : String) :
    IncomingRoutine ω String :=
  match chain.typ with
  | .group grp => do
    let uid ← uin2uidFast x chain.friendUin (some grp.groupUin)
    let r ← downloadVideo uid video.fileName "" (some "") video.node true
    match r with
    | .ok url => pure url
    | .error _ => do
      let r ← downloadGroupVideo grp.groupUin video.fileName "" (some "") video.node
      pure (urlOr videoUrl r)
  | .friend _ | .temp => do
    let r ← downloadVideo chain.uid video.fileName "" (some "") video.node false
    pure (urlOr videoUrl r)
  | .none => pure videoUrl

/-- One turn of the loop of `resolve_incoming_chain`. -/
def resolveEntity (x : IncomingContext) (chain : MessageChain) : IncomingEntity → IncomingRoutine ω IncomingEntity
  | .image image => .image <$> resolveImage chain image
  | .multiMsg multi chains => .multiMsg multi <$> resolveMultiMsg chain multi chains
  | .file file fileUrl => .file file <$> resolveFile chain file fileUrl
  | .record record audioUrl => .record record <$> resolveRecord chain record audioUrl
  | .video video videoUrl => .video video <$> resolveVideo x chain video videoUrl
  | .other entity => pure (.other entity)

def resolveIncomingChain (x : IncomingContext) (chain : MessageChain) : IncomingRoutine ω (List IncomingEntity) :=
  (chain.entities.map Entity.incoming).mapM (resolveEntity x chain)

def resolveChainMetadata (x : IncomingContext) (chain : MessageChain) : IncomingRoutine ω MessageChain :=
  match chain.typ with
  | .group grp =>
    if x.strategy = .full then do
      let members ← (Routine.fetchMaybeCachedGroupMembers x.mode x.server grp.groupUin
        (fun mm => (mm.lookup grp.groupUin).getD []) false).run
      let lookupUin := if chain.friendUin = 0 then x.selfUin else chain.friendUin
      let groupMemberInfo := (orEmpty members).find? (·.uin = lookupUin)
      let chain := { chain with typ := .group { grp with groupMemberInfo } }
      pure (chain.fillUid (groupMemberInfo.map (·.uid)))
    else pure chain
  | .friend friendElem => do
    let friends ← (Routine.fetchMaybeCachedFriends x.mode x.server (some chain.friendUin)
      (fun fm => fm.toList.map (·.2)) false).run
    match (orEmpty friends).find? (·.uin = chain.friendUin) with
    | some friend =>
      pure ({ chain with typ := .friend { friendElem with friendInfo := some friend } }.fillUid (some friend.uid))
    | none => pure chain
  | .temp | .none => pure chain

end IncomingRoutine

end Mania
