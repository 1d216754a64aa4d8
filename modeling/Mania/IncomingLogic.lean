/-
The task of an incoming packet: what `dispatch_sso_packet` runs for a push
or a kick, the three handlers it finds in the registry (`messaging_logic`,
`caching_logic` and the one of `wt_logic.rs`), and `fetch_group_requests` of
`core/operation/common_op.rs`.

The registry is collected from the object files, in any order. The lookups
that `fetch_group_requests` joins are made one after the other. The name that
the bot is renamed to is stored by `parse`, and no handler reads it.
-/
import Mania.Event
import Mania.GroupChanges
import Mania.IncomingChain

namespace Mania

/-! ## What is published -/

inductive ChatType where
  | friend
  | group
  | service
  deriving DecidableEq

/-- The events of `event/group`, `event/friend` and `event/system` that a
packet can cause. -/
inductive Published where
  | groupMessage (chain : MessageChain) (entities : List IncomingEntity)
  | groupJoinRequest (event : GroupJoinRequestEvent)
  | groupInvitation (groupUin invitorUin : UInt32) (sequence : Option UInt64)
  | groupAdminChanged (groupUin adminUin : UInt32) (isPromote : Bool)
  | groupPoke (groupUin operatorUin targetUin : UInt32) (action suffix actionImgUrl : String)
  | groupMemberIncrease (event : GroupMemberIncreaseEvent)
  | groupMemberDecrease (event : GroupMemberDecreaseEvent)
  | groupMute (groupUin : UInt32) (operatorUin : Option UInt32) (isMuted : Bool)
  | groupMemberMute (groupUin targetUin : UInt32) (operatorUin : Option UInt32) (duration : UInt32)
  | groupNameChange (groupUin : UInt32) (name : String)
  | groupTodo (groupUin operatorUin : UInt32)
  | groupReaction (targetGroupUin targetSequence operatorUin : UInt32) (isAdd : Bool) (code : String) (count : UInt32)
  | groupRecall (groupUin authorUin operatorUin sequence time random : UInt32) (tip : String)
  | groupEssence (groupUin sequence random : UInt32) (isSet : GroupEssenceSetFlag) (fromUin operatorUin : UInt32)
  | groupSpecialTitle (targetUin : UInt32) (targetNickname specialTitle specialTitleDetailUrl : String)
      (groupUin : UInt32)
  | groupMemberEnter (groupUin groupMemberUin styleId : UInt32)
  | groupInvitationRequest (groupUin targetUin invitorUin : UInt32)
  | groupPinChanged (chatType : ChatType) (uin : UInt32) (isPin : Bool)
  | friendMessage (chain : MessageChain) (entities : List IncomingEntity)
  | friendRecall (friendUin clientSequence time random : UInt32) (tip : String)
  | friendPoke (operatorUin targetUin : UInt32) (action suffix actionUrl : String)
  | friendNew (fromUin : UInt32) (fromNickname msg : String)
  | friendRename (uin : UInt32) (nickname : String)
  | friendRequest (sourceUin : UInt32) (message source : String)
  | tempMessage (chain : MessageChain) (entities : List IncomingEntity)
  | botRename (nickname : String)
  | botOffline (reason : Option String)

/-- The sender of the dispatcher that takes it. -/
def Published.channel : Published → EventChannel
  | friendMessage .. | friendRecall .. | friendPoke .. | friendNew .. | friendRename .. | friendRequest .. => .friend
  | tempMessage .. | botRename .. | botOffline .. => .system
  | _ => .group

/-! ## Handlers -/

/-- What `dispatch_logic` hands from handler to handler. -/
inductive LogicEvent where
  | pushMessage (chain : Option MessageChain)
  | notice (event : ServerEvent)
  | kickNT (tips title : String)

/-- `std::mem::take` on the types and the flag. -/
def ServerEvent.taken : ServerEvent → ServerEvent
  | groupSysIncrease groupUin memberUid invitorUid _ => groupSysIncrease groupUin memberUid invitorUid .unknown
  | groupSysDecrease groupUin memberUid operatorUid _ => groupSysDecrease groupUin memberUid operatorUid .unknown
  | groupSysEssence groupUin sequence random _ fromUin operatorUin =>
    groupSysEssence groupUin sequence random .unknown fromUin operatorUin
  | event => event

namespace IncomingRoutine

open Coroutine (tell)

def resolveRequest {ω : Type} (req : FetchGroupRequests) : IncomingRoutine ω BotGroupRequest := do
  let invitorMemberUin ← resolveStrangerUid2uin (req.invitorMemberUid.getD "")
  let targetMemberUin ← resolveStrangerUid2uinFast req.targetMemberUid
  let operatorUin ← resolveStrangerUid2uin (req.operatorUid.getD "")
  pure {
    groupUin := req.groupUin
    invitorMemberUin := invitorMemberUin.toOption
    invitorMemberCard := req.invitorMemberCard
    targetMemberUin
    targetMemberCard := req.targetMemberCard
    operatorUin := operatorUin.toOption
    operatorName := req.operatorName
    sequence := req.sequence
    state := req.state
    eventType := req.eventType
    comment := req.comment
    isFiltered := req.isFiltered }

def fetchGroupRequests {ω : Type} : IncomingRoutine ω (Except ManiaError (List BotGroupRequest)) := do
  match ← request .fetchGroupRequests with
  | .error e => pure (.error e)
  | .ok fetchEvent => do
    match ← request .fetchFilteredGroupRequests with
    | .error e => pure (.error e)
    | .ok fetchFilterEvent => do
      let requests ← (FetchGroupRequestsEvent.parse fetchEvent ++
        FetchFilteredGroupRequestsEvent.parse fetchFilterEvent).mapM resolveRequest
      pure (.ok requests)

/-- Failures, and a request that is not in the list, are logged. -/
def groupSysRequestJoin (req : GroupSysRequestJoinEvent) : IncomingRoutine Published Unit := do
  match ← resolveStrangerUid2uin req.targetUid with
  | .error _ => pure ()
  | .ok targetUin => do
    match ← fetchGroupRequests with
    | .error _ => pure ()
    | .ok requests =>
      match req.find targetUin requests with
      | none => pure ()
      | some r => tell (.groupJoinRequest {
        groupUin := req.groupUin
        targetUin
        targetNickname := r.targetMemberCard
        invitorUin := r.invitorMemberUin.getD 0
        answer := r.comment.getD ""
        requestSeq := r.sequence })

variable (x : IncomingContext)

/-- `uid2uin(..).map(Some).unwrap_or_else(..)`. -/
def uid2uinLogged {ω : Type} (uid : Option String) (groupUin : UInt32) : IncomingRoutine ω (Option UInt32) := do
  let r ← (Routine.uid2uin x.mode x.server (uid.getD "") (some groupUin)).run
  pure r.toOption

def messagingLogicChain (chain : MessageChain) : IncomingRoutine Published Unit := do
  let entities ← resolveIncomingChain x chain
  let chain ← resolveChainMetadata x chain
  match chain.typ with
  | .group _ => tell (.groupMessage chain entities)
  | .friend _ => tell (.friendMessage chain entities)
  | .temp => tell (.tempMessage chain entities)
  | .none => pure ()

/-- The branches of `messaging_logic_incoming` for the events of a notice. -/
def messagingLogicNotice : ServerEvent → IncomingRoutine Published Unit
  | .groupSysRequestJoin targetUid groupUin => groupSysRequestJoin { targetUid, groupUin }
  | .groupSysInvite groupUin invitorUid => do
    let invitorUin ← resolveStrangerUid2uinFast invitorUid
    tell (.groupInvitation groupUin invitorUin none)
  | .groupSysAdmin groupUin uid isPromoted => do
    let adminUin ← uid2uinFast x uid (some groupUin)
    tell (.groupAdminChanged groupUin adminUin isPromoted)
  | .groupSysPoke groupUin operatorUin targetUin action suffix actionImgUrl =>
    tell (.groupPoke groupUin operatorUin targetUin action suffix actionImgUrl)
  | .groupSysIncrease groupUin memberUid invitorUid eventType => do
    let memberUin ← resolveStrangerUid2uinFast memberUid
    let invitorUin ← uid2uinLogged x invitorUid groupUin
    tell (.groupMemberIncrease { groupUin, memberUin, invitorUin, eventType })
  | .groupSysDecrease groupUin memberUid operatorUid eventType => do
    let memberUin ← resolveStrangerUid2uinFast memberUid
    let operatorUin ← uid2uinLogged x operatorUid groupUin
    tell (.groupMemberDecrease { groupUin, memberUin, operatorUin, eventType })
  | .groupSysMute groupUin operatorUid isMuted => do
    let operatorUin ← uid2uinFast x (operatorUid.getD "") (some groupUin)
    tell (.groupMute groupUin (some operatorUin) isMuted)
  | .groupSysMemberMute groupUin operatorUid targetUid duration => do
    let operatorUin ← operatorUid.mapM fun uid => uid2uinFast x uid (some groupUin)
    let targetUin ← resolveStrangerUid2uinFast targetUid
    tell (.groupMemberMute groupUin targetUin operatorUin duration)
  | .groupSysNameChange groupUin name => tell (.groupNameChange groupUin name)
  | .groupSysTodo groupUin operatorUid => do
    let operatorUin ← uid2uinFast x operatorUid (some groupUin)
    tell (.groupTodo groupUin operatorUin)
  | .groupSysReaction targetGroupUin targetSequence operatorUid isAdd code count => do
    let operatorUin ← uid2uinFast x operatorUid (some targetGroupUin)
    tell (.groupReaction targetGroupUin targetSequence operatorUin isAdd code count)
  | .groupSysRecall groupUin authorUid operatorUid sequence time random tip => do
    let authorUin ← uid2uinFast x authorUid (some groupUin)
    let operatorUin ← operatorUid.mapM fun uid => uid2uinFast x uid (some groupUin)
    tell (.groupRecall groupUin authorUin (operatorUin.getD 0) sequence time random tip)
  | .groupSysEssence groupUin sequence random setFlag fromUin operatorUin =>
    tell (.groupEssence groupUin sequence random setFlag fromUin operatorUin)
  | .groupSysSpecialTitle targetUin targetNickname specialTitle specialTitleDetailUrl groupUin =>
    tell (.groupSpecialTitle targetUin targetNickname specialTitle specialTitleDetailUrl groupUin)
  | .groupSysMemberEnter groupUin groupMemberUin styleId => tell (.groupMemberEnter groupUin groupMemberUin styleId)
  | .groupSysRequestInvitation groupUin targetUid invitorUid => do
    let targetUin ← resolveStrangerUid2uinFast targetUid
    let invitorUin ← uid2uinFast x invitorUid (some groupUin)
    tell (.groupInvitationRequest groupUin targetUin invitorUin)
  | .friendSysRecall fromUid clientSequence time random tip => do
    let friendUin ← uid2uinFast x fromUid none
    tell (.friendRecall friendUin clientSequence time random tip)
  | .groupSysPinChange uid groupUin isPin => do
    let uin ← uid2uinFast x uid groupUin
    tell (.groupPinChanged (if groupUin.isSome then .group else .friend) uin isPin)
  | .friendSysPoke operatorUin targetUin action suffix actionImgUrl =>
    tell (.friendPoke operatorUin targetUin action suffix actionImgUrl)
  | .friendSysNew fromUid fromNickname msg => do
    let fromUin ← uid2uinFast x fromUid none
    tell (.friendNew fromUin fromNickname msg)
  | .friendSysRename uid nickname => do
    let uin ← uid2uinFast x uid none
    tell (.friendRename uin nickname)
  | .friendSysRequest _ sourceUid message source => do
    let sourceUin ← uid2uinFast x sourceUid none
    tell (.friendRequest sourceUin message source)
  | .botSysRename nickname => tell (.botRename nickname)

/-- `messaging_logic_incoming`. The chain is taken out of its event. -/
def messagingLogic : LogicEvent → IncomingRoutine Published LogicEvent
  | .pushMessage (some chain) => do
    messagingLogicChain x chain
    pure (.pushMessage none)
  | .notice event => do
    messagingLogicNotice x event
    pure (.notice event.taken)
  | event => pure event

/-- A failure is logged. -/
def refreshGroupMembersCacheLogged {ω : Type} (groupUin : UInt32) : IncomingRoutine ω Unit := do
  let _ ← (Routine.refreshGroupMembersCache x.mode x.server groupUin).run

/-- `caching_logic_incoming`. -/
def cachingLogic {ω : Type} : LogicEvent → IncomingRoutine ω LogicEvent
  | .notice (.groupSysIncrease groupUin memberUid invitorUid eventType) => do
    refreshGroupMembersCacheLogged x groupUin
    pure (.notice (.groupSysIncrease groupUin memberUid invitorUid eventType))
  | .notice (.groupSysDecrease groupUin memberUid operatorUid eventType) => do
    let selfUid ← expectSelfUid
    (if memberUid ≠ selfUid then refreshGroupMembersCacheLogged x groupUin else pure ())
    pure (.notice (.groupSysDecrease groupUin memberUid operatorUid eventType))
  | event => pure event

/-- `messaging_logic_incoming` of `wt_logic.rs`. -/
def wtLogic : LogicEvent → IncomingRoutine Published LogicEvent
  | .kickNT tips title => do
    tell (.botOffline (some (title ++ ": " ++ tips)))
    pure (.kickNT tips title)
  | event => pure event

end IncomingRoutine

/-! ## Dispatch -/

/-- The functions in `core/business` with `#[handle_event(..)]`. -/
inductive Logic where
  | caching
  | messaging
  | wt
  deriving DecidableEq

namespace Logic

def all : List Logic := [caching, messaging, wt]

/-- The event is among those the attribute lists. -/
def handles : Logic → LogicEvent → Bool
  | caching, .notice (.groupSysIncrease ..) | caching, .notice (.groupSysDecrease ..) => true
  | messaging, .pushMessage _ | messaging, .notice _ => true
  | wt, .kickNT .. => true
  | _, _ => false

def handle (x : IncomingContext) : Logic → LogicEvent → IncomingRoutine Published LogicEvent
  | caching => IncomingRoutine.cachingLogic x
  | messaging => IncomingRoutine.messagingLogic x
  | wt => IncomingRoutine.wtLogic

end Logic

namespace IncomingRoutine

variable (x : IncomingContext) (registry : List Logic)

/-- `LOGIC_MAP` has the handlers in the registry's order. -/
def dispatchLogic (event : LogicEvent) : IncomingRoutine Published LogicEvent :=
  (registry.filter (·.handles event)).foldlM (fun event logic => logic.handle x event) event

end IncomingRoutine

/-- A packet for which something is registered here, decoded. -/
inductive IncomingPacket where
  | push (packet : PushMsg)
  | kickNT (tips title : String)

/-- `resolve_event`: the major event and then the extra ones. -/
def IncomingPacket.resolveEvent (decoders : Decoders) (strategy : FetchGroupMemberStrategy) :
    IncomingPacket → Parsed (List LogicEvent)
  | push packet => do
    let (event, _) ← PushMsg.parse decoders strategy { name := "" } packet
    .ok (.pushMessage event.chain :: (event.extra.getD []).map .notice)
  | kickNT tips title => .ok [.kickNT tips title]

/-- `dispatch_sso_packet`, up to the answer. -/
def IncomingRoutine.dispatchSsoPacket (decoders : Decoders) (x : IncomingContext) (registry : List Logic)
    (packet : IncomingPacket) : IncomingRoutine Published (Except ParseError (List LogicEvent)) :=
  match packet.resolveEvent decoders x.strategy with
  | .ok events => do
    let events ← events.mapM (dispatchLogic x registry)
    pure (.ok events)
  | .err e => pure (.error e)
  | .panic => .panicked

/-- The tasks of the packets, side by side. -/
abbrev IncomingPool (σ : Type) :=
  Coroutine.Pool (Access.Answer IncomingRequest.Reply) Published (Except ParseError (List LogicEvent)) (CacheWorld σ)

namespace IncomingPool

variable {σ : Type}

def step (decoders : Decoders) (x : IncomingContext) (registry : List Logic)
    (reply : (r : IncomingRequest) → σ → r.Reply × σ) :
    IncomingPool σ → Coroutine.PoolAction IncomingPacket → Option (IncomingPool σ) :=
  Coroutine.Pool.step (Access.exec reply) (IncomingRoutine.dispatchSsoPacket decoders x registry)

/-- `Cache::new`, and no packet yet. -/
def new (mode : CacheMode) (outside : σ) : IncomingPool σ :=
  Coroutine.Pool.new { cache := Cache.new mode, outside }

end IncomingPool

end Mania
