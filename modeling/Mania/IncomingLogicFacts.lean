/-
What the listeners are told of the packets that come in, when the tasks of
all packets run side by side.

`Tells` is what a notice comes to: one event, with every uid in it as a uin
that the directory or the server has for it. In every order of the tasks'
accesses, and for every order of the registry, a task tells what its notices
come to, in their order, and only a panic cuts that short (`packets_run`).
While the bot has a uid and the packets are such that parsing returns, the
listeners are told of everything (`packets_told`).
-/
import Mathlib.Data.List.Permutation
import Mania.IncomingChainFacts
import Mania.IncomingLogic
import Mania.PushMsgFacts

namespace Mania

open Runs
open Coroutine (Rely Pool tell)

variable {σ α β : Type} {mode : CacheMode} {d : Directory} {reply : (r : IncomingRequest) → σ → r.Reply × σ}
  {w : CacheWorld σ} {x : IncomingContext}

/-! ## What a notice comes to -/

/-- A request as the server lists it. -/
structure FetchGroupRequests.Resolved (reply : (r : IncomingRequest) → σ → r.Reply × σ) (req : FetchGroupRequests)
    (r : BotGroupRequest) : Prop where
  groupUin : r.groupUin = req.groupUin
  sequence : r.sequence = req.sequence
  comment : r.comment = req.comment
  target : StrangerUin reply req.targetMemberUid r.targetMemberUin
  invitor : StrangerUin reply (req.invitorMemberUid.getD "") (r.invitorMemberUin.getD 0)

/-- The requests of both lists. -/
structure ListedRequests (reply : (r : IncomingRequest) → σ → r.Reply × σ) (requests : List FetchGroupRequests) :
    Prop where
  listed : ∃ plain filtered, Possible reply .fetchGroupRequests (.ok plain) ∧
    Possible reply .fetchFilteredGroupRequests (.ok filtered) ∧
    requests = FetchGroupRequestsEvent.parse plain ++ FetchFilteredGroupRequestsEvent.parse filtered

/-- The event tells of a request that the server lists for the group, by
whom the notice names. -/
structure GroupJoinRequestEvent.TellsOf (reply : (r : IncomingRequest) → σ → r.Reply × σ)
    (notice : GroupSysRequestJoinEvent) (event : GroupJoinRequestEvent) : Prop where
  groupUin : event.groupUin = notice.groupUin
  target : Possible reply (.fetchUserInfo notice.targetUid) (.ok event.targetUin)
  request : ∃ requests req, ListedRequests reply requests ∧ req ∈ requests ∧ req.groupUin = notice.groupUin ∧
    StrangerUin reply req.targetMemberUid event.targetUin ∧
    StrangerUin reply (req.invitorMemberUid.getD "") event.invitorUin ∧
    event.requestSeq = req.sequence ∧ event.answer = req.comment.getD ""

/-- Why nothing is told of a join request: the server did not say who it is
of, or did not list the requests, or none of them is this one. -/
inductive GroupSysRequestJoinEvent.Untold (reply : (r : IncomingRequest) → σ → r.Reply × σ)
    (notice : GroupSysRequestJoinEvent) : Prop
  | target (e : ManiaError) (h : Possible reply (.fetchUserInfo notice.targetUid) (.error e))
  | requests (e : ManiaError) (h : Possible reply .fetchGroupRequests (.error e))
  | filteredRequests (e : ManiaError) (h : Possible reply .fetchFilteredGroupRequests (.error e))
  | unlisted (requests : List FetchGroupRequests) (targetUin : UInt32) (hrequests : ListedRequests reply requests)
      (htarget : Possible reply (.fetchUserInfo notice.targetUid) (.ok targetUin))
      (h : ∀ req ∈ requests, req.groupUin = notice.groupUin →
        ∃ uin, StrangerUin reply req.targetMemberUid uin ∧ uin ≠ targetUin)

/-- The event of a chain. -/
def MessageChain.published (chain : MessageChain) (entities : List IncomingEntity) : List Published :=
  match chain.typ with
  | .group _ => [.groupMessage chain entities]
  | .friend _ => [.friendMessage chain entities]
  | .temp => [.tempMessage chain entities]
  | .none => []

/-- An optional uin of a lookup in a group. -/
def FoundMaybe (d : Directory) (uid : Option String) (groupUin : UInt32) (uin : Option UInt32) : Prop :=
  ∃ r, FindsUin d (uid.getD "") (some groupUin) r ∧ uin = r.toOption

/-- What the listeners may be told of an event. -/
inductive Tells (x : IncomingContext) (d : Directory) (reply : (r : IncomingRequest) → σ → r.Reply × σ) :
    LogicEvent → List Published → Prop
  | noChain : Tells x d reply (.pushMessage none) []
  | message {chain chain' : MessageChain} {entities : List IncomingEntity} {events : List Published}
      (hentities : List.Forall₂ (chain.Linked d reply) chain.entities entities) (hchain : chain.Completed x d chain')
      (hevents : events = chain'.published entities) : Tells x d reply (.pushMessage (some chain)) events
  | joinRequest {notice : GroupSysRequestJoinEvent} {event : GroupJoinRequestEvent} (h : event.TellsOf reply notice) :
      Tells x d reply (.notice (.groupSysRequestJoin notice.targetUid notice.groupUin)) [.groupJoinRequest event]
  | joinRequestUntold {notice : GroupSysRequestJoinEvent} (h : notice.Untold reply) :
      Tells x d reply (.notice (.groupSysRequestJoin notice.targetUid notice.groupUin)) []
  | invite {groupUin invitorUin : UInt32} {invitorUid : String} (h : StrangerUin reply invitorUid invitorUin) :
      Tells x d reply (.notice (.groupSysInvite groupUin invitorUid)) [.groupInvitation groupUin invitorUin none]
  | admin {groupUin adminUin : UInt32} {uid : String} {isPromoted : Bool} (h : FoundUin d uid (some groupUin) adminUin) :
      Tells x d reply (.notice (.groupSysAdmin groupUin uid isPromoted)) [.groupAdminChanged groupUin adminUin isPromoted]
  | groupPoke (groupUin operatorUin targetUin : UInt32) (action suffix actionImgUrl : String) :
      Tells x d reply (.notice (.groupSysPoke groupUin operatorUin targetUin action suffix actionImgUrl))
        [.groupPoke groupUin operatorUin targetUin action suffix actionImgUrl]
  | increase {groupUin memberUin : UInt32} {memberUid : String} {invitorUid : Option String} {invitorUin : Option UInt32}
      {eventType : GroupMemberIncreaseEventType} (hmember : StrangerUin reply memberUid memberUin)
      (hinvitor : FoundMaybe d invitorUid groupUin invitorUin) :
      Tells x d reply (.notice (.groupSysIncrease groupUin memberUid invitorUid eventType))
        [.groupMemberIncrease { groupUin, memberUin, invitorUin, eventType }]
  | decrease {groupUin memberUin : UInt32} {memberUid : String} {operatorUid : Option String}
      {operatorUin : Option UInt32} {eventType : GroupMemberDecreaseEventType}
      (hmember : StrangerUin reply memberUid memberUin) (hoperator : FoundMaybe d operatorUid groupUin operatorUin) :
      Tells x d reply (.notice (.groupSysDecrease groupUin memberUid operatorUid eventType))
        [.groupMemberDecrease { groupUin, memberUin, operatorUin, eventType }]
  | mute {groupUin operatorUin : UInt32} {operatorUid : Option String} {isMuted : Bool}
      (h : FoundUin d (operatorUid.getD "") (some groupUin) operatorUin) :
      Tells x d reply (.notice (.groupSysMute groupUin operatorUid isMuted))
        [.groupMute groupUin (some operatorUin) isMuted]
  | memberMute {groupUin targetUin duration : UInt32} {operatorUid : Option String} {targetUid : String}
      {operatorUin : Option UInt32}
      (hoperator : Option.Rel (fun uid => FoundUin d uid (some groupUin)) operatorUid operatorUin)
      (htarget : StrangerUin reply targetUid targetUin) :
      Tells x d reply (.notice (.groupSysMemberMute groupUin operatorUid targetUid duration))
        [.groupMemberMute groupUin targetUin operatorUin duration]
  | nameChange (groupUin : UInt32) (name : String) :
      Tells x d reply (.notice (.groupSysNameChange groupUin name)) [.groupNameChange groupUin name]
  | todo {groupUin operatorUin : UInt32} {operatorUid : String} (h : FoundUin d operatorUid (some groupUin) operatorUin) :
      Tells x d reply (.notice (.groupSysTodo groupUin operatorUid)) [.groupTodo groupUin operatorUin]
  | reaction {targetGroupUin targetSequence operatorUin count : UInt32} {operatorUid code : String} {isAdd : Bool}
      (h : FoundUin d operatorUid (some targetGroupUin) operatorUin) :
      Tells x d reply (.notice (.groupSysReaction targetGroupUin targetSequence operatorUid isAdd code count))
        [.groupReaction targetGroupUin targetSequence operatorUin isAdd code count]
  | groupRecall {groupUin authorUin sequence time random : UInt32} {authorUid tip : String} {operatorUid : Option String}
      {operatorUin : Option UInt32} (hauthor : FoundUin d authorUid (some groupUin) authorUin)
      (hoperator : Option.Rel (fun uid => FoundUin d uid (some groupUin)) operatorUid operatorUin) :
      Tells x d reply (.notice (.groupSysRecall groupUin authorUid operatorUid sequence time random tip))
        [.groupRecall groupUin authorUin (operatorUin.getD 0) sequence time random tip]
  | essence (groupUin sequence random : UInt32) (setFlag : GroupEssenceSetFlag) (fromUin operatorUin : UInt32) :
      Tells x d reply (.notice (.groupSysEssence groupUin sequence random setFlag fromUin operatorUin))
        [.groupEssence groupUin sequence random setFlag fromUin operatorUin]
  | specialTitle (targetUin groupUin : UInt32) (targetNickname specialTitle specialTitleDetailUrl : String) :
      Tells x d reply
        (.notice (.groupSysSpecialTitle targetUin targetNickname specialTitle specialTitleDetailUrl groupUin))
        [.groupSpecialTitle targetUin targetNickname specialTitle specialTitleDetailUrl groupUin]
  | memberEnter (groupUin groupMemberUin styleId : UInt32) :
      Tells x d reply (.notice (.groupSysMemberEnter groupUin groupMemberUin styleId))
        [.groupMemberEnter groupUin groupMemberUin styleId]
  | requestInvitation {groupUin targetUin invitorUin : UInt32} {targetUid invitorUid : String}
      (htarget : StrangerUin reply targetUid targetUin) (hinvitor : FoundUin d invitorUid (some groupUin) invitorUin) :
      Tells x d reply (.notice (.groupSysRequestInvitation groupUin targetUid invitorUid))
        [.groupInvitationRequest groupUin targetUin invitorUin]
  | friendRecall {fromUid tip : String} {friendUin clientSequence time random : UInt32}
      (h : FoundUin d fromUid none friendUin) :
      Tells x d reply (.notice (.friendSysRecall fromUid clientSequence time random tip))
        [.friendRecall friendUin clientSequence time random tip]
  | pinChange {uid : String} {groupUin : Option UInt32} {uin : UInt32} {isPin : Bool} (h : FoundUin d uid groupUin uin) :
      Tells x d reply (.notice (.groupSysPinChange uid groupUin isPin))
        [.groupPinChanged (if groupUin.isSome then .group else .friend) uin isPin]
  | friendPoke (operatorUin targetUin : UInt32) (action suffix actionImgUrl : String) :
      Tells x d reply (.notice (.friendSysPoke operatorUin targetUin action suffix actionImgUrl))
        [.friendPoke operatorUin targetUin action suffix actionImgUrl]
  | friendNew {fromUid fromNickname msg : String} {fromUin : UInt32} (h : FoundUin d fromUid none fromUin) :
      Tells x d reply (.notice (.friendSysNew fromUid fromNickname msg)) [.friendNew fromUin fromNickname msg]
  | friendRename {uid nickname : String} {uin : UInt32} (h : FoundUin d uid none uin) :
      Tells x d reply (.notice (.friendSysRename uid nickname)) [.friendRename uin nickname]
  | friendRequest {sourceUid message source : String} {sourceUin uin : UInt32} (h : FoundUin d sourceUid none uin) :
      Tells x d reply (.notice (.friendSysRequest sourceUin sourceUid message source)) [.friendRequest uin message source]
  | botRename (nickname : String) : Tells x d reply (.notice (.botSysRename nickname)) [.botRename nickname]
  | kickNT (tips title : String) : Tells x d reply (.kickNT tips title) [.botOffline (some (title ++ ": " ++ tips))]

/-- What the listeners may be told of events in a row. -/
def TellsAll (x : IncomingContext) (d : Directory) (reply : (r : IncomingRequest) → σ → r.Reply × σ)
    (events : List LogicEvent) (told : List Published) : Prop :=
  ∃ parts, List.Forall₂ (Tells x d reply) events parts ∧ told = parts.flatten

/-- Of the first ones of them. -/
def TellsFirst (x : IncomingContext) (d : Directory) (reply : (r : IncomingRequest) → σ → r.Reply × σ)
    (events : List LogicEvent) (told : List Published) : Prop :=
  ∃ first, first <+: events ∧ TellsAll x d reply first told

theorem TellsAll.nil : TellsAll x d reply [] [] := ⟨[], .nil, rfl⟩

theorem TellsAll.snoc {events : List LogicEvent} {told told' : List Published} {event : LogicEvent}
    (h : TellsAll x d reply events told) (h' : Tells x d reply event told') :
    TellsAll x d reply (events ++ [event]) (told ++ told') := by
  obtain ⟨parts, hparts, rfl⟩ := h
  exact ⟨parts ++ [told'], List.rel_append hparts (.cons h' .nil), by simp⟩

/-! ## Handlers -/

/-- From a good cache, and having told `events`, the routine tells what `T`
allows, all of it at its end, and leaves a good cache. -/
def TellsOnly (mode : CacheMode) (d : Directory) (reply : (r : IncomingRequest) → σ → r.Reply × σ)
    (T : List Published → Prop) (t : IncomingRoutine Published α) : Prop :=
  ∀ (w : CacheWorld σ) (events : List Published) (panics : Prop) (during : List Published → Prop), w.Good mode d →
    (Possible reply .selfUid none → panics) → during events → (∀ told, T told → during (events ++ told)) →
    (rely mode d reply).Meets panics during (fun _ events' w => (∃ told, T told ∧ events' = events ++ told) ∧ w.Good mode d)
      t events w

namespace TellsOnly

variable {T : List Published → Prop} {P : α → Prop}

theorem of_seeks {t : IncomingRoutine Published α} (h : Seeks mode d reply P t)
    {f : α → IncomingRoutine Published β} (hf : ∀ a, P a → TellsOnly mode d reply T (f a)) :
    TellsOnly mode d reply T (t >>= f) := fun _ _ _ _ hw hpanics hduring hT =>
  h.meets_bind hw hpanics hduring fun a _ ha hw => hf a ha _ _ _ _ hw hpanics hduring hT

theorem tell {event : Published} (h : T [event]) : TellsOnly mode d reply T (Coroutine.tell event) :=
  fun _ _ _ _ hw _ hduring hT =>
    ⟨hduring, hT _ h, fun _ hw' => ⟨⟨_, h, rfl⟩, CacheWorld.Good.stable hw' hw⟩⟩

theorem silent {a : α} (h : T []) : TellsOnly mode d reply T (pure a) := fun _ events _ _ hw _ hduring _ =>
  ⟨hduring, fun _ hw' => ⟨⟨[], h, (List.append_nil events).symm⟩, CacheWorld.Good.stable hw' hw⟩⟩

/-- Followed by what tells nothing. -/
theorem bind_seeks {t : IncomingRoutine Published α} (h : TellsOnly mode d reply T t)
    {f : α → IncomingRoutine Published β} {Q : β → Prop} (hf : ∀ a, Seeks mode d reply Q (f a)) :
    TellsOnly mode d reply T (t >>= f) := fun w events panics during hw hpanics hduring hT =>
  (h w events panics during hw hpanics hduring hT).bind fun a events' w' h' => by
    obtain ⟨⟨told, htold, rfl⟩, hw'⟩ := h'
    have hfinds := ((hf a w' hw').weaken hpanics).carry (fun _ _ => CacheWorld.Good.stable) hw'
    refine (hfinds during _ (hT told htold)).mono id (fun _ h => h) fun b events'' w'' h'' => ?_
    exact ⟨⟨told, htold, h''.1⟩, h''.2.2⟩

end TellsOnly

namespace IncomingRoutine

theorem resolveRequest_seeks (req : FetchGroupRequests) :
    Seeks mode d reply (req.Resolved reply) (resolveRequest req : IncomingRoutine Published BotGroupRequest) :=
  (request_seeks (.fetchUserInfo (req.invitorMemberUid.getD ""))).bind fun invitor hinvitor =>
    (resolveStrangerUid2uinFast_seeks req.targetMemberUid).bind fun _ htarget =>
      (request_seeks (.fetchUserInfo (req.operatorUid.getD ""))).bind fun _ _ =>
        .pure ⟨rfl, rfl, rfl, htarget, invitor, hinvitor, rfl⟩

/-- The requests of both lists are resolved, or one of the lists is not
there. -/
theorem fetchGroupRequests_seeks :
    Seeks mode d reply
      (fun r => match r with
        | .ok requests => ∃ listed, ListedRequests reply listed ∧
            List.Forall₂ (FetchGroupRequests.Resolved reply) listed requests
        | .error e => Possible reply .fetchGroupRequests (.error e) ∨
            Possible reply .fetchFilteredGroupRequests (.error e))
      (fetchGroupRequests : IncomingRoutine Published (Except ManiaError (List BotGroupRequest))) :=
  (request_seeks .fetchGroupRequests).bind fun plain hplain => by
    cases plain with
    | error e => exact .pure (.inl hplain)
    | ok plain =>
      refine (request_seeks .fetchFilteredGroupRequests).bind fun filtered hfiltered => ?_
      cases filtered with
      | error e => exact .pure (.inr hfiltered)
      | ok filtered =>
        refine (Seeks.mapM resolveRequest_seeks _).bind fun requests hrequests => .pure ?_
        exact ⟨_, ⟨plain, filtered, hplain, hfiltered, rfl⟩, hrequests⟩

theorem groupSysRequestJoin_tells (notice : GroupSysRequestJoinEvent) :
    TellsOnly mode d reply
      (Tells x d reply (.notice (.groupSysRequestJoin notice.targetUid notice.groupUin))) (groupSysRequestJoin notice) :=
  .of_seeks (request_seeks (.fetchUserInfo notice.targetUid)) fun target htarget => by
    cases target with
    | error e => exact .silent (.joinRequestUntold (.target e htarget))
    | ok targetUin =>
      refine .of_seeks fetchGroupRequests_seeks fun r hr => ?_
      cases r with
      | error e =>
        refine .silent (.joinRequestUntold ?_)
        rcases hr with hplain | hfiltered
        · exact .requests e hplain
        · exact .filteredRequests e hfiltered
      | ok requests =>
        obtain ⟨listed, hlisted, hresolved⟩ := hr
        simp only
        cases hfind : notice.find targetUin requests with
        | none =>
          refine .silent (.joinRequestUntold (.unlisted listed targetUin hlisted htarget fun req hreq hgroup => ?_))
          obtain ⟨i, hi, rfl⟩ := List.mem_iff_getElem.mp hreq
          have hi' : i < requests.length := hresolved.length_eq ▸ hi
          have hone := hresolved.get hi hi'
          have hother := List.find?_eq_none.mp hfind _ (List.getElem_mem hi')
          refine ⟨_, hone.target, fun huin => hother ?_⟩
          simpa using ⟨hone.groupUin.trans hgroup, huin⟩
        | some r =>
          have hmem := List.mem_of_find?_eq_some hfind
          have hmatch := List.find?_some hfind
          simp only [decide_eq_true_eq] at hmatch
          obtain ⟨i, hi, rfl⟩ := List.mem_iff_getElem.mp hmem
          have hi' : i < listed.length := hresolved.length_eq ▸ hi
          have hone := hresolved.get hi' hi
          simp only [List.get_eq_getElem] at hone
          refine .tell (.joinRequest ⟨rfl, htarget, listed, listed[i], hlisted, List.getElem_mem hi', ?_, ?_, ?_, ?_, ?_⟩)
          · exact hone.groupUin.symm.trans hmatch.1
          · exact hmatch.2 ▸ hone.target
          · exact hone.invitor
          · exact hone.sequence
          · exact congrArg (·.getD "") hone.comment

theorem uid2uinLogged_seeks (hserver : x.server = d.toServer) (uid : Option String) (groupUin : UInt32) :
    Seeks x.mode d reply (FoundMaybe d uid groupUin)
      (uid2uinLogged x uid groupUin : IncomingRoutine Published (Option UInt32)) := by
  unfold uid2uinLogged
  rw [hserver]
  have hfinds : Seeks x.mode d reply (FindsUin d (uid.getD "") (some groupUin))
    (Routine.uid2uin x.mode d.toServer (uid.getD "") (some groupUin) :
      CacheRoutine IncomingRequest.Reply Published UInt32).run := .of_finds fun w hw => Routine.uid2uin_finds hw _ _
  exact hfinds.bind fun r hr => .pure ⟨r, hr, rfl⟩

theorem messagingLogicChain_tells (hserver : x.server = d.toServer) (chain : MessageChain) :
    TellsOnly x.mode d reply (Tells x d reply (.pushMessage (some chain))) (messagingLogicChain x chain) := by
  refine .of_seeks (resolveIncomingChain_seeks hserver chain) fun entities hentities => ?_
  refine .of_seeks (resolveChainMetadata_seeks hserver chain) fun chain' hchain => ?_
  have htells {events : List Published} (h : events = chain'.published entities) :
      Tells x d reply (.pushMessage (some chain)) events := .message hentities hchain h
  unfold MessageChain.published at htells
  split
  · next grp htyp => exact .tell (htells (by rw [htyp]))
  · next friendElem htyp => exact .tell (htells (by rw [htyp]))
  · next htyp => exact .tell (htells (by rw [htyp]))
  · next htyp => exact .silent (htells (by rw [htyp]))

theorem messagingLogicNotice_tells (hserver : x.server = d.toServer) (event : ServerEvent) :
    TellsOnly x.mode d reply (Tells x d reply (.notice event)) (messagingLogicNotice x event) := by
  have huin (uid : String) (groupUin : Option UInt32) :
      Seeks x.mode d reply (FoundUin d uid groupUin) (uid2uinFast x uid groupUin : IncomingRoutine Published UInt32) :=
    uid2uinFast_seeks hserver uid groupUin
  cases event with
  | groupSysRequestJoin targetUid groupUin => exact groupSysRequestJoin_tells { targetUid, groupUin }
  | groupSysInvite groupUin invitorUid =>
    exact .of_seeks (resolveStrangerUid2uinFast_seeks invitorUid) fun _ h => .tell (.invite h)
  | groupSysAdmin groupUin uid isPromoted => exact .of_seeks (huin uid groupUin) fun _ h => .tell (.admin h)
  | groupSysPoke => exact .tell (.groupPoke ..)
  | groupSysIncrease groupUin memberUid invitorUid eventType =>
    refine .of_seeks (resolveStrangerUid2uinFast_seeks memberUid) fun _ hmember => ?_
    exact .of_seeks (uid2uinLogged_seeks hserver invitorUid groupUin) fun _ h => .tell (.increase hmember h)
  | groupSysDecrease groupUin memberUid operatorUid eventType =>
    refine .of_seeks (resolveStrangerUid2uinFast_seeks memberUid) fun _ hmember => ?_
    exact .of_seeks (uid2uinLogged_seeks hserver operatorUid groupUin) fun _ h => .tell (.decrease hmember h)
  | groupSysMute groupUin operatorUid isMuted =>
    exact .of_seeks (huin (operatorUid.getD "") groupUin) fun _ h => .tell (.mute h)
  | groupSysMemberMute groupUin operatorUid targetUid duration =>
    refine .of_seeks (Seeks.option (fun uid => huin uid groupUin) operatorUid) fun _ hoperator => ?_
    exact .of_seeks (resolveStrangerUid2uinFast_seeks targetUid) fun _ h => .tell (.memberMute hoperator h)
  | groupSysNameChange => exact .tell (.nameChange ..)
  | groupSysTodo groupUin operatorUid => exact .of_seeks (huin operatorUid groupUin) fun _ h => .tell (.todo h)
  | groupSysReaction targetGroupUin targetSequence operatorUid isAdd code count =>
    exact .of_seeks (huin operatorUid targetGroupUin) fun _ h => .tell (.reaction h)
  | groupSysRecall groupUin authorUid operatorUid sequence time random tip =>
    refine .of_seeks (huin authorUid groupUin) fun _ hauthor => ?_
    exact .of_seeks (Seeks.option (fun uid => huin uid groupUin) operatorUid) fun _ h => .tell (.groupRecall hauthor h)
  | groupSysEssence => exact .tell (.essence ..)
  | groupSysSpecialTitle => exact .tell (.specialTitle ..)
  | groupSysMemberEnter => exact .tell (.memberEnter ..)
  | groupSysRequestInvitation groupUin targetUid invitorUid =>
    refine .of_seeks (resolveStrangerUid2uinFast_seeks targetUid) fun _ htarget => ?_
    exact .of_seeks (huin invitorUid groupUin) fun _ h => .tell (.requestInvitation htarget h)
  | friendSysRecall fromUid => exact .of_seeks (huin fromUid none) fun _ h => .tell (.friendRecall h)
  | groupSysPinChange uid groupUin isPin => exact .of_seeks (huin uid groupUin) fun _ h => .tell (.pinChange h)
  | friendSysPoke => exact .tell (.friendPoke ..)
  | friendSysNew fromUid => exact .of_seeks (huin fromUid none) fun _ h => .tell (.friendNew h)
  | friendSysRename uid => exact .of_seeks (huin uid none) fun _ h => .tell (.friendRename h)
  | friendSysRequest sourceUin sourceUid => exact .of_seeks (huin sourceUid none) fun _ h => .tell (.friendRequest h)
  | botSysRename nickname => exact .tell (.botRename nickname)

/-- It leaves the event as it is. -/
theorem cachingLogic_seeks (hserver : x.server = d.toServer) (event : LogicEvent) :
    Seeks x.mode d reply (· = event) (cachingLogic x event : IncomingRoutine Published LogicEvent) := by
  have hrefresh (groupUin : UInt32) : Seeks x.mode d reply (fun _ => True)
      (refreshGroupMembersCacheLogged x groupUin : IncomingRoutine Published Unit) := .of_finds fun w hw => by
    unfold refreshGroupMembersCacheLogged
    rw [hserver]
    exact Rely.Finds.bind (Routine.refreshGroupMembersCache_gives hw groupUin) fun _ _ _ => .done fun _ _ => trivial
  unfold cachingLogic
  split
  · next groupUin memberUid invitorUid eventType => exact (hrefresh groupUin).bind fun _ _ => .pure rfl
  · next groupUin memberUid operatorUid eventType =>
    refine expectSelfUid_seeks.bind fun selfUid _ => Seeks.bind (P := fun _ => True) ?_ fun _ _ => .pure rfl
    split
    · exact hrefresh groupUin
    · exact .pure trivial
  · exact .pure rfl

/-! ## Dispatch -/

/-- The handler that tells of an event. -/
def teller : LogicEvent → Logic
  | .pushMessage _ | .notice _ => .messaging
  | .kickNT .. => .wt

theorem teller_tells (hserver : x.server = d.toServer) (event : LogicEvent) :
    TellsOnly x.mode d reply (Tells x d reply event) ((teller event).handle x event) := by
  cases event with
  | pushMessage chain =>
    cases chain with
    | none => exact .silent .noChain
    | some chain => exact (messagingLogicChain_tells hserver chain).bind_seeks (Q := fun _ => True) fun _ => .pure trivial
  | notice event =>
    exact (messagingLogicNotice_tells hserver event).bind_seeks (Q := fun _ => True) fun _ => .pure trivial
  | kickNT tips title =>
    have htell : TellsOnly x.mode d reply (Tells x d reply (.kickNT tips title)) (tell _) := .tell (.kickNT tips title)
    exact htell.bind_seeks (Q := fun _ => True) fun _ => .pure trivial

/-- The handlers that an event has: the one that tells, and for a member who
joins or leaves the one of the cache, before or after it. -/
theorem handlers_cases {registry : List Logic} (hregistry : registry.Perm Logic.all) (event : LogicEvent) :
    registry.filter (·.handles event) = [teller event] ∨
      registry.filter (·.handles event) = [.caching, teller event] ∨
      registry.filter (·.handles event) = [teller event, .caching] := by
  have hperm := hregistry.filter (·.handles event)
  have hall : Logic.all.filter (·.handles event) = [teller event] ∨
      Logic.all.filter (·.handles event) = [.caching, teller event] := by
    cases event with
    | notice event => cases event <;> simp [Logic.all, Logic.handles, teller]
    | _ => simp [Logic.all, Logic.handles, teller]
  rcases hall with hone | htwo
  · exact .inl (List.perm_singleton.mp (hone ▸ hperm))
  · exact .inr (List.perm_pair.mp (htwo ▸ hperm))

theorem dispatchLogic_tells (hserver : x.server = d.toServer) {registry : List Logic}
    (hregistry : registry.Perm Logic.all) (event : LogicEvent) :
    TellsOnly x.mode d reply (Tells x d reply event) (dispatchLogic x registry event) := by
  have htells : TellsOnly x.mode d reply (Tells x d reply event) ((teller event).handle x event) :=
    teller_tells hserver event
  unfold dispatchLogic
  rcases handlers_cases hregistry event with h | h | h
  · rw [h]
    exact htells.bind_seeks (Q := fun _ => True) fun _ => .pure trivial
  · rw [h]
    refine .of_seeks (cachingLogic_seeks hserver event) fun event' hevent => ?_
    subst hevent
    exact htells.bind_seeks (Q := fun _ => True) fun _ => .pure trivial
  · rw [h]
    refine htells.bind_seeks (Q := fun _ => True) fun event' => ?_
    exact (cachingLogic_seeks hserver event').bind fun _ _ => .pure trivial

/-- The events that are left, after those of `done`. -/
theorem dispatchAll_meets (hserver : x.server = d.toServer) {registry : List Logic}
    (hregistry : registry.Perm Logic.all) (rest : List LogicEvent) (done : List LogicEvent) (told : List Published)
    {panics : Prop} (hw : w.Good x.mode d) (hpanics : Possible reply .selfUid none → panics)
    (htold : TellsAll x d reply done told) :
    (rely x.mode d reply).Meets panics (TellsFirst x d reply (done ++ rest))
      (fun _ told' _ => TellsAll x d reply (done ++ rest) told') (rest.mapM (dispatchLogic x registry)) told w := by
  induction rest generalizing done told w with
  | nil =>
    rw [List.append_nil]
    exact ⟨⟨done, List.prefix_rfl, htold⟩, fun _ _ => htold⟩
  | cons event rest ih =>
    have hsplit : done ++ event :: rest = (done ++ [event]) ++ rest := by simp
    rw [List.mapM_cons, hsplit]
    have hfirst : TellsFirst x d reply ((done ++ [event]) ++ rest) told :=
      ⟨done, (List.prefix_append done [event]).trans (List.prefix_append _ rest), htold⟩
    refine (dispatchLogic_tells hserver hregistry event w told _ _ hw hpanics hfirst fun told' htold' =>
      ⟨done ++ [event], List.prefix_append _ rest, htold.snoc htold'⟩).bind fun event' told' w' h' => ?_
    obtain ⟨⟨new, hnew, rfl⟩, hw'⟩ := h'
    refine (ih (done ++ [event]) (told ++ new) hw' (htold.snoc hnew)).bind fun events' told'' w'' h'' => ?_
    exact ⟨⟨_, List.prefix_rfl, h''⟩, fun _ _ => h''⟩

end IncomingRoutine

/-! ## Packets -/

/-- The events a packet stands for: none if it cannot be parsed. -/
def IncomingPacket.events (decoders : Decoders) (strategy : FetchGroupMemberStrategy) (packet : IncomingPacket) :
    List LogicEvent :=
  match packet.resolveEvent decoders strategy with
  | .ok events => events
  | .err _ | .panic => []

/-- When its task can panic: the bot may have no uid, or the packet cannot
even be parsed. -/
def IncomingPacket.Panics (decoders : Decoders) (strategy : FetchGroupMemberStrategy)
    (reply : (r : IncomingRequest) → σ → r.Reply × σ) (packet : IncomingPacket) : Prop :=
  Possible reply .selfUid none ∨ packet.resolveEvent decoders strategy = .panic

namespace IncomingRoutine

theorem dispatchSsoPacket_meets (hserver : x.server = d.toServer) {registry : List Logic}
    (hregistry : registry.Perm Logic.all) (decoders : Decoders) (packet : IncomingPacket) (hw : w.Good x.mode d) :
    (rely x.mode d reply).Meets (packet.Panics decoders x.strategy reply)
      (TellsFirst x d reply (packet.events decoders x.strategy))
      (fun _ told _ => TellsAll x d reply (packet.events decoders x.strategy) told)
      (dispatchSsoPacket decoders x registry packet) [] w := by
  unfold dispatchSsoPacket IncomingPacket.events
  cases hresolve : packet.resolveEvent decoders x.strategy with
  | ok events =>
    refine (dispatchAll_meets hserver hregistry events [] [] hw .inl .nil).bind fun events' told w' h => ?_
    exact ⟨⟨events, List.prefix_rfl, h⟩, fun _ _ => h⟩
  | err e => exact ⟨⟨[], List.prefix_rfl, .nil⟩, fun _ _ => .nil⟩
  | panic => exact ⟨⟨[], List.prefix_rfl, .nil⟩, .inr hresolve⟩

end IncomingRoutine

section
variable {decoders : Decoders} {registry : List Logic} {outside : σ} {acts : List (Coroutine.PoolAction IncomingPacket)}
  {p : IncomingPool σ}

theorem packets_keeps (hserver : x.server = d.toServer) (hregistry : registry.Perm Logic.all)
    (h : run (IncomingPool.step decoders x registry reply) (.new x.mode outside) acts = some p) :
    Pool.Keeps (rely x.mode d reply) (IncomingPacket.Panics decoders x.strategy reply)
      (fun packet => TellsFirst x d reply (packet.events decoders x.strategy))
      (fun packet _ told _ => TellsAll x d reply (packet.events decoders x.strategy) told)
      { cache := Cache.new x.mode, outside } (Pool.spawned acts) p :=
  Pool.meets_run (fun packet _ hw => IncomingRoutine.dispatchSsoPacket_meets hserver hregistry decoders packet
    (hw (CacheWorld.good_new x.mode d outside)).1) h

end

/-- Main result. **In every order of the tasks' accesses, and of the
registry, the listeners are told what the packets' notices come to**: each
task tells of its notices in their order, of each at most once, with uins the
directory or the server has, and once it is done it has told of all. -/
theorem packets_run (d : Directory) (x : IncomingContext) (hserver : x.server = d.toServer) (decoders : Decoders)
    (registry : List Logic) (hregistry : registry.Perm Logic.all) (reply : (r : IncomingRequest) → σ → r.Reply × σ)
    (outside : σ) (acts : List (Coroutine.PoolAction IncomingPacket))
    (p : IncomingPool σ)
    (h : run (IncomingPool.step decoders x registry reply) (.new x.mode outside) acts = some p) :
    p.shared.Good x.mode d ∧ (∀ e ∈ p.told, e.1 < (Pool.spawned acts).length) ∧
    ∀ (i : ℕ) (packet : IncomingPacket), (Pool.spawned acts)[i]? = some packet →
      TellsFirst x d reply (packet.events decoders x.strategy) (p.toldBy i) ∧
      (p.routines[i]? = some .panicked → packet.Panics decoders x.strategy reply) ∧
      ∀ r, p.routines[i]? = some (.done r) → TellsAll x d reply (packet.events decoders x.strategy) (p.toldBy i) := by
  have hkeeps := packets_keeps hserver hregistry h
  refine ⟨(hkeeps.rel (CacheWorld.good_new x.mode d outside)).1, hkeeps.length ▸ hkeeps.told_lt, ?_⟩
  intro i packet hpacket
  have hi : i < p.routines.length := hkeeps.length ▸ (List.getElem?_eq_some_iff.mp hpacket).1
  have hmeets := hkeeps.meets i packet _ hpacket (List.getElem?_eq_getElem hi)
  refine ⟨hmeets.sofar, fun hpanicked => ?_, fun r hr => ?_⟩
  · exact (hkeeps.meets i packet _ hpacket hpanicked).2
  · exact (hkeeps.meets i packet _ hpacket hr).2 p.shared ((rely x.mode d reply).refl _)

/-- Of a member of group 700 who is promoted. -/
def promotion : GroupAdmin where
  groupUin := 700
  body := some { extraDisable := none, extraEnable := some { adminUid := "u_member" } }

def promotionContent : Bytes :=
  [0x08, 0xbc, 0x05, 0x22, 0x0c, 0x12, 0x0a, 0x0a, 0x08, 0x75, 0x5f, 0x6d, 0x65, 0x6d, 0x62, 0x65, 0x72]

def promotionDecoders : Decoders :=
  { PushMsg.refusing with groupAdmin := fun bs => if bs = promotionContent then .ok promotion else .error ⟨""⟩ }

def promotionPush : IncomingPacket :=
  .push (PushMsg.pushOf 44 none { richText := none, msgContent := some promotionContent })

/-- A server that answers page requests only. -/
def pagesOnly : (r : IncomingRequest) → Unit → r.Reply × Unit
  | .selfUid, _ => (some "u_self", ())
  | .fetchUserInfo _, _ | .fetchGroupRequests, _ | .fetchFilteredGroupRequests, _ | .download _, _
  | .multiMsgDownload _ _, _ => (.error .internalEventDowncastError, ())

def halfContext : IncomingContext where
  mode := .half
  server := friendAndGroup
  strategy := .simple
  selfUin := 10000

/-- The bot is kicked while the member is looked up. -/
def promotionActs : List (Coroutine.PoolAction IncomingPacket) :=
  [.spawn promotionPush, .turn 0, .spawn (.kickNT "signed in elsewhere" "offline"), .turn 0, .turn 1, .turn 0, .turn 0,
    .turn 0, .turn 0]

def promotionStep : IncomingPool Unit → Coroutine.PoolAction IncomingPacket → Option (IncomingPool Unit) :=
  IncomingPool.step promotionDecoders halfContext [.wt, .messaging, .caching] pagesOnly

theorem packets_run_promotion :
    ∃ p, run promotionStep (.new .half ()) promotionActs = some p ∧
    p.toldBy 0 = [.groupAdminChanged 700 20002 true] ∧
    TellsFirst halfContext friendAndGroupDirectory pagesOnly
      (promotionPush.events promotionDecoders .simple) [.groupAdminChanged 700 20002 true] := by
  refine ⟨_, rfl, rfl, ?_⟩
  have hrun := packets_run friendAndGroupDirectory halfContext rfl promotionDecoders [.wt, .messaging, .caching]
    (by decide) pagesOnly () promotionActs _ rfl
  exact (hrun.2.2 0 promotionPush rfl).1

end Mania
