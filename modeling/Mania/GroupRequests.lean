/-
The requests to join a group: `parse` of `event/system/fetch_group_requests.rs`
and `fetch_filtered_group_request.rs`, `fetch_group_requests` of
`core/operation/common_op.rs`, and the branch of `messaging_logic_incoming`
for a `GroupSysRequestJoinEvent`.

The parsers take the user out of a request for its uid and then take it again
for its name, which by then is gone. So the cards and names arrive exactly
where the server gave none (`requestsListed_iff`).
-/
import Mania.Error

namespace Mania

/-! ## The response -/

structure OidbSvcTrpcTcp0x10C0ResponseGroup where
  groupUin : UInt32
  deriving DecidableEq

structure OidbSvcTrpcTcp0x10C0ResponseUser where
  uid : String
  name : String
  deriving DecidableEq

structure OidbSvcTrpcTcp0x10C0ResponseRequests where
  sequence : UInt64
  eventType : UInt32
  state : UInt32
  group : Option OidbSvcTrpcTcp0x10C0ResponseGroup
  target : Option OidbSvcTrpcTcp0x10C0ResponseUser
  invitor : Option OidbSvcTrpcTcp0x10C0ResponseUser
  operator : Option OidbSvcTrpcTcp0x10C0ResponseUser
  comment : String
  deriving DecidableEq

structure OidbSvcTrpcTcp0x10C0Response where
  requests : List OidbSvcTrpcTcp0x10C0ResponseRequests
  deriving DecidableEq

/-- `entity/fetch_group_requests.rs`. -/
structure FetchGroupRequests where
  groupUin : UInt32
  invitorMemberUid : Option String
  invitorMemberCard : Option String
  targetMemberUid : String
  targetMemberCard : String
  operatorUid : Option String
  operatorName : Option String
  sequence : UInt64
  state : UInt32
  eventType : UInt32
  comment : Option String
  isFiltered : Bool
  deriving DecidableEq

namespace OidbSvcTrpcTcp0x10C0ResponseRequests

variable (req : OidbSvcTrpcTcp0x10C0ResponseRequests)

/-! `Option::take` on a field: what was there, and the request without it. -/

def takeGroup : Option OidbSvcTrpcTcp0x10C0ResponseGroup × OidbSvcTrpcTcp0x10C0ResponseRequests :=
  (req.group, { req with group := none })

def takeInvitor : Option OidbSvcTrpcTcp0x10C0ResponseUser × OidbSvcTrpcTcp0x10C0ResponseRequests :=
  (req.invitor, { req with invitor := none })

def takeTarget : Option OidbSvcTrpcTcp0x10C0ResponseUser × OidbSvcTrpcTcp0x10C0ResponseRequests :=
  (req.target, { req with target := none })

def takeOperator : Option OidbSvcTrpcTcp0x10C0ResponseUser × OidbSvcTrpcTcp0x10C0ResponseRequests :=
  (req.operator, { req with operator := none })

/-- The closure both parsers map over the requests. -/
def parse (isFiltered : Bool) : FetchGroupRequests :=
  let (group, req) := req.takeGroup
  let (invitorForUid, req) := req.takeInvitor
  let (invitorForCard, req) := req.takeInvitor
  let (targetForUid, req) := req.takeTarget
  let (targetForCard, req) := req.takeTarget
  let (operatorForUid, req) := req.takeOperator
  let (operatorForName, req) := req.takeOperator
  { groupUin := (group.map (·.groupUin)).getD 0
    invitorMemberUid := invitorForUid.map (·.uid)
    invitorMemberCard := invitorForCard.map (·.name)
    targetMemberUid := (targetForUid.map (·.uid)).getD ""
    targetMemberCard := (targetForCard.map (·.name)).getD ""
    operatorUid := operatorForUid.map (·.uid)
    operatorName := operatorForName.map (·.name)
    sequence := req.sequence
    state := req.state
    eventType := req.eventType
    comment := some req.comment
    isFiltered }

/-- There is no card or name to tell. -/
structure Bare : Prop where
  invitor : req.invitor = none
  target : (req.target.map (·.name)).getD "" = ""
  operator : req.operator = none

end OidbSvcTrpcTcp0x10C0ResponseRequests

def FetchGroupRequestsEvent.parse (response : OidbSvcTrpcTcp0x10C0Response) : List FetchGroupRequests :=
  response.requests.map fun req => req.parse false

def FetchFilteredGroupRequestsEvent.parse (response : OidbSvcTrpcTcp0x10C0Response) : List FetchGroupRequests :=
  response.requests.map fun req => req.parse true

/-! ## `fetch_group_requests` -/

structure BotGroupRequest where
  groupUin : UInt32
  invitorMemberUin : Option UInt32
  invitorMemberCard : Option String
  targetMemberUin : UInt32
  targetMemberCard : String
  operatorUin : Option UInt32
  operatorName : Option String
  sequence : UInt64
  state : UInt32
  eventType : UInt32
  comment : Option String
  isFiltered : Bool
  deriving DecidableEq

/-- What a uid is resolved for: the event itself, or one of the three of the
request at a position. -/
inductive StrangerLookup where
  | event
  | invitor (i : ℕ)
  | target (i : ℕ)
  | operator (i : ℕ)

/-- What the server answers while the event is handled. The lookups are on
their way together, and each has an answer of its own. -/
structure RequestsServer where
  requests : Except ManiaError OidbSvcTrpcTcp0x10C0Response
  filteredRequests : Except ManiaError OidbSvcTrpcTcp0x10C0Response
  resolveStrangerUid2uin : StrangerLookup → String → Except ManiaError UInt32

namespace RequestsServer

variable (server : RequestsServer)

/-- Zero for a uid that is not resolved. -/
def resolveStrangerUid2uinFast (lookup : StrangerLookup) (strangerUid : String) : UInt32 :=
  match server.resolveStrangerUid2uin lookup strangerUid with
  | .ok uin => uin
  | .error _ => 0

def resolveRequest (i : ℕ) (req : FetchGroupRequests) : BotGroupRequest where
  groupUin := req.groupUin
  invitorMemberUin := (server.resolveStrangerUid2uin (.invitor i) (req.invitorMemberUid.getD "")).toOption
  invitorMemberCard := req.invitorMemberCard
  targetMemberUin := server.resolveStrangerUid2uinFast (.target i) req.targetMemberUid
  targetMemberCard := req.targetMemberCard
  operatorUin := (server.resolveStrangerUid2uin (.operator i) (req.operatorUid.getD "")).toOption
  operatorName := req.operatorName
  sequence := req.sequence
  state := req.state
  eventType := req.eventType
  comment := req.comment
  isFiltered := req.isFiltered

def fetchGroupRequests : Except ManiaError (List BotGroupRequest) := do
  let fetchEvent ← server.requests
  let fetchFilterEvent ← server.filteredRequests
  let allRequests := FetchGroupRequestsEvent.parse fetchEvent ++ FetchFilteredGroupRequestsEvent.parse fetchFilterEvent
  pure (allRequests.mapIdx server.resolveRequest)

end RequestsServer

/-! ## The event -/

structure GroupSysRequestJoinEvent where
  targetUid : String
  groupUin : UInt32

structure GroupJoinRequestEvent where
  groupUin : UInt32
  targetUin : UInt32
  targetNickname : String
  invitorUin : UInt32
  answer : String
  requestSeq : UInt64
  deriving DecidableEq

/-- `requests.iter().find(..)`. -/
def GroupSysRequestJoinEvent.find (req : GroupSysRequestJoinEvent) (targetUin : UInt32)
    (requests : List BotGroupRequest) : Option BotGroupRequest :=
  requests.find? fun r => r.groupUin = req.groupUin ∧ r.targetMemberUin = targetUin

/-- What is sent to the listeners. A failure, or a request that is not in
the list, is logged. -/
def RequestsServer.groupSysRequestJoin (server : RequestsServer) (req : GroupSysRequestJoinEvent) :
    Option GroupJoinRequestEvent :=
  match server.resolveStrangerUid2uin .event req.targetUid with
  | .error _ => none
  | .ok targetUin =>
    match server.fetchGroupRequests with
    | .error _ => none
    | .ok requests =>
      (req.find targetUin requests).map fun r =>
        { groupUin := req.groupUin
          targetUin
          targetNickname := r.targetMemberCard
          invitorUin := r.invitorMemberUin.getD 0
          answer := r.comment.getD ""
          requestSeq := r.sequence }

/-! ## What the server gave -/

/-- The request is told as the server gave it. -/
structure BotGroupRequest.Lists (req : OidbSvcTrpcTcp0x10C0ResponseRequests) (r : BotGroupRequest) : Prop where
  groupUin : r.groupUin = (req.group.map (·.groupUin)).getD 0
  sequence : r.sequence = req.sequence
  state : r.state = req.state
  comment : r.comment = some req.comment
  targetMemberCard : r.targetMemberCard = (req.target.map (·.name)).getD ""
  invitorMemberCard : r.invitorMemberCard = req.invitor.map (·.name)
  operatorName : r.operatorName = req.operator.map (·.name)

/-- The list is the server's requests, and the event tells of the first that
it matches. -/
def RequestsListed (server : RequestsServer) (plain filtered : OidbSvcTrpcTcp0x10C0Response)
    (req : GroupSysRequestJoinEvent) (targetUin : UInt32) : Prop :=
  ∃ requests, server.fetchGroupRequests = .ok requests ∧
    List.Forall₂ BotGroupRequest.Lists (plain.requests ++ filtered.requests) requests ∧
    ∀ r, req.find targetUin requests = some r → ∃ event, server.groupSysRequestJoin req = some event ∧
      event.groupUin = req.groupUin ∧ event.targetUin = targetUin ∧ event.targetNickname = r.targetMemberCard ∧
      event.invitorUin = r.invitorMemberUin.getD 0 ∧ event.requestSeq = r.sequence

variable {server : RequestsServer} {plain filtered : OidbSvcTrpcTcp0x10C0Response}

/-- The parsers keep everything but the cards and names, and of these
nothing. -/
theorem lists_parse_iff (req : OidbSvcTrpcTcp0x10C0ResponseRequests) (isFiltered : Bool) (i : ℕ) :
    BotGroupRequest.Lists req (server.resolveRequest i (req.parse isFiltered)) ↔ req.Bare := by
  constructor
  · intro h
    exact ⟨Option.map_eq_none_iff.mp h.invitorMemberCard.symm, h.targetMemberCard.symm,
      Option.map_eq_none_iff.mp h.operatorName.symm⟩
  · intro h
    exact {
      groupUin := rfl
      sequence := rfl
      state := rfl
      comment := rfl
      targetMemberCard := h.target.symm
      invitorMemberCard := by
        rw [h.invitor]
        rfl
      operatorName := by
        rw [h.operator]
        rfl }

theorem forall₂_mapIdx_iff {α β γ δ : Type} {R : α → β → Prop} {P : α → Prop} {fst : δ → α} {g : δ → γ}
    {f : ℕ → γ → β} (h : ∀ i e, R (fst e) (f i (g e)) ↔ P (fst e)) (entries : List δ) :
    List.Forall₂ R (entries.map fst) ((entries.map g).mapIdx f) ↔ ∀ a ∈ entries.map fst, P a := by
  induction entries generalizing f with
  | nil => simp
  | cons e entries ih =>
    rw [List.map_cons, List.map_cons, List.mapIdx_cons, List.forall₂_cons, h, ih fun i => h (i + 1),
      List.forall_mem_cons]

theorem fetchGroupRequests_run (hplain : server.requests = .ok plain) (hfiltered : server.filteredRequests = .ok filtered) :
    server.fetchGroupRequests = .ok
      ((FetchGroupRequestsEvent.parse plain ++ FetchFilteredGroupRequestsEvent.parse filtered).mapIdx
        server.resolveRequest) := by
  rw [RequestsServer.fetchGroupRequests, hplain, hfiltered]
  rfl

/-- Of all the requests, plain ones first. -/
theorem lists_iff (server : RequestsServer) (plain filtered : List OidbSvcTrpcTcp0x10C0ResponseRequests) :
    List.Forall₂ BotGroupRequest.Lists (plain ++ filtered)
        ((plain.map (·.parse false) ++ filtered.map (·.parse true)).mapIdx server.resolveRequest) ↔
      ∀ req ∈ plain ++ filtered, req.Bare := by
  -- each request beside the list it is from
  let entries := plain.map (·, false) ++ filtered.map (·, true)
  have hreqs : plain ++ filtered = entries.map Prod.fst := by simp [entries, Function.comp_def]
  have hparsed : plain.map (·.parse false) ++ filtered.map (·.parse true) = entries.map fun e => e.1.parse e.2 := by
    simp [entries, Function.comp_def]
  rw [hreqs, hparsed]
  exact forall₂_mapIdx_iff (fun i e => lists_parse_iff e.1 e.2 i) entries

/-- The requests arrive as the server gave them, in the list and in the
event, exactly when it gave no card and no name. -/
theorem requestsListed_iff (server : RequestsServer) (plain filtered : OidbSvcTrpcTcp0x10C0Response)
    (req : GroupSysRequestJoinEvent) (targetUin : UInt32) (hplain : server.requests = .ok plain)
    (hfiltered : server.filteredRequests = .ok filtered)
    (htarget : server.resolveStrangerUid2uin .event req.targetUid = .ok targetUin) :
    RequestsListed server plain filtered req targetUin ↔ ∀ r ∈ plain.requests ++ filtered.requests, r.Bare := by
  have hrun := fetchGroupRequests_run hplain hfiltered
  rw [← lists_iff server]
  constructor
  · intro h
    obtain ⟨requests, hrequests, hlists, -⟩ := h
    cases hrun.symm.trans hrequests
    exact hlists
  · intro h
    refine ⟨_, hrun, h, fun r hfind => ?_⟩
    rw [RequestsServer.groupSysRequestJoin, htarget, hrun]
    simp only [hfind]
    exact ⟨_, rfl, rfl, rfl, rfl, rfl, rfl⟩

theorem fetchGroupRequests_card {requests : List BotGroupRequest} (h : server.fetchGroupRequests = .ok requests) :
    ∀ r ∈ requests, r.targetMemberCard = "" := by
  rw [RequestsServer.fetchGroupRequests] at h
  cases hplain : server.requests with
  | error e =>
    rw [hplain] at h
    cases h
  | ok plain =>
    cases hfiltered : server.filteredRequests with
    | error e =>
      rw [hplain, hfiltered] at h
      cases h
    | ok filtered =>
      rw [hplain, hfiltered] at h
      cases h
      intro r hr
      obtain ⟨i, hi, rfl⟩ := List.mem_mapIdx.mp hr
      have hmem := List.getElem_mem hi
      rcases List.mem_append.mp hmem with hmem | hmem
      · obtain ⟨req, -, hreq⟩ := List.mem_map.mp hmem
        rw [← hreq]
        rfl
      · obtain ⟨req, -, hreq⟩ := List.mem_map.mp hmem
        rw [← hreq]
        rfl

/-- The event has no nickname, whoever asks to join. -/
theorem groupSysRequestJoin_nickname {req : GroupSysRequestJoinEvent} {event : GroupJoinRequestEvent}
    (h : server.groupSysRequestJoin req = some event) : event.targetNickname = "" := by
  rw [RequestsServer.groupSysRequestJoin] at h
  split at h
  · cases h
  · split at h
    · cases h
    · next requests hrequests =>
      obtain ⟨r, hfind, rfl⟩ := Option.map_eq_some_iff.mp h
      exact fetchGroupRequests_card hrequests r (List.mem_of_find?_eq_some hfind)

/-! ## A request with a name -/

/-- Asked into group 700 by nobody. -/
def someoneAsks (name : String) : OidbSvcTrpcTcp0x10C0ResponseRequests where
  sequence := 5
  eventType := 1
  state := 1
  group := some { groupUin := 700 }
  target := some { uid := "u_someone", name }
  invitor := none
  operator := none
  comment := "hello"

/-- One plain request, and everyone is 30003. -/
def askedServer (name : String) : RequestsServer where
  requests := .ok { requests := [someoneAsks name] }
  filteredRequests := .ok { requests := [] }
  resolveStrangerUid2uin _ _ := .ok 30003

theorem requestsListed_nameless :
    RequestsListed (askedServer "") { requests := [someoneAsks ""] } { requests := [] }
      { targetUid := "u_someone", groupUin := 700 } 30003 := by
  refine (requestsListed_iff (askedServer "") _ _ _ _ rfl rfl rfl).mpr fun r hr => ?_
  cases List.mem_singleton.mp hr
  exact ⟨rfl, rfl, rfl⟩

/-- The name is gone from the list and from the event. -/
theorem namedRequest_not_listed :
    ¬ RequestsListed (askedServer "someone") { requests := [someoneAsks "someone"] } { requests := [] }
        { targetUid := "u_someone", groupUin := 700 } 30003 ∧
      (askedServer "someone").groupSysRequestJoin { targetUid := "u_someone", groupUin := 700 } = some {
        groupUin := 700
        targetUin := 30003
        targetNickname := ""
        invitorUin := 30003
        answer := "hello"
        requestSeq := 5 } := by
  refine ⟨fun h => ?_, by decide +kernel⟩
  obtain ⟨requests, hrequests, hlists, -⟩ := h
  cases hrequests
  obtain ⟨hlisted, -⟩ := List.forall₂_cons.mp hlists
  have hcard : "" = "someone" := hlisted.targetMemberCard
  simp at hcard

end Mania
