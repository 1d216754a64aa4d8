/-
The outgoing half of `core/business/messaging_logic.rs`, and `send_message`
of `core/operation/common_op.rs`: a chain is completed from the cache, its
images, videos and records are uploaded in order, and then the message is
built and sent.
-/
import Mania.HighwayOp

namespace Mania

variable {σ : Type} {ε : Type}

/-- `Result::unwrap_or_else` with an empty list. -/
def orEmpty {α : Type} : Except ManiaError (List α) → List α
  | .ok as => as
  | .error _ => []

/-- `if chain.uid.is_empty() { chain.uid = uid }`. -/
def MessageChain.fillUid (chain : MessageChain) (uid : Option String) : MessageChain :=
  { chain with uid := if chain.uid = "" then uid.getD chain.uid else chain.uid }

/-- The page requests of a fetch are answered by the outside's `server`. -/
def resolveChainMetadata (h : Handle σ) (chain : MessageChain) (s : Shared σ) : MessageChain × Shared σ :=
  match chain.typ with
  | .group grp =>
    if h.config.fetchGroupMemberStrategy = .full then
      let (members, cache) := fetchMaybeCachedGroupMembers (h.outside.server s) grp.groupUin
        (fun mm => (mm.lookup grp.groupUin).getD []) false s.cache
      let lookupUin := if chain.friendUin = 0 then h.context.keyStore.uin else chain.friendUin
      let groupMemberInfo := (orEmpty members).find? (·.uin = lookupUin)
      let chain := { chain with typ := .group { grp with groupMemberInfo } }
      (chain.fillUid (groupMemberInfo.map (·.uid)), h.outside.afterFetch { s with cache })
    else (chain, s)
  | .friend friendElem =>
    let (friends, cache) := fetchMaybeCachedFriends (h.outside.server s) (some chain.friendUin)
      (fun fm => fm.toList.map (·.2)) false s.cache
    let s := h.outside.afterFetch { s with cache }
    match (orEmpty friends).find? (·.uin = chain.friendUin) with
    | some friend =>
      ({ chain with typ := .friend { friendElem with friendInfo := some friend } }.fillUid (some friend.uid), s)
    | none => (chain, s)
  | .temp | .none => (chain, s)

/-- `map_err(|e| BusinessError::GenericError(e.to_string()))`. -/
def displayed {α : Type} (x : Op σ ManiaError α) : Op σ (BusinessError String) α :=
  x.mapErr fun e => .genericError e.display

/-- One turn of the loop of `resolve_outgoing_chain`. -/
def uploadEntity (h : Handle σ) (chain : MessageChain) : Entity → Op σ (BusinessError String) Entity
  | .image image =>
    match chain.typ with
    | .group grp => displayed (.image <$> uploadGroupImage h grp.groupUin image)
    | .friend _ | .temp => displayed (.image <$> uploadC2cImage h chain.uid image)
    | .none => pure (.image image)
  | .video video =>
    match chain.typ with
    | .group grp => displayed (.video <$> uploadGroupVideo h grp.groupUin video)
    | .friend _ | .temp => displayed (.video <$> uploadC2cVideo h chain.uid video)
    | .none => pure (.video video)
  | .record record =>
    match chain.typ with
    | .group grp => displayed (.record <$> uploadGroupRecord h grp.groupUin record)
    | .friend _ | .temp => displayed (.record <$> uploadC2cRecord h chain.uid record)
    | .none => pure (.record record)
  | entity => pure entity

def resolveOutgoingChain (h : Handle σ) (chain : MessageChain) : Op σ (BusinessError String) MessageChain := do
  let entities ← chain.entities.mapM (uploadEntity h chain)
  pure { chain with entities }

def messagingLogicOutgoing (h : Handle σ) : ClientEvent → Op σ (BusinessError String) ClientEvent
  | .sendMessage chain => do
    let w ← Effect.get
    let (chain, shared) := resolveChainMetadata h chain w.shared
    Effect.modify fun w => { w with shared }
    let chain ← resolveOutgoingChain h chain
    pure (.sendMessage chain)
  | event => pure event

def sendMessage (h : Handle σ) (message : MessageChain) : Op σ ManiaError Unit := do
  let _ ← (sendEvent h (messagingLogicOutgoing h) (.sendMessage message)).mapErr .internalBusinessError

end Mania
