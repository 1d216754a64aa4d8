/-
The request correlator of `core/business.rs` and the way of one inbound
packet through it: `Business::spawn` parses a raw packet and
`dispatch_sso_packet` resolves it, runs the logic handlers on its events
and hands the result to the `send_packet` call that waits for the sequence.

A waiting call is named by the oneshot channel it made. What the handlers
can change (caches, listeners, the socket) is the state `ω` they thread;
they reach the pending requests through `send_event` alone, under
sequences of their own.
-/
import Mathlib.Logic.Function.Basic
import Mania.SsoPacket

namespace Mania

/-! ## The correlator -/

/-- A oneshot channel, seen from the sender: nothing sent yet, a value its
receiver has not taken yet, or no receiver any more. -/
inductive Channel (ρ : Type) where
  | empty
  | full (r : ρ)
  | closed
  deriving DecidableEq

/-- `pending_requests`, and the channels its senders belong to. -/
structure Correlator (ι ρ : Type) where
  pending : UInt32 → Option ι
  channel : ι → Channel ρ

namespace Correlator

variable {ι ρ : Type}

def new : Correlator ι ρ := { pending := fun _ => none, channel := fun _ => .empty }

/-- `pending_requests.insert(sequence, tx)`. -/
def insert (c : Correlator ι ρ) (sequence : UInt32) (tx : ι) : Correlator ι ρ :=
  { c with pending := Function.update c.pending sequence (some tx) }

/-- `pending_requests.remove(&sequence)`. -/
def remove (c : Correlator ι ρ) (sequence : UInt32) : Option ι × Correlator ι ρ :=
  (c.pending sequence, { c with pending := Function.update c.pending sequence none })

@[simp, grind =] theorem insert_pending (c : Correlator ι ρ) (sequence n : UInt32) (tx : ι) :
    (c.insert sequence tx).pending n = if n = sequence then some tx else c.pending n :=
  Function.update_apply ..

@[simp, grind =] theorem insert_channel (c : Correlator ι ρ) (sequence : UInt32) (tx : ι) :
    (c.insert sequence tx).channel = c.channel := rfl

variable [DecidableEq ι]

/-- `tx.send(result)`: an error when the receiver is gone. -/
def send (c : Correlator ι ρ) (tx : ι) (r : ρ) : Option (Correlator ι ρ) :=
  match c.channel tx with
  | .empty => some { c with channel := Function.update c.channel tx (.full r) }
  | _ => none

/-- `rx.await` comes back: a value is there, and the receiver is used up. -/
def receive (c : Correlator ι ρ) (tx : ι) : Option (ρ × Correlator ι ρ) :=
  match c.channel tx with
  | .full r => some (r, { c with channel := Function.update c.channel tx .closed })
  | _ => none

/-- The receiver is dropped. -/
def close (c : Correlator ι ρ) (tx : ι) : Correlator ι ρ :=
  { c with channel := Function.update c.channel tx .closed }

@[simp, grind =] theorem close_pending (c : Correlator ι ρ) (tx : ι) : (c.close tx).pending = c.pending := rfl

@[simp, grind =] theorem close_channel (c : Correlator ι ρ) (tx i : ι) :
    (c.close tx).channel i = if i = tx then .closed else c.channel i :=
  Function.update_apply ..

end Correlator

/-! ## Resolving a packet -/

inductive LogicFlow where
  | inComing
  | outGoing
  deriving DecidableEq

inductive BusinessError (ε : Type) where
  | networkError (e : String)
  | invalidServerResponse (message : String)
  | genericError (message : String)
  | internalEventError (e : EventError ε)
  deriving DecidableEq

/-- An `async` block that ends in a `BusinessResult` and works on `ω`. -/
abbrev Task (ω ε α : Type) := ExceptT (BusinessError ε) (StateT ω (Outcome Empty)) α

/-- The major event and the extra events. -/
abbrev CEParse (ev : Type) := ev × Option (List ev)

/-- What is registered with the client: the zlib decoder, the event parsers
and the logic handlers by event type. -/
structure Registry (ev ω ε : Type) where
  inflate : Bytes → Option Bytes
  eventMap : String → Option (Bytes → Outcome ε (CEParse ev))
  logicMap : ev → Option (List (ev → LogicFlow → Task ω ε ev))

variable {ev ω ε ι : Type}

/-- `?` on a result that is not a `BusinessResult` yet. -/
def Task.ofEvent {α : Type} (o : Outcome (EventError ε) α) : Task ω ε α := fun w =>
  match o with
  | .ok a => .ok (.ok a, w)
  | .err e => .ok (.error (.internalEventError e), w)
  | .panic => .panic

/-- The handlers registered for the type of the event, one after the other. -/
def dispatchLogic (reg : Registry ev ω ε) (event : ev) (flow : LogicFlow) : Task ω ε ev :=
  match reg.logicMap event with
  | some fns => fns.foldlM (fun event handleFn => handleFn event flow) event
  | none => pure event

/-- The handlers of the major event and then of the extra events. -/
def dispatchEvents (reg : Registry ev ω ε) (events : CEParse ev) : Task ω ε (CEParse ev) := do
  let majorEvent ← dispatchLogic reg events.1 .inComing
  match events.2 with
  | some events =>
    let events ← events.mapM (fun event => dispatchLogic reg event .inComing)
    pure (majorEvent, some events)
  | none => pure (majorEvent, none)

/-- The `async` block of `dispatch_sso_packet`. -/
def resolvePacket (reg : Registry ev ω ε) (packet : SsoPacket) : Task ω ε (CEParse ev) := do
  let events ← Task.ofEvent (resolveEvent reg.eventMap packet)
  dispatchEvents reg events

/-- The part of a `BusinessHandle` an inbound packet works on. -/
structure BusinessHandle (ι ev ω ε : Type) where
  context : Context
  requests : Correlator ι (Except (BusinessError ε) (CEParse ev))
  world : ω

variable [DecidableEq ι]

/-- `dispatch_sso_packet`. A result nobody waits for is logged. -/
def dispatchSsoPacket (reg : Registry ev ω ε) (packet : SsoPacket) (handle : BusinessHandle ι ev ω ε) :
    Outcome Empty (BusinessHandle ι ev ω ε) := do
  let sequence := packet.sequence
  let (result, world) ← (resolvePacket reg packet).run.run handle.world
  let (tx, requests) := handle.requests.remove sequence
  match tx with
  | some tx =>
    let requests ← Outcome.expect (requests.send tx result)
    .ok { handle with requests, world }
  | none => .ok { handle with requests, world }

/-- `Business::spawn` with one raw packet, and the task it spawns for it. A
packet that does not parse is logged and left. -/
def handlePacket (reg : Registry ev ω ε) (rawPacket : Bytes) (handle : BusinessHandle ι ev ω ε) :
    Outcome Empty (BusinessHandle ι ev ω ε) :=
  match SsoPacket.parse reg.inflate rawPacket handle.context with
  | .ok packet => dispatchSsoPacket reg packet handle
  | .err _ => .ok handle
  | .panic => .panic

end Mania
