/-
Concurrent `send_packet` calls and dispatch tasks over one correlator
(`Mania.Business`), as a system that takes one step at a time.

A call inserts its sequence, posts its packet and awaits its channel; its
future can be dropped in between. A dispatch task is spawned for an inbound
packet, looks its sequence up in the pending requests and, if a call waits
there, sends the result. Any call and any task can take the next step.
-/
import Mania.Business
import Mania.Lib.Runs

namespace Mania

/-- The calls `ι` with pairwise distinct sequences, and the inbound packets
`τ`, each with the sequence it carries and the result it resolves to. -/
structure Traffic (ι τ ρ : Type) where
  sequence : ι → UInt32
  distinct : Function.Injective sequence
  inbound : τ → UInt32
  result : τ → ρ

/-- How far a call of `send_packet` is. One that `left` failed to post, or its
future was dropped. -/
inductive Call (ρ : Type) where
  | fresh
  | inserted
  | awaiting
  | returned (r : ρ)
  | left
  deriving DecidableEq

/-- How far a dispatch task is. An `unclaimed` one found nobody
waiting; `panicked` is its `expect("receiver dropped")`. -/
inductive Dispatch (ι : Type) where
  | fresh
  | running
  | unclaimed
  | took (tx : ι)
  | sent (tx : ι)
  | panicked (tx : ι)
  deriving DecidableEq

inductive Action (ι τ : Type) where
  | insert (i : ι)
  | post (i : ι) (ok : Bool)
  | await (i : ι)
  | drop (i : ι)
  | dispatch (t : τ)
  | take (t : τ)
  | send (t : τ)
  deriving DecidableEq

structure SendState (ι τ ρ : Type) where
  requests : Correlator ι ρ
  call : ι → Call ρ
  task : τ → Dispatch ι

namespace SendState

open Function Runs

variable {ι τ ρ : Type} [DecidableEq ι] [DecidableEq τ]

def init : SendState ι τ ρ := { requests := .new, call := fun _ => .fresh, task := fun _ => .fresh }

/-- One step. -/
def step (x : Traffic ι τ ρ) (s : SendState ι τ ρ) : Action ι τ → Option (SendState ι τ ρ)
  | .insert i =>
    match s.call i with
    | .fresh => some { s with
        requests := s.requests.insert (x.sequence i) i
        call := update s.call i .inserted }
    | _ => none
  | .post i ok =>
    match s.call i with
    | .inserted =>
      if ok then some { s with call := update s.call i .awaiting }
      else some { s with requests := s.requests.close i, call := update s.call i .left }
    | _ => none
  | .await i =>
    match s.call i, s.requests.receive i with
    | .awaiting, some (r, requests) => some { s with requests, call := update s.call i (.returned r) }
    | _, _ => none
  | .drop i =>
    match s.call i with
    | .inserted | .awaiting => some { s with requests := s.requests.close i, call := update s.call i .left }
    | _ => none
  | .dispatch t =>
    match s.task t with
    | .fresh => some { s with task := update s.task t .running }
    | _ => none
  | .take t =>
    match s.task t, s.requests.remove (x.inbound t) with
    | .running, (some tx, requests) => some { s with requests, task := update s.task t (.took tx) }
    | .running, (none, requests) => some { s with requests, task := update s.task t .unclaimed }
    | _, _ => none
  | .send t =>
    match s.task t with
    | .took tx =>
      match s.requests.send tx (x.result t) with
      | some requests => some { s with requests, task := update s.task t (.sent tx) }
      | none => some { s with task := update s.task t (.panicked tx) }
    | _ => none

end SendState

end Mania
