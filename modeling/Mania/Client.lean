/-
`Business::spawn` and `send_packet` over a connection: the socket, the loop
that receives packets and spawns a task for each, the calls and the tasks,
as one system that takes one step at a time.

A call inserts its sequence, gives its packet to `PacketSender::send` and
awaits its channel. The loop parses what it receives and spawns a task for
it; a panic of `parse` ends the loop. The n-th packet received is the n-th
task. The system works on two others, the connection (`Mania.Connection`)
and the pending requests (`Mania.SendPacket`), and a run of it is one of
each of them.
-/
import Mania.ConnectionFacts
import Mania.SendPacketFacts
import Mania.SsoPacket

namespace Mania

open Bytes Runs
open Function (update update_apply)

/-- The calls `ι` with their sequences and the bytes built of their packets,
and what resolving the n-th packet received comes to. -/
structure Exchange (ι ρ : Type) where
  inflate : Bytes → Option Bytes
  context : Context
  sequence : ι → UInt32
  distinct : Function.Injective sequence
  wire : ι → Bytes
  resolve : ℕ → SsoPacket → ρ

inductive ClientAction (ι : Type) where
  | insert (i : ι)
  | socket (a : SocketAction ι)
  | await (i : ι)
  | drop (i : ι)
  | lookup (n : ℕ)
  | send (n : ℕ)

structure Client (ι ρ : Type) where
  connection : Connection ι
  requests : SendState ι ℕ (Option ρ)
  /-- The loop of `Business::spawn` has not panicked. -/
  spawning : Bool

namespace Client

variable {ι ρ : Type}

abbrev received (s : Client ι ρ) : List Bytes := s.connection.recvHalf.received

end Client

namespace Exchange

variable {ι ρ : Type} (x : Exchange ι ρ)

/-- The n-th of the packets, if it parses. -/
def packet (packets : List Bytes) (n : ℕ) : Option SsoPacket :=
  match packets[n]?.map fun raw => SsoPacket.parse x.inflate raw x.context with
  | some (.ok packet) => some packet
  | _ => none

/-- The calls and the packets received. One that does not parse has no task. -/
def traffic (packets : List Bytes) : Traffic ι ℕ (Option ρ) where
  sequence := x.sequence
  distinct := x.distinct
  inbound n := ((x.packet packets n).map (·.sequence)).getD 0
  result n := (x.packet packets n).map (x.resolve n)

end Exchange

namespace Client

variable {ι ρ : Type} [DecidableEq ι]

def connect : Client ι ρ := { connection := .connect, requests := .init, spawning := true }

/-- A step of the calls and tasks. -/
def request (x : Exchange ι ρ) (s : Client ι ρ) (a : Action ι ℕ) : Option (Client ι ρ) :=
  (s.requests.step (x.traffic s.received) a).map fun requests => { s with requests }

/-- A step of `PacketSender::send` for a call that has inserted its sequence.
Its future ends with an error or a panic there. -/
def post (x : Exchange ι ρ) (s : Client ι ρ) (i : ι) (a : SocketAction ι) : Option (Client ι ρ) :=
  match s.requests.call i, s.connection.step x.wire a with
  | .inserted, some connection =>
    match connection.call i with
    | .sent => { s with connection }.request x (.post i true)
    | .refused => { s with connection }.request x (.post i false)
    | .panicked => { s with connection }.request x (.drop i)
    | .fresh | .checked => some { s with connection }
  | _, _ => none

/-- A received packet is parsed, and a task is spawned for it. -/
def receive (x : Exchange ι ρ) (s : Client ι ρ) : Option (Client ι ρ) :=
  match s.connection.step x.wire .take with
  | some connection =>
    match connection.recvHalf.received[s.received.length]?.map fun raw => SsoPacket.parse x.inflate raw x.context with
    | some (.ok _) => { s with connection }.request x (.dispatch s.received.length)
    | some .panic => some { s with connection, spawning := false }
    | some (.err _) | none => some { s with connection }
  | none => none

def step (x : Exchange ι ρ) (s : Client ι ρ) : ClientAction ι → Option (Client ι ρ)
  | .insert i => s.request x (.insert i)
  | .socket (.check i) => s.post x i (.check i)
  | .socket (.enqueue i) => s.post x i (.enqueue i)
  | .socket .take => s.receive x
  | .socket .recv => if s.spawning then (s.connection.step x.wire .recv).map fun connection => { s with connection } else none
  | .socket a => (s.connection.step x.wire a).map fun connection => { s with connection }
  | .await i => s.request x (.await i)
  | .drop i => s.request x (.drop i)
  | .lookup n => s.request x (.take n)
  | .send n => s.request x (.send n)

end Client

end Mania
