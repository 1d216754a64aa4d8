/-
`connect` of `core/socket.rs`: a connection as a system that takes one step
at a time.

A task of its own runs `send_loop` and `recv_loop` until one of them fails.
It then drops its halves of the two channels, and only after that the token
that `send` and `recv` look at before they use the channels. Calls of
`send`, the one receiver, the network and the two loops can take the next
step in any order. The halves that `connect` returns are kept.
-/
import Mathlib.Logic.Function.Basic
import Mania.Lib.Mpsc
import Mania.Lib.Runs
import Mania.Socket

namespace Mania

open Bytes Mpsc Runs
open Function (update update_apply)

def CHANNEL_SIZE : Nat := 32

/-- `closed` when a loop has failed, `released` when `close_sync` is dropped too. -/
inductive SocketTask where
  | running
  | closed
  | released
  deriving DecidableEq

/-- How far a call of `PacketSender::send` is. One that has `checked` the
token waits for room in the channel. -/
inductive Sending where
  | fresh
  | checked
  | sent
  | refused
  | panicked
  deriving DecidableEq

/-- How far the receiver is in `PacketReceiver::recv`. -/
inductive Receiving where
  | idle
  | waiting
  | panicked
  deriving DecidableEq

inductive SocketAction (ι : Type) where
  | check (i : ι)
  | enqueue (i : ι)
  | recv
  | take
  | arrive (bytes : Bytes)
  | recvTurn
  | readFails
  | sendTurn
  | write (n : Nat)
  | writeFails
  | release

/-- What `recv_loop` works on, and what came of it. -/
structure RecvHalf where
  /-- All the bytes that came. -/
  arrived : Bytes
  /-- What is not read of them. -/
  unread : Bytes
  /-- The packet that waits for room in the channel. -/
  delivering : Option Bytes
  inbox : Chan Bytes
  received : List Bytes

/-- What `send_loop` works on, for the calls `ι`. -/
structure SendHalf (ι : Type) where
  /-- The calls that returned `Ok`, in that order. -/
  accepted : List ι
  outbox : Chan Bytes
  /-- What is left to write of the packet it has taken. -/
  writing : Bytes
  written : Bytes

structure Connection (ι : Type) where
  task : SocketTask
  recvHalf : RecvHalf
  sendHalf : SendHalf ι
  call : ι → Sending
  receiver : Receiving

/-- A loop that waits, has made a step or has ended with an error. -/
inductive LoopStep (α : Type) where
  | waits
  | goesOn (half : α)
  | fails

namespace RecvHalf

/-- A turn of `recv_loop` up to `channel.send`, or from there. A panic ends the task as an error does. -/
def turn (s : RecvHalf) : LoopStep RecvHalf :=
  match s.delivering with
  | some packet =>
    match s.inbox.send packet with
    | some inbox => .goesOn { s with inbox, delivering := none }
    | none => .waits
  | none =>
    match recvTurn s.unread with
    | .tooLarge unread => .goesOn { s with unread }
    | .packet packet unread => .goesOn { s with unread, delivering := some packet }
    | .eof => .waits
    | .panic => .fails

/-- The loop waits for bytes: only there it meets an error or the end of the stream. -/
def reads (s : RecvHalf) : Bool :=
  match s.delivering, recvTurn s.unread with
  | none, .eof => true
  | _, _ => false

end RecvHalf

namespace SendHalf

variable {ι : Type}

def turn (s : SendHalf ι) : LoopStep (SendHalf ι) :=
  match s.writing, s.outbox.recv with
  | [], some (writing, outbox) => .goesOn { s with outbox, writing }
  | _, _ => .waits

/-- A part of `write_all`. -/
def write (s : SendHalf ι) (n : Nat) : LoopStep (SendHalf ι) :=
  if 0 < n ∧ n ≤ s.writing.length then
    .goesOn { s with writing := s.writing.drop n, written := s.written ++ s.writing.take n }
  else .waits

end SendHalf

namespace Connection

variable {ι : Type}

def connect : Connection ι where
  task := .running
  recvHalf := { arrived := [], unread := [], delivering := none, inbox := channel CHANNEL_SIZE, received := [] }
  sendHalf := { accepted := [], outbox := channel CHANNEL_SIZE, writing := [], written := [] }
  call _ := .fresh
  receiver := .idle

/-- A loop has failed, and both are dropped with what they hold. -/
def close (s : Connection ι) : Connection ι :=
  { s with
    task := .closed
    recvHalf := { s.recvHalf with delivering := none }
    sendHalf := { s.sendHalf with outbox := channel CHANNEL_SIZE, writing := [] } }

/-- A step of a loop, while the task runs. -/
def loopStep {α : Type} (s : Connection ι) (r : LoopStep α) (goOn : α → Connection ι) : Option (Connection ι) :=
  match s.task, r with
  | .running, .goesOn half => some (goOn half)
  | .running, .fails => some s.close
  | _, _ => none

/-- `PacketReceiver::recv` up to the channel. After an error the receiver is where it was. -/
def recv (s : Connection ι) : Option (Connection ι) :=
  match s.receiver with
  | .idle => some { s with receiver := if s.task = .released then .idle else .waiting }
  | _ => none

/-- `packets_rx.recv().await.expect("channel closed")`. -/
def take (s : Connection ι) : Option (Connection ι) :=
  match s.receiver, s.recvHalf.inbox.recv with
  | .waiting, some (packet, inbox) => some { s with
      recvHalf := { s.recvHalf with inbox, received := s.recvHalf.received ++ [packet] }
      receiver := .idle }
  | .waiting, none => if s.task = .running then none else some { s with receiver := .panicked }
  | _, _ => none

variable [DecidableEq ι]

/-- `PacketSender::send` up to the channel. -/
def check (s : Connection ι) (i : ι) : Option (Connection ι) :=
  match s.call i with
  | .fresh => some { s with call := update s.call i (if s.task = .released then .refused else .checked) }
  | _ => none

/-- `packets_tx.send(packet).await.expect("channel closed")`. -/
def enqueue (packet : ι → Bytes) (s : Connection ι) (i : ι) : Option (Connection ι) :=
  match s.call i, s.task with
  | .checked, .running => (s.sendHalf.outbox.send (packet i)).map fun outbox => { s with
      sendHalf := { s.sendHalf with outbox, accepted := s.sendHalf.accepted ++ [i] }
      call := update s.call i .sent }
  | .checked, _ => some { s with call := update s.call i .panicked }
  | _, _ => none

def step (packet : ι → Bytes) (s : Connection ι) : SocketAction ι → Option (Connection ι)
  | .check i => s.check i
  | .enqueue i => s.enqueue packet i
  | .recv => s.recv
  | .take => s.take
  | .arrive bytes => s.loopStep
      (.goesOn { s.recvHalf with arrived := s.recvHalf.arrived ++ bytes, unread := s.recvHalf.unread ++ bytes })
      fun recvHalf => { s with recvHalf }
  | .recvTurn => s.loopStep s.recvHalf.turn fun recvHalf => { s with recvHalf }
  | .readFails => s.loopStep (if s.recvHalf.reads then .fails else .waits : LoopStep Empty) nofun
  | .sendTurn => s.loopStep s.sendHalf.turn fun sendHalf => { s with sendHalf }
  | .write n => s.loopStep (s.sendHalf.write n) fun sendHalf => { s with sendHalf }
  | .writeFails => s.loopStep (if s.sendHalf.writing = [] then .waits else .fails : LoopStep Empty) nofun
  | .release => if s.task = .closed then some { s with task := .released } else none

end Connection

end Mania
