/-
Which inbound packets answer the call that waits for them
(`Mania.Business`).

An error of the event parser or of a logic handler reaches the caller. An
error of `SsoPacket::parse` does not: the packet is dropped, with whatever
sequence it carried, and a panic on the way ends the task before it looks
at the pending requests.
-/
import Mania.Business
import Mania.SsoPacketFacts

namespace Mania

open Bytes

variable {ev ω ε ι : Type}

/-- Neither the event parser of the command nor a logic handler panics on this payload. -/
def Handles (reg : Registry ev ω ε) (command : String) (payload : Bytes) (w : ω) : Prop :=
  ∀ parser, reg.eventMap command = some parser →
    parser payload ≠ .panic ∧ ∀ events, parser payload = .ok events → (dispatchEvents reg events).run.run w ≠ .panic

/-! ## Resolving -/

theorem resolvePacket_run (reg : Registry ev ω ε) (packet : SsoPacket) (w : ω) :
    (resolvePacket reg packet).run.run w =
      match resolveEvent reg.eventMap packet with
      | .ok events => (dispatchEvents reg events).run.run w
      | .err e => .ok (.error (.internalEventError e), w)
      | .panic => .panic := by
  show ((Task.ofEvent (resolveEvent reg.eventMap packet) >>= dispatchEvents reg : Task ω ε _).run).run w = _
  rw [ExceptT.run_bind, StateT.run_bind]
  show Task.ofEvent (resolveEvent reg.eventMap packet) w >>= _ = _
  cases resolveEvent reg.eventMap packet <;> rfl

/-- The length header of a payload, stripped. -/
theorem resolveEvent_of_payload {reg : Registry ev ω ε} {packet : SsoPacket} {stream : Section} {rest : Bytes}
    (h : packet.payload = stream.toBytes ++ rest) :
    resolveEvent reg.eventMap packet =
      (Outcome.okOr (.unsupportedEvent packet.command) (reg.eventMap packet.command) >>= fun parser =>
        (parser stream.body).mapErr .parse) := by
  have hsection : PacketReader.new packet.payload (PacketReader.section PacketReader.bytes) =
      (.ok stream.body : Outcome (EventError ε) Bytes) :=
    PacketReader.new_eq_ok.mpr ⟨rest, h ▸ SsoPacket.section_bytes stream rest⟩
  rw [resolveEvent, hsection, Outcome.ok_bind]

theorem resolvePacket_of_payload {reg : Registry ev ω ε} {packet : SsoPacket} {stream : Section} {rest : Bytes}
    {w : ω} (h : packet.payload = stream.toBytes ++ rest) :
    (resolvePacket reg packet).run.run w ≠ .panic ↔ Handles reg packet.command stream.body w := by
  rw [resolvePacket_run, resolveEvent_of_payload h, Handles]
  cases reg.eventMap packet.command with
  | none => simp
  | some parser =>
    cases hparser : parser stream.body with
    | ok events =>
      obtain ⟨majorEvent, extraEvents⟩ := events
      simp [hparser]
    | err e => simp [hparser]
    | panic => simp [hparser]

/-- Resolving a packet comes to an end when its payload has a length header
that fits and what is registered for it does not panic. -/
theorem resolvePacket_ne_panic {reg : Registry ev ω ε} {packet : SsoPacket} {w : ω} :
    (resolvePacket reg packet).run.run w ≠ .panic ↔
      ∃ (stream : Section) (rest : Bytes), packet.payload = stream.toBytes ++ rest ∧
        Handles reg packet.command stream.body w := by
  constructor
  · intro h
    cases hsection : (PacketReader.section PacketReader.bytes : Cursor (EventError ε) Bytes).run packet.payload with
    | ok p =>
      obtain ⟨payload, rest⟩ := p
      obtain ⟨stream, hpayload, -⟩ := PacketReader.section_eq_ok.mp hsection
      exact ⟨stream, rest, hpayload, (resolvePacket_of_payload hpayload).mp h⟩
    | err e => exact absurd hsection (PacketReader.errorless_section PacketReader.errorless_bytes _ e)
    | panic =>
      rw [resolvePacket_run, resolveEvent, PacketReader.new_eq_panic.mpr hsection] at h
      exact absurd rfl h
  · intro h
    obtain ⟨stream, rest, hpayload, hhandles⟩ := h
    exact (resolvePacket_of_payload hpayload).mpr hhandles

/-! ## Answering -/

variable [DecidableEq ι] {ρ : Type}

/-- The call behind `tx` has been handed a result, and its sequence waits no more. -/
def Answered (requests : Correlator ι ρ) (sequence : UInt32) (tx : ι) : Prop :=
  requests.pending sequence = none ∧ ∃ result, requests.channel tx = .full result

/-- A call waits for the sequence on the channel `tx`. -/
def Waiting (requests : Correlator ι ρ) (sequence : UInt32) (tx : ι) : Prop :=
  requests.pending sequence = some tx ∧ requests.channel tx = .empty

/-- The dispatch of a packet answers the call for its sequence if it comes to an end. -/
theorem dispatchSsoPacket_answers {reg : Registry ev ω ε} {packet : SsoPacket} {handle : BusinessHandle ι ev ω ε}
    {tx : ι} (hwaiting : Waiting handle.requests packet.sequence tx) :
    (∃ handle', dispatchSsoPacket reg packet handle = .ok handle' ∧
        Answered handle'.requests packet.sequence tx) ↔
      (resolvePacket reg packet).run.run handle.world ≠ .panic := by
  obtain ⟨hpending, hempty⟩ := hwaiting
  unfold dispatchSsoPacket
  cases (resolvePacket reg packet).run.run handle.world with
  | ok p =>
    simp [Correlator.remove, Correlator.send, hpending, hempty, Answered]
  | err e => exact e.elim
  | panic => simp

/-- What it takes for a packet with the decrypted body `clear` to answer. -/
def Answerable (reg : Registry ev ω ε) (ctx : Context) (w : ω) (e : ServicePacket) (clear : Bytes) : Prop :=
  e.Admitted ctx ∧ ∃ (s : SsoBody) (p : Bytes) (payload : Section) (rest : Bytes),
    clear = s.toBytes ∧ s.retCode = 0 ∧ SsoPacket.PayloadOf reg.inflate s p ∧ p = payload.toBytes ++ rest ∧
      Handles reg s.command.text payload.body w

theorem answerable_iff {reg : Registry ev ω ε} {ctx : Context} {w : ω} {e : ServicePacket} {clear : Bytes}
    (hclear : SsoPacket.decryptBody ctx e.authFlag e.body = .ok clear) :
    Answerable reg ctx w e clear ↔
      ∃ packet, SsoPacket.parse reg.inflate e.toBytes ctx = .ok packet ∧
        (resolvePacket reg packet).run.run w ≠ .panic := by
  simp only [SsoPacket.parse_toBytes_eq_ok hclear, resolvePacket_ne_panic]
  constructor
  · intro h
    obtain ⟨hadmitted, s, p, payload, rest, hs, hret, hp, hpayload, hhandles⟩ := h
    exact ⟨_, ⟨hadmitted, s, p, hs, hret, hp, rfl⟩, payload, rest, hpayload, hhandles⟩
  · intro h
    obtain ⟨_, ⟨hadmitted, s, p, hs, hret, hp, rfl⟩, payload, rest, hpayload, hhandles⟩ := h
    exact ⟨hadmitted, s, p, payload, rest, hs, hret, hp, hpayload, hhandles⟩

/-- The packet of a layout carries the sequence of the layout. -/
theorem sequence_of_toBytes {s : SsoBody} {length sequence : UInt32} {rest : Bytes}
    (h : be32 length ++ (be32 sequence ++ rest) = s.toBytes) : s.sequence = sequence :=
  (be32_append_inj (be32_append_inj h).2).1.symm

/-- **Which packets answer.** A packet that carries the sequence of a waiting
call in its decrypted body answers the call exactly when it is answerable:
the envelope is admitted, the return code is 0, the payload inflates to one
behind a length header, and neither the event parser nor a logic handler
panics on it. -/
theorem handlePacket_answers_iff (reg : Registry ev ω ε) (handle : BusinessHandle ι ev ω ε) (e : ServicePacket)
    (clear rest : Bytes) (length sequence : UInt32) (tx : ι)
    (hclear : SsoPacket.decryptBody handle.context e.authFlag e.body = .ok clear)
    (hsequence : clear = be32 length ++ (be32 sequence ++ rest))
    (hwaiting : Waiting handle.requests sequence tx) :
    (∃ handle', handlePacket reg e.toBytes handle = .ok handle' ∧ Answered handle'.requests sequence tx) ↔
      Answerable reg handle.context handle.world e clear := by
  rw [answerable_iff hclear]
  unfold handlePacket
  cases hparse : SsoPacket.parse reg.inflate e.toBytes handle.context with
  | ok packet =>
    obtain ⟨-, s, p, hs, -, -, rfl⟩ := (SsoPacket.parse_toBytes_eq_ok hclear).mp hparse
    obtain rfl := sequence_of_toBytes (hsequence ▸ hs)
    simpa using dispatchSsoPacket_answers hwaiting
  | err error =>
    constructor
    · intro h
      obtain ⟨_, hhandle, hanswered⟩ := h
      cases hhandle
      have hpending := hanswered.1
      rw [hwaiting.1] at hpending
      cases hpending
    · intro h
      obtain ⟨_, hpacket, -⟩ := h
      cases hpacket
  | panic => simp

/-- A body in clear that answers sequence 7 with an empty payload. -/
def replyBody (retCode : Int32) : SsoBody where
  length := 0
  sequence := 7
  retCode := retCode
  extra := Section.empty
  command := SsoBody.trpc
  unknown := Section.empty
  compression := 0
  header := SsoBody.noHeader
  payload := be32 4

def replyPacket (retCode : Int32) : ServicePacket where
  length := 0
  protocol := 12
  authFlag := 0
  flag := 0
  uin := ServicePacket.uinSeven
  body := (replyBody retCode).toBytes

/-- No event and no handler is registered. -/
def emptyRegistry : Registry Unit Unit Empty :=
  { inflate := fun _ => none, eventMap := fun _ => none, logicMap := fun _ => none }

/-- One call waits, for sequence 7. -/
def waitingHandle : BusinessHandle Unit Unit Unit Empty where
  context := { keyStore := { uin := 7, session := { d2Key := Vector.replicate 16 0 } } }
  requests := Correlator.new.insert 7 ()
  world := ()

/-- The reply to a command no event is registered for answers, with an error. -/
theorem handlePacket_answers_unsupported :
    ∃ handle', handlePacket emptyRegistry (replyPacket 0).toBytes waitingHandle = .ok handle' ∧
      Answered handle'.requests 7 () :=
  (handlePacket_answers_iff emptyRegistry waitingHandle (replyPacket 0) (replyBody 0).toBytes _ 0 7 () rfl rfl
    ⟨rfl, rfl⟩).mpr
    ⟨.inl ⟨rfl, by decide⟩, replyBody 0, be32 4, ⟨[], by decide⟩, [], rfl, rfl, .inl ⟨rfl, rfl⟩, rfl,
      fun _ h => nomatch h⟩

/-- A reply with a return code is logged and dropped, and the call waits on. -/
theorem handlePacket_refused_waits : ¬ ∀ (reg : Registry Unit Unit Empty) (handle : BusinessHandle Unit Unit Unit Empty)
    (e : ServicePacket) (clear rest : Bytes) (length sequence : UInt32) (tx : Unit),
    SsoPacket.decryptBody handle.context e.authFlag e.body = .ok clear →
    clear = be32 length ++ (be32 sequence ++ rest) → Waiting handle.requests sequence tx →
    ∃ handle', handlePacket reg e.toBytes handle = .ok handle' ∧ Answered handle'.requests sequence tx := by
  intro h
  obtain ⟨handle', hhandle, hanswered⟩ := h emptyRegistry waitingHandle (replyPacket 1) (replyBody 1).toBytes _ 0 7 ()
    rfl rfl ⟨rfl, rfl⟩
  have hdropped : handlePacket emptyRegistry (replyPacket 1).toBytes waitingHandle = .ok waitingHandle := rfl
  rw [hdropped] at hhandle
  cases hhandle
  exact absurd hanswered.1 (by decide)

end Mania
