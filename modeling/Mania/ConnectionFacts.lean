/-
What a connection (`Mania.Connection`) does with the packets given to it
and with those of the server, in every order of steps.

Both ways keep the order and lose nothing while the task runs. When it has
ended, whole packets can be left in the channels, and no later call gets
at them.
-/
import Mathlib.Data.List.Nodup
import Mania.Connection

namespace Mania

open Bytes Mpsc Runs
open Function (update update_apply)

/-! ## The packets of a stream that grows -/

theorem exists_word {stream : Bytes} (h : 4 ≤ stream.length) : ∃ w tail, stream = be32 w ++ tail := by
  have htake : (stream.take 4).length = 4 := List.length_take_of_le h
  exact ⟨ofBE32 (stream.take 4), stream.drop 4, by rw [be32_ofBE32 htake, List.take_append_drop]⟩

/-- A packet is cut off the front of the stream, whatever follows it. -/
theorem recvTurn_packet {stream packet rest : Bytes} (h : recvTurn stream = .packet packet rest) :
    stream = packet ++ rest ∧ ∀ later, recvTurn (packet ++ later) = .packet packet later := by
  by_cases hshort : stream.length < 4
  · simp [recvTurn_short hshort] at h
  obtain ⟨w, tail, rfl⟩ := exists_word (Nat.le_of_not_lt hshort)
  by_cases hw : TooLarge w
  · simp [recvTurn_tooLarge hw] at h
  by_cases h4 : 4 ≤ w.toNat
  · rw [recvTurn_word hw h4] at h
    split at h
    · next hlen =>
      cases h
      refine ⟨by simp, fun later => ?_⟩
      have htake : (tail.take (w.toNat - 4)).length = w.toNat - 4 := List.length_take_of_le hlen
      rw [List.append_assoc, recvTurn_word hw h4, if_pos (by rw [List.length_append]; omega),
        List.take_left' htake, List.drop_left' htake]
    · cases h
  · simp [recvTurn_panic (Nat.lt_of_not_le h4)] at h

theorem recvTurn_skip {stream rest : Bytes} (h : recvTurn stream = .tooLarge rest) :
    ∃ w, TooLarge w ∧ stream = be32 w ++ rest := by
  by_cases hshort : stream.length < 4
  · simp [recvTurn_short hshort] at h
  obtain ⟨w, tail, rfl⟩ := exists_word (Nat.le_of_not_lt hshort)
  by_cases hw : TooLarge w
  · rw [recvTurn_tooLarge hw] at h
    cases h
    exact ⟨w, hw, rfl⟩
  by_cases h4 : 4 ≤ w.toNat
  · rw [recvTurn_word hw h4] at h
    split at h <;> cases h
  · simp [recvTurn_panic (Nat.lt_of_not_le h4)] at h

/-- The loop cuts these packets out of the bytes, whatever comes after them. -/
def Cuts (read : Bytes) (packets : List Bytes) : Prop := ∀ later, recvAll (read ++ later) = packets ++ recvAll later

theorem cuts_nil : Cuts [] [] := fun _ => rfl

theorem Cuts.append {a b : Bytes} {ps qs : List Bytes} (ha : Cuts a ps) (hb : Cuts b qs) : Cuts (a ++ b) (ps ++ qs) := by
  intro later
  rw [List.append_assoc, ha, hb, List.append_assoc]

theorem cuts_packet {stream packet rest : Bytes} (h : recvTurn stream = .packet packet rest) : Cuts packet [packet] := by
  intro later
  rw [recvAll_eq, (recvTurn_packet h).2]
  rfl

theorem cuts_tooLarge {w : UInt32} (h : TooLarge w) : Cuts (be32 w) [] := by
  intro later
  rw [recvAll_eq, recvTurn_tooLarge h]
  rfl

/-- More bytes do not change the packets there are. -/
theorem recvAll_initial (stream later : Bytes) : recvAll stream <+: recvAll (stream ++ later) := by
  induction h : stream.length using Nat.strongRecOn generalizing stream with
  | ind n ih =>
    rw [recvAll_eq stream]
    cases hturn : recvTurn stream with
    | tooLarge rest =>
      have hlt := recvTurn_length (.inl hturn)
      obtain ⟨w, hw, rfl⟩ := recvTurn_skip hturn
      rw [List.append_assoc, cuts_tooLarge hw]
      exact ih rest.length (h ▸ hlt) rest rfl
    | packet packet rest =>
      have hlt := recvTurn_length (.inr ⟨_, hturn⟩)
      have hcuts := cuts_packet hturn
      obtain ⟨rfl, -⟩ := recvTurn_packet hturn
      rw [List.append_assoc, hcuts]
      exact (List.prefix_append_right_inj [packet]).mpr (ih rest.length (h ▸ hlt) rest rfl)
    | eof => exact List.nil_prefix
    | panic => exact List.nil_prefix

/-! ## From the server -/

namespace RecvHalf

variable {s s' : RecvHalf} {read : Bytes} {delivered lost : List Bytes}

/-- The packets of the bytes read are those `delivered` to the channel, the
one that waits there, and at most one that is `lost`. -/
structure Cut (s : RecvHalf) (read : Bytes) (delivered lost : List Bytes) : Prop where
  arrived : s.arrived = read ++ s.unread
  cuts : Cuts read (delivered ++ s.delivering.toList ++ lost)
  inbox : s.inbox.Carries delivered s.received

/-- More bytes, or a turn of the loop. -/
def GoesOn (s s' : RecvHalf) : Prop :=
  (∃ bytes, s' = { s with arrived := s.arrived ++ bytes, unread := s.unread ++ bytes }) ∨ s.turn = .goesOn s'

theorem turn_cases (h : s.turn = .goesOn s') :
    (∃ packet inbox, s.delivering = some packet ∧ s.inbox.send packet = some inbox ∧
        s' = { s with inbox, delivering := none }) ∨
      s.delivering = none ∧
        ((∃ unread, recvTurn s.unread = .tooLarge unread ∧ s' = { s with unread }) ∨
          ∃ packet unread, recvTurn s.unread = .packet packet unread ∧
            s' = { s with unread, delivering := some packet }) := by
  unfold turn at h
  split at h
  · next packet hdelivering =>
    split at h <;> cases h
    next inbox hsend => exact .inl ⟨packet, inbox, hdelivering, hsend, rfl⟩
  · next hdelivering =>
    split at h <;> cases h
    · next unread hturn => exact .inr ⟨hdelivering, .inl ⟨unread, hturn, rfl⟩⟩
    · next packet unread hturn => exact .inr ⟨hdelivering, .inr ⟨packet, unread, hturn, rfl⟩⟩

theorem Cut.goesOn (hs : s.Cut read delivered []) (h : s.GoesOn s') : ∃ read delivered, s'.Cut read delivered [] := by
  obtain ⟨harrived, hcuts, hinbox⟩ := hs
  rcases h with ⟨bytes, rfl⟩ | hgoes
  · exact ⟨read, delivered, by rw [harrived, List.append_assoc], hcuts, hinbox⟩
  obtain ⟨packet, inbox, hdelivering, hsend, rfl⟩ | ⟨hdelivering, ⟨unread, hturn, rfl⟩ | ⟨packet, unread, hturn, rfl⟩⟩ :=
    turn_cases hgoes
  · refine ⟨read, delivered ++ [packet], harrived, ?_, hinbox.send hsend⟩
    simpa [hdelivering] using hcuts
  · obtain ⟨w, hw, hunread⟩ := recvTurn_skip hturn
    refine ⟨read ++ be32 w, delivered, ?_, ?_, hinbox⟩
    · rw [harrived, hunread, List.append_assoc]
    · simpa using hcuts.append (cuts_tooLarge hw)
  · refine ⟨read ++ packet, delivered, ?_, ?_, hinbox⟩
    · rw [harrived, (recvTurn_packet hturn).1, List.append_assoc]
    · simpa [hdelivering] using hcuts.append (cuts_packet hturn)

theorem Cut.take {packet : Bytes} {inbox : Chan Bytes} (hs : s.Cut read delivered lost)
    (h : s.inbox.recv = some (packet, inbox)) :
    Cut { s with inbox, received := s.received ++ [packet] } read delivered lost :=
  ⟨hs.arrived, hs.cuts, hs.inbox.recv h⟩

/-- The packet that waits for the channel is lost with the loop. -/
theorem Cut.close (hs : s.Cut read delivered []) :
    Cut { s with delivering := none } read delivered s.delivering.toList :=
  ⟨hs.arrived, by simpa using hs.cuts, hs.inbox⟩

theorem Cut.isPrefix (hs : s.Cut read delivered lost) : s.received <+: recvAll s.arrived := by
  rw [hs.arrived, hs.cuts, List.append_assoc, List.append_assoc]
  exact hs.inbox.isPrefix.trans (List.prefix_append _ _)

end RecvHalf

/-! ## To the server -/

variable {ι : Type}

namespace SendHalf

variable {packet : ι → Bytes} {s s' : SendHalf ι} {taken : List Bytes}

/-- The packets `taken` went to the loop, which has written all of them but what it is writing. -/
structure Writes (packet : ι → Bytes) (s : SendHalf ι) (taken : List Bytes) : Prop where
  outbox : s.outbox.Carries (s.accepted.map packet) taken
  written : s.written ++ s.writing = taken.flatten

/-- A turn of the loop, or a part of a write. -/
def GoesOn (s s' : SendHalf ι) : Prop := s.turn = .goesOn s' ∨ ∃ n, s.write n = .goesOn s'

theorem turn_cases (h : s.turn = .goesOn s') :
    s.writing = [] ∧ ∃ writing outbox, s.outbox.recv = some (writing, outbox) ∧ s' = { s with outbox, writing } := by
  unfold turn at h
  split at h <;> cases h
  next writing outbox hidle hrecv => exact ⟨hidle, writing, outbox, hrecv, rfl⟩

theorem write_cases {n : Nat} (h : s.write n = .goesOn s') :
    s' = { s with writing := s.writing.drop n, written := s.written ++ s.writing.take n } := by
  unfold write at h
  split at h <;> cases h
  rfl

theorem Writes.goesOn (hs : s.Writes packet taken) (h : s.GoesOn s') : ∃ taken, s'.Writes packet taken := by
  rcases h with hturn | ⟨n, hwrite⟩
  · obtain ⟨hidle, writing, outbox, hrecv, rfl⟩ := turn_cases hturn
    refine ⟨taken ++ [writing], hs.outbox.recv hrecv, ?_⟩
    simpa [hidle] using hs.written
  · obtain rfl := write_cases hwrite
    refine ⟨taken, hs.outbox, ?_⟩
    rw [List.append_assoc, List.take_append_drop, hs.written]

theorem Writes.enqueue {i : ι} {outbox : Chan Bytes} (hs : s.Writes packet taken)
    (h : s.outbox.send (packet i) = some outbox) :
    Writes packet { s with outbox, accepted := s.accepted ++ [i] } taken :=
  ⟨by simpa using hs.outbox.send h, hs.written⟩

theorem Writes.isPrefix (hs : s.Writes packet taken) : s.written <+: (s.accepted.map packet).flatten := by
  rw [← hs.outbox.order, List.flatten_append, ← hs.written, List.append_assoc]
  exact List.prefix_append _ _

end SendHalf

namespace Connection

variable [DecidableEq ι] {packet : ι → Bytes} {s s' : Connection ι} {a : SocketAction ι}

/-! ## What a step can do -/

/-- The steps by what they come to. -/
inductive Moves (packet : ι → Bytes) (s : Connection ι) : SocketAction ι → Connection ι → Prop
  | check (i : ι) (hfresh : s.call i = .fresh) :
    Moves packet s (.check i) { s with call := update s.call i (if s.task = .released then .refused else .checked) }
  | enqueue (i : ι) (outbox : Chan Bytes) (hchecked : s.call i = .checked) (hrunning : s.task = .running)
      (hsend : s.sendHalf.outbox.send (packet i) = some outbox) :
    Moves packet s (.enqueue i) { s with
      sendHalf := { s.sendHalf with outbox, accepted := s.sendHalf.accepted ++ [i] }
      call := update s.call i .sent }
  | sendPanics (i : ι) (hchecked : s.call i = .checked) (hended : s.task ≠ .running) :
    Moves packet s (.enqueue i) { s with call := update s.call i .panicked }
  | recv (hidle : s.receiver = .idle) :
    Moves packet s .recv { s with receiver := if s.task = .released then .idle else .waiting }
  | take (p : Bytes) (inbox : Chan Bytes) (hwaiting : s.receiver = .waiting)
      (hrecv : s.recvHalf.inbox.recv = some (p, inbox)) :
    Moves packet s .take { s with
      recvHalf := { s.recvHalf with inbox, received := s.recvHalf.received ++ [p] }
      receiver := .idle }
  | takePanics (hwaiting : s.receiver = .waiting) (hempty : s.recvHalf.inbox.queue = []) (hended : s.task ≠ .running) :
    Moves packet s .take { s with receiver := .panicked }
  | reads (a : SocketAction ι) (recvHalf : RecvHalf) (hrunning : s.task = .running) (hgoes : s.recvHalf.GoesOn recvHalf) :
    Moves packet s a { s with recvHalf }
  | writes (a : SocketAction ι) (sendHalf : SendHalf ι) (hrunning : s.task = .running)
      (hgoes : s.sendHalf.GoesOn sendHalf) :
    Moves packet s a { s with sendHalf }
  | close (a : SocketAction ι) (hrunning : s.task = .running) : Moves packet s a s.close
  | release (hclosed : s.task = .closed) : Moves packet s .release { s with task := .released }

omit [DecidableEq ι] in
theorem loopStep_cases {α : Type} {r : LoopStep α} {goOn : α → Connection ι} (h : s.loopStep r goOn = some s') :
    s.task = .running ∧ ((∃ half, r = .goesOn half ∧ s' = goOn half) ∨ s' = s.close) := by
  unfold loopStep at h
  split at h <;> cases h
  · next half hrunning => exact ⟨hrunning, .inl ⟨half, rfl, rfl⟩⟩
  · next hrunning => exact ⟨hrunning, .inr rfl⟩

theorem moves_enqueue {i : ι} (h : s.enqueue packet i = some s') : Moves packet s (.enqueue i) s' := by
  unfold enqueue at h
  split at h
  · next hchecked hrunning =>
    obtain ⟨outbox, hsend, rfl⟩ := Option.map_eq_some_iff.mp h
    exact .enqueue i outbox hchecked hrunning hsend
  · next hchecked hrunning =>
    cases h
    exact .sendPanics i hchecked hrunning
  · cases h

omit [DecidableEq ι] in
theorem take_cases (h : s.take = some s') :
    s.receiver = .waiting ∧
      ((∃ p inbox, s.recvHalf.inbox.recv = some (p, inbox) ∧ s' = { s with
          recvHalf := { s.recvHalf with inbox, received := s.recvHalf.received ++ [p] }
          receiver := .idle }) ∨
        (s.recvHalf.inbox.queue = [] ∧ s.task ≠ .running ∧ s' = { s with receiver := .panicked })) := by
  unfold take at h
  split at h
  · next p inbox hwaiting hrecv => exact ⟨hwaiting, .inl ⟨p, inbox, hrecv, (Option.some.inj h).symm⟩⟩
  · next hwaiting hrecv =>
    split at h <;> cases h
    next hended => exact ⟨hwaiting, .inr ⟨Chan.recv_eq_none.mp hrecv, hended, rfl⟩⟩
  · cases h

theorem moves_of_step (h : step packet s a = some s') : Moves packet s a s' := by
  cases a with
  | check i =>
    simp only [step, check] at h
    split at h <;> cases h
    next hfresh => exact .check i hfresh
  | enqueue i => exact moves_enqueue h
  | recv =>
    simp only [step, recv] at h
    split at h <;> cases h
    next hidle => exact .recv hidle
  | take =>
    obtain ⟨hwaiting, ⟨p, inbox, hrecv, rfl⟩ | ⟨hempty, hended, rfl⟩⟩ := take_cases h
    · exact .take p inbox hwaiting hrecv
    · exact .takePanics hwaiting hempty hended
  | arrive bytes =>
    obtain ⟨hrunning, ⟨half, hhalf, rfl⟩ | rfl⟩ := loopStep_cases h
    · cases hhalf
      exact .reads _ _ hrunning (.inl ⟨bytes, rfl⟩)
    · exact .close _ hrunning
  | recvTurn =>
    obtain ⟨hrunning, ⟨half, hhalf, rfl⟩ | rfl⟩ := loopStep_cases h
    · exact .reads _ half hrunning (.inr hhalf)
    · exact .close _ hrunning
  | sendTurn =>
    obtain ⟨hrunning, ⟨half, hhalf, rfl⟩ | rfl⟩ := loopStep_cases h
    · exact .writes _ half hrunning (.inl hhalf)
    · exact .close _ hrunning
  | write n =>
    obtain ⟨hrunning, ⟨half, hhalf, rfl⟩ | rfl⟩ := loopStep_cases h
    · exact .writes _ half hrunning (.inr ⟨n, hhalf⟩)
    · exact .close _ hrunning
  | readFails | writeFails =>
    obtain ⟨hrunning, ⟨half, -, -⟩ | rfl⟩ := loopStep_cases h
    · exact half.elim
    · exact .close _ hrunning
  | release =>
    simp only [step] at h
    split at h <;> cases h
    next hclosed => exact .release hclosed

/-! ## Both ways -/

/-- Nothing is lost before the task ends, and then at most one packet that was read whole. -/
structure InOrder (packet : ι → Bytes) (s : Connection ι) : Prop where
  received : ∃ read delivered lost, s.recvHalf.Cut read delivered lost ∧ (s.task = .running → lost = [])
  written : s.sendHalf.written <+: (s.sendHalf.accepted.map packet).flatten
  writes : s.task = .running → ∃ taken, s.sendHalf.Writes packet taken

theorem InOrder.step (hs : s.InOrder packet) (h : step packet s a = some s') : s'.InOrder packet := by
  cases moves_of_step h with
  | check i hfresh => exact ⟨hs.received, hs.written, hs.writes⟩
  | enqueue i outbox hchecked hrunning hsend =>
    obtain ⟨taken, hwrites⟩ := hs.writes hrunning
    have hwrites := hwrites.enqueue hsend
    exact ⟨hs.received, hwrites.isPrefix, fun _ => ⟨taken, hwrites⟩⟩
  | sendPanics i hchecked hended => exact ⟨hs.received, hs.written, hs.writes⟩
  | recv hidle => exact ⟨hs.received, hs.written, hs.writes⟩
  | take p inbox hwaiting hrecv =>
    obtain ⟨read, delivered, lost, hcut, hlost⟩ := hs.received
    exact ⟨⟨read, delivered, lost, hcut.take hrecv, hlost⟩, hs.written, hs.writes⟩
  | takePanics hwaiting hempty hended => exact ⟨hs.received, hs.written, hs.writes⟩
  | reads a recvHalf hrunning hgoes =>
    obtain ⟨read, delivered, lost, hcut, hlost⟩ := hs.received
    obtain rfl := hlost hrunning
    obtain ⟨read, delivered, hcut⟩ := hcut.goesOn hgoes
    exact ⟨⟨read, delivered, [], hcut, fun _ => rfl⟩, hs.written, hs.writes⟩
  | writes a sendHalf hrunning hgoes =>
    obtain ⟨taken, hwrites⟩ := hs.writes hrunning
    obtain ⟨taken, hwrites⟩ := hwrites.goesOn hgoes
    exact ⟨hs.received, hwrites.isPrefix, fun _ => ⟨taken, hwrites⟩⟩
  | close a hrunning =>
    obtain ⟨read, delivered, lost, hcut, hlost⟩ := hs.received
    obtain rfl := hlost hrunning
    exact ⟨⟨read, delivered, _, hcut.close, nofun⟩, hs.written, nofun⟩
  | release hclosed =>
    obtain ⟨read, delivered, lost, hcut, hlost⟩ := hs.received
    exact ⟨⟨read, delivered, lost, hcut, nofun⟩, hs.written, nofun⟩

omit [DecidableEq ι] in
theorem inOrder_connect : (connect : Connection ι).InOrder packet where
  received := ⟨[], [], [], ⟨rfl, cuts_nil, Chan.carries_channel _⟩, fun _ => rfl⟩
  written := List.nil_prefix
  writes _ := ⟨[], Chan.carries_channel _, rfl⟩

theorem inOrder_run {acts : List (SocketAction ι)} (h : run (step packet) connect acts = some s) : s.InOrder packet :=
  Runs.induction (P := fun s _ => s.InOrder packet) inOrder_connect (fun _ _ _ _ hs hstep => hs.step hstep) h

/-- The calls that returned `Ok` are those in the list of them, once each. -/
structure Calls (s : Connection ι) : Prop where
  sent : ∀ i, s.call i = .sent ↔ i ∈ s.sendHalf.accepted
  nodup : s.sendHalf.accepted.Nodup

theorem Calls.step (hs : s.Calls) (h : step packet s a = some s') : s'.Calls := by
  have hother {i : ι} {c : Sending} (hi : s.call i ≠ .sent) (hc : c ≠ .sent) (j : ι) :
      update s.call i c j = .sent ↔ j ∈ s.sendHalf.accepted := by
    rw [← hs.sent, update_apply]
    split
    · next hji => simp [hc, hji, hi]
    · rfl
  cases moves_of_step h with
  | check i hfresh =>
    refine ⟨hother (by simp [hfresh]) ?_, hs.nodup⟩
    split <;> simp
  | enqueue i outbox hchecked hrunning hsend =>
    have hi : i ∉ s.sendHalf.accepted := by simp [← hs.sent, hchecked]
    refine ⟨fun j => ?_, ?_⟩
    · by_cases hji : j = i
      · simp [hji]
      · simp [hji, hs.sent]
    · exact List.nodup_append.mpr ⟨hs.nodup, List.nodup_singleton i, fun j hj k hk hjk =>
        hi (by rwa [← List.mem_singleton.mp hk, ← hjk])⟩
  | sendPanics i hchecked hended => exact ⟨hother (by simp [hchecked]) (by simp), hs.nodup⟩
  | recv hidle => exact ⟨hs.sent, hs.nodup⟩
  | take p inbox hwaiting hrecv => exact ⟨hs.sent, hs.nodup⟩
  | takePanics hwaiting hempty hended => exact ⟨hs.sent, hs.nodup⟩
  | reads a recvHalf hrunning hgoes => exact ⟨hs.sent, hs.nodup⟩
  | writes a sendHalf hrunning hgoes =>
    have haccepted : sendHalf.accepted = s.sendHalf.accepted := by
      rcases hgoes with hturn | ⟨n, hwrite⟩
      · obtain ⟨-, writing, outbox, -, rfl⟩ := SendHalf.turn_cases hturn
        rfl
      · obtain rfl := SendHalf.write_cases hwrite
        rfl
    exact ⟨fun j => by rw [haccepted]; exact hs.sent j, by rw [haccepted]; exact hs.nodup⟩
  | close a hrunning => exact ⟨hs.sent, hs.nodup⟩
  | release hclosed => exact ⟨hs.sent, hs.nodup⟩

theorem calls_run {acts : List (SocketAction ι)} (h : run (step packet) connect acts = some s) : s.Calls :=
  Runs.induction (P := fun s _ => s.Calls) ⟨by simp [connect], List.nodup_nil⟩ (fun _ _ _ _ hs hstep => hs.step hstep) h

/-- Nothing is on the way between a channel and the network. -/
structure Settled (s : Connection ι) : Prop where
  reads : s.recvHalf.reads = true
  inbox : s.recvHalf.inbox.queue = []
  outbox : s.sendHalf.outbox.queue = []
  writing : s.sendHalf.writing = []

theorem good_eq_map {frames : List Section} (h : ∀ f ∈ frames, ¬ TooLarge f.length) :
    good frames = frames.map Prefixed.toBytes := by
  rw [good, List.filter_eq_self.mpr (by simpa using h)]

theorem recvAll_frames {frames : List Section} (h : ∀ f ∈ frames, ¬ TooLarge f.length) :
    recvAll (stream frames) = frames.map Prefixed.toBytes := by
  have hskip : ∀ f ∈ frames, TooLarge f.length → Skippable f.body := fun f hf hlarge => absurd hlarge (h f hf)
  have hrun := recvAll_stream hskip []
  have hnil : recvAll [] = [] := recvAll_short (by simp)
  rwa [hnil, List.append_nil, List.append_nil, good_eq_map h] at hrun

omit [DecidableEq ι] in
theorem received_settled (hs : s.InOrder packet) (hrunning : s.task = .running) (hsettled : s.Settled) :
    s.recvHalf.received = recvAll s.recvHalf.arrived := by
  obtain ⟨read, delivered, lost, hcut, hlost⟩ := hs.received
  obtain rfl := hlost hrunning
  have hreads := hsettled.reads
  unfold RecvHalf.reads at hreads
  split at hreads
  · next hdelivering heof =>
    have hnone : recvAll s.recvHalf.unread = [] := by rw [recvAll_eq, heof]
    rw [hcut.arrived, hcut.cuts, hnone, hdelivering, ← hcut.inbox.order, hsettled.inbox]
    simp
  · cases hreads

omit [DecidableEq ι] in
theorem written_settled (hs : s.InOrder packet) (hrunning : s.task = .running) (hsettled : s.Settled) :
    s.sendHalf.written = (s.sendHalf.accepted.map packet).flatten := by
  obtain ⟨taken, hwrites⟩ := hs.writes hrunning
  have hwritten := hwrites.written
  rw [hsettled.writing, List.append_nil] at hwritten
  rw [hwritten, ← hwrites.outbox.order, hsettled.outbox, List.append_nil]

/-- **Packets stay whole and in order.** In every order of steps and however
the bytes come in pieces, the receiver gets a first part of the server's
frames, and what is written is for the server a first part of the packets
whose `send` returned, each of which is sent once. While the task runs and
nothing is on the way, both are all of them. -/
theorem exchange (frames : List Section) (x : ι → Section) (hframes : ∀ f ∈ frames, ¬ TooLarge f.length)
    (hx : ∀ i, ¬ TooLarge (x i).length) (acts : List (SocketAction ι)) (s : Connection ι)
    (h : run (step fun i => (x i).toBytes) connect acts = some s) (harrived : s.recvHalf.arrived <+: stream frames) :
    s.recvHalf.received <+: frames.map Prefixed.toBytes ∧
      recvAll s.sendHalf.written <+: s.sendHalf.accepted.map (fun i => (x i).toBytes) ∧
      s.sendHalf.accepted.Nodup ∧ (∀ i, s.call i = .sent ↔ i ∈ s.sendHalf.accepted) ∧
      (s.task = .running → s.Settled → s.recvHalf.received = recvAll s.recvHalf.arrived ∧
        recvAll s.sendHalf.written = s.sendHalf.accepted.map fun i => (x i).toBytes) := by
  have hinOrder := inOrder_run h
  have hcalls := calls_run h
  have haccepted : recvAll (s.sendHalf.accepted.map fun i => (x i).toBytes).flatten =
      s.sendHalf.accepted.map fun i => (x i).toBytes := by
    have hall : ∀ f ∈ s.sendHalf.accepted.map x, ¬ TooLarge f.length := by simp [hx]
    have hrun := recvAll_frames hall
    rwa [stream, List.flatMap_def, List.map_map] at hrun
  refine ⟨?_, ?_, hcalls.nodup, hcalls.sent, fun hrunning hsettled => ⟨?_, ?_⟩⟩
  · obtain ⟨read, delivered, lost, hcut, -⟩ := hinOrder.received
    obtain ⟨later, hlater⟩ := harrived
    rw [← recvAll_frames hframes, ← hlater]
    exact hcut.isPrefix.trans (recvAll_initial _ _)
  · obtain ⟨later, hlater⟩ := hinOrder.written
    rw [← haccepted, ← hlater]
    exact recvAll_initial _ _
  · exact received_settled hinOrder hrunning hsettled
  · rw [written_settled hinOrder hrunning hsettled, haccepted]

/-- A call sends a frame and the server's frame comes in two pieces. -/
def exchangeRun : List (SocketAction Unit) :=
  [.check (), .recv, .enqueue (), .arrive [0, 0], .sendTurn, .write 3, .write 1, .arrive [0, 4], .recvTurn, .recvTurn,
   .take]

theorem exchangeRun_end : (run (step fun _ => emptyFrame.toBytes) connect exchangeRun).map
    (fun s => (s.recvHalf.arrived, s.recvHalf.received)) = some ([0, 0, 0, 4], [[0, 0, 0, 4]]) := by
  decide

theorem exchange_frame : ∃ s : Connection Unit, s.recvHalf.received = [[0, 0, 0, 4]] ∧
    s.recvHalf.received <+: [emptyFrame].map Prefixed.toBytes := by
  obtain ⟨s, hs, hend⟩ := Option.map_eq_some_iff.mp exchangeRun_end
  obtain ⟨harrived, hreceived⟩ := Prod.mk.inj hend
  have hframe : stream [emptyFrame] = [0, 0, 0, 4] := by decide
  exact ⟨s, hreceived, (exchange [emptyFrame] (fun _ => emptyFrame) (by decide) (fun _ => by decide) exchangeRun s hs
    (hframe ▸ harrived ▸ List.prefix_refl _)).1⟩

/-! ## After the end -/

/-- What is left of `s` in a later `s'`, when the task of `s` has ended. -/
structure AfterEnd (s s' : Connection ι) : Prop where
  ended : s'.task ≠ .running
  /-- Nothing more is written, or goes into the channel. -/
  sendHalf : s'.sendHalf = s.sendHalf
  sent : ∀ i, s'.call i = .sent ↔ s.call i = .sent
  /-- A call that had looked at the token does not come back. -/
  checked : ∀ i, s.call i = .checked → s'.call i = .checked ∨ s'.call i = .panicked
  /-- The receiver gets what lies in its channel. -/
  received : s'.recvHalf.received ++ s'.recvHalf.inbox.queue = s.recvHalf.received ++ s.recvHalf.inbox.queue
  /-- Once the token is dropped a new call is refused, and only a receiver
  that was waiting by then gets anything more or panics. -/
  released : s.task = .released → s'.task = .released ∧
    (∀ i, s.call i = .fresh → s'.call i = .fresh ∨ s'.call i = .refused) ∧
    (s.receiver ≠ .waiting → s'.recvHalf = s.recvHalf ∧ s'.receiver = s.receiver)

omit [DecidableEq ι] in
theorem AfterEnd.refl (h : s.task ≠ .running) : AfterEnd s s where
  ended := h
  sendHalf := rfl
  sent _ := Iff.rfl
  checked _ := .inl
  received := rfl
  released hreleased := ⟨hreleased, fun _ => .inl, fun _ => ⟨rfl, rfl⟩⟩

theorem AfterEnd.step {s₀ : Connection ι} (hs : AfterEnd s₀ s) (h : step packet s a = some s') : AfterEnd s₀ s' := by
  have hended := hs.ended
  cases moves_of_step h with
  | check i hfresh =>
    refine { hs with sent := fun j => ?_, checked := fun j hj => ?_, released := fun hreleased => ?_ }
    · rw [← hs.sent]
      by_cases hji : j = i
      · subst hji
        simp only [Function.update_self, hfresh, reduceCtorEq, iff_false]
        split <;> simp
      · simp [hji]
    · by_cases hji : j = i
      · subst hji
        exact absurd (hs.checked j hj) (by simp [hfresh])
      · simpa [hji] using hs.checked j hj
    · obtain ⟨htask, hcalls, hrecv⟩ := hs.released hreleased
      refine ⟨htask, fun j hj => ?_, hrecv⟩
      by_cases hji : j = i
      · simp [hji, htask]
      · simpa [hji] using hcalls j hj
  | enqueue i outbox hchecked hrunning hsend => exact absurd hrunning hended
  | sendPanics i hchecked hended =>
    refine { hs with sent := fun j => ?_, checked := fun j hj => ?_, released := fun hreleased => ?_ }
    · rw [← hs.sent]
      by_cases hji : j = i
      · simp [hji, hchecked]
      · simp [hji]
    · by_cases hji : j = i
      · simp [hji]
      · simpa [hji] using hs.checked j hj
    · obtain ⟨htask, hcalls, hrecv⟩ := hs.released hreleased
      refine ⟨htask, fun j hj => ?_, hrecv⟩
      by_cases hji : j = i
      · exact absurd (hcalls j hj) (by simp [hji, hchecked])
      · simpa [hji] using hcalls j hj
  | recv hidle =>
    refine { hs with released := fun hreleased => ?_ }
    obtain ⟨htask, hcalls, hrecv⟩ := hs.released hreleased
    refine ⟨htask, hcalls, fun hwaiting => ⟨(hrecv hwaiting).1, ?_⟩⟩
    simp [htask, ← (hrecv hwaiting).2, hidle]
  | take p inbox hwaiting hrecv =>
    obtain ⟨hqueue, -⟩ := Chan.recv_eq_some.mp hrecv
    refine { hs with received := ?_, released := fun hreleased => ?_ }
    · rw [← hs.received, hqueue, List.append_assoc, List.singleton_append]
    · obtain ⟨htask, hcalls, hrecv⟩ := hs.released hreleased
      exact ⟨htask, hcalls, fun hne => absurd ((hrecv hne).2.symm.trans hwaiting) hne⟩
  | takePanics hwaiting hempty hended =>
    refine { hs with released := fun hreleased => ?_ }
    obtain ⟨htask, hcalls, hrecv⟩ := hs.released hreleased
    exact ⟨htask, hcalls, fun hne => absurd ((hrecv hne).2.symm.trans hwaiting) hne⟩
  | reads a recvHalf hrunning hgoes => exact absurd hrunning hended
  | writes a sendHalf hrunning hgoes => exact absurd hrunning hended
  | close a hrunning => exact absurd hrunning hended
  | release hclosed =>
    refine { hs with ended := by simp, released := fun hreleased => ?_ }
    exact ⟨rfl, (hs.released hreleased).2⟩

/-- **What a failure leaves.** When a loop has failed, then in every order of
the steps that follow nothing more is written, no call of `send` that looked
at the token comes back, and the receiver gets no more than what lies in
its channel. Once the token is dropped it gets nothing of that any more
unless it was waiting. -/
theorem afterEnd_run (packet : ι → Bytes) (acts : List (SocketAction ι)) (s s' : Connection ι)
    (hended : s.task ≠ .running) (h : run (step packet) s acts = some s') : AfterEnd s s' :=
  Runs.induction (P := fun s' _ => AfterEnd s s') (.refl hended) (fun _ _ _ _ hs hstep => hs.step hstep) h

/-- A whole packet came before the stream ended, and was not taken. -/
def abandoned : Connection Unit where
  task := .released
  recvHalf :=
    { arrived := [0, 0, 0, 4]
      unread := []
      delivering := none
      inbox := { capacity := CHANNEL_SIZE, queue := [[0, 0, 0, 4]] }
      received := [] }
  sendHalf := { accepted := [], outbox := channel CHANNEL_SIZE, writing := [], written := [] }
  call _ := .fresh
  receiver := .idle

example : run (step fun _ => []) connect [.arrive [0, 0, 0, 4], .recvTurn, .recvTurn, .readFails,
    .release] = some abandoned := by
  rfl

/-- The packet stays where it is. -/
theorem afterEnd_abandoned : AfterEnd abandoned abandoned :=
  afterEnd_run (fun _ => []) [.recv, .recv, .recv] abandoned abandoned nofun rfl

end Connection

end Mania
