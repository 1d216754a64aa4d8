/-
A watch channel, which keeps the last value sent and a version that moves
with every send, and a reader of one: it waits for the version to move from
the one it has seen, then reads what is there by then.

What the reader reads is not what was sent. A value sent before the reader
got to the one before it takes its place; a value sent after the reader
woke and before it reads is read again at the next turn. `Phase` says how
far the reads are from the sends after any run.
-/
import Mathlib.Data.List.Basic
import Mania.Lib.Runs

namespace Watch

structure Sender (α : Type) where
  value : α
  version : Nat

structure Receiver where
  seen : Nat

variable {α : Type}

def channel (value : α) : Sender α := { value, version := 0 }

namespace Sender

def send (tx : Sender α) (value : α) : Sender α := { value, version := tx.version + 1 }

/-- A new receiver has seen the value that is there. -/
def subscribe (tx : Sender α) : Receiver := { seen := tx.version }

end Sender

namespace Receiver

/-- `none` while the version has not moved. -/
def changed (rx : Receiver) (tx : Sender α) : Option Receiver :=
  if rx.seen = tx.version then none else some { seen := tx.version }

/-- `borrow` does not mark the value as seen. -/
def borrow (_ : Receiver) (tx : Sender α) : α := tx.value

end Receiver

/-! ## A reader in a loop -/

structure Reader (α : Type) where
  tx : Sender α
  rx : Receiver
  awake : Bool
  read : List α

inductive Act (α : Type) where
  | send (a : α)
  | wake
  | read

namespace Reader

open Runs

def start (tx : Sender α) : Reader α := { tx, rx := tx.subscribe, awake := false, read := [] }

def step (s : Reader α) : Act α → Option (Reader α)
  | .send a => some { s with tx := s.tx.send a }
  | .wake => if s.awake then none else (s.rx.changed s.tx).map fun rx => { s with rx, awake := true }
  | .read => if s.awake then some { s with awake := false, read := s.read ++ [s.rx.borrow s.tx] } else none

/-- Nothing to wake for and nothing left to read. -/
def CaughtUp (s : Reader α) : Prop := s.awake = false ∧ s.rx.seen = s.tx.version

def sentBy : Act α → Option α
  | .send a => some a
  | _ => none

def sent (acts : List (Act α)) : List α := acts.filterMap sentBy

/-- Every value twice. -/
def twice (as : List α) : List α := as.flatMap fun a => [a, a]

/-- Every send finds the reader caught up. -/
def Calm (s₀ : Reader α) (acts : List (Act α)) : Prop :=
  ∀ before a after, acts = before ++ .send a :: after → ∀ s, run step s₀ before = some s → s.CaughtUp

variable {s s' : Reader α} {acts : List (Act α)} {act : Act α} {tx : Sender α}

@[simp] theorem sent_nil : sent ([] : List (Act α)) = [] := rfl

@[simp] theorem sent_concat_send (a : α) : sent (acts ++ [.send a]) = sent acts ++ [a] := by
  simp [sent, sentBy]

@[simp] theorem sent_concat_wake : sent (acts ++ [.wake]) = sent acts := by simp [sent, sentBy]

@[simp] theorem sent_concat_read : sent (acts ++ [.read]) = sent acts := by simp [sent, sentBy]

theorem twice_concat (as : List α) (a : α) : twice (as ++ [a]) = twice as ++ [a] ++ [a] := by simp [twice]

theorem Calm.of_concat {s₀ : Reader α} (h : Calm s₀ (acts ++ [act])) : Calm s₀ acts := by
  intro before a after hsplit
  exact h before a (after ++ [act]) (by rw [hsplit, List.append_assoc, List.cons_append])

theorem Calm.concat {s₀ : Reader α} (h : Calm s₀ acts) (hrun : run step s₀ acts = some s)
    (hact : ∀ a, act = .send a → s.CaughtUp) : Calm s₀ (acts ++ [act]) := by
  intro before a after hsplit s' hs'
  rcases List.eq_nil_or_concat' after with rfl | ⟨after, last, rfl⟩
  · obtain ⟨rfl, heq⟩ := List.append_inj' hsplit rfl
    rw [hrun] at hs'
    cases hs'
    exact hact a (List.singleton_inj.mp heq)
  · rw [← List.cons_append, ← List.append_assoc] at hsplit
    exact h before a after (List.append_inj' hsplit rfl).1 s' hs'

/-! ## What a step can do -/

theorem step_cases (h : step s act = some s') :
    (∃ a, act = .send a ∧ s' = { s with tx := s.tx.send a }) ∨
    (act = .wake ∧ s.awake = false ∧ s.rx.seen ≠ s.tx.version ∧
      s' = { s with rx := { seen := s.tx.version }, awake := true }) ∨
    (act = .read ∧ s.awake = true ∧ s' = { s with awake := false, read := s.read ++ [s.tx.value] }) := by
  cases act with
  | send a => exact .inl ⟨a, rfl, (Option.some.inj h).symm⟩
  | wake =>
    simp only [step, Receiver.changed] at h
    split at h
    · cases h
    · next hawake =>
      split at h
      · cases h
      · next hseen => exact .inr (.inl ⟨rfl, by simpa using hawake, hseen, (Option.some.inj h).symm⟩)
  | read =>
    simp only [step] at h
    split at h
    · next hawake => exact .inr (.inr ⟨rfl, hawake, (Option.some.inj h).symm⟩)
    · cases h

/-- Where the reader is. A value that was sent last is `unread` from when it
is sent until the reader, awake for it, has read it; if the reader was
awake for an earlier value, it is `early`. -/
inductive Phase (sent : List α) (s : Reader α) : Prop
  | caughtUp (hcaught : s.CaughtUp) (hread : s.read.Sublist (twice sent)) (hlast : s.read.getLast? = sent.getLast?)
  | unread (earlier : List α) (hsent : sent = earlier ++ [s.tx.value])
      (hread : s.read.Sublist (twice earlier ++ [s.tx.value]))
      (hseen : s.rx.seen ≤ s.tx.version) (hawake : s.awake = true ↔ s.rx.seen = s.tx.version)
  | early (earlier : List α) (hsent : sent = earlier ++ [s.tx.value]) (hread : s.read.Sublist (twice earlier))
      (hseen : s.rx.seen < s.tx.version) (hawake : s.awake = true)

theorem Phase.step {acts : List (Act α)} (hp : Phase (sent acts) s) (h : step s act = some s') :
    Phase (sent (acts ++ [act])) s' := by
  obtain ⟨a, rfl, rfl⟩ | ⟨rfl, hasleep, hne, rfl⟩ | ⟨rfl, hawake, rfl⟩ := step_cases h
  · -- whatever was sent before is `earlier` now
    rw [sent_concat_send]
    cases hp with
    | caughtUp hcaught hread hlast =>
      refine .unread (sent acts) rfl (hread.trans (List.sublist_append_left _ _)) ?_ ?_
      · exact hcaught.2 ▸ Nat.le_succ _
      · simp [hcaught.1, hcaught.2, Sender.send]
    | unread earlier hsent hread hseen hawake =>
      have hread' : s.read.Sublist (twice (sent acts)) := by
        rw [hsent, twice_concat]
        exact hread.trans (List.sublist_append_left _ _)
      cases hs : s.awake with
      | false =>
        refine .unread (sent acts) rfl (hread'.trans (List.sublist_append_left _ _)) (Nat.le_succ_of_le hseen) ?_
        simp [Sender.send]
        omega
      | true => exact .early (sent acts) rfl hread' (Nat.lt_succ_of_le hseen) rfl
    | early earlier hsent hread hseen hawake =>
      refine .early (sent acts) rfl ?_ (Nat.lt_succ_of_lt hseen) hawake
      rw [hsent, twice_concat, List.append_assoc]
      exact hread.trans (List.sublist_append_left _ _)
  · rw [sent_concat_wake]
    cases hp with
    | caughtUp hcaught hread hlast => exact absurd hcaught.2 hne
    | unread earlier hsent hread hseen hawake => exact .unread earlier hsent hread (Nat.le_refl _) (by simp)
    | early earlier hsent hread hseen hawake => simp [hasleep] at hawake
  · rw [sent_concat_read]
    cases hp with
    | caughtUp hcaught hread hlast => simp [hcaught.1] at hawake
    | unread earlier hsent hread hseen hstate =>
      refine .caughtUp ⟨rfl, hstate.mp hawake⟩ ?_ ?_
      · rw [hsent, twice_concat]
        exact hread.append (List.Sublist.refl _)
      · simp [hsent]
    | early earlier hsent hread hseen _ =>
      refine .unread earlier hsent (hread.append (List.Sublist.refl _)) (Nat.le_of_lt hseen) ?_
      simp
      omega

theorem phase_run (h : run step (start tx) acts = some s) : Phase (sent acts) s :=
  Runs.induction (P := fun s acts => Phase (sent acts) s)
    (.caughtUp ⟨rfl, rfl⟩ (List.nil_sublist _) rfl) (fun _ _ _ _ hp hstep => hp.step hstep) h

/-- The reads are some of the values sent, in order, each at most twice. -/
theorem read_sublist (h : run step (start tx) acts = some s) : s.read.Sublist (twice (sent acts)) := by
  cases phase_run h with
  | caughtUp _ hread _ => exact hread
  | unread earlier hsent hread _ _ =>
    rw [hsent, twice_concat]
    exact hread.trans (List.sublist_append_left _ _)
  | early earlier hsent hread _ _ =>
    rw [hsent, twice_concat, List.append_assoc]
    exact hread.trans (List.sublist_append_left _ _)

/-- A reader that has caught up has read the last value. -/
theorem read_getLast (h : run step (start tx) acts = some s) (hc : s.CaughtUp) :
    s.read.getLast? = (sent acts).getLast? := by
  cases phase_run h with
  | caughtUp _ _ hlast => exact hlast
  | unread _ _ _ _ hawake => simp [hc.1, hc.2] at hawake
  | early _ _ _ _ hawake => simp [hc.1] at hawake

/-! ## Runs in which nothing is lost -/

/-- Between calm sends, all but the last value are read. -/
inductive CalmPhase (sent : List α) (s : Reader α) : Prop
  | caughtUp (hcaught : s.CaughtUp) (hread : s.read = sent)
  | unread (hsent : sent = s.read ++ [s.tx.value]) (hawake : s.awake = true ↔ s.rx.seen = s.tx.version)

theorem CalmPhase.step {acts : List (Act α)} (hp : CalmPhase (sent acts) s) (h : step s act = some s')
    (hcalm : ∀ a, act = .send a → s.CaughtUp) : CalmPhase (sent (acts ++ [act])) s' := by
  obtain ⟨a, rfl, rfl⟩ | ⟨rfl, hasleep, hne, rfl⟩ | ⟨rfl, hawake, rfl⟩ := step_cases h
  · have hc := hcalm a rfl
    rw [sent_concat_send]
    cases hp with
    | caughtUp hcaught hread => exact .unread (by rw [hread]; rfl) (by simp [hcaught.1, hcaught.2, Sender.send])
    | unread hsent hawake => simp [hc.1, hc.2] at hawake
  · rw [sent_concat_wake]
    cases hp with
    | caughtUp hcaught hread => exact absurd hcaught.2 hne
    | unread hsent hawake => exact .unread hsent (by simp)
  · rw [sent_concat_read]
    cases hp with
    | caughtUp hcaught hread => simp [hcaught.1] at hawake
    | unread hsent hstate => exact .caughtUp ⟨rfl, hstate.mp hawake⟩ hsent.symm

theorem calmPhase_run (h : run step (start tx) acts = some s) (hcalm : Calm (start tx) acts) :
    CalmPhase (sent acts) s := by
  induction acts using List.reverseRecOn generalizing s with
  | nil =>
    cases h
    exact .caughtUp ⟨rfl, rfl⟩ rfl
  | append_singleton acts act ih =>
    obtain ⟨mid, hmid, hstep⟩ := run_concat_eq_some.mp h
    refine (ih hmid hcalm.of_concat).step hstep ?_
    rintro a rfl
    exact hcalm acts a [] rfl mid hmid

/-- After calm sends, a reader that has caught up has read every value once. -/
theorem read_eq_sent (h : run step (start tx) acts = some s) (hcalm : Calm (start tx) acts) (hc : s.CaughtUp) :
    s.read = sent acts := by
  cases calmPhase_run h hcalm with
  | caughtUp _ hread => exact hread
  | unread _ hawake => simp [hc.1, hc.2] at hawake

/-- A value that is overwritten unread stays lost. -/
def Lost (a : α) (s : Reader α) : Prop := a ∉ s.read ∧ s.tx.value ≠ a

theorem Lost.step {a : α} (hlost : Lost a s) (h : step s act = some s') (hnew : act ≠ .send a) : Lost a s' := by
  obtain ⟨b, rfl, rfl⟩ | ⟨rfl, hasleep, hne, rfl⟩ | ⟨rfl, hawake, rfl⟩ := step_cases h
  · exact ⟨hlost.1, fun heq => hnew (congrArg Act.send heq)⟩
  · exact hlost
  · refine ⟨?_, hlost.2⟩
    simp only [List.mem_append, List.mem_singleton, not_or]
    exact ⟨hlost.1, Ne.symm hlost.2⟩

/-- If the values are different, a send that is not calm loses one. -/
theorem calm_or_lost (h : run step (start tx) acts = some s) (hnodup : (sent acts).Nodup) :
    Calm (start tx) acts ∨ ∃ a ∈ sent acts, Lost a s := by
  induction acts using List.reverseRecOn generalizing s with
  | nil => exact .inl fun before a after hsplit => by simp at hsplit
  | append_singleton acts act ih =>
    obtain ⟨mid, hmid, hstep⟩ := run_concat_eq_some.mp h
    have hprefix : (sent acts).Sublist (sent (acts ++ [act])) := (List.sublist_append_left _ _).filterMap _
    rcases ih hmid (hnodup.sublist hprefix) with hcalm | ⟨a, ha, hlost⟩
    · by_cases hact : ∀ a, act = .send a → mid.CaughtUp
      · exact .inl (hcalm.concat hmid hact)
      · obtain ⟨b, rfl, hmissed⟩ : ∃ b, act = .send b ∧ ¬ mid.CaughtUp := by simpa using hact
        cases calmPhase_run hmid hcalm with
        | caughtUp hcaught hread => exact absurd hcaught hmissed
        | unread hsent hawake =>
          rw [sent_concat_send, hsent] at hnodup
          cases hstep
          refine .inr ⟨mid.tx.value, hprefix.subset (by simp [hsent]), ?_, ?_⟩ <;> grind [Sender.send]
    · refine .inr ⟨a, hprefix.subset ha, hlost.step hstep ?_⟩
      rintro rfl
      rw [sent_concat_send, List.nodup_append] at hnodup
      exact hnodup.2.2 a ha a (List.mem_singleton_self a) rfl

theorem calm_of_read_eq_sent (h : run step (start tx) acts = some s) (hnodup : (sent acts).Nodup)
    (hread : s.read = sent acts) : Calm (start tx) acts := by
  rcases calm_or_lost h hnodup with hcalm | ⟨a, ha, hlost⟩
  · exact hcalm
  · exact absurd (hread ▸ ha) hlost.1

end Reader

end Watch
