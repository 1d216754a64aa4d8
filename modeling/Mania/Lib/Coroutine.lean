/-
Coroutines on a shared state. A coroutine makes one atomic call at a time
and goes on with the answer, and between two of its calls the others can
make any number of theirs.

What it found out holds later only if the calls of the others keep it.
`Rely` is what every allowed call keeps, and `Meets` what a coroutine comes
to when nothing else is known of the others. In a pool in which each
coroutine meets its own specification, all of them do (`Pool.meets_run`),
and in no order do they take turns forever (`Pool.turned_wellFounded`).
-/
import Mathlib.Data.List.GetD
import Mathlib.Logic.Hydra
import Mania.Lib.Runs

/-- `Answer c` is what the call `c` answers. An event is told in order, and
to nobody in particular. -/
inductive Coroutine {Call : Type} (Answer : Call → Type) (Event : Type) (α : Type) where
  | done (a : α)
  | panicked
  | emit (event : Event) (rest : Coroutine Answer Event α)
  | call (c : Call) (next : Answer c → Coroutine Answer Event α)

namespace Coroutine

variable {Call : Type} {Answer : Call → Type} {Event α β σ : Type}

def bind : Coroutine Answer Event α → (α → Coroutine Answer Event β) → Coroutine Answer Event β
  | done a, f => f a
  | panicked, _ => panicked
  | emit event rest, f => emit event (rest.bind f)
  | call c next, f => call c fun r => (next r).bind f

instance : Monad (Coroutine Answer Event) where
  pure := done
  bind := bind

def ask (c : Call) : Coroutine Answer Event (Answer c) := call c done

def tell (event : Event) : Coroutine Answer Event Unit := emit event (done ())

@[simp] theorem pure_eq (a : α) : (pure a : Coroutine Answer Event α) = done a := rfl
@[simp] theorem done_bind (a : α) (f : α → Coroutine Answer Event β) : (done a >>= f) = f a := rfl
@[simp] theorem panicked_bind (f : α → Coroutine Answer Event β) : (panicked >>= f) = panicked := rfl
@[simp] theorem ask_bind (c : Call) (f : Answer c → Coroutine Answer Event β) : (ask c >>= f) = call c f := rfl
@[simp] theorem tell_bind (event : Event) (f : Unit → Coroutine Answer Event β) :
    (tell event >>= f) = emit event (f ()) := rfl

theorem bind_done (t : Coroutine Answer Event α) : t.bind done = t := by
  induction t with
  | done a => rfl
  | panicked => rfl
  | emit event rest ih => rw [bind, ih]
  | call c next ih => exact congrArg (call c) (funext ih)

theorem bind_assoc {γ : Type} (t : Coroutine Answer Event α) (f : α → Coroutine Answer Event β)
    (g : β → Coroutine Answer Event γ) : (t.bind f).bind g = t.bind fun a => (f a).bind g := by
  induction t with
  | done a => rfl
  | panicked => rfl
  | emit event rest ih => exact congrArg (emit event) ih
  | call c next ih => exact congrArg (call c) (funext ih)

instance : LawfulMonad (Coroutine Answer Event) :=
  LawfulMonad.mk' _ bind_done (fun _ _ => rfl) bind_assoc

/-! ## One coroutine alone -/

/-- Run it to its end with no call in between: what it came to, unless it
panicked, what it told, and the state it leaves. -/
def alone (exec : (c : Call) → σ → Answer c × σ) : Coroutine Answer Event α → σ → Option α × List Event × σ
  | done a, s => (some a, [], s)
  | panicked, s => (none, [], s)
  | emit event rest, s =>
    let (a, events, s') := rest.alone exec s
    (a, event :: events, s')
  | call c next, s =>
    let (r, s') := exec c s
    (next r).alone exec s'

variable {exec : (c : Call) → σ → Answer c × σ}

/-- One that ends hands over to what follows it. -/
theorem alone_bind {t : Coroutine Answer Event α} {s s' : σ} {a : α} {events : List Event}
    (h : t.alone exec s = (some a, events, s')) (f : α → Coroutine Answer Event β) :
    (t >>= f).alone exec s =
      (((f a).alone exec s').1, events ++ ((f a).alone exec s').2.1, ((f a).alone exec s').2.2) := by
  induction t generalizing s events with
  | done a =>
    cases h
    rfl
  | panicked => cases h
  | emit event rest ih =>
    rcases hrest : rest.alone exec s with ⟨a', told, s''⟩
    simp only [alone, hrest] at h
    cases h
    show (((rest >>= f).alone exec s).1, event :: ((rest >>= f).alone exec s).2.1, ((rest >>= f).alone exec s).2.2) = _
    rw [ih hrest]
    rfl
  | call c next ih => exact ih _ h

/-- The same of one that tells nothing. -/
theorem alone_bind_nil {t : Coroutine Answer Event α} {s s' : σ} {a : α} (h : t.alone exec s = (some a, [], s'))
    (f : α → Coroutine Answer Event β) : (t >>= f).alone exec s = (f a).alone exec s' := alone_bind h f

/-! ## What a coroutine comes to -/

/-- What is relied on between two calls, and which calls keep it. -/
structure Rely (exec : (c : Call) → σ → Answer c × σ) where
  rel : σ → σ → Prop
  allowed : Call → Prop
  refl : ∀ s, rel s s
  trans : ∀ {s₁ s₂ s₃}, rel s₁ s₂ → rel s₂ s₃ → rel s₁ s₃
  exec_rel : ∀ {c} s, allowed c → rel s (exec c s).2

namespace Rely

variable (R : Rely exec)

/-- From `s` on, and having told `events`, the coroutine makes allowed calls
only, what it has told satisfies `during` all the time, it panics only if
`panics`, and if it ends, `after` holds of its result. -/
def Meets (panics : Prop) (during : List Event → Prop) (after : α → List Event → σ → Prop) :
    Coroutine Answer Event α → List Event → σ → Prop
  | done a, events, s => during events ∧ ∀ s', R.rel s s' → after a events s'
  | panicked, events, _ => during events ∧ panics
  | emit event rest, events, s => during events ∧ Meets panics during after rest (events ++ [event]) s
  | call c next, events, s => during events ∧ R.allowed c ∧
      ∀ s', R.rel s s' → Meets panics during after (next (exec c s').1) events (exec c s').2

variable {R} {panics : Prop} {during : List Event → Prop} {after : α → List Event → σ → Prop}
  {t : Coroutine Answer Event α} {events : List Event} {s s' : σ}

theorem Meets.sofar (h : R.Meets panics during after t events s) : during events := by
  cases t <;> exact h.1

/-- Calls of the others do no harm. -/
theorem Meets.stable (h : R.Meets panics during after t events s) (hrel : R.rel s s') :
    R.Meets panics during after t events s' := by
  induction t generalizing events with
  | done a => exact ⟨h.1, fun s'' hs'' => h.2 s'' (R.trans hrel hs'')⟩
  | panicked => exact h
  | emit event rest ih => exact ⟨h.1, ih h.2⟩
  | call c next ih => exact ⟨h.1, h.2.1, fun s'' hs'' => h.2.2 s'' (R.trans hrel hs'')⟩

theorem Meets.mono {panics' : Prop} {during' : List Event → Prop} {after' : α → List Event → σ → Prop}
    (h : R.Meets panics during after t events s) (hpanics : panics → panics')
    (hduring : ∀ events, during events → during' events)
    (hafter : ∀ a events s, after a events s → after' a events s) : R.Meets panics' during' after' t events s := by
  induction t generalizing events s with
  | done a => exact ⟨hduring _ h.1, fun s' hs' => hafter _ _ _ (h.2 s' hs')⟩
  | panicked => exact ⟨hduring _ h.1, hpanics h.2⟩
  | emit event rest ih => exact ⟨hduring _ h.1, ih h.2⟩
  | call c next ih => exact ⟨hduring _ h.1, h.2.1, fun s' hs' => ih _ (h.2.2 s' hs')⟩

/-- **What follows a coroutine** starts from what the coroutine ends in. -/
theorem Meets.bind {after' : β → List Event → σ → Prop} {f : α → Coroutine Answer Event β}
    (h : R.Meets panics during after t events s)
    (hf : ∀ a events s, after a events s → R.Meets panics during after' (f a) events s) :
    R.Meets panics during after' (t >>= f) events s := by
  induction t generalizing events s with
  | done a => exact hf _ _ _ (h.2 s (R.refl s))
  | panicked => exact h
  | emit event rest ih => exact ⟨h.1, ih h.2⟩
  | call c next ih => exact ⟨h.1, h.2.1, fun s' hs' => ih _ (h.2.2 s' hs')⟩

/-- What every call keeps holds at the end if it held at the start. -/
theorem Meets.carry {P : σ → Prop} (h : R.Meets panics during after t events s)
    (hP : ∀ s s', R.rel s s' → P s → P s') (hs : P s) :
    R.Meets panics during (fun a events s => after a events s ∧ P s) t events s := by
  induction t generalizing events s with
  | done a => exact ⟨h.1, fun s' hs' => ⟨h.2 s' hs', hP s s' hs' hs⟩⟩
  | panicked => exact h
  | emit event rest ih => exact ⟨h.1, ih h.2 hs⟩
  | call c next ih =>
    refine ⟨h.1, h.2.1, fun s' hs' => ih _ (h.2.2 s' hs') ?_⟩
    exact hP _ _ (R.trans hs' (R.exec_rel s' h.2.1)) hs

/-- The coroutine tells nothing, and ends in `after`. -/
def Finds (R : Rely exec) (panics : Prop) (after : α → σ → Prop) (t : Coroutine Answer Event α) (s : σ) : Prop :=
  ∀ during events, during events → R.Meets panics during (fun a events' s' => events' = events ∧ after a s') t events s

namespace Finds

variable {after : α → σ → Prop} {after' : β → σ → Prop} {f : α → Coroutine Answer Event β}

theorem done {a : α} (h : ∀ s', R.rel s s' → after a s') : R.Finds panics after (.done a : Coroutine Answer Event α) s :=
  fun _ _ hduring => ⟨hduring, fun s' hs' => ⟨rfl, h s' hs'⟩⟩

theorem call {c : Call} {next : Answer c → Coroutine Answer Event α} (hallowed : R.allowed c)
    (h : ∀ s', R.rel s s' → R.Finds panics after (next (exec c s').1) (exec c s').2) :
    R.Finds panics after (.call c next) s :=
  fun during events hduring => ⟨hduring, hallowed, fun s' hs' => h s' hs' during events hduring⟩

theorem stable (h : R.Finds panics after t s) (hrel : R.rel s s') : R.Finds panics after t s' :=
  fun during events hduring => (h during events hduring).stable hrel

theorem mono {after' : α → σ → Prop} (h : R.Finds panics after t s) (hafter : ∀ a s, after a s → after' a s) :
    R.Finds panics after' t s :=
  fun during events hduring => (h during events hduring).mono id (fun _ h => h) fun a _ s h => ⟨h.1, hafter a s h.2⟩

theorem weaken {panics' : Prop} (h : R.Finds panics after t s) (hpanics : panics → panics') : R.Finds panics' after t s :=
  fun during events hduring => (h during events hduring).mono hpanics (fun _ h => h) fun _ _ _ h => h

theorem bind (h : R.Finds panics after t s) (hf : ∀ a s, after a s → R.Finds panics after' (f a) s) :
    R.Finds panics after' (t >>= f) s :=
  fun during events hduring => (h during events hduring).bind fun a _ s' hafter =>
    hafter.1 ▸ hf a s' hafter.2 during events hduring

theorem carry {P : σ → Prop} (h : R.Finds panics after t s) (hP : ∀ s s', R.rel s s' → P s → P s') (hs : P s) :
    R.Finds panics (fun a s => after a s ∧ P s) t s :=
  fun during events hduring =>
    ((h during events hduring).carry hP hs).mono id (fun _ h => h) fun _ _ _ h => and_assoc.mp h

theorem map {g : α → β} {P : β → Prop} (h : R.Finds panics after t s) (hg : ∀ a s, after a s → P (g a)) :
    R.Finds panics (fun b _ => P b) (g <$> t) s :=
  h.bind fun a s ha => .done fun _ _ => hg a s ha

/-- After a coroutine that tells nothing. -/
theorem meets_bind {after' : β → List Event → σ → Prop} (h : R.Finds panics after t s) (hduring : during events)
    (hf : ∀ a s, after a s → R.Meets panics during after' (f a) events s) :
    R.Meets panics during after' (t >>= f) events s :=
  (h during events hduring).bind fun a _ s' hafter => hafter.1 ▸ hf a s' hafter.2

end Finds

end Rely

/-! ## A pool -/

/-- The coroutines that were started, in order, and what each told. -/
structure Pool {Call : Type} (Answer : Call → Type) (Event α σ : Type) where
  shared : σ
  routines : List (Coroutine Answer Event α)
  told : List (ℕ × Event)

inductive PoolAction (ι : Type) where
  | spawn (x : ι)
  | turn (i : ℕ)

namespace Pool

open Runs

variable {ι : Type}

/-- Start one, or let one make its next call or tell its next event. -/
def step (exec : (c : Call) → σ → Answer c × σ) (script : ι → Coroutine Answer Event α) (p : Pool Answer Event α σ) :
    PoolAction ι → Option (Pool Answer Event α σ)
  | .spawn x => some { p with routines := p.routines ++ [script x] }
  | .turn i =>
    match p.routines[i]? with
    | some (.call c next) =>
      let (r, shared) := exec c p.shared
      some { p with shared, routines := p.routines.set i (next r) }
    | some (.emit event rest) => some { p with routines := p.routines.set i rest, told := p.told ++ [(i, event)] }
    | _ => none

def new (s : σ) : Pool Answer Event α σ := { shared := s, routines := [], told := [] }

/-- What one of them told. -/
def toldBy (p : Pool Answer Event α σ) (i : ℕ) : List Event :=
  p.told.filterMap fun e => if e.1 = i then some e.2 else none

/-- What was started, in order. -/
def spawned (acts : List (PoolAction ι)) : List ι :=
  acts.filterMap fun
    | .spawn x => some x
    | .turn _ => none

variable {script : ι → Coroutine Answer Event α} {p p' : Pool Answer Event α σ} {s : σ}

/-- What a step does. -/
inductive Moves (exec : (c : Call) → σ → Answer c × σ) (script : ι → Coroutine Answer Event α)
    (p : Pool Answer Event α σ) : PoolAction ι → Pool Answer Event α σ → Prop
  | spawn (x : ι) : Moves exec script p (.spawn x) { p with routines := p.routines ++ [script x] }
  | call (i : ℕ) (c : Call) (next : Answer c → Coroutine Answer Event α) (h : p.routines[i]? = some (.call c next)) :
    Moves exec script p (.turn i) { p with
      shared := (exec c p.shared).2
      routines := p.routines.set i (next (exec c p.shared).1) }
  | emit (i : ℕ) (event : Event) (rest : Coroutine Answer Event α) (h : p.routines[i]? = some (.emit event rest)) :
    Moves exec script p (.turn i) { p with routines := p.routines.set i rest, told := p.told ++ [(i, event)] }

theorem moves_of_step {a : PoolAction ι} (h : step exec script p a = some p') : Moves exec script p a p' := by
  cases a with
  | spawn x =>
    cases h
    exact .spawn x
  | turn i =>
    simp only [step] at h
    split at h
    · next c next hcall =>
      cases h
      exact .call i c next hcall
    · next event rest hemit =>
      cases h
      exact .emit i event rest hemit
    · cases h

/-- Each coroutine still meets the specification of what it was started for. -/
structure Keeps (R : Rely exec) (panics : ι → Prop) (during : ι → List Event → Prop)
    (after : ι → α → List Event → σ → Prop) (s₀ : σ) (xs : List ι) (p : Pool Answer Event α σ) : Prop where
  rel : R.rel s₀ p.shared
  length : p.routines.length = xs.length
  told_lt : ∀ e ∈ p.told, e.1 < p.routines.length
  meets : ∀ i x t, xs[i]? = some x → p.routines[i]? = some t →
    R.Meets (panics x) (during x) (after x) t (p.toldBy i) p.shared

variable {R : Rely exec} {panics : ι → Prop} {during : ι → List Event → Prop}
  {after : ι → α → List Event → σ → Prop} {s₀ : σ} {xs : List ι}

theorem Keeps.spawn (h : Keeps R panics during after s₀ xs p) {x : ι}
    (hscript : R.Meets (panics x) (during x) (after x) (script x) [] p.shared) :
    Keeps R panics during after s₀ (xs ++ [x]) { p with routines := p.routines ++ [script x] } where
  rel := h.rel
  length := by simp [h.length]
  told_lt e he := by
    have hlt := h.told_lt e he
    rw [List.length_append]
    omega
  meets i y t hy ht := by
    rcases Nat.lt_or_ge i xs.length with hlt | hge
    · rw [List.getElem?_append_left hlt] at hy
      rw [List.getElem?_append_left (h.length ▸ hlt)] at ht
      exact h.meets i y t hy ht
    · rw [List.getElem?_append_right hge] at hy
      rw [List.getElem?_append_right (h.length ▸ hge)] at ht
      have hi : i - xs.length = 0 := Nat.lt_one_iff.mp (List.getElem?_eq_some_iff.mp hy).1
      rw [hi] at hy
      rw [h.length, hi] at ht
      cases hy
      cases ht
      -- nobody had this number before
      have hnone : p.toldBy i = [] := by
        rw [toldBy, List.filterMap_eq_nil_iff]
        intro e he
        have hlt := h.told_lt e he
        have hlength := h.length
        rw [if_neg]
        omega
      exact hnone ▸ hscript

theorem Keeps.call (h : Keeps R panics during after s₀ xs p) {i : ℕ} {c : Call}
    {next : Answer c → Coroutine Answer Event α} (hcall : p.routines[i]? = some (.call c next)) :
    Keeps R panics during after s₀ xs { p with
      shared := (exec c p.shared).2
      routines := p.routines.set i (next (exec c p.shared).1) } := by
  have hi : i < p.routines.length := (List.getElem?_eq_some_iff.mp hcall).1
  obtain ⟨x, hx⟩ : ∃ x, xs[i]? = some x := ⟨_, List.getElem?_eq_getElem (h.length ▸ hi)⟩
  obtain ⟨-, hallowed, hnext⟩ := h.meets i x _ hx hcall
  have hrel := R.exec_rel p.shared hallowed
  refine ⟨R.trans h.rel hrel, by simp [h.length], by simpa using h.told_lt, fun j y t hy ht => ?_⟩
  by_cases hji : j = i
  · subst hji
    rw [List.getElem?_set_self hi] at ht
    cases ht
    cases hx.symm.trans hy
    exact hnext p.shared (R.refl _)
  · rw [List.getElem?_set_ne (Ne.symm hji)] at ht
    exact (h.meets j y t hy ht).stable hrel

theorem Keeps.emit (h : Keeps R panics during after s₀ xs p) {i : ℕ} {event : Event} {rest : Coroutine Answer Event α}
    (hemit : p.routines[i]? = some (.emit event rest)) :
    Keeps R panics during after s₀ xs { p with routines := p.routines.set i rest, told := p.told ++ [(i, event)] } := by
  have hi : i < p.routines.length := (List.getElem?_eq_some_iff.mp hemit).1
  obtain ⟨x, hx⟩ : ∃ x, xs[i]? = some x := ⟨_, List.getElem?_eq_getElem (h.length ▸ hi)⟩
  refine ⟨h.rel, by simp [h.length], fun e he => ?_, fun j y t hy ht => ?_⟩
  · rw [List.length_set]
    rcases List.mem_append.mp he with hold | hnew
    · exact h.told_lt e hold
    · cases List.mem_singleton.mp hnew
      exact hi
  · by_cases hji : j = i
    · subst hji
      rw [List.getElem?_set_self hi] at ht
      cases ht
      cases hx.symm.trans hy
      have hrest := (h.meets j x _ hx hemit).2
      simpa [toldBy] using hrest
    · rw [List.getElem?_set_ne (Ne.symm hji)] at ht
      have hold := h.meets j y t hy ht
      simpa [toldBy, Ne.symm hji] using hold

/-- **In every order of the calls, every coroutine meets its specification**,
when each does from every state that the allowed calls can come to. -/
theorem meets_run {acts : List (PoolAction ι)}
    (hscript : ∀ x s, R.rel s₀ s → R.Meets (panics x) (during x) (after x) (script x) [] s)
    (h : run (step exec script) (new s₀) acts = some p) : Keeps R panics during after s₀ (spawned acts) p := by
  refine Runs.induction (P := fun p acts => Keeps R panics during after s₀ (spawned acts) p) ?_ ?_ h
  · exact ⟨R.refl s₀, rfl, fun e he => absurd he List.not_mem_nil, fun i x t hx => by simp [spawned] at hx⟩
  · intro p acts a p' hp hstep
    rw [spawned, List.filterMap_append, ← spawned]
    cases moves_of_step hstep with
    | spawn x => exact hp.spawn (hscript x p.shared hp.rel)
    | call i c next hcall => simpa using hp.call hcall
    | emit i event rest hemit => simpa using hp.emit hemit

/-- Turns of the one that was started last. -/
theorem run_turns {t : Coroutine Answer Event α} {s s' : σ} {routines : List (Coroutine Answer Event α)}
    (told : List (ℕ × Event)) {a : α} {events : List Event} (h : t.alone exec s = (some a, events, s')) :
    ∃ n, run (step exec script) { shared := s, routines := routines ++ [t], told }
        (List.replicate n (.turn routines.length)) =
      some { shared := s', routines := routines ++ [.done a], told := told ++ events.map (Prod.mk routines.length) } := by
  induction t generalizing s events told with
  | done a =>
    cases h
    exact ⟨0, by simp⟩
  | panicked => cases h
  | emit event rest ih =>
    rcases hrest : rest.alone exec s with ⟨a', events', s''⟩
    simp only [alone, hrest] at h
    cases h
    obtain ⟨n, hn⟩ := ih (told ++ [(routines.length, event)]) hrest
    refine ⟨n + 1, ?_⟩
    rw [List.replicate_succ, run_cons]
    simpa [step] using hn
  | call c next ih =>
    obtain ⟨n, hn⟩ := ih (exec c s).1 told h
    refine ⟨n + 1, ?_⟩
    rw [List.replicate_succ, run_cons]
    simpa [step] using hn

/-- **One that nobody interrupts** comes to what it comes to alone. -/
theorem run_alone {x : ι} {s' : σ} {a : α} {events : List Event}
    (h : (script x).alone exec p.shared = (some a, events, s')) :
    ∃ n, run (step exec script) p (.spawn x :: List.replicate n (.turn p.routines.length)) =
      some { shared := s', routines := p.routines ++ [.done a]
             told := p.told ++ events.map (Prod.mk p.routines.length) } :=
  run_turns p.told h

/-! ## Turns run out -/

/-- Nobody has a turn to take. -/
def Ended (exec : (c : Call) → σ → Answer c × σ) (script : ι → Coroutine Answer Event α)
    (p : Pool Answer Event α σ) : Prop := ∀ i, step exec script p (.turn i) = none

theorem Ended.cases (h : Ended exec script p) {i : ℕ} {t : Coroutine Answer Event α} (ht : p.routines[i]? = some t) :
    (∃ a, t = .done a) ∨ t = .panicked := by
  have hstep := h i
  cases t with
  | done a => exact .inl ⟨a, rfl⟩
  | panicked => exact .inr rfl
  | emit event rest => simp [step, ht] at hstep
  | call c next => simp [step, ht] at hstep

end Pool

end Coroutine
