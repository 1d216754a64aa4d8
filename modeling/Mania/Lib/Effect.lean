/-
Actions on a state: how a call ends and the state it leaves. A call that
ends in an error leaves its state to the caller who catches the error; so
does, to whoever looks at the state from outside, one that panics or never
comes to an end.

`Keeps` is what an action does to its state however it ends.
-/
import Mania.Lib.Outcome

/-- How a call ends: it returns, answers an error, panics, or was still
running when the fuel for its loops ran out. -/
inductive Exit (ε : Type) (α : Type) where
  | ok (a : α)
  | err (e : ε)
  | panic
  | spins
  deriving DecidableEq, Repr

/-- The call gives nothing back, now or ever. -/
inductive Exit.Lost {ε α : Type} : Exit ε α → Prop
  | panic : Lost .panic
  | spins : Lost .spins

theorem Exit.err_ne_ok {ε α : Type} {e : ε} {a : α} : (err e : Exit ε α) ≠ ok a := by simp
theorem Exit.panic_ne_ok {ε α : Type} {a : α} : (panic : Exit ε α) ≠ ok a := by simp
theorem Exit.spins_ne_ok {ε α : Type} {a : α} : (spins : Exit ε α) ≠ ok a := by simp
theorem Exit.panic_ne_err {ε α : Type} {e : ε} : (panic : Exit ε α) ≠ err e := by simp
theorem Exit.spins_ne_err {ε α : Type} {e : ε} : (spins : Exit ε α) ≠ err e := by simp
theorem Exit.ok_ne_err {ε α : Type} {a : α} {e : ε} : (ok a : Exit ε α) ≠ err e := by simp

def Effect (ω ε α : Type) : Type := ω → Exit ε α × ω

namespace Effect

variable {ω ε ε' α β : Type}

/-- The call, from a state. -/
def run (x : Effect ω ε α) (w : ω) : Exit ε α × ω := x w

def bind (x : Effect ω ε α) (f : α → Effect ω ε β) : Effect ω ε β := fun w =>
  match x.run w with
  | (.ok a, w') => (f a).run w'
  | (.err e, w') => (.err e, w')
  | (.panic, w') => (.panic, w')
  | (.spins, w') => (.spins, w')

instance : Monad (Effect ω ε) where
  pure a := fun w => (.ok a, w)
  bind := bind

theorem bind_run (x : Effect ω ε α) (f : α → Effect ω ε β) (w : ω) : (x >>= f).run w =
    match x.run w with
    | (.ok a, w') => (f a).run w'
    | (.err e, w') => (.err e, w')
    | (.panic, w') => (.panic, w')
    | (.spins, w') => (.spins, w') := rfl

@[ext] theorem ext {x y : Effect ω ε α} (h : ∀ w, x.run w = y.run w) : x = y := funext h

instance : LawfulMonad (Effect ω ε) :=
  LawfulMonad.mk' _
    (fun x => by
      ext w : 1
      show (x >>= fun a => pure (id a)).run w = x.run w
      rw [bind_run]
      rcases x.run w with ⟨exit, w'⟩
      cases exit <;> rfl)
    (fun _ _ => rfl)
    (fun x f g => by
      ext w : 1
      simp only [bind_run]
      rcases x.run w with ⟨exit, w'⟩
      cases exit <;> rfl)

def throw (e : ε) : Effect ω ε α := fun w => (.err e, w)

def panic : Effect ω ε α := fun w => (.panic, w)

def spins : Effect ω ε α := fun w => (.spins, w)

def get : Effect ω ε ω := fun w => (.ok w, w)

def modify (f : ω → ω) : Effect ω ε Unit := fun w => (.ok (), f w)

/-- A call that touches no state. -/
def lift (o : Outcome ε α) : Effect ω ε α := fun w =>
  match o with
  | .ok a => (.ok a, w)
  | .err e => (.err e, w)
  | .panic => (.panic, w)

/-- `match x { Ok(a) => Ok(a), Err(e) => f(e) }`. -/
def orElse (x : Effect ω ε α) (f : ε → Effect ω ε' α) : Effect ω ε' α := fun w =>
  match x.run w with
  | (.ok a, w') => (.ok a, w')
  | (.err e, w') => (f e).run w'
  | (.panic, w') => (.panic, w')
  | (.spins, w') => (.spins, w')

/-- `Result::map_err`. -/
def mapErr (f : ε → ε') (x : Effect ω ε α) : Effect ω ε' α := x.orElse fun e => throw (f e)

/-- A call that works on a part of the state. -/
def zoom {ω' : Type} (see : ω → ω') (put : ω' → ω → ω) (x : Effect ω' ε α) : Effect ω ε α := fun w =>
  let (exit, part) := x.run (see w)
  (exit, put part w)

@[simp] theorem pure_run (a : α) (w : ω) : (pure a : Effect ω ε α).run w = (.ok a, w) := rfl
@[simp] theorem throw_run (e : ε) (w : ω) : (throw e : Effect ω ε α).run w = (.err e, w) := rfl
@[simp] theorem panic_run (w : ω) : (panic : Effect ω ε α).run w = (.panic, w) := rfl
@[simp] theorem spins_run (w : ω) : (spins : Effect ω ε α).run w = (.spins, w) := rfl
@[simp] theorem get_run (w : ω) : (get : Effect ω ε ω).run w = (.ok w, w) := rfl
@[simp] theorem modify_run (f : ω → ω) (w : ω) : (modify f : Effect ω ε Unit).run w = (.ok (), f w) := rfl
@[simp] theorem lift_ok (a : α) : (lift (.ok a) : Effect ω ε α) = pure a := rfl
@[simp] theorem lift_err (e : ε) : (lift (.err e) : Effect ω ε α) = throw e := rfl
@[simp] theorem lift_panic : (lift .panic : Effect ω ε α) = panic := rfl

/-! ## Going on after a call -/

variable {x : Effect ω ε α} {f : α → Effect ω ε β} {w w' : ω}

theorem bind_ok {a : α} (h : x.run w = (.ok a, w')) : (x >>= f).run w = (f a).run w' := by
  rw [bind_run, h]

theorem bind_eq_ok {b : β} :
    (x >>= f).run w = (.ok b, w') ↔ ∃ a w₁, x.run w = (.ok a, w₁) ∧ (f a).run w₁ = (.ok b, w') := by
  rw [bind_run]
  rcases x.run w with ⟨exit, w₁⟩
  cases exit <;> simp

theorem lift_eq_ok {o : Outcome ε α} {a : α} : (lift o).run w = (.ok a, w') ↔ o = .ok a ∧ w = w' := by
  cases o <;> simp

/-- A call that touches no state and returns. -/
theorem lift_bind_ok {o : Outcome ε α} {a : α} {result : Exit ε β × ω} (h : o = .ok a) (hrest : (f a).run w = result) :
    (lift o >>= f).run w = result := by
  subst h
  exact hrest

theorem bind_err {e : ε} (h : x.run w = (.err e, w')) : (x >>= f).run w = (.err e, w') := by
  rw [bind_run, h]

theorem bind_panic (h : x.run w = (.panic, w')) : (x >>= f).run w = (.panic, w') := by
  rw [bind_run, h]

/-- A call that did not return is all that was run. -/
theorem bind_stops {exit : Exit ε α} {exit' : Exit ε β} {w₂ : ω} (h : x.run w = (exit, w'))
    (hexit : ∀ a, exit ≠ .ok a) (hrun : (x >>= f).run w = (exit', w₂)) :
    w₂ = w' ∧ (∀ b, exit' ≠ .ok b) ∧ ∀ e, exit' = .err e → exit = .err e := by
  rw [bind_run, h] at hrun
  cases exit with
  | ok a => exact absurd rfl (hexit a)
  | err e =>
    cases hrun
    refine ⟨rfl, fun _ => Exit.err_ne_ok, fun e' he => ?_⟩
    cases he
    rfl
  | panic =>
    cases hrun
    exact ⟨rfl, fun _ => Exit.panic_ne_ok, fun _ he => absurd he Exit.panic_ne_err⟩
  | spins =>
    cases hrun
    exact ⟨rfl, fun _ => Exit.spins_ne_ok, fun _ he => absurd he Exit.spins_ne_err⟩

@[simp] theorem get_bind (f : ω → Effect ω ε β) (w : ω) : (get >>= f).run w = (f w).run w := rfl

@[simp] theorem modify_bind (g : ω → ω) (f : Unit → Effect ω ε β) (w : ω) : (modify g >>= f).run w = (f ()).run (g w) := rfl

@[simp] theorem throw_bind (e : ε) (f : α → Effect ω ε β) : (throw e >>= f) = throw e := rfl

@[simp] theorem panic_bind (f : α → Effect ω ε β) : (panic >>= f) = (panic : Effect ω ε β) := rfl

@[simp] theorem spins_bind (f : α → Effect ω ε β) : (spins >>= f) = (spins : Effect ω ε β) := rfl

/-- A call that is lost leaves nothing to go on with. -/
theorem bind_lost (h : (x.run w).1.Lost) : ((x >>= f).run w).1.Lost := by
  rw [bind_run]
  rcases hx : x.run w with ⟨exit, w'⟩
  rw [hx] at h
  cases h with
  | panic => exact .panic
  | spins => exact .spins

theorem orElse_err {g : ε → Effect ω ε' α} {e : ε} (h : x.run w = (.err e, w')) : (x.orElse g).run w = (g e).run w' := by
  rw [run, orElse, h]

theorem orElse_lost {g : ε → Effect ω ε' α} (h : (x.run w).1.Lost) : ((x.orElse g).run w).1.Lost := by
  rw [run, orElse]
  rcases hx : x.run w with ⟨exit, w'⟩
  rw [hx] at h
  cases h with
  | panic => exact .panic
  | spins => exact .spins

theorem mapErr_err {g : ε → ε'} {e : ε} (h : x.run w = (.err e, w')) : (x.mapErr g).run w = (.err (g e), w') :=
  orElse_err h

theorem mapErr_eq_ok {g : ε → ε'} {a : α} : (x.mapErr g).run w = (.ok a, w') ↔ x.run w = (.ok a, w') := by
  rw [run, mapErr, orElse]
  rcases x.run w with ⟨exit, w₁⟩
  cases exit <;> simp

theorem mapErr_state (x : Effect ω ε α) (g : ε → ε') (w : ω) : ((x.mapErr g).run w).2 = (x.run w).2 := by
  rw [run, mapErr, orElse]
  rcases x.run w with ⟨exit, w'⟩
  cases exit <;> rfl

theorem zoom_eq_ok {ω' : Type} {see : ω → ω'} {put : ω' → ω → ω} {x : Effect ω' ε α} {a : α} :
    (zoom see put x).run w = (.ok a, w') ↔ ∃ part, x.run (see w) = (.ok a, part) ∧ w' = put part w := by
  rw [run, zoom]
  rcases x.run (see w) with ⟨exit, part⟩
  simp only [Prod.mk.injEq]
  constructor
  · rintro ⟨rfl, rfl⟩
    exact ⟨part, ⟨rfl, rfl⟩, rfl⟩
  · rintro ⟨part', ⟨rfl, rfl⟩, rfl⟩
    exact ⟨rfl, rfl⟩

theorem bind_pure_state (x : Effect ω ε α) (g : α → β) (w : ω) : ((x >>= fun a => pure (g a)).run w).2 = (x.run w).2 := by
  rw [bind_run]
  rcases x.run w with ⟨exit, w'⟩
  cases exit <;> rfl

/-! ## One call after the other -/

/-- The call on `a` returns `b`. -/
def Returns (f : α → Effect ω ε β) (w : ω) (a : α) (b : β) (w' : ω) : Prop := (f a).run w = (.ok b, w')

/-- A run along a list, `P` at each of its elements. -/
inductive Through (P : ω → α → β → ω → Prop) : ω → List α → List β → ω → Prop
  | nil (w : ω) : Through P w [] [] w
  | cons {w w₁ w₂ : ω} {a : α} {b : β} {as : List α} {bs : List β} (first : P w a b w₁) (rest : Through P w₁ as bs w₂) :
      Through P w (a :: as) (b :: bs) w₂

theorem Through.imp {P Q : ω → α → β → ω → Prop} {as : List α} {bs : List β}
    (h : ∀ w a b w', b ∈ bs → P w a b w' → Q w a b w') (hrun : Through P w as bs w') : Through Q w as bs w' := by
  induction hrun with
  | nil w => exact .nil w
  | cons first _ ih =>
    exact .cons (h _ _ _ _ List.mem_cons_self first) (ih fun w a b w' hb => h w a b w' (List.mem_cons_of_mem _ hb))

theorem mapM_eq_ok {as : List α} {bs : List β} : (as.mapM f).run w = (.ok bs, w') ↔ Through (Returns f) w as bs w' := by
  induction as generalizing w bs with
  | nil =>
    rw [List.mapM_nil, pure_run, Prod.mk.injEq, Exit.ok.injEq]
    constructor
    · rintro ⟨rfl, rfl⟩
      exact .nil w
    · rintro ⟨⟩
      exact ⟨rfl, rfl⟩
  | cons a as ih =>
    rw [List.mapM_cons, bind_eq_ok]
    constructor
    · rintro ⟨b, w₁, hfirst, hrest⟩
      obtain ⟨bs', w₂, hbs, hpure⟩ := bind_eq_ok.mp hrest
      cases hpure
      exact .cons hfirst (ih.mp hbs)
    · rintro (_ | ⟨hfirst, hrest⟩)
      exact ⟨_, _, hfirst, bind_eq_ok.mpr ⟨_, _, ih.mpr hrest, rfl⟩⟩

/-- The first call that ends in an error ends the run. -/
theorem mapM_err {before after : List α} {a : α} {bs : List β} {w₁ w₂ : ω} {e : ε}
    (hbefore : Through (Returns f) w before bs w₁) (herr : (f a).run w₁ = (.err e, w₂)) :
    ((before ++ a :: after).mapM f).run w = (.err e, w₂) := by
  rw [List.mapM_append, bind_ok (mapM_eq_ok.mpr hbefore), List.mapM_cons]
  exact bind_err (bind_err herr)

/-! ## Loops

`st k` is the state before the `k`-th turn. -/

theorem forM_range_ok {body : Nat → Effect ω ε PUnit} {st : Nat → ω} {n : Nat}
    (h : ∀ k < n, (body k).run (st k) = (.ok ⟨⟩, st (k + 1))) : (forM (List.range n) body).run (st 0) = (.ok ⟨⟩, st n) := by
  induction n with
  | zero => rfl
  | succ n ih =>
    have hfirst := ih fun k hk => h k (Nat.lt_succ_of_lt hk)
    rw [List.range_succ, List.forM_append, bind_ok hfirst, List.forM_cons, List.forM_nil,
      bind_ok (h n (Nat.lt_succ_self n)), pure_run]

theorem range_split {k n : Nat} (h : k < n) : ∃ rest, List.range n = List.range k ++ k :: rest := by
  refine ⟨(List.range (n - (k + 1))).map (k + 1 + ·), ?_⟩
  have hn : n = k + 1 + (n - (k + 1)) := by omega
  conv => lhs; rw [hn, List.range_add, List.range_succ, List.append_assoc]
  rfl

/-- What every turn that returns leads on with, a loop that returns leads to. -/
theorem forM_range_returns {body : Nat → Effect ω ε PUnit} {Inv : Nat → ω → Prop} {n : Nat}
    (h : ∀ k < n, ∀ w w', Inv k w → (body k).run w = (.ok ⟨⟩, w') → Inv (k + 1) w') (hstart : Inv 0 w)
    (hrun : (forM (List.range n) body).run w = (.ok ⟨⟩, w')) : Inv n w' := by
  induction n generalizing w' with
  | zero =>
    cases hrun
    exact hstart
  | succ n ih =>
    rw [List.range_succ, List.forM_append] at hrun
    obtain ⟨u, w₁, hbefore, hlast⟩ := bind_eq_ok.mp hrun
    obtain ⟨u', w₂, hturn, hend⟩ := bind_eq_ok.mp hlast
    cases hend
    exact h n (Nat.lt_succ_self n) _ _ (ih (fun k hk => h k (Nat.lt_succ_of_lt hk)) hbefore) hturn

/-- Where a loop is when it ends: behind its last turn, or in the turn that
did not return. -/
theorem forM_range_stops {body : Nat → Effect ω ε PUnit} {Inv : Nat → ω → Prop} {n : Nat} {exit : Exit ε PUnit}
    (h : ∀ k < n, ∀ w w', Inv k w → (body k).run w = (.ok ⟨⟩, w') → Inv (k + 1) w') (hstart : Inv 0 w)
    (hrun : (forM (List.range n) body).run w = (exit, w')) :
    exit = .ok ⟨⟩ ∧ Inv n w' ∨
      exit ≠ .ok ⟨⟩ ∧ ∃ k < n, ∃ w₁, Inv k w₁ ∧ (body k).run w₁ = (exit, w') := by
  induction n generalizing exit w' with
  | zero =>
    cases hrun
    exact .inl ⟨rfl, hstart⟩
  | succ n ih =>
    rw [List.range_succ, List.forM_append, bind_run] at hrun
    rcases hbefore : (forM (List.range n) body).run w with ⟨exit₁, w₁⟩
    rw [hbefore] at hrun
    rcases ih (fun k hk => h k (Nat.lt_succ_of_lt hk)) hbefore with ⟨rfl, hinv⟩ | ⟨hexit, k, hk, hturn⟩
    · have hlast : (body n).run w₁ = (exit, w') := by
        rw [← hrun]
        exact (congrArg (fun x : Effect ω ε PUnit => x.run w₁) (bind_pure (body n))).symm
      by_cases hok : exit = .ok ⟨⟩
      · subst hok
        exact .inl ⟨rfl, h n (Nat.lt_succ_self n) w₁ w' hinv hlast⟩
      · exact .inr ⟨hok, n, Nat.lt_succ_self n, w₁, hinv, hlast⟩
    · refine .inr ?_
      have hsame : exit₁ = exit ∧ w₁ = w' := by
        cases exit₁ with
        | ok u => exact absurd rfl hexit
        | err e => exact Prod.mk.inj hrun
        | panic => exact Prod.mk.inj hrun
        | spins => exact Prod.mk.inj hrun
      obtain ⟨rfl, rfl⟩ := hsame
      exact ⟨hexit, k, Nat.lt_succ_of_lt hk, hturn⟩

/-- The loop ends at the first turn that ends in an error. -/
theorem forM_range_err {body : Nat → Effect ω ε PUnit} {st : Nat → ω} {k n : Nat} {e : ε}
    (h : ∀ j < k, (body j).run (st j) = (.ok ⟨⟩, st (j + 1))) (hk : k < n) (herr : (body k).run (st k) = (.err e, w')) :
    (forM (List.range n) body).run (st 0) = (.err e, w') := by
  obtain ⟨rest, hrest⟩ := range_split hk
  rw [hrest, List.forM_append, bind_ok (forM_range_ok h), List.forM_cons, bind_err herr]

/-- And is lost at a turn that is, if not before. -/
theorem forM_range_lost {body : Nat → Effect ω ε PUnit} (st : Nat → ω) {k n : Nat}
    (h : ∀ j < k, (body j).run (st j) = (.ok ⟨⟩, st (j + 1)) ∨ ((body j).run (st j)).1.Lost) (hk : k < n)
    (hlost : ((body k).run (st k)).1.Lost) : ((forM (List.range n) body).run (st 0)).1.Lost := by
  have hbefore : ∀ m ≤ k, (forM (List.range m) body).run (st 0) = (.ok ⟨⟩, st m) ∨
      ((forM (List.range m) body).run (st 0)).1.Lost := by
    intro m
    induction m with
    | zero => intro _; exact .inl rfl
    | succ m ih =>
      intro hm
      rw [List.range_succ, List.forM_append, List.forM_cons, List.forM_nil]
      rcases ih (Nat.le_of_succ_le hm) with hok | hlost
      · rw [bind_ok hok]
        exact (h m hm).imp (fun hturn => by rw [bind_ok hturn, pure_run]) bind_lost
      · exact .inr (bind_lost hlost)
  obtain ⟨rest, hrest⟩ := range_split hk
  rw [hrest, List.forM_append, List.forM_cons]
  rcases hbefore k (Nat.le_refl k) with hok | hlost'
  · rw [bind_ok hok]
    exact bind_lost hlost
  · exact bind_lost hlost'

/-! ## What an action does to its state, however it ends -/

def Keeps (R : ω → ω → Prop) (x : Effect ω ε α) : Prop := ∀ w, R w (x.run w).2

namespace Keeps

variable {R : ω → ω → Prop}

theorem imp {S : ω → ω → Prop} (h : ∀ w w', R w w' → S w w') (hx : Keeps R x) : Keeps S x := fun w => h _ _ (hx w)

/-- What keeps its state as it is. -/
theorem unchanged {exit : Exit ε α} (hx : Keeps Eq x) (hrun : x.run w = (exit, w')) : w' = w := by
  have hsame := hx w
  rw [hrun] at hsame
  exact hsame.symm

theorem of_eq [Std.Refl R] (hx : Keeps Eq x) : Keeps R x := by
  intro w
  rw [← hx w]
  exact Std.Refl.refl w

theorem pure [Std.Refl R] (a : α) : Keeps R (pure a : Effect ω ε α) := fun w => Std.Refl.refl w

theorem throw [Std.Refl R] (e : ε) : Keeps R (throw e : Effect ω ε α) := fun w => Std.Refl.refl w

theorem panic [Std.Refl R] : Keeps R (panic : Effect ω ε α) := fun w => Std.Refl.refl w

theorem spins [Std.Refl R] : Keeps R (spins : Effect ω ε α) := fun w => Std.Refl.refl w

theorem get [Std.Refl R] : Keeps R (get : Effect ω ε ω) := fun w => Std.Refl.refl w

theorem modify {g : ω → ω} (h : ∀ w, R w (g w)) : Keeps R (modify g : Effect ω ε Unit) := h

theorem lift [Std.Refl R] (o : Outcome ε α) : Keeps R (lift o : Effect ω ε α) := fun w => by
  cases o <;> exact Std.Refl.refl w

theorem bind [IsTrans ω R] (hx : Keeps R x) (hf : ∀ a, Keeps R (f a)) : Keeps R (x >>= f) := fun w => by
  have hfirst := hx w
  rw [bind_run]
  rcases h : x.run w with ⟨exit, w'⟩
  rw [h] at hfirst
  cases exit with
  | ok a => exact IsTrans.trans _ _ _ hfirst (hf a w')
  | err e => exact hfirst
  | panic => exact hfirst
  | spins => exact hfirst

theorem map [Std.Refl R] [IsTrans ω R] (hx : Keeps R x) (g : α → β) : Keeps R (g <$> x) := by
  rw [map_eq_pure_bind]
  exact hx.bind fun _ => Keeps.pure _

theorem orElse [IsTrans ω R] {g : ε → Effect ω ε' α} (hx : Keeps R x) (hg : ∀ e, Keeps R (g e)) :
    Keeps R (x.orElse g) := fun w => by
  have hfirst := hx w
  show R w (x.orElse g w).2
  rw [Effect.orElse]
  rcases h : x.run w with ⟨exit, w'⟩
  rw [h] at hfirst
  cases exit with
  | err e => exact IsTrans.trans _ _ _ hfirst (hg e w')
  | ok a => exact hfirst
  | panic => exact hfirst
  | spins => exact hfirst

theorem mapErr [Std.Refl R] [IsTrans ω R] {g : ε → ε'} (hx : Keeps R x) : Keeps R (x.mapErr g) :=
  hx.orElse fun _ => Keeps.throw _

theorem zoom {ω' : Type} {see : ω → ω'} {put : ω' → ω → ω} (h : ∀ part w, R w (put part w)) (y : Effect ω' ε α) :
    Keeps R (zoom see put y) := fun w => h _ w

theorem mapM [Std.Refl R] [IsTrans ω R] (hf : ∀ a, Keeps R (f a)) (as : List α) : Keeps R (as.mapM f) := by
  induction as with
  | nil => exact Keeps.pure _
  | cons a as ih =>
    rw [List.mapM_cons]
    exact Keeps.bind (hf a) fun _ => Keeps.bind ih fun _ => Keeps.pure _

theorem forM [Std.Refl R] [IsTrans ω R] {ι : Type} {g : ι → Effect ω ε PUnit} (hg : ∀ i, Keeps R (g i)) (is : List ι) :
    Keeps R (forM is g) := by
  induction is with
  | nil => exact Keeps.pure _
  | cons i is ih =>
    rw [List.forM_cons]
    exact Keeps.bind (hg i) fun _ => ih

end Keeps

/-! ## Checks first, then stores -/

/-- The call ends as `Q` has it, or gives no result and leaves its state as it was. -/
def AllOrNothing (Q : Exit ε α → ω → Prop) (x : Effect ω ε α) (w : ω) : Prop :=
  (∀ a, (x.run w).1 ≠ .ok a) ∧ (x.run w).2 = w ∨ Q (x.run w).1 (x.run w).2

theorem AllOrNothing.get_bind {Q : Exit ε β → ω → Prop} {f : ω → Effect ω ε β} (h : AllOrNothing Q (f w) w) :
    AllOrNothing Q (get >>= f) w := h

/-- A check that fails leaves nothing behind. -/
theorem AllOrNothing.lift_bind {Q : Exit ε β → ω → Prop} {o : Outcome ε α}
    (h : ∀ a, o = .ok a → AllOrNothing Q (f a) w) : AllOrNothing Q (lift o >>= f) w := by
  cases o with
  | ok a => exact h a rfl
  | err e =>
    refine .inl ⟨?_, rfl⟩
    intro b hb
    cases hb
  | panic =>
    refine .inl ⟨?_, rfl⟩
    intro b hb
    cases hb

end Effect
