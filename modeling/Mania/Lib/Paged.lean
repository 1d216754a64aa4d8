/-
Fetching a list page by page. `Answers` are the answers to the requests in
the order they are made: a page that is not the last names the token the
next request carries, and a request can fail.
-/
import Mathlib.Control.Lawful

namespace Paged

/-- The answers to successive page requests. -/
inductive Answers (ε π τ : Type) where
  | last (page : π)
  | more (page : π) (next : τ) (rest : Answers ε π τ)
  | fail (e : ε)

namespace Answers

variable {ε π τ : Type}

/-- The pages answered before the end or the first failure. -/
def pages : Answers ε π τ → List π
  | last page => [page]
  | more page _ rest => page :: rest.pages
  | fail _ => []

/-- Every request is answered with a page. -/
def Succeeds : Answers ε π τ → Prop
  | last _ => True
  | more _ _ rest => rest.Succeeds
  | fail _ => False

theorem pages_ne_nil {answers : Answers ε π τ} (h : answers.Succeeds) : answers.pages ≠ [] := by
  cases answers with
  | last page => simp [pages]
  | more page next rest => simp [pages]
  | fail e => exact h.elim

end Answers

variable {ε π τ α β σ : Type} {m : Type → Type} [Monad m]

/-- Request page after page until one gives a value or there is no next. -/
def iterFetch [MonadExceptOf ε m] (process : π → m (Option α)) : Answers ε π τ → m (Option α)
  | .last page => process page
  | .more page _ rest => do
    match ← process page with
    | some val => pure (some val)
    | none => iterFetch process rest
  | .fail e => throw e

/-- The same over a list of pages. -/
def iterPages (process : π → m (Option α)) : List π → m (Option α)
  | [] => pure none
  | page :: pages => do
    match ← process page with
    | some val => pure (some val)
    | none => iterPages process pages

variable [LawfulMonad m]

theorem iterFetch_eq [MonadExceptOf ε m] {answers : Answers ε π τ} (h : answers.Succeeds)
    (process : π → m (Option α)) : iterFetch process answers = iterPages process answers.pages := by
  induction answers with
  | last page =>
    have hend : (fun r : Option α => match r with | some val => pure (some val) | none => pure none) =
        (pure : Option α → m (Option α)) := by
      funext r
      cases r <;> rfl
    simp only [iterFetch, Answers.pages, iterPages, hend, bind_pure]
  | more page next rest ih =>
    have ih := ih h
    simp only [iterFetch, Answers.pages, iterPages, ih]
  | fail e => exact h.elim

/-- A search goes to the first page that has what is searched. -/
theorem iterPages_pure (f : π → Option α) (pages : List π) :
    iterPages (fun page => pure (f page) : π → m (Option α)) pages = pure (pages.findSome? f) := by
  induction pages with
  | nil => rfl
  | cons page pages ih =>
    rw [iterPages, pure_bind, List.findSome?_cons]
    cases f page with
    | some val => rfl
    | none => exact ih

/-- A search of every page is a search of the pages put together. -/
theorem iterFetch_search {ι : Type} [MonadExceptOf ε m] {answers : Answers ε π τ} (h : answers.Succeeds)
    (items : π → List ι) (p : ι → Bool) (f : ι → α) :
    iterFetch (fun page => pure (((items page).find? p).map f) : π → m (Option α)) answers =
      pure (((answers.pages.flatMap items).find? p).map f) := by
  rw [iterFetch_eq h, iterPages_pure, List.find?_flatMap, List.map_findSome?]
  rfl

/-- After a step that does not fail, a computation goes on from its result. -/
theorem run_bind_ok {x : ExceptT ε (StateM σ) α} {k : α → ExceptT ε (StateM σ) β} {s s' : σ} {a : α}
    (h : x.run.run s = (.ok a, s')) : (x >>= k).run.run s = (k a).run.run s' := by
  rw [ExceptT.run_bind, StateT.run_bind, h]
  rfl

/-- A step that fails is where a computation ends. -/
theorem run_bind_error {x : ExceptT ε (StateM σ) α} {k : α → ExceptT ε (StateM σ) β} {s s' : σ} {e : ε}
    (h : x.run.run s = (.error e, s')) : (x >>= k).run.run s = (.error e, s') := by
  rw [ExceptT.run_bind, StateT.run_bind, h]
  rfl

theorem run_get_bind (k : σ → ExceptT ε (StateM σ) β) (s : σ) : (get >>= k).run.run s = (k s).run.run s := rfl

theorem run_set_bind (s' : σ) (k : PUnit → ExceptT ε (StateM σ) β) (s : σ) :
    (set s' >>= k).run.run s = (k ⟨⟩).run.run s' := rfl

theorem run_modify_bind (f : σ → σ) (k : PUnit → ExceptT ε (StateM σ) β) (s : σ) :
    (modify f >>= k).run.run s = (k ⟨⟩).run.run (f s) := rfl

/-- A process that never gives a value takes in every page. -/
theorem iterPages_fold {process : π → ExceptT ε (StateM σ) (Option α)} {f : σ → π → σ} {pages : List π}
    (h : ∀ page ∈ pages, ∀ s, (process page).run.run s = (.ok none, f s page)) (s : σ) :
    (iterPages process pages).run.run s = (.ok none, pages.foldl f s) := by
  induction pages generalizing s with
  | nil => rfl
  | cons page pages ih =>
    rw [iterPages, run_bind_ok (h page List.mem_cons_self s)]
    exact ih (fun p hp => h p (List.mem_cons_of_mem page hp)) (f s page)

/-- A loop whose body does not fail goes through every entry. -/
theorem forM_fold {ι : Type} {body : ι → ExceptT ε (StateM σ) Unit} {f : σ → ι → σ} {items : List ι}
    (h : ∀ i ∈ items, ∀ s, (body i).run.run s = (.ok (), f s i)) (s : σ) :
    (items.forM body).run.run s = (.ok (), items.foldl f s) := by
  induction items generalizing s with
  | nil => rfl
  | cons i items ih =>
    rw [List.forM, run_bind_ok (h i List.mem_cons_self s)]
    exact ih (fun j hj => h j (List.mem_cons_of_mem i hj)) (f s i)

/-! ## In two monads -/

/-- Computations in two monads that come to the same. -/
structure Simulation (ε : Type) (m n : Type → Type) [Monad m] [Monad n] [MonadExceptOf ε m] [MonadExceptOf ε n] where
  rel : {α : Type} → m α → n α → Prop
  pure {α : Type} (a : α) : rel (pure a) (pure a)
  bind {α β : Type} {x : m α} {y : n α} {f : α → m β} {g : α → n β} :
    rel x y → (∀ a, rel (f a) (g a)) → rel (x >>= f) (y >>= g)
  throw {α : Type} (e : ε) : rel (throw e : m α) (throw e)

namespace Simulation

variable {m n : Type → Type} [Monad m] [Monad n] [MonadExceptOf ε m] [MonadExceptOf ε n] (R : Simulation ε m n)

/-- Loops come to the same when their bodies do. -/
theorem forM {ι : Type} {p : ι → m PUnit} {q : ι → n PUnit} (h : ∀ i, R.rel (p i) (q i)) (items : List ι) :
    R.rel (items.forM p) (items.forM q) := by
  induction items with
  | nil => exact R.pure PUnit.unit
  | cons i items ih => exact R.bind (h i) fun _ => ih

theorem iterFetch {p : π → m (Option α)} {q : π → n (Option α)} (h : ∀ page, R.rel (p page) (q page))
    (answers : Answers ε π τ) : R.rel (Paged.iterFetch p answers) (Paged.iterFetch q answers) := by
  induction answers with
  | last page => exact h page
  | more page next rest ih =>
    refine R.bind (h page) fun r => ?_
    cases r with
    | none => exact ih
    | some val => exact R.pure (some val)
  | fail e => exact R.throw e

end Simulation

end Paged
