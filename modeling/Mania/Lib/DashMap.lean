/-
Maps from keys to values, over Mathlib's `AList`: building one from a list
of entries, and iterating over one.
-/
import Mathlib.Data.List.AList
import Mathlib.Data.List.Induction

abbrev DashMap (K V : Type) := AList (fun _ : K => V)

namespace DashMap

variable {K V : Type}

def isEmpty (m : DashMap K V) : Bool := m.entries.isEmpty

/-- `iter`. -/
def toList (m : DashMap K V) : List (K × V) := m.entries.map fun e => (e.1, e.2)

variable [DecidableEq K]

def containsKey (m : DashMap K V) (k : K) : Bool := (m.lookup k).isSome

/-- `extend`: insert the entries one after the other. -/
def extend (m : DashMap K V) (kvs : List (K × V)) : DashMap K V := kvs.foldl (fun m kv => m.insert kv.1 kv.2) m

theorem isEmpty_iff {m : DashMap K V} : isEmpty m = true ↔ ∀ k, m.lookup k = none := by
  simp only [isEmpty, List.isEmpty_iff, AList.lookup_eq_none, AList.mem_keys, AList.keys]
  constructor
  · intro h k
    simp [h]
  · intro h
    have hkeys : m.entries.keys = [] := List.eq_nil_iff_forall_not_mem.mpr h
    exact List.map_eq_nil_iff.mp hkeys

theorem containsKey_iff {m : DashMap K V} {k : K} : containsKey m k = true ↔ k ∈ m := AList.lookup_isSome

theorem lookup_insert_eq (m : DashMap K V) (k k' : K) (v : V) :
    (m.insert k v).lookup k' = if k' = k then some v else m.lookup k' := by
  by_cases h : k' = k
  · subst h
    simp
  · rw [if_neg h, AList.lookup_insert_ne h]

theorem mem_toList {m : DashMap K V} {k : K} {v : V} : (k, v) ∈ toList m ↔ m.lookup k = some v := by
  rw [← Option.mem_def, AList.mem_lookup_iff, toList, List.mem_map]
  constructor
  · intro h
    obtain ⟨e, he, heq⟩ := h
    cases heq
    exact he
  · intro h
    exact ⟨_, h, rfl⟩

@[simp] theorem extend_nil (m : DashMap K V) : extend m [] = m := rfl

@[simp] theorem extend_cons (m : DashMap K V) (kv : K × V) (kvs : List (K × V)) :
    extend m (kv :: kvs) = extend (m.insert kv.1 kv.2) kvs := rfl

theorem extend_append (m : DashMap K V) (kvs kvs' : List (K × V)) :
    extend m (kvs ++ kvs') = extend (extend m kvs) kvs' := List.foldl_append

/-- The last of the new entries, or what was there before. -/
theorem lookup_extend (m : DashMap K V) (kvs : List (K × V)) (k : K) :
    (extend m kvs).lookup k = (((kvs.filter fun kv => kv.1 = k).getLast?.map Prod.snd).or (m.lookup k)) := by
  induction kvs using List.reverseRecOn with
  | nil => rfl
  | append_singleton kvs kv ih =>
    rw [extend_append, extend_cons, extend_nil, lookup_insert_eq, List.filter_append, List.filter_singleton]
    by_cases hk : kv.1 = k
    · rw [if_pos hk.symm]
      simp [hk]
    · rw [if_neg fun h => hk h.symm, ih]
      simp [hk]

/-- New entries change nothing exactly when the last of each key is there. -/
theorem extend_unchanged_iff {m : DashMap K V} {kvs : List (K × V)} :
    (∀ k, (extend m kvs).lookup k = m.lookup k) ↔ ∀ k v, (extend ∅ kvs).lookup k = some v → m.lookup k = some v := by
  simp only [lookup_extend, AList.lookup_empty, Option.or_none]
  constructor
  · intro h k v hv
    have hk := h k
    rw [hv] at hk
    exact hk.symm
  · intro h k
    cases hlast : (kvs.filter fun kv => kv.1 = k).getLast?.map Prod.snd with
    | none => rfl
    | some v => exact (h k v hlast).symm

/-- What is looked up was among the new entries or there before. -/
theorem lookup_extend_some {m : DashMap K V} {kvs : List (K × V)} {k : K} {v : V}
    (h : (extend m kvs).lookup k = some v) : (k, v) ∈ kvs ∨ m.lookup k = some v := by
  induction kvs generalizing m with
  | nil => exact .inr h
  | cons kv kvs ih =>
    rcases ih h with hmem | hold
    · exact .inl (List.mem_cons_of_mem kv hmem)
    · rw [lookup_insert_eq] at hold
      split at hold
      · next hk =>
        cases hold
        exact .inl (hk ▸ List.mem_cons_self)
      · exact .inr hold

/-- New entries and old ones can be looked up. -/
theorem mem_extend {m : DashMap K V} {kvs : List (K × V)} {k : K} :
    k ∈ extend m kvs ↔ (∃ v, (k, v) ∈ kvs) ∨ k ∈ m := by
  induction kvs generalizing m with
  | nil => simp
  | cons kv kvs ih =>
    obtain ⟨k', v'⟩ := kv
    rw [extend_cons, ih, AList.mem_insert]
    constructor
    · rintro (⟨v, hv⟩ | rfl | hm)
      · exact .inl ⟨v, List.mem_cons_of_mem _ hv⟩
      · exact .inl ⟨v', List.mem_cons_self⟩
      · exact .inr hm
    · rintro (⟨v, hv⟩ | hm)
      · rcases List.mem_cons.mp hv with heq | hv
        · cases heq
          exact .inr (.inl rfl)
        · exact .inl ⟨v, hv⟩
      · exact .inr (.inr hm)

theorem isEmpty_extend (m : DashMap K V) (kvs : List (K × V)) :
    isEmpty (extend m kvs) = (isEmpty m && kvs.isEmpty) := by
  cases kvs with
  | nil => simp
  | cons kv kvs =>
    have hmem : kv.1 ∈ extend m (kv :: kvs) := mem_extend.mpr (.inl ⟨kv.2, List.mem_cons_self⟩)
    rw [List.isEmpty_cons, Bool.and_false, Bool.eq_false_iff]
    intro hempty
    rw [← AList.lookup_isSome, isEmpty_iff.mp hempty] at hmem
    cases hmem

/-- A map built from the entries of another, in any order, holds the same. -/
theorem lookup_extend_of_perm {m : DashMap K V} {kvs : List (K × V)} (h : kvs.Perm (toList m)) (k : K) :
    (extend ∅ kvs).lookup k = m.lookup k := by
  have sound : ∀ v, (extend ∅ kvs).lookup k = some v → m.lookup k = some v := by
    intro v hv
    rcases lookup_extend_some hv with hmem | hempty
    · exact mem_toList.mp (h.mem_iff.mp hmem)
    · simp at hempty
  cases hm : m.lookup k with
  | none =>
    cases hk : (extend ∅ kvs).lookup k with
    | none => rfl
    | some v => exact absurd ((sound v hk).symm.trans hm) (by simp)
  | some v =>
    have hmem : k ∈ extend ∅ kvs := mem_extend.mpr (.inl ⟨v, h.mem_iff.mpr (mem_toList.mpr hm)⟩)
    obtain ⟨v', hv'⟩ := Option.isSome_iff_exists.mp (AList.lookup_isSome.mpr hmem)
    rw [hv', ← sound v' hv', hm]

theorem lookup_extend_toList (m : DashMap K V) (k : K) : (extend ∅ (toList m)).lookup k = m.lookup k :=
  lookup_extend_of_perm (.refl _) k

end DashMap
