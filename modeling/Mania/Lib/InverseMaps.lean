/-
A map and a map back, filled with the same entries in turn. They are
inverse after every insertion exactly where the entries are one to one
(`inverse_throughout_iff`).
-/
import Mathlib.Data.List.ProdSigma
import Mania.Lib.DashMap

namespace DashMap

variable {K V : Type}

/-- Neither side of an entry is bound to anything else. -/
def OneToOne (kvs : List (K × V)) : Prop := ∀ p ∈ kvs, ∀ q ∈ kvs, p.1 = q.1 ↔ p.2 = q.2

theorem OneToOne.swap {kvs : List (K × V)} (h : OneToOne kvs) : OneToOne (kvs.map Prod.swap) := by
  intro p hp q hq
  obtain ⟨p', hp', rfl⟩ := List.mem_map.mp hp
  obtain ⟨q', hq', rfl⟩ := List.mem_map.mp hq
  exact (h p' hp' q' hq').symm

variable [DecidableEq K]

/-- Where no key is bound anew, the map has all the entries. -/
theorem OneToOne.lookup_iff {kvs : List (K × V)} (h : OneToOne kvs) (k : K) (v : V) :
    (extend ∅ kvs).lookup k = some v ↔ (k, v) ∈ kvs := by
  constructor
  · intro hlookup
    rcases lookup_extend_some hlookup with hmem | hempty
    · exact hmem
    · simp at hempty
  · intro hmem
    have hkey : k ∈ extend ∅ kvs := mem_extend.mpr (.inl ⟨v, hmem⟩)
    obtain ⟨v', hv'⟩ := Option.isSome_iff_exists.mp (AList.lookup_isSome.mpr hkey)
    rcases lookup_extend_some hv' with hmem' | hempty
    · have hvalue : v' = v := (h _ hmem' _ hmem).mp rfl
      rw [hv', hvalue]
    · simp at hempty

variable [DecidableEq V]

def Inverse (m : DashMap K V) (w : DashMap V K) : Prop := ∀ k v, m.lookup k = some v ↔ w.lookup v = some k

theorem OneToOne.inverse {kvs : List (K × V)} (h : OneToOne kvs) :
    Inverse (extend ∅ kvs) (extend ∅ (kvs.map Prod.swap)) := by
  intro k v
  rw [h.lookup_iff, h.swap.lookup_iff, List.mem_map_swap]

/-- Maps that are inverse before and after an insertion have nothing else bound to either side of it. -/
theorem OneToOne.of_inverse {kvs : List (K × V)} (h : OneToOne kvs) {p q : K × V} (hq : q ∈ kvs)
    (hinv : Inverse (extend ∅ (kvs ++ [p])) (extend ∅ ((kvs ++ [p]).map Prod.swap))) : p.1 = q.1 ↔ p.2 = q.2 := by
  obtain ⟨k, v⟩ := p
  obtain ⟨k', v'⟩ := q
  have hforth : (extend ∅ kvs).lookup k' = some v' := (h.lookup_iff k' v').mpr hq
  have hback : (extend ∅ (kvs.map Prod.swap)).lookup v' = some k' :=
    (h.swap.lookup_iff v' k').mpr ((List.mem_map_swap k' v' kvs).mpr hq)
  rw [List.map_append, extend_append, extend_append] at hinv
  simp only [Inverse, extend_cons, extend_nil, List.map_cons, List.map_nil, Prod.fst_swap, Prod.snd_swap,
    lookup_insert_eq] at hinv
  constructor
  · rintro rfl
    have hvalue := hinv k v'
    rw [if_pos rfl, hback, ite_self] at hvalue
    exact Option.some.inj (hvalue.mpr rfl)
  · rintro rfl
    have hkey := hinv k' v
    rw [if_pos rfl, hforth, ite_self] at hkey
    exact Option.some.inj (hkey.mp rfl)

/-- **The maps stay inverse** through all insertions exactly where the
entries are one to one. -/
theorem inverse_throughout_iff {kvs : List (K × V)} :
    (∀ made later, kvs = made ++ later → Inverse (extend ∅ made) (extend ∅ (made.map Prod.swap))) ↔ OneToOne kvs := by
  constructor
  · intro hinv
    induction kvs using List.reverseRecOn with
    | nil => exact fun p hp => absurd hp List.not_mem_nil
    | append_singleton kvs p ih =>
      have hold : OneToOne kvs := ih fun made later hmade => hinv made (later ++ [p]) (by rw [hmade, List.append_assoc])
      have hnew : ∀ q ∈ kvs, p.1 = q.1 ↔ p.2 = q.2 := fun q hq =>
        hold.of_inverse hq (hinv (kvs ++ [p]) [] (List.append_nil _).symm)
      intro q hq q' hq'
      rw [List.mem_append, List.mem_singleton] at hq hq'
      rcases hq with hq | rfl <;> rcases hq' with hq' | rfl
      · exact hold q hq q' hq'
      · exact ⟨fun h => ((hnew q hq).mp h.symm).symm, fun h => ((hnew q hq).mpr h.symm).symm⟩
      · exact hnew q' hq'
      · exact ⟨fun _ => rfl, fun _ => rfl⟩
  · rintro h made later rfl
    have hmade : OneToOne made := fun p hp q hq =>
      h p (List.mem_append_left later hp) q (List.mem_append_left later hq)
    exact hmade.inverse

end DashMap
