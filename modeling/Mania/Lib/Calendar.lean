/-
The proleptic Gregorian calendar: which dates there are, and their midnights
in seconds since 1970. Dates have different midnights
(`Date.midnight_injective`).
-/
import Mathlib.Algebra.Group.Int.Defs
import Mathlib.Algebra.Order.Monoid.Unbundled.Basic
import Mathlib.Order.Defs.LinearOrder

namespace Calendar

def isLeap (year : Int) : Bool := year % 4 = 0 && (year % 100 ≠ 0 || year % 400 = 0)

def yearLength (year : Int) : Int := if isLeap year then 366 else 365

def monthLength (year : Int) (month : Nat) : Int :=
  if month = 2 then (if isLeap year then 29 else 28)
  else if month = 4 ∨ month = 6 ∨ month = 9 ∨ month = 11 then 30
  else 31

/-- The days of the months before. -/
def monthStart (year : Int) : Nat → Int
  | 0 => 0
  | 1 => 0
  | month + 1 => monthStart year month + monthLength year month

/-- The days of the years before, counted from year 1. -/
def yearStart (year : Int) : Int := 365 * (year - 1) + (year - 1) / 4 - (year - 1) / 100 + (year - 1) / 400

def IsDate (year : Int) (month day : Nat) : Prop :=
  1 ≤ month ∧ month ≤ 12 ∧ 1 ≤ day ∧ (day : Int) ≤ monthLength year month

instance (year : Int) (month day : Nat) : Decidable (IsDate year month day) := inferInstanceAs (Decidable (_ ∧ _))

structure Date where
  year : Int
  month : Nat
  day : Nat
  valid : IsDate year month day
  deriving DecidableEq

def dateAt (year : Int) (month day : Nat) : Option Date :=
  if h : IsDate year month day then some ⟨year, month, day, h⟩ else none

theorem isDate_epoch : IsDate 1970 1 1 := by decide

/-- 1970-01-01. -/
def Date.epoch : Date := ⟨1970, 1, 1, isDate_epoch⟩

/-- The days since year 1. -/
def Date.number (date : Date) : Int := yearStart date.year + monthStart date.year date.month + (date.day - 1)

/-- The seconds from 1970 to the first of the date, in UTC. -/
def Date.midnight (date : Date) : Int := (date.number - Date.epoch.number) * 86400

/-! ## No two dates have one midnight -/

/-- Blocks that do not overlap: a position tells its block and the offset in it. -/
theorem block_unique {ι : Type} [LinearOrder ι] {start length : ι → Int} {i j : ι} {a b : Int}
    (hij : i < j → start i + length i ≤ start j) (hji : j < i → start j + length j ≤ start i)
    (ha : 0 ≤ a ∧ a < length i) (hb : 0 ≤ b ∧ b < length j) (h : start i + a = start j + b) : i = j ∧ a = b := by
  rcases lt_trichotomy i j with hlt | rfl | hlt
  · have hle := hij hlt
    omega
  · exact ⟨rfl, by omega⟩
  · have hle := hji hlt
    omega

theorem yearStart_apart (year year' : Int) (h : year < year') : yearStart year + yearLength year ≤ yearStart year' := by
  have hlength : yearLength year = 365 + (year / 4 - year / 100 + year / 400) -
      ((year - 1) / 4 - (year - 1) / 100 + (year - 1) / 400) := by
    simp only [yearLength, isLeap, Bool.and_eq_true, Bool.or_eq_true, decide_eq_true_eq]
    split <;> omega
  rw [hlength, yearStart, yearStart]
  omega

theorem monthStart_succ (year : Int) {month : Nat} (h : 1 ≤ month) :
    monthStart year (month + 1) = monthStart year month + monthLength year month := by
  obtain ⟨m, rfl⟩ : ∃ m, month = m + 1 := ⟨month - 1, by omega⟩
  rfl

theorem monthLength_pos (year : Int) (month : Nat) : 0 < monthLength year month := by
  rw [monthLength]
  split
  · split <;> decide
  · split <;> decide

theorem monthLength_le (year : Int) (month : Nat) : monthLength year month ≤ 31 := by
  rw [monthLength]
  split
  · split <;> decide
  · split <;> decide

theorem monthStart_apart (year : Int) {month month' : Nat} (h1 : 1 ≤ month) (h : month < month') :
    monthStart year month + monthLength year month ≤ monthStart year month' := by
  induction month' with
  | zero => omega
  | succ m ih =>
    rcases Nat.lt_succ_iff_lt_or_eq.mp h with hlt | rfl
    · have hpos := monthLength_pos year m
      rw [monthStart_succ year (by omega)]
      have := ih hlt
      omega
    · rw [monthStart_succ year h1]

/-- The months fill the year. -/
theorem monthStart_end (year : Int) : monthStart year 13 = yearLength year := by
  cases h : isLeap year <;> simp [monthStart, monthLength, yearLength, h]

/-- A date lies in its year. -/
theorem Date.offset_bounds (date : Date) :
    0 ≤ monthStart date.year date.month + (date.day - 1) ∧
      monthStart date.year date.month + (date.day - 1) < yearLength date.year := by
  obtain ⟨h1, h12, hday, hlast⟩ := date.valid
  have hend := monthStart_apart date.year h1 (Nat.lt_succ_of_le h12)
  have hstart : 0 ≤ monthStart date.year date.month := by
    rcases Nat.eq_or_lt_of_le h1 with heq | hlt
    · rw [← heq]
      exact le_refl 0
    · have hfirst := monthStart_apart date.year (le_refl 1) hlt
      have hpos := monthLength_pos date.year 1
      have hzero : monthStart date.year 1 = 0 := rfl
      omega
  rw [monthStart_end] at hend
  omega

theorem Date.number_injective {date date' : Date} (h : date.number = date'.number) : date = date' := by
  obtain ⟨hyear, hoffset⟩ := block_unique (yearStart_apart _ _) (yearStart_apart _ _) date.offset_bounds
    date'.offset_bounds (by simp only [number] at h; omega)
  obtain ⟨year, month, day, hmonth, _, hday, hlast⟩ := date
  obtain ⟨year', month', day', hmonth', _, hday', hlast'⟩ := date'
  cases hyear
  obtain ⟨hmonths, hdays⟩ := block_unique (a := (day : Int) - 1) (b := (day' : Int) - 1)
    (monthStart_apart year hmonth) (monthStart_apart year hmonth') ⟨by omega, by omega⟩ ⟨by omega, by omega⟩ hoffset
  cases hmonths
  obtain rfl : day = day' := by omega
  rfl

theorem Date.midnight_injective {date date' : Date} (h : date.midnight = date'.midnight) : date = date' :=
  number_injective (by simp only [midnight] at h; omega)

theorem Date.midnight_epoch : Date.epoch.midnight = 0 := by decide

end Calendar
