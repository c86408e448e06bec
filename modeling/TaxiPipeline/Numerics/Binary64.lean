import Mathlib.Algebra.Order.Ring.Nat
import Mathlib.Tactic.SplitIfs

namespace Binary64

/-- What a binary64 value stands for; a finite one is counted in units of the least positive one. -/
inductive Meaning where
  | finite (units : Int)
  | infinite (negative : Bool)
  | notANumber
  deriving DecidableEq

def signed (x : BitVec 64) : Bool := 2 ^ 63 ≤ x.toNat

def exponent (x : BitVec 64) : Nat := x.toNat / 2 ^ 52 % 2 ^ 11

def fraction (x : BitVec 64) : Nat := x.toNat % 2 ^ 52

/-- The magnitude of a finite value: subnormal below the first exponent, with a leading bit above it. -/
def units (exponent fraction : Nat) : Nat :=
  if exponent = 0 then fraction else (2 ^ 52 + fraction) * 2 ^ (exponent - 1)

def withSign (negative : Bool) (magnitude : Nat) : Int := if negative then -magnitude else magnitude

def meaning (x : BitVec 64) : Meaning :=
  if exponent x = 2047 then
    if fraction x = 0 then .infinite (signed x) else .notANumber
  else .finite (withSign (signed x) (units (exponent x) (fraction x)))

/-- The order of the values with NaN above all of them. -/
def Meaning.lt : Meaning → Meaning → Prop
  | .notANumber, _ => False
  | _, .notANumber => True
  | .infinite negative, .infinite negative' => negative = true ∧ negative' = false
  | .infinite negative, .finite _ => negative = true
  | .finite _, .infinite negative => negative = false
  | .finite units, .finite units' => units < units'

def zero : Meaning := .finite 0

section Fields

variable (x y : BitVec 64)

theorem fraction_lt : fraction x < 2 ^ 52 := Nat.mod_lt _ (by decide)

theorem fields : x.toNat = (if signed x then 2 ^ 63 else 0) + exponent x * 2 ^ 52 + fraction x := by
  have bound := x.isLt
  unfold signed exponent fraction
  by_cases negative : 2 ^ 63 ≤ x.toNat
  · rw [decide_eq_true negative, if_pos rfl]
    omega
  · rw [decide_eq_false negative, if_neg Bool.false_ne_true]
    omega

variable {x y}

theorem eq_of_fields (sign : signed x = signed y) (exponents : exponent x = exponent y)
    (fractions : fraction x = fraction y) : x = y := by
  apply BitVec.eq_of_toNat_eq
  rw [fields x, fields y, sign, exponents, fractions]

theorem zero_iff : x.toNat % 2 ^ 63 = 0 ↔ exponent x = 0 ∧ fraction x = 0 := by
  have bound := x.isLt
  unfold exponent fraction
  omega

end Fields

section Units

variable {e e' f f' : Nat}

theorem units_zero_iff : units e f = 0 ↔ e = 0 ∧ f = 0 := by
  unfold units
  by_cases subnormal : e = 0
  · rw [if_pos subnormal]
    exact (and_iff_right subnormal).symm
  · rw [if_neg subnormal]
    have leading : 0 < 2 ^ 52 + f := by omega
    have scale : 0 < 2 ^ (e - 1) := Nat.two_pow_pos _
    have product : 0 < (2 ^ 52 + f) * 2 ^ (e - 1) := Nat.mul_pos leading scale
    constructor
    · intro none_left
      omega
    · rintro ⟨none_left, -⟩
      exact absurd none_left subnormal

theorem units_lt (smaller : e < e') (bound : f < 2 ^ 52) : units e f < units e' f' := by
  have least : 2 ^ 52 * 2 ^ (e' - 1) ≤ units e' f' := by
    rw [units, if_neg (by omega)]
    exact Nat.mul_le_mul_right _ (Nat.le_add_right _ _)
  refine lt_of_lt_of_le ?_ least
  unfold units
  by_cases subnormal : e = 0
  · rw [if_pos subnormal]
    calc f < 2 ^ 52 := bound
      _ ≤ 2 ^ 52 * 2 ^ (e' - 1) := Nat.le_mul_of_pos_right _ (Nat.two_pow_pos _)
  · rw [if_neg subnormal]
    calc (2 ^ 52 + f) * 2 ^ (e - 1) < (2 ^ 52 * 2) * 2 ^ (e - 1) :=
          Nat.mul_lt_mul_of_pos_right (by omega) (Nat.two_pow_pos _)
      _ = 2 ^ 52 * 2 ^ e := by
          rw [Nat.mul_assoc, ← Nat.pow_succ', Nat.succ_eq_add_one, Nat.sub_add_cancel (by omega)]
      _ ≤ 2 ^ 52 * 2 ^ (e' - 1) := Nat.mul_le_mul_left _ (Nat.pow_le_pow_right (by decide) (by omega))

theorem units_injective (bound : f < 2 ^ 52) (bound' : f' < 2 ^ 52) (same : units e f = units e' f') :
    e = e' ∧ f = f' := by
  rcases Nat.lt_trichotomy e e' with smaller | rfl | greater
  · have apart := @units_lt e e' f f' smaller bound
    omega
  · refine ⟨rfl, ?_⟩
    unfold units at same
    by_cases subnormal : e = 0
    · rwa [if_pos subnormal, if_pos subnormal] at same
    · rw [if_neg subnormal, if_neg subnormal] at same
      have cancelled := Nat.eq_of_mul_eq_mul_right (Nat.two_pow_pos _) same
      omega
  · have apart := @units_lt e' e f' f greater bound'
    omega

theorem withSign_eq_zero {negative : Bool} {magnitude : Nat} : withSign negative magnitude = 0 ↔ magnitude = 0 := by
  cases negative <;> simp [withSign]

theorem withSign_neg_iff {negative : Bool} {magnitude : Nat} :
    withSign negative magnitude < 0 ↔ negative = true ∧ magnitude ≠ 0 := by
  cases negative
  · simp [withSign]
  · simp [withSign]
    omega

theorem withSign_injective {negative negative' : Bool} {magnitude magnitude' : Nat}
    (same : withSign negative magnitude = withSign negative' magnitude') :
    magnitude = magnitude' ∧ (negative = negative' ∨ magnitude = 0) := by
  cases negative <;> cases negative' <;> simp only [withSign, if_true, Bool.false_eq_true, if_false] at same
  · exact ⟨by omega, .inl rfl⟩
  · exact ⟨by omega, .inr (by omega)⟩
  · exact ⟨by omega, .inr (by omega)⟩
  · exact ⟨by omega, .inl rfl⟩

end Units

section Meanings

variable {x y : BitVec 64}

theorem meaning_notANumber_iff : meaning x = .notANumber ↔ exponent x = 2047 ∧ fraction x ≠ 0 := by
  unfold meaning
  split_ifs with special integral
  · exact iff_of_false nofun fun both => both.2 integral
  · exact iff_of_true rfl ⟨special, integral⟩
  · exact iff_of_false nofun fun both => special both.1

theorem meaning_zero_iff : meaning x = zero ↔ x.toNat % 2 ^ 63 = 0 := by
  rw [zero_iff]
  unfold meaning
  split_ifs with special integral
  · refine iff_of_false nofun fun both => ?_
    rw [both.1] at special
    cases special
  · exact iff_of_false nofun fun both => integral both.2
  · rw [zero, Meaning.finite.injEq, withSign_eq_zero, units_zero_iff]

theorem meaning_lt_zero_iff :
    (meaning x).lt zero ↔ signed x = true ∧ x.toNat % 2 ^ 63 ≠ 0 ∧ meaning x ≠ .notANumber := by
  rw [ne_eq, zero_iff, ne_eq, meaning_notANumber_iff]
  unfold meaning
  split_ifs with special integral
  · have exponents : exponent x ≠ 0 := by
      rw [special]
      decide
    constructor
    · intro negative
      exact ⟨negative, fun both => exponents both.1, fun both => both.2 integral⟩
    · exact fun negative => negative.1
  · exact iff_of_false not_false fun both => both.2.2 ⟨special, integral⟩
  · rw [zero, Meaning.lt, withSign_neg_iff, ne_eq, units_zero_iff]
    constructor
    · rintro ⟨negative, magnitude⟩
      exact ⟨negative, magnitude, fun both => special both.1⟩
    · rintro ⟨negative, magnitude, -⟩
      exact ⟨negative, magnitude⟩

/-- Two patterns of one meaning are one pattern, two zeros or two NaNs. -/
theorem meaning_eq_iff : meaning x = meaning y ↔
    x = y ∨ (meaning x = zero ∧ meaning y = zero) ∨ (meaning x = .notANumber ∧ meaning y = .notANumber) := by
  constructor
  · intro same
    by_cases number : meaning x = .notANumber
    · exact .inr (.inr ⟨number, same ▸ number⟩)
    by_cases none_left : meaning x = zero
    · exact .inr (.inl ⟨none_left, same ▸ none_left⟩)
    left
    have number' : ¬ meaning y = .notANumber := same ▸ number
    rw [meaning_notANumber_iff] at number number'
    rw [meaning_zero_iff, zero_iff] at none_left
    unfold meaning at same
    by_cases special : exponent x = 2047
    · by_cases special' : exponent y = 2047
      · have integral : fraction x = 0 := by_contra fun fraction => number ⟨special, fraction⟩
        have integral' : fraction y = 0 := by_contra fun fraction => number' ⟨special', fraction⟩
        rw [if_pos special, if_pos special', if_pos integral, if_pos integral'] at same
        exact eq_of_fields (Meaning.infinite.inj same) (special.trans special'.symm) (integral.trans integral'.symm)
      · have integral : fraction x = 0 := by_contra fun fraction => number ⟨special, fraction⟩
        rw [if_pos special, if_neg special', if_pos integral] at same
        cases same
    · by_cases special' : exponent y = 2047
      · have integral' : fraction y = 0 := by_contra fun fraction => number' ⟨special', fraction⟩
        rw [if_neg special, if_pos special', if_pos integral'] at same
        cases same
      · rw [if_neg special, if_neg special'] at same
        obtain ⟨magnitudes, signs⟩ := withSign_injective (Meaning.finite.inj same)
        obtain ⟨exponents, fractions⟩ := units_injective (fraction_lt x) (fraction_lt y) magnitudes
        rcases signs with sign | nothing
        · exact eq_of_fields sign exponents fractions
        · exact absurd (units_zero_iff.mp nothing) none_left
  · rintro (rfl | ⟨left, right⟩ | ⟨left, right⟩)
    · rfl
    · exact left.trans right.symm
    · exact left.trans right.symm

end Meanings

end Binary64
