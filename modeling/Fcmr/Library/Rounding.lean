import Mathlib.Algebra.Order.Floor.Ring
import Mathlib.Algebra.Order.Archimedean.Basic
import Mathlib.Tactic.Linarith
import Mathlib.Tactic.NormNum
import Mathlib.Tactic.Positivity

/-! Rounding to the nearest integer, a tie to the even one, and to numbers with a bounded
coefficient and a bounded number of places. A number keeps as many places as fit, so that
its grid gets coarser as it grows: rounding is still monotone. -/
namespace Rounding

variable {K : Type*} [Field K] [LinearOrder K] [IsStrictOrderedRing K] [FloorRing K]

def halfEven (x : K) : ℤ :=
  if 2 * Int.fract x < 1 ∨ 2 * Int.fract x = 1 ∧ Even ⌊x⌋ then ⌊x⌋ else ⌊x⌋ + 1

omit [IsStrictOrderedRing K] in
theorem floor_le_halfEven (x : K) : ⌊x⌋ ≤ halfEven x := by
  unfold halfEven
  split <;> omega

omit [IsStrictOrderedRing K] in
theorem halfEven_le_floor (x : K) : halfEven x ≤ ⌊x⌋ + 1 := by
  unfold halfEven
  split <;> omega

@[simp] theorem halfEven_intCast (n : ℤ) : halfEven (n : K) = n := by
  simp [halfEven]

@[simp] theorem halfEven_zero : halfEven (0 : K) = 0 := by
  simpa using halfEven_intCast (K := K) 0

theorem halfEven_of_eq {x : K} {n : ℤ} (h : x = n) : halfEven x = n := by
  rw [h, halfEven_intCast]

theorem halfEven_mono {x y : K} (h : x ≤ y) : halfEven x ≤ halfEven y := by
  have hfloor := Int.floor_mono h
  rcases hfloor.lt_or_eq with hlt | heq
  · have hx := halfEven_le_floor x
    have hy := floor_le_halfEven y
    omega
  · have hfract : Int.fract x ≤ Int.fract y := by
      unfold Int.fract
      rw [heq]
      exact sub_le_sub_right h _
    unfold halfEven
    rw [heq]
    split
    · split <;> omega
    · rename_i hx
      rw [if_neg]
      rintro (hlt | ⟨htie, heven⟩)
      · exact hx (.inl (by linarith))
      · rcases hfract.lt_or_eq with hlt | hsame
        · exact hx (.inl (by linarith))
        · exact hx (.inr ⟨hsame ▸ htie, heven⟩)

theorem halfEven_neg (x : K) : halfEven (-x) = -halfEven x := by
  by_cases hfract : Int.fract x = 0
  · have hx : x = ⌊x⌋ := by
      have hsum := Int.floor_add_fract x
      rw [hfract, add_zero] at hsum
      exact hsum.symm
    rw [hx, ← Int.cast_neg, halfEven_intCast, halfEven_intCast]
  · have hneg : Int.fract (-x) = 1 - Int.fract x := Int.fract_neg hfract
    have hfloor : ⌊-x⌋ = -⌊x⌋ - 1 := by
      have hx := Int.floor_add_fract x
      have hx' := Int.floor_add_fract (-x)
      rw [hneg] at hx'
      have hcast : ((⌊-x⌋ : ℤ) : K) = ((-⌊x⌋ - 1 : ℤ) : K) := by
        push_cast
        linarith
      exact_mod_cast hcast
    have hparity : Even (-⌊x⌋ - 1) ↔ ¬Even ⌊x⌋ := by
      rw [Int.even_sub_one, even_neg]
    unfold halfEven
    simp only [hneg, hfloor, hparity]
    rcases lt_trichotomy (2 * Int.fract x) 1 with hlt | heq | hgt
    · rw [if_neg, if_pos (.inl hlt)]
      · omega
      · rintro (h | ⟨h, _⟩) <;> linarith
    · have heq' : 2 * (1 - Int.fract x) = 1 := by linarith
      by_cases heven : Even ⌊x⌋
      · simp [heq, heq', heven]
      · simp [heq, heq', heven]
        omega
    · rw [if_pos (.inl (by linarith)), if_neg]
      · omega
      · rintro (h | ⟨h, _⟩) <;> linarith

theorem halfEven_nonneg {x : K} (h : 0 ≤ x) : 0 ≤ halfEven x := by
  simpa using halfEven_mono h

theorem abs_halfEven (x : K) : |halfEven x| = halfEven |x| := by
  rcases le_total 0 x with h | h
  · rw [abs_of_nonneg h, abs_of_nonneg (halfEven_nonneg h)]
  · have hneg := halfEven_nonneg (neg_nonneg.mpr h)
    rw [halfEven_neg] at hneg
    rw [abs_of_nonpos h, halfEven_neg, abs_of_nonpos (neg_nonneg.mp hneg)]

theorem abs_halfEven_mono {x y : K} (h : |x| ≤ |y|) : |halfEven x| ≤ |halfEven y| := by
  rw [abs_halfEven, abs_halfEven]
  exact halfEven_mono h

theorem sub_half_le_halfEven (x : K) : x - 1 / 2 ≤ halfEven x := by
  have hx := Int.floor_add_fract x
  have hfract := Int.fract_lt_one x
  unfold halfEven
  split
  · rename_i h
    rcases h with h | ⟨h, _⟩ <;> linarith
  · push_cast
    linarith

theorem halfEven_le_add_half (x : K) : (halfEven x : K) ≤ x + 1 / 2 := by
  have h := sub_half_le_halfEven (-x)
  rw [halfEven_neg] at h
  push_cast at h
  linarith

theorem abs_halfEven_sub_le (x : K) : |(halfEven x : K) - x| ≤ 1 / 2 := by
  have hlow := sub_half_le_halfEven x
  have hhigh := halfEven_le_add_half x
  rw [abs_le]
  constructor <;> linarith

theorem halfEven_eq_zero {x : K} (h : |x| < 1 / 2) : halfEven x = 0 := by
  have hsub := abs_le.mp (abs_halfEven_sub_le x)
  have hx := abs_lt.mp h
  have hlow : (-1 : ℤ) < halfEven x := by
    have hcast : ((-1 : ℤ) : K) < halfEven x := by
      push_cast
      linarith
    exact Int.cast_lt.mp hcast
  have hhigh : halfEven x < 1 := by
    have hcast : (halfEven x : K) < (1 : ℤ) := by
      push_cast
      linarith
    exact Int.cast_lt.mp hcast
  omega

theorem abs_halfEven_le_nat {x : K} {n : ℕ} (h : |x| ≤ n) : |(halfEven x : K)| ≤ n := by
  have hle := halfEven_mono h
  rw [← abs_halfEven, ← Int.cast_natCast (R := K), halfEven_intCast] at hle
  exact_mod_cast hle

theorem halfEven_lt_iff {x : K} {n : ℤ} (hn : Even n) : halfEven x < n ↔ x < n - 1 / 2 := by
  constructor
  · intro h
    by_contra hge
    have htie : halfEven ((n : K) - 1 / 2) = n := by
      have hfloor : ⌊(n : K) - 1 / 2⌋ = n - 1 := by
        rw [Int.floor_eq_iff]
        push_cast
        constructor <;> linarith
      have hfract : Int.fract ((n : K) - 1 / 2) = 1 / 2 := by
        unfold Int.fract
        rw [hfloor]
        push_cast
        ring
      have hodd : ¬Even (n - 1) := by
        rw [Int.even_sub_one]
        exact not_not_intro hn
      unfold halfEven
      rw [hfloor, hfract, if_neg (by norm_num [hodd])]
      exact Int.sub_add_cancel n 1
    have hle := halfEven_mono (not_lt.mp hge)
    omega
  · intro h
    have hle := halfEven_le_add_half x
    exact Int.cast_lt.mp (hle.trans_lt (lt_sub_iff_add_lt.mp h))

/-- Numbers with a coefficient below `bound` and at most `places` places. -/
structure Format where
  base : ℕ
  bound : ℕ
  places : ℕ
  one_lt_base : 1 < base
  /-- What is just out of bounds is not rounded down when it loses a place. -/
  carry : base + 1 < 2 * (bound % base)

namespace Format

variable (f : Format)

def coefficient (x : K) (p : ℕ) : ℤ := halfEven (x * f.base ^ p)

def Fits (x : K) (p : ℕ) : Prop := |f.coefficient x p| < f.bound

/-- `y` is `x` with as many places as there are and fit. -/
def Rounded (x y : K) : Prop :=
  ∃ p ≤ f.places, f.Fits x p ∧ (p < f.places → ¬f.Fits x (p + 1)) ∧
    y = f.coefficient x p / f.base ^ p

variable {f} {x x' y y' : K} {p q : ℕ}

theorem base_pos : (0 : K) < f.base := by
  exact_mod_cast Nat.zero_lt_one.trans f.one_lt_base

theorem scale_pos : (0 : K) < f.base ^ p := pow_pos base_pos p

theorem coefficient_mono (h : x ≤ x') : f.coefficient x p ≤ f.coefficient x' p :=
  halfEven_mono (mul_le_mul_of_nonneg_right h scale_pos.le)

@[simp] theorem coefficient_neg : f.coefficient (-x) p = -f.coefficient x p := by
  unfold coefficient
  rw [neg_mul, halfEven_neg]

@[simp] theorem fits_neg : f.Fits (-x) p ↔ f.Fits x p := by
  unfold Fits
  rw [coefficient_neg, abs_neg]

theorem Fits.of_abs_le (h : f.Fits x' p) (hle : |x| ≤ |x'|) : f.Fits x p := by
  apply lt_of_le_of_lt _ h
  apply abs_halfEven_mono
  rw [abs_mul, abs_mul]
  exact mul_le_mul_of_nonneg_right hle (abs_nonneg _)

theorem Fits.of_places_le (h : f.Fits x q) (hle : p ≤ q) : f.Fits x p := by
  apply lt_of_le_of_lt _ h
  apply abs_halfEven_mono
  rw [abs_mul, abs_mul]
  apply mul_le_mul_of_nonneg_left _ (abs_nonneg x)
  have hp : (0 : K) < f.base ^ p := scale_pos
  have hq : (0 : K) < f.base ^ q := scale_pos
  rw [abs_of_pos hp, abs_of_pos hq]
  exact pow_le_pow_right₀ (by exact_mod_cast f.one_lt_base.le) hle

theorem bound_le_of_not_fits (hx : 0 ≤ x) (h : ¬f.Fits x (p + 1)) :
    (f.bound : ℤ) ≤ f.base * f.coefficient x p := by
  have hbound : (f.bound : K) ≤ f.coefficient x (p + 1) := by
    have habs : |f.coefficient x (p + 1)| = f.coefficient x (p + 1) :=
      abs_of_nonneg (halfEven_nonneg (mul_nonneg hx scale_pos.le))
    unfold Fits at h
    rw [habs] at h
    exact_mod_cast not_lt.mp h
  have hnext : (f.coefficient x (p + 1) : K) ≤ x * f.base ^ (p + 1) + 1 / 2 :=
    halfEven_le_add_half _
  have hlast : x * f.base ^ p - 1 / 2 ≤ f.coefficient x p := sub_half_le_halfEven _
  have hdiv : (f.base : ℤ) * (f.bound / f.base : ℕ) + (f.bound % f.base : ℕ) = f.bound := by
    exact_mod_cast Nat.div_add_mod f.bound f.base
  have hmod : (f.bound % f.base : ℕ) < f.base := Nat.mod_lt _ (Nat.zero_lt_one.trans f.one_lt_base)
  have hcarry : (f.base : K) + 1 < 2 * (f.bound % f.base : ℕ) := by exact_mod_cast f.carry
  have hquotient : ((f.bound / f.base : ℕ) : K) < f.coefficient x p := by
    have hscaled : (f.base : K) * (f.bound / f.base : ℕ) + (f.bound % f.base : ℕ) = f.bound := by
      exact_mod_cast hdiv
    have hbase : (0 : K) < f.base := base_pos
    rw [pow_succ] at hnext
    have hmul : f.base * ((f.bound / f.base : ℕ) : K) < f.base * (x * f.base ^ p - 1 / 2) := by
      linarith
    exact (lt_of_mul_lt_mul_left hmul hbase.le).trans_le hlast
  have hsucc : ((f.bound / f.base : ℕ) : ℤ) + 1 ≤ f.coefficient x p :=
    Int.add_one_le_iff.mpr (Int.cast_lt.mp ((Int.cast_natCast (R := K) _).trans_lt hquotient))
  have hbase : (0 : ℤ) ≤ f.base := Int.natCast_nonneg _
  have hmul := mul_le_mul_of_nonneg_left hsucc hbase
  have hmod' : ((f.bound % f.base : ℕ) : ℤ) < f.base := by exact_mod_cast hmod
  linarith

theorem coefficient_div_le (h : x ≤ x') (hfits : f.Fits x p) (hlt : q < p)
    (hmax : ¬f.Fits x' (q + 1)) :
    (f.coefficient x p : K) / f.base ^ p ≤ f.coefficient x' q / f.base ^ q := by
  have hx' : 0 ≤ x' := by
    by_contra hneg
    apply hmax
    apply (hfits.of_places_le hlt).of_abs_le
    rw [abs_of_nonpos (not_le.mp hneg).le, abs_of_nonpos (h.trans (not_le.mp hneg).le)]
    exact neg_le_neg h
  have hbound : (f.bound : K) ≤ f.base * f.coefficient x' q := by
    exact_mod_cast bound_le_of_not_fits hx' hmax
  have hcoefficient : (f.coefficient x p : K) ≤ f.bound := by
    exact_mod_cast (le_abs_self _).trans hfits.le
  calc
    (f.coefficient x p : K) / f.base ^ p ≤ f.bound / f.base ^ p :=
      div_le_div_of_nonneg_right hcoefficient scale_pos.le
    _ ≤ f.bound / f.base ^ (q + 1) := by
      apply div_le_div_of_nonneg_left (Nat.cast_nonneg _) scale_pos
      exact pow_le_pow_right₀ (by exact_mod_cast f.one_lt_base.le) hlt
    _ ≤ f.base * f.coefficient x' q / f.base ^ (q + 1) :=
      div_le_div_of_nonneg_right hbound scale_pos.le
    _ = f.coefficient x' q / f.base ^ q := by
      rw [pow_succ', mul_div_mul_left _ _ base_pos.ne']

theorem Rounded.neg (h : f.Rounded x y) : f.Rounded (-x) (-y) := by
  obtain ⟨p, hp, hfits, hmax, rfl⟩ := h
  refine ⟨p, hp, fits_neg.mpr hfits, fun hlt => mt fits_neg.mp (hmax hlt), ?_⟩
  rw [coefficient_neg, Int.cast_neg, neg_div]

theorem Rounded.mono (h : f.Rounded x y) (h' : f.Rounded x' y') (hle : x ≤ x') : y ≤ y' := by
  obtain ⟨p, hp, hfits, hmax, rfl⟩ := h
  obtain ⟨p', hp', hfits', hmax', rfl⟩ := h'
  rcases lt_trichotomy p p' with hlt | rfl | hlt
  · -- The mirror image of the last case.
    have hneg := coefficient_div_le (neg_le_neg hle) (fits_neg.mpr hfits') hlt
      (mt fits_neg.mp (hmax (hlt.trans_le hp')))
    simp only [coefficient_neg, Int.cast_neg, neg_div] at hneg
    exact neg_le_neg_iff.mp hneg
  · apply div_le_div_of_nonneg_right _ scale_pos.le
    exact_mod_cast coefficient_mono hle
  · exact coefficient_div_le hle hfits hlt (hmax' (hlt.trans_le hp))

theorem Rounded.unique (h : f.Rounded x y) (h' : f.Rounded x y') : y = y' :=
  le_antisymm (h.mono h' le_rfl) (h'.mono h le_rfl)

theorem coefficient_of_exact {k : ℤ} (h : x = k / f.base ^ p) (hle : p ≤ q) :
    f.coefficient x q = k * f.base ^ (q - p) := by
  apply halfEven_of_eq
  obtain ⟨r, rfl⟩ := Nat.exists_eq_add_of_le hle
  have hpow : (f.base : K) ^ p ≠ 0 := scale_pos.ne'
  rw [h, Nat.add_sub_cancel_left, pow_add]
  push_cast
  rw [div_mul_eq_mul_div, mul_left_comm, mul_div_cancel_left₀ _ hpow]

theorem rounded_of_exact {k : ℤ} (h : x = k / f.base ^ p) (hk : |k| < f.bound)
    (hp : p ≤ f.places) : f.Rounded x x := by
  classical
  have hfits : f.Fits x p := by
    unfold Fits
    rw [coefficient_of_exact h le_rfl, Nat.sub_self, pow_zero, mul_one]
    exact hk
  have hle : p ≤ Nat.findGreatest (f.Fits x) f.places := Nat.le_findGreatest hp hfits
  refine ⟨_, Nat.findGreatest_le _, Nat.findGreatest_spec hp hfits, ?_, ?_⟩
  · intro hlt
    exact Nat.findGreatest_is_greatest (Nat.lt_succ_self _) hlt
  · obtain ⟨r, hr⟩ := Nat.exists_eq_add_of_le hle
    have hpow : (f.base : K) ^ r ≠ 0 := scale_pos.ne'
    rw [coefficient_of_exact h hle, hr, Nat.add_sub_cancel_left, pow_add, h]
    push_cast
    rw [mul_div_mul_right _ _ hpow]

theorem rounded_zero (h : 0 < f.bound) : f.Rounded (0 : K) 0 := by
  apply rounded_of_exact (k := 0) (p := 0)
  · simp
  · exact_mod_cast h
  · exact Nat.zero_le _

theorem Rounded.abs_le_nat {n : ℕ} (h : f.Rounded x y) (hn : n < f.bound) (hx : |x| ≤ n) :
    |y| ≤ n := by
  have hexact : f.Rounded (n : K) n := by
    apply rounded_of_exact (k := n) (p := 0)
    · simp
    · rw [Nat.abs_cast]
      exact_mod_cast hn
    · exact Nat.zero_le _
  have hbounds := abs_le.mp hx
  exact abs_le.mpr ⟨hexact.neg.mono h hbounds.1, h.mono hexact hbounds.2⟩

theorem Rounded.fits (h : f.Rounded x y) : f.Fits x 0 := by
  obtain ⟨p, _, hfits, _⟩ := h
  exact hfits.of_places_le (Nat.zero_le p)

theorem Rounded.abs_sub_le (h : f.Rounded x y) :
    |y - x| ≤ 1 / (2 * f.base ^ f.places) + f.base * |x| / (2 * f.bound - 1) := by
  have hbound : (1 : K) < 2 * f.bound := by
    have hpos : 0 < f.bound := by
      have hcarry := f.carry
      have hle := Nat.mod_le f.bound f.base
      omega
    have hcast : (1 : K) ≤ f.bound := by exact_mod_cast hpos
    linarith
  obtain ⟨p, hp, _, hmax, rfl⟩ := h
  have hscale : (0 : K) < f.base ^ p := scale_pos
  have hunit : |(f.coefficient x p : K) / f.base ^ p - x| ≤ 1 / (2 * f.base ^ p) := by
    have hround := abs_halfEven_sub_le (x * f.base ^ p)
    rw [div_sub' hscale.ne', abs_div, abs_of_pos hscale, mul_comm (_ ^ p) x, div_le_iff₀ hscale,
      one_div, mul_inv, mul_assoc, inv_mul_cancel₀ hscale.ne', mul_one, ← one_div]
    exact hround
  rcases hp.lt_or_eq with hlt | rfl
  · -- One more digit does not fit: the number is large.
    have hlarge : (f.bound : K) - 1 / 2 ≤ |x| * f.base ^ (p + 1) := by
      have hpos : (0 : K) < f.base ^ (p + 1) := scale_pos
      have hnot := not_lt.mp (hmax hlt)
      unfold coefficient at hnot
      rw [abs_halfEven, abs_mul, abs_of_pos hpos] at hnot
      have hcast : (f.bound : K) ≤ halfEven (|x| * (f.base : K) ^ (p + 1)) := by
        exact_mod_cast hnot
      linarith [halfEven_le_add_half (|x| * (f.base : K) ^ (p + 1))]
    have hlast : 1 / (2 * (f.base : K) ^ p) ≤ f.base * |x| / (2 * f.bound - 1) := by
      rw [div_le_div_iff₀ (by positivity) (by linarith)]
      rw [pow_succ] at hlarge
      linarith
    have hrest : (0 : K) ≤ 1 / (2 * f.base ^ f.places) := by
      have hpos : (0 : K) < f.base ^ f.places := scale_pos
      positivity
    linarith
  · have hrest : (0 : K) ≤ f.base * |x| / (2 * f.bound - 1) := by
      apply div_nonneg _ (by linarith)
      exact mul_nonneg (Nat.cast_nonneg _) (abs_nonneg x)
    linarith

instance : DecidablePred (f.Fits x) := fun p =>
  inferInstanceAs (Decidable (|f.coefficient x p| < (f.bound : ℤ)))

def nearest (f : Format) (x : K) : K :=
  f.coefficient x (Nat.findGreatest (f.Fits x) f.places) /
    f.base ^ Nat.findGreatest (f.Fits x) f.places

omit [IsStrictOrderedRing K] in
theorem rounded_nearest (h : f.Fits x 0) : f.Rounded x (f.nearest x) := by
  refine ⟨_, Nat.findGreatest_le _, Nat.findGreatest_spec (Nat.zero_le _) h, ?_, rfl⟩
  intro hlt
  exact Nat.findGreatest_is_greatest (Nat.lt_succ_self _) hlt

theorem Rounded.eq_nearest (h : f.Rounded x y) : y = f.nearest x :=
  h.unique (rounded_nearest h.fits)

theorem fits_iff (heven : Even f.bound) : f.Fits x p ↔ |x| * f.base ^ p < f.bound - 1 / 2 := by
  have hlt := halfEven_lt_iff (x := |x| * (f.base : K) ^ p) ((Int.even_coe_nat f.bound).mpr heven)
  have hpos : (0 : K) < f.base ^ p := scale_pos
  rw [Int.cast_natCast] at hlt
  rw [← hlt]
  unfold Fits coefficient
  rw [abs_halfEven, abs_mul, abs_of_pos hpos]

theorem bound_le_greatest (hp : p ≤ f.places) (h : ¬f.Fits x p) :
    Nat.findGreatest (f.Fits x) f.places ≤ p ∧
      (f.bound : ℤ) ≤ |f.coefficient x (Nat.findGreatest (f.Fits x) f.places)| *
        f.base ^ (p - Nat.findGreatest (f.Fits x) f.places) := by
  have hbase : (1 : ℤ) ≤ f.base := by exact_mod_cast f.one_lt_base.le
  by_cases hzero : f.Fits x 0
  · have hfits := Nat.findGreatest_spec (Nat.zero_le f.places) hzero
    have hmax {n : ℕ} (hn : Nat.findGreatest (f.Fits x) f.places < n) (hle : n ≤ f.places) :=
      Nat.findGreatest_is_greatest hn hle
    generalize Nat.findGreatest (f.Fits x) f.places = q at hfits hmax
    have hlt : q < p := by
      by_contra hle
      exact h (hfits.of_places_le (not_lt.mp hle))
    have hnext : ¬f.Fits |x| (q + 1) := by
      rcases abs_choice x with habs | habs
      · rw [habs]
        exact hmax (Nat.lt_succ_self q) (by omega)
      · rw [habs, fits_neg]
        exact hmax (Nat.lt_succ_self q) (by omega)
    have habs : f.coefficient |x| q = |f.coefficient x q| := by
      have hpos : (0 : K) < f.base ^ q := scale_pos
      unfold coefficient
      rw [abs_halfEven, abs_mul, abs_of_pos hpos]
    have hbound := bound_le_of_not_fits (abs_nonneg x) hnext
    rw [habs] at hbound
    refine ⟨hlt.le, hbound.trans ?_⟩
    rw [mul_comm]
    apply mul_le_mul_of_nonneg_left _ (abs_nonneg _)
    exact le_self_pow₀ hbase (by omega)
  · have hnone : Nat.findGreatest (f.Fits x) f.places = 0 := by
      rw [Nat.findGreatest_eq_zero_iff]
      intro n _ _ hfits
      exact hzero (hfits.of_places_le (Nat.zero_le n))
    rw [hnone]
    refine ⟨Nat.zero_le p, (not_lt.mp hzero).trans ?_⟩
    exact le_mul_of_one_le_right (abs_nonneg _) (one_le_pow₀ hbase)

theorem fits_nearest_mul (hp : p ≤ f.places) :
    f.Fits (f.nearest x * f.base ^ p) 0 ↔ f.Fits x p := by
  have hshift : f.Fits (f.nearest x * f.base ^ p) 0 ↔ f.Fits (f.nearest x) p := by
    unfold Fits coefficient
    rw [pow_zero, mul_one]
  rw [hshift]
  constructor
  · intro h
    by_contra hnot
    obtain ⟨hle, hbound⟩ := bound_le_greatest hp hnot
    unfold nearest at h
    generalize Nat.findGreatest (f.Fits x) f.places = q at h hle hbound
    unfold Fits at h
    rw [coefficient_of_exact rfl hle, abs_mul, abs_pow, Nat.abs_cast] at h
    omega
  · intro h
    have hfits := Nat.findGreatest_spec hp h
    have hle := Nat.le_findGreatest hp h
    unfold nearest
    generalize Nat.findGreatest (f.Fits x) f.places = q at hfits hle
    refine Fits.of_places_le ?_ hle
    unfold Fits at hfits ⊢
    rwa [coefficient_of_exact rfl le_rfl, Nat.sub_self, pow_zero, mul_one]

end Format

end Rounding
