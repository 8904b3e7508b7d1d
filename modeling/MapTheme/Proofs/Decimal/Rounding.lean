/-
  MapTheme.Proofs.Decimal.Rounding — a number in a text depends on the value of its digits alone.

  Rounding sees only the quotient (`ofRatio_mul`), and the short cuts for numbers far outside the range give
  what rounding gives there (`ofScientific_eq_ofDecimal`). So digits mean the same wherever the point stands
  (`ofScientific_scale`), and another power of ten makes another number of them, unless both are zero or out of
  range (`ofScientific_shift`). A magnitude of at most 53 significant bits is rounded to itself
  (`ofScientific_exact`), and all that rounding makes is of that kind (`Fits`).
-/

import Mathlib.Data.Nat.Log
import Mathlib.Tactic.Ring
import MapTheme.Decimal.Binary64

namespace MapTheme.Binary64

variable {negative : Bool}

/-! ## Rounding sees the quotient -/

theorem roundEven_mul {c : Nat} (hc : 0 < c) (n d : Nat) : roundEven (c * n) (c * d) = roundEven n d := by
  have hlt : 2 * (c * (n % d)) < c * d ↔ 2 * (n % d) < d := by
    rw [Nat.mul_left_comm]
    exact Nat.mul_lt_mul_left hc
  have heq : 2 * (c * (n % d)) = c * d ↔ 2 * (n % d) = d := by
    rw [Nat.mul_left_comm]
    exact Nat.mul_right_inj (Nat.pos_iff_ne_zero.mp hc)
  simp only [roundEven, Nat.mul_div_mul_left _ _ hc, Nat.mul_mod_mul_left, hlt, beq_eq_decide, heq]

theorem div_le_roundEven (n d : Nat) : n / d ≤ roundEven n d := by
  unfold roundEven
  dsimp only
  split <;> omega

theorem roundEven_le (n d : Nat) : roundEven n d ≤ n / d + 1 := by
  unfold roundEven
  dsimp only
  split <;> omega

/-- A whole quotient needs no rounding. -/
theorem roundEven_of_dvd {n d : Nat} (hd : 0 < d) (h : d ∣ n) : roundEven n d = n / d := by
  simp [roundEven, Nat.mod_eq_zero_of_dvd h, hd]

/-- One is a power of two, with an exponent that no evaluation should expand. -/
theorem exists_one_eq : ∃ k, k = 1074 ∧ one = 2 ^ k := by
  obtain ⟨k, hk⟩ : ∃ k, k = 1074 := ⟨_, rfl⟩
  refine ⟨k, hk, ?_⟩
  unfold one
  rw [← hk]
  rfl

/-- The bits of a quotient of steps below its 53 leading ones. -/
def spareBits (num den : Nat) : Nat := Nat.log2 (num * one / den) + 1 - 53

/-- The rounded magnitude, before it is compared with the largest one. -/
def roundedSteps (num den : Nat) : Nat :=
  roundEven (num * one) (den * 2 ^ spareBits num den) * 2 ^ spareBits num den

theorem ofRatio_eq (negative : Bool) (num den : Nat) :
    ofRatio negative num den =
      if roundedSteps num den ≤ largest then .finite negative (roundedSteps num den) else .infinite negative := by
  have hsteps : num <<< 1074 = num * one := by
    obtain ⟨k, hk, hone⟩ := exists_one_eq
    rw [hone, ← hk, Nat.shiftLeft_eq]
  simp only [ofRatio, hsteps, Nat.shiftLeft_eq]
  rfl

/-- A quotient is rounded alike however it is written. -/
theorem ofRatio_mul {c : Nat} (hc : 0 < c) (num den : Nat) :
    ofRatio negative (c * num) (c * den) = ofRatio negative num den := by
  have hspare : spareBits (c * num) (c * den) = spareBits num den := by
    simp only [spareBits, Nat.mul_assoc, Nat.mul_div_mul_left _ _ hc]
  have hrounded : roundedSteps (c * num) (c * den) = roundedSteps num den := by
    simp only [roundedSteps, hspare, Nat.mul_assoc, roundEven_mul hc]
  rw [ofRatio_eq, ofRatio_eq, hrounded]

/-! ## Far outside the range -/

theorem two_pow_log2_le_roundedSteps {num den : Nat} (h : num * one / den ≠ 0) :
    2 ^ Nat.log2 (num * one / den) ≤ roundedSteps num den := by
  have hq := Nat.log2_self_le h
  have hspare : spareBits num den ≤ Nat.log2 (num * one / den) := by unfold spareBits; omega
  have hfloor := div_le_roundEven (num * one) (den * 2 ^ spareBits num den)
  rw [← Nat.div_div_eq_div_mul] at hfloor
  unfold roundedSteps
  generalize num * one / den = q at *
  generalize spareBits num den = s at *
  have hpow : 2 ^ (q.log2 - s) * 2 ^ s = 2 ^ q.log2 := by rw [← Nat.pow_add, Nat.sub_add_cancel hspare]
  have hle : 2 ^ (q.log2 - s) ≤ q / 2 ^ s := by
    rw [Nat.le_div_iff_mul_le (Nat.two_pow_pos s), hpow]
    exact hq
  rw [← hpow]
  exact Nat.mul_le_mul_right _ (hle.trans hfloor)

/-- A quotient of more steps than there are is too large. -/
theorem ofRatio_of_large {num k : Nat} (hk : largest < 2 ^ k) (h : 2 ^ k ≤ num * one) :
    ofRatio negative num 1 = .infinite negative := by
  have hpos := Nat.two_pow_pos k
  have hne : num * one / 1 ≠ 0 := by rw [Nat.div_one]; omega
  have hlog : k ≤ Nat.log2 (num * one / 1) := (Nat.le_log2 hne).mpr (by rwa [Nat.div_one])
  have hpow : 2 ^ k ≤ 2 ^ Nat.log2 (num * one / 1) := Nat.pow_le_pow_right (by decide) hlog
  have hrounded := two_pow_log2_le_roundedSteps hne
  rw [ofRatio_eq, if_neg (by omega)]

/-- Less than half a step is nothing. -/
theorem ofRatio_of_small {num den : Nat} (h : 2 * (num * one) < den) : ofRatio negative num den = .finite negative 0 := by
  have hlt : num * one < den := by omega
  have hdiv : num * one / den = 0 := Nat.div_eq_of_lt hlt
  have hspare : spareBits num den = 0 := by rw [spareBits, hdiv]; rfl
  have hrounded : roundedSteps num den = 0 := by
    simp [roundedSteps, hspare, roundEven, hdiv, Nat.mod_eq_of_lt hlt, h]
  rw [ofRatio_eq, hrounded, if_pos (Nat.zero_le _)]

theorem exists_largest_lt : ∃ k, k = 2098 ∧ largest < 2 ^ k := by
  obtain ⟨a, ha⟩ : ∃ a, a = 2045 := ⟨_, rfl⟩
  refine ⟨53 + a, by omega, ?_⟩
  unfold largest
  rw [Nat.pow_add, ← ha]
  exact Nat.mul_lt_mul_of_pos_right (by decide) (Nat.two_pow_pos a)

/-! ## Digits times a power of ten -/

/-- The number `m * 10^e`, rounded. -/
def ofDecimal (negative : Bool) (m : Nat) (e : Int) : Binary64 :=
  if e < 0 then ofRatio negative m (10 ^ e.natAbs) else ofRatio negative (m * 10 ^ e.natAbs) 1

theorem two_pow_le_ten_pow (n : Nat) : 2 ^ (3 * n) ≤ 10 ^ n := by
  rw [Nat.pow_mul]
  exact Nat.pow_le_pow_left (by decide) n

theorem ofDecimal_of_large {m : Nat} {e : Int} (hm : m ≠ 0) (he : 400 < e) :
    ofDecimal negative m e = .infinite negative := by
  obtain ⟨k, hk, hone⟩ := exists_one_eq
  obtain ⟨l, hl, hlargest⟩ := exists_largest_lt
  have hpow : 2 ^ l ≤ 10 ^ e.natAbs * one := by
    rw [hone]
    calc 2 ^ l ≤ 2 ^ (3 * e.natAbs + k) := Nat.pow_le_pow_right (by decide) (by omega)
      _ = 2 ^ (3 * e.natAbs) * 2 ^ k := Nat.pow_add ..
      _ ≤ 10 ^ e.natAbs * 2 ^ k := Nat.mul_le_mul_right _ (two_pow_le_ten_pow e.natAbs)
  rw [ofDecimal, if_neg (by omega)]
  apply ofRatio_of_large hlargest
  rw [Nat.mul_assoc]
  exact hpow.trans (Nat.le_mul_of_pos_left _ (Nat.pos_of_ne_zero hm))

theorem ofDecimal_of_small {m : Nat} {e : Int} (he : e + Nat.log2 m + 1 < -400) :
    ofDecimal negative m e = .finite negative 0 := by
  obtain ⟨k, hk, hone⟩ := exists_one_eq
  have hm : m < 2 ^ (Nat.log2 m + 1) := Nat.lt_log2_self
  rw [ofDecimal, if_pos (by omega)]
  apply ofRatio_of_small
  rw [hone]
  calc 2 * (m * 2 ^ k) < 2 * (2 ^ (Nat.log2 m + 1) * 2 ^ k) :=
        Nat.mul_lt_mul_of_pos_left (Nat.mul_lt_mul_of_pos_right hm (Nat.two_pow_pos _)) (by decide)
    _ = 2 ^ (1 + (Nat.log2 m + 1 + k)) := by rw [← Nat.pow_add, Nat.pow_add 2 1, pow_one]
    _ ≤ 2 ^ (3 * e.natAbs) := Nat.pow_le_pow_right (by decide) (by omega)
    _ ≤ 10 ^ e.natAbs := two_pow_le_ten_pow e.natAbs

/-- The short cuts of reading agree with rounding. -/
theorem ofScientific_eq_ofDecimal {m : Nat} (hm : m ≠ 0) (e : Int) : ofScientific negative m e = ofDecimal negative m e := by
  unfold ofScientific
  rw [if_neg hm]
  by_cases hlarge : e > 400
  · rw [if_pos hlarge, ofDecimal_of_large hm hlarge]
  · rw [if_neg hlarge]
    by_cases hsmall : e + Nat.log2 m + 1 < -400
    · rw [if_pos hsmall, ofDecimal_of_small hsmall]
    · rw [if_neg hsmall]
      rfl

theorem ofDecimal_scale (m j : Nat) (e : Int) : ofDecimal negative (m * 10 ^ j) e = ofDecimal negative m (e + j) := by
  have hten : 0 < 10 ^ j := Nat.pow_pos (by decide)
  unfold ofDecimal
  by_cases he : e < 0
  · by_cases hej : e + j < 0
    · have habs : e.natAbs = j + (e + j).natAbs := by omega
      rw [if_pos he, if_pos hej, habs, Nat.pow_add, Nat.mul_comm m, ofRatio_mul hten]
    · have habs : j = e.natAbs + (e + j).natAbs := by omega
      have hten' : 0 < 10 ^ e.natAbs := Nat.pow_pos (by decide)
      have hone : ofRatio negative (10 ^ e.natAbs * (m * 10 ^ (e + j).natAbs)) (10 ^ e.natAbs * 1) =
          ofRatio negative (m * 10 ^ (e + j).natAbs) 1 := ofRatio_mul hten' _ _
      rw [if_pos he, if_neg hej, ← hone, Nat.mul_one, Nat.mul_left_comm, ← Nat.pow_add, ← habs]
  · have habs : (e + j).natAbs = j + e.natAbs := by omega
    rw [if_neg he, if_neg (by omega), habs, Nat.pow_add, Nat.mul_assoc]

/-- Zeros at the end of the digits may as well be in the exponent. -/
theorem ofScientific_scale (m j : Nat) (e : Int) :
    ofScientific negative (m * 10 ^ j) e = ofScientific negative m (e + j) := by
  by_cases hm : m = 0
  · simp [ofScientific, hm]
  · have hmul : m * 10 ^ j ≠ 0 := Nat.mul_ne_zero hm (Nat.pow_pos (by decide)).ne'
    rw [ofScientific_eq_ofDecimal hmul, ofScientific_eq_ofDecimal hm, ofDecimal_scale]

/-! ## Another power of ten -/

theorem roundedSteps_le {num den : Nat} (h : num * one / den ≠ 0) : roundedSteps num den ≤ 2 * (num * one / den) := by
  have hfloor := roundEven_le (num * one) (den * 2 ^ spareBits num den)
  have hlog := Nat.log2_self_le h
  have hspare : spareBits num den ≤ Nat.log2 (num * one / den) := by unfold spareBits; omega
  have hpow : 2 ^ spareBits num den ≤ 2 ^ Nat.log2 (num * one / den) := Nat.pow_le_pow_right (by decide) hspare
  rw [← Nat.div_div_eq_div_mul] at hfloor
  unfold roundedSteps
  generalize num * one / den = q at *
  generalize 2 ^ spareBits num den = s at *
  have hdiv := Nat.div_mul_le_self q s
  calc roundEven (num * one) (den * s) * s ≤ (q / s + 1) * s := Nat.mul_le_mul_right s hfloor
    _ = q / s * s + s := Nat.succ_mul ..
    _ ≤ 2 * q := by omega

theorem lt_two_mul_roundedSteps {num den : Nat} (h : num * one / den ≠ 0) :
    num * one / den < 2 * roundedSteps num den := by
  have hrounded := two_pow_log2_le_roundedSteps h
  have hlog : num * one / den < 2 ^ (Nat.log2 (num * one / den) + 1) := Nat.lt_log2_self
  rw [Nat.pow_succ] at hlog
  omega

/-- A quotient below one step is rounded to one step at most, and to that only from half a step on. -/
theorem roundedSteps_of_small {num den : Nat} (hden : 0 < den) (h : num * one / den = 0) :
    roundedSteps num den = 0 ∨ roundedSteps num den = 1 ∧ den ≤ 2 * (num * one) := by
  have hlt : num * one < den := (Nat.div_eq_zero_iff_lt hden).mp h
  have hspare : spareBits num den = 0 := by rw [spareBits, h]; rfl
  simp only [roundedSteps, hspare, Nat.pow_zero, Nat.mul_one, roundEven, h, Nat.mod_eq_of_lt hlt]
  split
  · exact .inl rfl
  · rename_i hhalf
    simp only [Bool.or_eq_true, Bool.and_eq_true, decide_eq_true_eq, not_or] at hhalf
    exact .inr ⟨rfl, by omega⟩

/-- Ten times a quotient is not rounded to the same steps, unless these are none. -/
theorem roundedSteps_scale {num den j : Nat} (hden : 0 < den) (hj : j ≠ 0)
    (h : roundedSteps (num * 10 ^ j) den = roundedSteps num den) : roundedSteps num den = 0 := by
  have hten : 10 ≤ 10 ^ j := Nat.le_self_pow hj 10
  have hscaled : 10 * (num * one) / den ≤ num * 10 ^ j * one / den := by
    apply Nat.div_le_div_right
    rw [Nat.mul_right_comm, Nat.mul_comm 10]
    exact Nat.mul_le_mul_left _ hten
  by_cases hq : num * one / den = 0
  · rcases roundedSteps_of_small hden hq with hzero | ⟨hone, hhalf⟩
    · exact hzero
    · have hfive : 5 ≤ 10 * (num * one) / den := by
        rw [Nat.le_div_iff_mul_le hden]
        omega
      have hlarge : num * 10 ^ j * one / den < 2 * roundedSteps (num * 10 ^ j) den := lt_two_mul_roundedSteps (by omega)
      omega
  · have hmul : 10 * (num * one / den) ≤ 10 * (num * one) / den := Nat.mul_div_le_mul_div_assoc ..
    have hsmall := roundedSteps_le hq
    have hlarge : num * 10 ^ j * one / den < 2 * roundedSteps (num * 10 ^ j) den := lt_two_mul_roundedSteps (by omega)
    omega

theorem ofRatio_scale {num den j : Nat} (hden : 0 < den) (hj : j ≠ 0)
    (h : ofRatio negative (num * 10 ^ j) den = ofRatio negative num den) :
    ofRatio negative num den = .finite negative 0 ∨ ofRatio negative num den = .infinite negative := by
  rw [ofRatio_eq, ofRatio_eq] at h
  rw [ofRatio_eq]
  split
  · rename_i hle
    rw [if_pos hle] at h
    split at h
    · rw [roundedSteps_scale hden hj (finite.inj h).2]
      exact .inl rfl
    · cases h
  · exact .inr rfl

/-- Digits with another power of ten are another number, unless both are zero or out of range. -/
theorem ofDecimal_shift {m j : Nat} {e : Int} (hj : j ≠ 0) (h : ofDecimal negative m (e + j) = ofDecimal negative m e) :
    ofDecimal negative m e = .finite negative 0 ∨ ofDecimal negative m e = .infinite negative := by
  rw [← ofDecimal_scale] at h
  unfold ofDecimal at h ⊢
  split
  · rename_i he
    rw [if_pos he, if_pos he] at h
    exact ofRatio_scale (Nat.pow_pos (by decide)) hj h
  · rename_i he
    rw [if_neg he, if_neg he, Nat.mul_right_comm] at h
    exact ofRatio_scale Nat.one_pos hj h

theorem ofScientific_shift {m : Nat} {e e' : Int} (hne : e ≠ e')
    (h : ofScientific negative m e = ofScientific negative m e') :
    ofScientific negative m e = .finite negative 0 ∨ ofScientific negative m e = .infinite negative := by
  by_cases hm : m = 0
  · rw [ofScientific, if_pos hm]
    exact .inl rfl
  · rw [ofScientific_eq_ofDecimal hm, ofScientific_eq_ofDecimal hm] at h
    rw [ofScientific_eq_ofDecimal hm]
    rcases Int.lt_or_gt_of_ne hne with hlt | hgt
    · have hshift : e' = e + (e' - e).natAbs := by omega
      exact ofDecimal_shift (j := (e' - e).natAbs) (by omega) (by rw [← hshift, h])
    · have hshift : e = e' + (e - e').natAbs := by omega
      rw [h]
      exact ofDecimal_shift (j := (e - e').natAbs) (by omega) (by rw [← hshift, h])

/-! ## Numbers that rounding leaves alone -/

/-- A magnitude in the range, with at most 53 significant bits. -/
structure Fits (m : Nat) : Prop where
  le : m ≤ largest
  dvd : 2 ^ (Nat.log2 m + 1 - 53) ∣ m

theorem Fits.zero : Fits 0 := ⟨Nat.zero_le _, Nat.dvd_zero _⟩

theorem dvd_of_significand {r : Nat} (hr : r ≤ 2 ^ 53) (s : Nat) :
    2 ^ (Nat.log2 (r * 2 ^ s) + 1 - 53) ∣ r * 2 ^ s := by
  rcases Nat.lt_or_eq_of_le hr with hlt | rfl
  · by_cases hzero : r * 2 ^ s = 0
    · rw [hzero]
      exact Nat.dvd_zero _
    · have hbound : r * 2 ^ s < 2 ^ (53 + s) := by
        rw [Nat.pow_add]
        exact Nat.mul_lt_mul_of_pos_right hlt (Nat.two_pow_pos s)
      have hlog := (Nat.log2_lt hzero).mpr hbound
      exact (Nat.pow_dvd_pow 2 (by omega)).mul_left r
  · rw [← Nat.pow_add, Nat.log2_two_pow]
    exact Nat.pow_dvd_pow 2 (by omega)

/-- The significand after rounding; it may have been carried over to the next power of two. -/
theorem significand_le (num den : Nat) : roundEven (num * one) (den * 2 ^ spareBits num den) ≤ 2 ^ 53 := by
  have hround := roundEven_le (num * one) (den * 2 ^ spareBits num den)
  rw [← Nat.div_div_eq_div_mul] at hround
  have hbits : num * one / den < 2 ^ (53 + spareBits num den) :=
    Nat.lt_log2_self.trans_le (Nat.pow_le_pow_right (by decide) (by unfold spareBits; omega))
  have hlt : num * one / den / 2 ^ spareBits num den < 2 ^ 53 := by
    rwa [Nat.div_lt_iff_lt_mul (Nat.two_pow_pos _), ← Nat.pow_add]
  omega

theorem fits_of_ofRatio {num den m : Nat} {sign : Bool} (h : ofRatio negative num den = .finite sign m) : Fits m := by
  rw [ofRatio_eq] at h
  split at h
  · rename_i hle
    cases h
    exact ⟨hle, dvd_of_significand (significand_le num den) _⟩
  · cases h

theorem fits_of_ofScientific {n m : Nat} {e : Int} {sign : Bool} (h : ofScientific negative n e = .finite sign m) :
    Fits m := by
  by_cases hn : n = 0
  · simp only [ofScientific, hn, if_true] at h
    cases h
    exact .zero
  · rw [ofScientific_eq_ofDecimal hn] at h
    unfold ofDecimal at h
    split at h
    · exact fits_of_ofRatio h
    · exact fits_of_ofRatio h

/-- All digits of a magnitude that fits read back as it, since the exact value needs no rounding. -/
theorem ofScientific_exact {m k : Nat} (hk : one = 2 ^ k) (hm : m ≠ 0) (hfits : Fits m) :
    ofScientific negative (m * 5 ^ k) (-k) = .finite negative m := by
  have hfive : m * 5 ^ k ≠ 0 := Nat.mul_ne_zero hm (Nat.pow_pos (by decide)).ne'
  have hten : 0 < 10 ^ k := Nat.pow_pos (by decide)
  have hsteps : m * 5 ^ k * one = 10 ^ k * m := by
    rw [hk, Nat.mul_assoc, ← Nat.mul_pow, Nat.mul_comm]
  have hspare : spareBits (m * 5 ^ k) (10 ^ k) = Nat.log2 m + 1 - 53 := by
    rw [spareBits, hsteps, Nat.mul_div_cancel_left _ hten]
  have hrounded : roundedSteps (m * 5 ^ k) (10 ^ k) = m := by
    rw [roundedSteps, hspare, hsteps, roundEven_mul hten, roundEven_of_dvd (Nat.two_pow_pos _) hfits.dvd,
      Nat.div_mul_cancel hfits.dvd]
  have hratio : ofDecimal negative (m * 5 ^ k) (-k) = ofRatio negative (m * 5 ^ k) (10 ^ k) := by
    unfold ofDecimal
    rcases Nat.eq_zero_or_pos k with rfl | hpos
    · simp
    · rw [if_pos (by omega), Int.natAbs_neg, Int.natAbs_natCast]
  rw [ofScientific_eq_ofDecimal hfive, hratio, ofRatio_eq, hrounded, if_pos hfits.le]

/-- The sign goes along. -/
theorem ofScientific_sign {n m : Nat} {e : Int} (h : ofScientific false n e = .finite false m) :
    ofScientific negative n e = .finite negative m := by
  have hratio : ∀ num den, ofRatio false num den = .finite false m → ofRatio negative num den = .finite negative m := by
    intro num den h
    rw [ofRatio_eq] at h ⊢
    split at h
    · rename_i hle
      cases h
      rw [if_pos hle]
    · cases h
  by_cases hn : n = 0
  · simp only [ofScientific, hn, if_true] at h ⊢
    cases h
    rfl
  · rw [ofScientific_eq_ofDecimal hn] at h ⊢
    unfold ofDecimal at h ⊢
    split
    · rename_i he
      rw [if_pos he] at h
      exact hratio _ _ h
    · rename_i he
      rw [if_neg he] at h
      exact hratio _ _ h

end MapTheme.Binary64
