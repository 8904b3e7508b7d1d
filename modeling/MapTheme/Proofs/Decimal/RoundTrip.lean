/-
  MapTheme.Proofs.Decimal.RoundTrip — the text of a number reads back as the number.

  The digits that are chosen for a magnitude read back as it (`exists_shortest`): on each grid this is
  tested, and the exact digits that stand in where no grid has a hit need no rounding. Wherever the point is
  put, what is read are those digits with that power of ten (`numeral_positionalText`).
-/

import Mathlib.Data.List.TakeDrop
import Mathlib.Data.List.TakeWhile
import Mathlib.Tactic.IntervalCases
import Mathlib.Tactic.Ring
import MapTheme.Decimal.Reading
import MapTheme.Decimal.Spelling
import MapTheme.Proofs.Decimal.Rounding

namespace MapTheme

variable {negative : Bool}

namespace Binary64

/-! ## Digits -/

theorem natOfDigits_append (a b : List Char) :
    natOfDigits (a ++ b) = natOfDigits a * 10 ^ b.length + natOfDigits b := by
  have hfold : ∀ (b : List Char) (n : Nat),
      b.foldl (fun n c => n * 10 + (c.toNat - '0'.toNat)) n = n * 10 ^ b.length + natOfDigits b := by
    intro b
    induction b with
    | nil => intro n; simp [natOfDigits]
    | cons c r ih =>
      intro n
      have hcons : natOfDigits (c :: r) = (0 * 10 + (c.toNat - '0'.toNat)) * 10 ^ r.length + natOfDigits r := by
        rw [natOfDigits, List.foldl_cons, ih]
      rw [List.foldl_cons, ih, hcons, List.length_cons, Nat.pow_succ]
      ring
  rw [natOfDigits, List.foldl_append, hfold]
  rfl

theorem natOfDigits_replicate_zero (n : Nat) : natOfDigits (List.replicate n '0') = 0 := by
  induction n with
  | zero => rfl
  | succ n ih => rw [List.replicate_succ', natOfDigits_append, ih]; rfl

theorem natOfDigits_toDigits (n : Nat) : natOfDigits (Nat.toDigits 10 n) = n := by
  have h : ∀ ds : List Char, natOfDigits ds = Nat.ofDigitChars 10 ds 0 := by
    intro ds
    unfold natOfDigits Nat.ofDigitChars
    congr 1
    funext n c
    rw [Nat.mul_comm]
  rw [h, Nat.ofDigitChars_toDigits (by decide) (by decide)]

theorem digitRun_append {ds : List Char} (hds : ∀ c ∈ ds, c.isDigit = true) {rest : List Char}
    (hrest : ∀ c, rest.head? = some c → c.isDigit = false) : digitRun (ds ++ rest) = (ds, rest) := by
  have hstop : rest.takeWhile Char.isDigit = [] ∧ rest.dropWhile Char.isDigit = rest := by
    cases rest with
    | nil => exact ⟨rfl, rfl⟩
    | cons c r => simp [hrest c rfl]
  rw [digitRun, List.span_eq_takeWhile_dropWhile, List.takeWhile_append_of_pos hds, List.dropWhile_append_of_pos hds,
    hstop.1, hstop.2, List.append_nil]

end Binary64

namespace Digits

open Binary64

/-! ## The digits that are chosen -/

theorem readsBack_of_onGrid? {tie : Tie} {m w unit n : Nat} {e : Int} (h : onGrid? tie m w unit e = some n) :
    readsBack m n e = true := by
  simp only [onGrid?] at h
  split at h
  · cases h
  · cases h; assumption
  · cases h; assumption
  · rename_i hbelow habove
    have hsome : n = w / unit ∨ n = w / unit + 1 := by
      split at h
      · exact .inl (Option.some.inj h).symm
      · split at h
        · exact .inr (Option.some.inj h).symm
        · cases tie with
          | up => exact .inr (Option.some.inj h).symm
          | even =>
            have h := (Option.some.inj h).symm
            split at h
            · exact .inl h
            · exact .inr h
    rcases hsome with rfl | rfl
    · exact hbelow
    · exact habove

/-- The search ends with digits that read back, or with all digits of the exact value. -/
theorem exists_search (tie : Tie) (m w count tries : Nat) :
    (∃ n e, search tie m w count tries = ofScaled n e ∧ readsBack m n e = true) ∨
      search tie m w count tries = ofScaled w (-1074) := by
  induction tries with
  | zero => exact .inr rfl
  | succ tries ih =>
    simp only [search]
    split
    · exact .inr rfl
    · split
      · rename_i n hn
        exact .inl ⟨n, _, rfl, readsBack_of_onGrid? hn⟩
      · exact ih

theorem shortest_eq (tie : Tie) {m k : Nat} (hm : m ≠ 0) (hk : k = 1074) :
    shortest tie m = search tie m (m * 5 ^ k) (ofNat (m * 5 ^ k)).length 17 := by
  unfold shortest
  rw [if_neg hm, ← hk]
  rfl

/-- The digits of a magnitude that fits read back as the magnitude. -/
theorem exists_shortest (tie : Tie) {m : Nat} (hm : m ≠ 0) (hfits : Fits m) :
    ∃ n e, n ≠ 0 ∧ shortest tie m = ofScaled n e ∧ ofScientific false n e = .finite false m := by
  have hne : ∀ n e, ofScientific false n e = .finite false m → n ≠ 0 := by
    rintro n e h rfl
    simp only [ofScientific, if_true] at h
    cases h
    exact hm rfl
  obtain ⟨k, hk, hone⟩ := exists_one_eq
  have hexact : ofScientific false (m * 5 ^ k) (-k) = .finite false m := ofScientific_exact hone hm hfits
  have hscale : (-1074 : Int) = -k := by omega
  rw [shortest_eq tie hm hk]
  rcases exists_search tie m (m * 5 ^ k) (ofNat (m * 5 ^ k)).length 17 with ⟨n, e, hn, hread⟩ | hall
  · have hread : ofScientific false n e = .finite false m := by simpa [readsBack] using hread
    exact ⟨n, e, hne n e hread, hn, hread⟩
  · rw [hscale] at hall
    exact ⟨m * 5 ^ k, -k, hne _ _ hexact, hall, hexact⟩

/-- The characters of the digits. -/
def chars (ds : List Nat) : List Char := ds.map Nat.digitChar

theorem digitChar_sub {c : Char} (h : c.isDigit = true) : Nat.digitChar (c.toNat - '0'.toNat) = c := by
  have hbounds : 48 ≤ c.toNat ∧ c.toNat ≤ 57 := by
    simpa [Char.isDigit, UInt32.le_iff_toNat_le] using h
  have hc : c = Char.ofNat c.toNat := (Char.ofNat_toNat c).symm
  obtain ⟨hlow, hhigh⟩ := hbounds
  generalize c.toNat = n at *
  subst hc
  interval_cases n <;> rfl

theorem chars_ofNat (n : Nat) : chars (ofNat n) = Nat.toDigits 10 n := by
  unfold chars ofNat
  rw [List.map_map]
  conv_rhs => rw [← List.map_id (Nat.toDigits 10 n)]
  apply List.map_congr_left
  intro c hc
  exact digitChar_sub (Nat.isDigit_of_mem_toDigits (by decide) (by decide) hc)

/-- The digits are decimal digits, and there is one. -/
structure Decimal (d : Digits) : Prop where
  nonempty : d.digits ≠ []
  lt : ∀ k ∈ d.digits, k < 10

/-- The number that the digits spell, without sign. -/
def value (d : Digits) (negative : Bool) : Binary64 :=
  ofScientific negative (natOfDigits (chars d.digits)) (d.exponent + 1 - d.digits.length)

theorem isDigit_of_mem_chars {ds : List Nat} (hds : ∀ k ∈ ds, k < 10) {c : Char} (hc : c ∈ chars ds) :
    c.isDigit = true := by
  obtain ⟨k, hk, rfl⟩ := List.mem_map.mp hc
  have hlt := hds k hk
  interval_cases k <;> rfl

theorem lt_of_mem_ofNat {n k : Nat} (hk : k ∈ ofNat n) : k < 10 := by
  obtain ⟨c, hc, rfl⟩ := List.mem_map.mp hk
  have hdigit := Nat.isDigit_of_mem_toDigits (by decide) (by decide) hc
  have hbounds : 48 ≤ c.toNat ∧ c.toNat ≤ 57 := by
    simpa [Char.isDigit, UInt32.le_iff_toNat_le] using hdigit
  have hzero : '0'.toNat = 48 := rfl
  omega

/-- The digits of a number are its scaled digits and then zeros. -/
theorem ofNat_eq_append (n : Nat) (e : Int) : ∃ z, ofNat n = (ofScaled n e).digits ++ List.replicate z 0 := by
  have hzeros : ∀ k ∈ (ofNat n).reverse.takeWhile (· == 0), k = 0 := by
    intro k hk
    simpa using List.mem_takeWhile_imp hk
  refine ⟨((ofNat n).reverse.takeWhile (· == 0)).length, ?_⟩
  calc ofNat n
      = ((ofNat n).reverse.takeWhile (· == 0) ++ (ofNat n).reverse.dropWhile (· == 0)).reverse := by
        rw [List.takeWhile_append_dropWhile, List.reverse_reverse]
    _ = (ofScaled n e).digits ++ ((ofNat n).reverse.takeWhile (· == 0)).reverse := List.reverse_append
    _ = (ofScaled n e).digits ++ List.replicate ((ofNat n).reverse.takeWhile (· == 0)).length 0 := by
        rw [List.eq_replicate_of_mem hzeros, List.reverse_replicate, List.length_replicate]

theorem natOfDigits_chars_ofNat (n : Nat) : natOfDigits (chars (ofNat n)) = n := by
  rw [chars_ofNat, natOfDigits_toDigits]

theorem natOfDigits_chars_append_zeros (ds : List Nat) (z : Nat) :
    natOfDigits (chars (ds ++ List.replicate z 0)) = natOfDigits (chars ds) * 10 ^ z := by
  have hchars : chars (ds ++ List.replicate z 0) = chars ds ++ List.replicate z '0' := by
    rw [chars, List.map_append, List.map_replicate]
    rfl
  rw [hchars, natOfDigits_append, natOfDigits_replicate_zero, List.length_replicate, Nat.add_zero]

theorem decimal_zero : Decimal zero := ⟨by decide, by decide⟩

theorem decimal_ofScaled {n : Nat} (hn : n ≠ 0) (e : Int) : Decimal (ofScaled n e) := by
  obtain ⟨z, hz⟩ := ofNat_eq_append n e
  refine ⟨?_, ?_⟩
  · intro hempty
    have hvalue := natOfDigits_chars_ofNat n
    rw [hz, natOfDigits_chars_append_zeros, hempty] at hvalue
    apply hn
    rw [← hvalue]
    exact Nat.zero_mul _
  · intro k hk
    apply lt_of_mem_ofNat (n := n)
    rw [hz]
    exact List.mem_append_left _ hk

/-- Dropping the zeros at the end of the digits keeps the number. -/
theorem value_ofScaled (n : Nat) (e : Int) : (ofScaled n e).value negative = ofScientific negative n e := by
  obtain ⟨z, hz⟩ := ofNat_eq_append n e
  have hlength : (ofNat n).length = (ofScaled n e).digits.length + z := by
    rw [hz, List.length_append, List.length_replicate]
  have hexponent : (ofScaled n e).exponent = e + (ofNat n).length - 1 := rfl
  have hplace : (ofScaled n e).exponent + 1 - (ofScaled n e).digits.length = e + z := by omega
  rw [value, hplace, ← ofScientific_scale, ← natOfDigits_chars_append_zeros, ← hz, natOfDigits_chars_ofNat]

theorem shortest_zero (tie : Tie) : shortest tie 0 = zero := rfl

theorem decimal_shortest (tie : Tie) {m : Nat} (hfits : Fits m) : Decimal (shortest tie m) := by
  by_cases hm : m = 0
  · rw [hm, shortest_zero]
    exact decimal_zero
  · obtain ⟨n, e, hn, hshortest, -⟩ := exists_shortest tie hm hfits
    rw [hshortest]
    exact decimal_ofScaled hn e

/-- The shortest digits of a magnitude that fits spell the magnitude. -/
theorem value_shortest (tie : Tie) {m : Nat} (hfits : Fits m) :
    (shortest tie m).value negative = .finite negative m := by
  by_cases hm : m = 0
  · have hdigits : natOfDigits (chars zero.digits) = 0 := rfl
    rw [hm, shortest_zero, value, hdigits, ofScientific, if_pos rfl]
  · obtain ⟨n, e, -, hshortest, hback⟩ := exists_shortest tie hm hfits
    rw [hshortest, value_ofScaled]
    exact ofScientific_sign hback

end Digits

namespace Binary64

/-! ## Reading digits with a point -/

theorem digitRun_self {ds : List Char} (hds : ∀ c ∈ ds, c.isDigit = true) : digitRun ds = (ds, []) := by
  have hstop : ∀ c, ([] : List Char).head? = some c → c.isDigit = false := by
    intro c hc
    cases hc
  have hrun := digitRun_append hds hstop
  rwa [List.append_nil] at hrun

theorem unsigned?_whole {a : List Char} (ha : ∀ c ∈ a, c.isDigit = true) (hne : a ≠ []) :
    unsigned? negative a = some (ofScientific negative (natOfDigits a) 0) := by
  have hempty : a.isEmpty = false := by simpa using hne
  simp [unsigned?, digitRun_self ha, fraction, exponent?, hempty]

theorem unsigned?_point {a b : List Char} (ha : ∀ c ∈ a, c.isDigit = true) (hb : ∀ c ∈ b, c.isDigit = true)
    (hne : a ≠ []) :
    unsigned? negative (a ++ '.' :: b) = some (ofScientific negative (natOfDigits (a ++ b)) (-b.length)) := by
  have hempty : a.isEmpty = false := by simpa using hne
  have hwhole : digitRun (a ++ '.' :: b) = (a, '.' :: b) := by
    apply digitRun_append ha
    intro c hc
    cases hc
    rfl
  simp [unsigned?, hwhole, digitRun_self hb, fraction, exponent?, hempty]

/-- Digits, with or without a point among them, and the number that they spell. -/
inductive Numeral (negative : Bool) : List Char → Binary64 → Prop
  | whole {a : List Char} (ha : ∀ c ∈ a, c.isDigit = true) (hne : a ≠ []) :
    Numeral negative a (ofScientific negative (natOfDigits a) 0)
  | point {a b : List Char} (ha : ∀ c ∈ a, c.isDigit = true) (hne : a ≠ []) (hb : ∀ c ∈ b, c.isDigit = true) :
    Numeral negative (a ++ '.' :: b) (ofScientific negative (natOfDigits (a ++ b)) (-b.length))

namespace Numeral

variable {s : List Char} {x : Binary64}

theorem unsigned?_eq (h : Numeral negative s x) : unsigned? negative s = some x := by
  cases h with
  | whole ha hne => exact unsigned?_whole ha hne
  | point ha hne hb => exact unsigned?_point ha hb hne

theorem isDigit_or_point (h : Numeral negative s x) {c : Char} (hc : c ∈ s) : c.isDigit = true ∨ c = '.' := by
  cases h with
  | whole ha _ => exact .inl (ha c hc)
  | point ha _ hb =>
    rcases List.mem_append.mp hc with hc | hc
    · exact .inl (ha c hc)
    · rcases List.mem_cons.mp hc with rfl | hc
      · exact .inr rfl
      · exact .inl (hb c hc)

theorem unsigned (h : Numeral negative s x) {c : Char} (hc : c ∈ s) : c ≠ '-' ∧ c ≠ '+' := by
  rcases h.isDigit_or_point hc with hdigit | rfl
  · constructor <;> rintro rfl <;> cases hdigit
  · decide

end Numeral

theorem takeSign_of_plain {s : List Char} (h : ∀ c ∈ s, c ≠ '-' ∧ c ≠ '+') : takeSign s = (false, s) := by
  unfold takeSign
  split
  · exact absurd rfl (h _ (List.mem_cons_self)).1
  · exact absurd rfl (h _ (List.mem_cons_self)).2
  · rfl

end Binary64

namespace Spelling

open Binary64 Digits

theorem length_chars (ds : List Nat) : (chars ds).length = ds.length := List.length_map _

theorem toList_digitText (ds : List Nat) : (digitText ds).toList = chars ds := String.toList_ofList

theorem toList_zeros (n : Nat) : (zeros n).toList = List.replicate n '0' := String.toList_ofList

theorem isDigit_of_mem_zeros {n : Nat} {c : Char} (hc : c ∈ List.replicate n '0') : c.isDigit = true := by
  rw [List.eq_of_mem_replicate hc]
  rfl

/-- Nothing but a zero stands before the point. -/
theorem numeral_fraction {d : Digits} (hd : d.Decimal) (hneg : d.exponent < 0) :
    Numeral negative (['0'] ++ '.' :: (List.replicate (d.exponent.natAbs - 1) '0' ++ chars d.digits))
      (d.value negative) := by
  have hpart : ∀ c ∈ List.replicate (d.exponent.natAbs - 1) '0' ++ chars d.digits, c.isDigit = true := by
    intro c hc
    rcases List.mem_append.mp hc with hc | hc
    · exact isDigit_of_mem_zeros hc
    · exact isDigit_of_mem_chars hd.lt hc
  have hdigits : natOfDigits (['0'] ++ (List.replicate (d.exponent.natAbs - 1) '0' ++ chars d.digits)) =
      natOfDigits (chars d.digits) := by
    have hzero : natOfDigits ['0'] = 0 := rfl
    rw [natOfDigits_append, natOfDigits_append, natOfDigits_replicate_zero, hzero, Nat.zero_mul, Nat.zero_mul,
      Nat.zero_add, Nat.zero_add]
  have hplace : -((List.replicate (d.exponent.natAbs - 1) '0' ++ chars d.digits).length : Int) =
      d.exponent + 1 - d.digits.length := by
    rw [List.length_append, List.length_replicate, length_chars]
    omega
  have hnumeral : Numeral negative _ _ := .point (a := ['0']) (List.all_eq_true.mp (by decide)) (by decide) hpart
  rwa [hdigits, hplace] at hnumeral

/-- The digits run out before the point, and zeros fill up. -/
theorem numeral_whole (f : Spelling) {d : Digits} (hd : d.Decimal) {z : Nat}
    (hz : d.exponent + 1 - d.digits.length = z) :
    Numeral negative (chars d.digits ++ List.replicate z '0' ++ if f.wholeFraction then ['.', '0'] else [])
      (d.value negative) := by
  have hbefore : ∀ c ∈ chars d.digits ++ List.replicate z '0', c.isDigit = true := by
    intro c hc
    rcases List.mem_append.mp hc with hc | hc
    · exact isDigit_of_mem_chars hd.lt hc
    · exact isDigit_of_mem_zeros hc
  have hne : chars d.digits ++ List.replicate z '0' ≠ [] := by
    intro hnil
    exact hd.nonempty (List.map_eq_nil_iff.mp (List.append_eq_nil_iff.mp hnil).1)
  have hdigits : natOfDigits (chars d.digits ++ List.replicate z '0') = natOfDigits (chars d.digits) * 10 ^ z := by
    rw [natOfDigits_append, natOfDigits_replicate_zero, List.length_replicate, Nat.add_zero]
  by_cases hfraction : f.wholeFraction = true
  · have hvalue : natOfDigits (chars d.digits ++ List.replicate z '0' ++ ['0']) =
        natOfDigits (chars d.digits) * 10 ^ (z + 1) := by
      rw [natOfDigits_append, hdigits, Nat.pow_succ, Nat.mul_assoc]
      rfl
    have hplace : -((['0'].length : Nat) : Int) + (z + 1 : Nat) = d.exponent + 1 - d.digits.length := by
      rw [List.length_singleton]
      omega
    have hnumeral : Numeral negative _ _ := .point hbefore hne (b := ['0']) (List.all_eq_true.mp (by decide))
    rw [if_pos hfraction]
    rwa [hvalue, ofScientific_scale, hplace] at hnumeral
  · have hnumeral : Numeral negative _ _ := .whole hbefore hne
    rw [if_neg hfraction, List.append_nil]
    rwa [hdigits, ofScientific_scale, Int.zero_add, ← hz] at hnumeral

/-- The point stands between two of the digits. -/
theorem numeral_mixed {d : Digits} (hd : d.Decimal) {n : Nat} (hn : d.exponent + 1 = n) (hpos : 0 < n)
    (hlt : n < d.digits.length) :
    Numeral negative (chars (d.digits.take n) ++ '.' :: chars (d.digits.drop n)) (d.value negative) := by
  have hbefore : ∀ c ∈ chars (d.digits.take n), c.isDigit = true := by
    intro c hc
    exact isDigit_of_mem_chars (fun k hk => hd.lt k (List.mem_of_mem_take hk)) hc
  have hafter : ∀ c ∈ chars (d.digits.drop n), c.isDigit = true := by
    intro c hc
    exact isDigit_of_mem_chars (fun k hk => hd.lt k (List.mem_of_mem_drop hk)) hc
  have hne : chars (d.digits.take n) ≠ [] := by
    intro hnil
    have hlength := congrArg List.length hnil
    rw [length_chars, List.length_take, List.length_nil] at hlength
    omega
  have hdigits : chars (d.digits.take n) ++ chars (d.digits.drop n) = chars d.digits := by
    rw [chars, chars, ← List.map_append, List.take_append_drop]
    rfl
  have hplace : -((chars (d.digits.drop n)).length : Int) = d.exponent + 1 - d.digits.length := by
    rw [length_chars, List.length_drop]
    omega
  have hnumeral : Numeral negative _ _ := .point hbefore hne hafter
  rwa [hdigits, hplace] at hnumeral

/-- Wherever the point is put, what is spelled are the digits with that power of ten. -/
theorem numeral_positionalText (f : Spelling) {d : Digits} (hd : d.Decimal) :
    Numeral negative (f.positionalText d).toList (d.value negative) := by
  by_cases hneg : d.exponent < 0
  · have htext : (f.positionalText d).toList =
        ['0'] ++ '.' :: (List.replicate (d.exponent.natAbs - 1) '0' ++ chars d.digits) := by
      simp [positionalText, hneg, toList_digitText, toList_zeros]
    rw [htext]
    exact numeral_fraction hd hneg
  · obtain ⟨n, hn⟩ : ∃ n, n = d.exponent.natAbs + 1 := ⟨_, rfl⟩
    by_cases hlt : n < d.digits.length
    · have hafter : d.digits.drop n ≠ [] := by simpa using hlt
      have hzeros : n - d.digits.length = 0 := by omega
      have htext : (f.positionalText d).toList = chars (d.digits.take n) ++ '.' :: chars (d.digits.drop n) := by
        simp [positionalText, hneg, ← hn, hafter, hzeros, toList_digitText, toList_zeros]
      rw [htext]
      exact numeral_mixed hd (by omega) (by omega) hlt
    · have hafter : d.digits.drop n = [] := List.drop_eq_nil_iff.mpr (by omega)
      have htake : d.digits.take n = d.digits := List.take_of_length_le (by omega)
      have htext : (f.positionalText d).toList =
          chars d.digits ++ List.replicate (n - d.digits.length) '0' ++ if f.wholeFraction then ['.', '0'] else [] := by
        simp only [positionalText, if_neg hneg, ← hn, hafter, htake, List.isEmpty_nil, if_true,
          String.toList_append, toList_digitText, toList_zeros]
        split <;> rfl
      rw [htext]
      exact numeral_whole f hd (by omega)

end Spelling

namespace Binary64

open Spelling

/-! ## Numbers -/

/-- A number that rounding can give. -/
def Rounded : Binary64 → Prop
  | finite _ m => Fits m
  | _ => True

theorem rounded_ofScientific (negative : Bool) (m : Nat) (e : Int) : (ofScientific negative m e).Rounded := by
  cases h : ofScientific negative m e with
  | nan => trivial
  | infinite sign => trivial
  | finite sign n => exact fits_of_ofScientific h

theorem rounded_of_unsigned? {s : List Char} {x : Binary64} (h : unsigned? negative s = some x) : x.Rounded := by
  simp only [unsigned?] at h
  split at h
  · cases h
  · obtain ⟨e, -, rfl⟩ := Option.map_eq_some_iff.mp h
    exact rounded_ofScientific ..

theorem rounded_of_word? {s : List Char} {x : Binary64} (h : word? negative s = some x) : x.Rounded := by
  unfold word? at h
  split at h
  · cases h; trivial
  · cases h; trivial
  · cases h; trivial
  · cases h

/-- Every number that a text spells is one that rounding can give. -/
theorem rounded_of_read? {t : String} {x : Binary64} (h : read? t = some x) : x.Rounded := by
  simp only [read?, readChars?] at h
  rcases Option.or_eq_some_iff.mp h with h | ⟨-, h⟩
  · exact rounded_of_unsigned? h
  · exact rounded_of_word? h

theorem toText_finite (negative : Bool) (m : Nat) :
    (finite negative m).toText =
      (if negative then "-" else "") ++ inText.positionalText (Digits.shortest inText.tie m) := rfl

/-- The text of a number reads back as the number. -/
theorem read?_toText {x : Binary64} (hx : x.Rounded) (hnan : x ≠ nan) : read? x.toText = some x := by
  cases x with
  | nan => exact absurd rfl hnan
  | infinite negative =>
    cases negative with
    | true => decide
    | false => decide
  | finite negative m =>
    have hnumeral : Numeral negative _ _ :=
      numeral_positionalText inText (Digits.decimal_shortest inText.tie hx)
    have hsign : takeSign (finite negative m).toText.toList =
        (negative, (inText.positionalText (Digits.shortest inText.tie m)).toList) := by
      rw [toText_finite, String.toList_append]
      cases negative with
      | true => rfl
      | false => exact takeSign_of_plain fun c hc => hnumeral.unsigned hc
    have hread := hnumeral.unsigned?_eq
    rw [Digits.value_shortest inText.tie hx] at hread
    rw [read?, readChars?, hsign]
    dsimp only
    rw [hread]
    rfl

theorem isBlank_of_isDigit {c : Char} (h : c.isDigit = true) : Text.isBlank c = false := by
  have hbounds : 48 ≤ c.toNat ∧ c.toNat ≤ 57 := by
    simpa [Char.isDigit, UInt32.le_iff_toNat_le] using h
  simp only [Text.isBlank, Bool.or_eq_false_iff, Bool.and_eq_false_iff, decide_eq_false_iff_not, beq_eq_false_iff_ne]
  omega

/-- The text of a number has no blank and no `=` in it. -/
theorem toText_plain {x : Binary64} (hx : x.Rounded) :
    ∀ c ∈ x.toText.toList, Text.isBlank c = false ∧ c ≠ '=' := by
  have hdigits : ∀ m, Fits m →
      ∀ c ∈ (Spelling.inText.positionalText (Digits.shortest Spelling.inText.tie m)).toList,
        Text.isBlank c = false ∧ c ≠ '=' := by
    intro m hm c hc
    have hnumeral : Numeral false _ _ :=
      numeral_positionalText Spelling.inText (Digits.decimal_shortest Spelling.inText.tie hm)
    rcases hnumeral.isDigit_or_point hc with hdigit | rfl
    · refine ⟨isBlank_of_isDigit hdigit, ?_⟩
      rintro rfl
      cases hdigit
    · decide
  have hfixed : ∀ s : List Char, s.all (fun c => !Text.isBlank c && c != '=') = true →
      ∀ c ∈ s, Text.isBlank c = false ∧ c ≠ '=' := by
    intro s hs c hc
    simpa using List.all_eq_true.mp hs c hc
  cases x with
  | nan => exact hfixed _ (by decide)
  | infinite negative =>
    cases negative with
    | true => exact hfixed _ (by decide)
    | false => exact hfixed _ (by decide)
  | finite negative m =>
    intro c hc
    rw [toText_finite, String.toList_append] at hc
    rcases List.mem_append.mp hc with hc | hc
    · cases negative with
      | true =>
        have hc : c = '-' := by simpa using hc
        subst hc
        decide
      | false => cases hc
    · exact hdigits m hx c hc

end Binary64

end MapTheme
