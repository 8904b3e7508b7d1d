/-
  MapTheme.Proofs.Decimal.Unit — numbers with a unit behind them.

  A decimal number alone is read as it is written (`readChars?_chars`). With a unit behind it, it is no number as a
  whole, and what is read is the run of digits, points and minus signs at the start: so nothing if a plus sign stands
  there, and the number without its exponent otherwise (`leadingNumber?_unit`). The unit leaves a number alone exactly
  if it has no plus sign and its exponent changes nothing (`leadingNumber?_unit_iff`).
-/

import MapTheme.Filter.Basic
import MapTheme.Proofs.Decimal.Order
import MapTheme.Proofs.Decimal.RoundTrip
import MapTheme.Proofs.Text.Blank

namespace MapTheme

open Binary64

/-! ## Decimal numbers as they are written -/

inductive Sign
  | none
  | plus
  | minus
  deriving DecidableEq, Repr

namespace Sign

def chars : Sign → List Char
  | none => []
  | plus => ['+']
  | minus => ['-']

end Sign

/-- The letter, a sign and at least one digit. -/
structure ExponentText where
  mark : Char
  sign : Sign
  digits : List Char
  isMark : mark = 'e' ∨ mark = 'E'
  isDigit : ∀ c ∈ digits, c.isDigit = true
  nonempty : digits ≠ []

namespace ExponentText

def chars (e : ExponentText) : List Char := e.mark :: (e.sign.chars ++ e.digits)

def value (e : ExponentText) : Int :=
  if e.sign = .minus then -(natOfDigits e.digits : Int) else natOfDigits e.digits

end ExponentText

/-- A sign, digits with a point or without (at least one digit), an exponent or none. -/
structure DecimalText where
  sign : Sign
  whole : List Char
  /-- The digits behind the point, where there is one. -/
  part : Option (List Char)
  exponent : Option ExponentText
  isDigit : ∀ c ∈ whole ++ part.getD [], c.isDigit = true
  nonempty : whole ++ part.getD [] ≠ []

namespace DecimalText

def digits (n : DecimalText) : List Char := n.whole ++ n.part.getD []

/-- The digits with their point. -/
def mantissa (n : DecimalText) : List Char := n.whole ++ n.part.elim [] fun ds => '.' :: ds

def exponentChars (n : DecimalText) : List Char := n.exponent.elim [] ExponentText.chars

def chars (n : DecimalText) : List Char := n.sign.chars ++ (n.mantissa ++ n.exponentChars)

def text (n : DecimalText) : String := String.ofList n.chars

/-- The power of ten that is written. -/
def power (n : DecimalText) : Int := n.exponent.elim 0 ExponentText.value

/-- The digits times the power of ten, rounded. -/
def value (n : DecimalText) : Binary64 :=
  ofScientific (n.sign == .minus) (natOfDigits n.digits) (n.power - (n.part.getD []).length)

def withoutExponent (n : DecimalText) : DecimalText := { n with exponent := none }

variable {n : DecimalText} {s : List Char} {c : Char}

theorem isDigit_or_point (hc : c ∈ n.mantissa) : c.isDigit = true ∨ c = '.' := by
  have hdigit := n.isDigit
  rcases List.mem_append.mp hc with hc | hc
  · exact .inl (hdigit c (List.mem_append_left _ hc))
  · cases hpart : n.part with
    | none => simp [hpart] at hc
    | some ds =>
      rw [hpart] at hc hdigit
      rcases List.mem_cons.mp hc with rfl | hc
      · exact .inr rfl
      · exact .inl (hdigit c (List.mem_append_right _ hc))

theorem mantissa_ne_nil (n : DecimalText) : n.mantissa ≠ [] := by
  have hne := n.nonempty
  intro hnil
  obtain ⟨hwhole, hpart⟩ := List.append_eq_nil_iff.mp hnil
  cases h : n.part with
  | none => simp [h, hwhole] at hne
  | some ds => simp [h] at hpart

/-- Behind the digits stands the letter of the exponent, or what stands behind the number. -/
theorem head_exponentChars (h : (n.exponentChars ++ s).head? = some c) : c = 'e' ∨ c = 'E' ∨ s.head? = some c := by
  cases he : n.exponent with
  | none =>
    rw [exponentChars, he] at h
    exact .inr (.inr h)
  | some e =>
    have hmark : e.mark = c := by simpa [exponentChars, he, ExponentText.chars] using h
    rw [← hmark]
    exact e.isMark.imp_right .inl

theorem ends_exponentChars (hs : ∀ c, s.head? = some c → c.isDigit = false ∧ c ≠ '.') :
    ∀ c, (n.exponentChars ++ s).head? = some c → c.isDigit = false ∧ c ≠ '.' := by
  intro c hc
  rcases head_exponentChars hc with rfl | rfl | hc
  · decide
  · decide
  · exact hs c hc

end DecimalText

theorem mem_of_head?_append {s r : List Char} {c : Char} (hs : s ≠ []) (h : (s ++ r).head? = some c) : c ∈ s := by
  obtain ⟨d, s, rfl⟩ := List.exists_cons_of_ne_nil hs
  cases h
  exact List.mem_cons_self

namespace Binary64

/-! ## Reading numbers -/

theorem takeSign_chars (sign : Sign) {s : List Char} (h : ∀ c, s.head? = some c → c ≠ '-' ∧ c ≠ '+') :
    takeSign (sign.chars ++ s) = (sign == .minus, s) := by
  cases sign with
  | plus | minus => rfl
  | none =>
    show takeSign s = (false, s)
    unfold takeSign
    split
    · exact absurd rfl (h _ rfl).1
    · exact absurd rfl (h _ rfl).2
    · rfl

theorem unsigned_of_isDigit {c : Char} (h : c.isDigit = true) : c ≠ '-' ∧ c ≠ '+' := by
  constructor <;> rintro rfl <;> cases h

theorem exponent?_chars (e : ExponentText) : exponent? e.chars = some e.value := by
  obtain ⟨mark, sign, digits, hmark, hdigit, hne⟩ := e
  have hsign : takeSign (sign.chars ++ digits) = (sign == .minus, digits) :=
    takeSign_chars sign fun c hc => unsigned_of_isDigit (hdigit c (List.mem_of_mem_head? hc))
  have hall : (digits.isEmpty || !digits.all Char.isDigit) = false := by
    simpa [hne] using hdigit
  simp [exponent?, ExponentText.chars, ExponentText.value, hmark, hsign, hall]

/-- What goes on behind the digits is no exponent. -/
theorem exponent?_of_blank (n : DecimalText) (s : List Char) : exponent? (n.exponentChars ++ ' ' :: s) = none := by
  cases h : n.exponent with
  | none => simp [DecimalText.exponentChars, h, exponent?]
  | some e =>
    obtain ⟨mark, sign, digits, hmark, hdigit, hne⟩ := e
    have hsign : takeSign (sign.chars ++ (digits ++ ' ' :: s)) = (sign == .minus, digits ++ ' ' :: s) :=
      takeSign_chars sign fun c hc => unsigned_of_isDigit (hdigit c (mem_of_head?_append hne hc))
    have hall : (digits ++ ' ' :: s).all Char.isDigit = false := by simp
    simp [DecimalText.exponentChars, h, exponent?, ExponentText.chars, hsign, hall]

/-- Digits are read up to something that is neither a digit nor a point. -/
theorem unsigned?_mantissa (n : DecimalText) {negative : Bool} {s : List Char}
    (hs : ∀ c, s.head? = some c → c.isDigit = false ∧ c ≠ '.') :
    unsigned? negative (n.mantissa ++ s) =
      (exponent? s).map fun e => ofScientific negative (natOfDigits n.digits) (e - (n.part.getD []).length) := by
  obtain ⟨sign, whole, part, exponent, hdigit, hne⟩ := n
  have hstop : ∀ c, s.head? = some c → c.isDigit = false := fun c hc => (hs c hc).1
  cases part with
  | none =>
    have hfraction : fraction s = ([], s) := by
      unfold fraction
      split
      · exact absurd rfl (hs _ rfl).2
      · rfl
    have hwhole : digitRun (whole ++ s) = (whole, s) :=
      digitRun_append (fun c hc => hdigit c (List.mem_append_left _ hc)) hstop
    have hne : whole ≠ [] := by simpa using hne
    simp [unsigned?, DecimalText.mantissa, DecimalText.digits, hwhole, hfraction, hne]
  | some ds =>
    have hwhole : digitRun (whole ++ '.' :: (ds ++ s)) = (whole, '.' :: (ds ++ s)) := by
      apply digitRun_append fun c hc => hdigit c (List.mem_append_left _ hc)
      intro c hc
      cases hc
      rfl
    have hpart : digitRun (ds ++ s) = (ds, s) :=
      digitRun_append (fun c hc => hdigit c (List.mem_append_right _ hc)) hstop
    have hne : (whole.isEmpty && ds.isEmpty) = false := by simpa using hne
    simp [unsigned?, DecimalText.mantissa, DecimalText.digits, hwhole, fraction, hpart, hne]

theorem takeSign_number (n : DecimalText) (s : List Char) :
    takeSign (n.sign.chars ++ (n.mantissa ++ s)) = (n.sign == .minus, n.mantissa ++ s) := by
  apply takeSign_chars
  intro c hc
  rcases n.isDigit_or_point (mem_of_head?_append n.mantissa_ne_nil hc) with hdigit | rfl
  · exact unsigned_of_isDigit hdigit
  · decide

/-- A decimal number is read as it is written. -/
theorem readChars?_chars (n : DecimalText) : readChars? n.chars = some n.value := by
  have hexponent : exponent? n.exponentChars = some n.power := by
    cases h : n.exponent with
    | none => simp [DecimalText.exponentChars, DecimalText.power, h, exponent?]
    | some e => simpa [DecimalText.exponentChars, DecimalText.power, h] using exponent?_chars e
  have hends := n.ends_exponentChars (s := []) (by simp)
  rw [List.append_nil] at hends
  rw [readChars?, DecimalText.chars, takeSign_number]
  dsimp only
  rw [unsigned?_mantissa n hends, hexponent]
  rfl

theorem word?_of_blank {negative : Bool} {s : List Char} (h : ' ' ∈ s) : word? negative s = none := by
  have hmem : ' ' ∈ (String.ofList (s.map Char.toLower)).toList := by
    rw [String.toList_ofList]
    exact List.mem_map.mpr ⟨' ', h, rfl⟩
  have hne : ∀ w : String, ' ' ∉ w.toList → String.ofList (s.map Char.toLower) ≠ w := by
    rintro w hw rfl
    exact hw hmem
  unfold word?
  split
  · rename_i he
    exact absurd he (hne _ (by decide))
  · rename_i he
    exact absurd he (hne _ (by decide))
  · rename_i he
    exact absurd he (hne _ (by decide))
  · rfl

/-- With a blank behind it, a number is none as a whole. -/
theorem readChars?_of_blank (n : DecimalText) (s : List Char) : readChars? (n.chars ++ ' ' :: s) = none := by
  have hends := n.ends_exponentChars (s := ' ' :: s) (by simp)
  have htext : n.chars ++ ' ' :: s = n.sign.chars ++ (n.mantissa ++ (n.exponentChars ++ ' ' :: s)) := by
    simp [DecimalText.chars]
  rw [readChars?, htext, takeSign_number]
  dsimp only
  rw [unsigned?_mantissa n hends, exponent?_of_blank, word?_of_blank (by simp)]
  rfl

/-! ## Numbers at the start of a text -/

/-- The run at the start is the number without its exponent, and nothing if there is a plus sign. -/
theorem takeWhile_inNumber (n : DecimalText) (s : List Char) :
    (n.chars ++ ' ' :: s).takeWhile inNumber = if n.sign = .plus then [] else n.withoutExponent.chars := by
  have htext : n.chars ++ ' ' :: s = n.sign.chars ++ (n.mantissa ++ (n.exponentChars ++ ' ' :: s)) := by
    simp [DecimalText.chars]
  have hmantissa : ∀ c ∈ n.mantissa, inNumber c = true := by
    intro c hc
    rcases n.isDigit_or_point hc with hdigit | rfl
    · simp [inNumber, hdigit]
    · decide
  have hend : (n.exponentChars ++ ' ' :: s).takeWhile inNumber = [] := by
    rw [← List.head?_eq_none_iff, List.head?_takeWhile, Option.filter_eq_none_iff]
    intro c hc
    rcases n.head_exponentChars hc with rfl | rfl | hc
    · decide
    · decide
    · cases hc
      decide
  have hstart : (n.mantissa ++ (n.exponentChars ++ ' ' :: s)).takeWhile inNumber = n.mantissa := by
    rw [List.takeWhile_append_of_pos hmantissa, hend, List.append_nil]
  have hwithout : n.withoutExponent.chars = n.sign.chars ++ n.mantissa := by
    rw [← List.append_nil n.mantissa]
    rfl
  rw [htext, hwithout]
  cases n.sign with
  | plus => rfl
  | none => exact hstart
  | minus => exact congrArg ('-' :: ·) hstart

theorem isBlank_of_isAlpha {c : Char} (h : c.isAlpha = true) : Text.isBlank c = false := by
  have hletter : (decide (65 ≤ c.val ∧ c.val ≤ 90) || (decide (97 ≤ c.val) && decide (c.val ≤ 122))) = true := h
  have hbounds : (65 ≤ c.toNat ∧ c.toNat ≤ 90) ∨ (97 ≤ c.toNat ∧ c.toNat ≤ 122) := by
    simpa [UInt32.le_iff_toNat_le] using hletter
  simp only [Text.isBlank, Bool.or_eq_false_iff, Bool.and_eq_false_iff, decide_eq_false_iff_not, beq_eq_false_iff_ne]
  omega

theorem isBlank_of_mem_chars (n : DecimalText) {c : Char} (hc : c ∈ n.chars) : Text.isBlank c = false := by
  have hsign : ∀ {sign : Sign}, c ∈ sign.chars → Text.isBlank c = false := by
    intro sign hc
    cases sign <;> simp [Sign.chars] at hc <;> rw [hc] <;> decide
  rcases List.mem_append.mp hc with hc | hc
  · exact hsign hc
  rcases List.mem_append.mp hc with hc | hc
  · rcases n.isDigit_or_point hc with hdigit | rfl
    · exact isBlank_of_isDigit hdigit
    · decide
  · cases he : n.exponent with
    | none => simp [DecimalText.exponentChars, he] at hc
    | some e =>
      rw [DecimalText.exponentChars, he] at hc
      rcases List.mem_cons.mp hc with rfl | hc
      · rcases e.isMark with h | h <;> rw [h] <;> decide
      · rcases List.mem_append.mp hc with hc | hc
        · exact hsign hc
        · exact isBlank_of_isDigit (e.isDigit c hc)

theorem leadingNumber?_text (n : DecimalText) : leadingNumber? n.text = some n.value := by
  have htrimmed : Text.trimmed n.chars = n.chars := (Text.trimmed_of_plain fun c => isBlank_of_mem_chars n).eq
  simp only [leadingNumber?, DecimalText.text, String.toList_ofList, htrimmed, readChars?_chars, Option.some_or]

/-- With a unit behind it, a number is read without its exponent, and not at all if it has a plus sign. -/
theorem leadingNumber?_unit (n : DecimalText) {unit : String} (hne : unit ≠ "")
    (hletters : ∀ c ∈ unit.toList, c.isAlpha = true) : leadingNumber? (n.text ++ " " ++ unit) =
      if n.sign = .plus then none else some n.withoutExponent.value := by
  have htext : (n.text ++ " " ++ unit).toList = n.chars ++ ' ' :: unit.toList := by
    simp [DecimalText.text]
  have hchars : n.chars ≠ [] := by
    intro hnil
    exact n.mantissa_ne_nil (List.append_eq_nil_iff.mp (List.append_eq_nil_iff.mp hnil).2).1
  have hunit : unit.toList ≠ [] := by simpa using hne
  have htrimmed : Text.trimmed (n.chars ++ ' ' :: unit.toList) = n.chars ++ ' ' :: unit.toList := by
    refine Text.Trimmed.eq ⟨?_, ?_⟩
    · intro c hc
      exact isBlank_of_mem_chars n (mem_of_head?_append hchars hc)
    · intro c hc
      rw [List.append_cons, List.getLast?_append, List.getLast?_eq_some_getLast hunit, Option.some_or] at hc
      cases hc
      exact isBlank_of_isAlpha (hletters _ (List.getLast_mem hunit))
  simp only [leadingNumber?, htext, htrimmed, readChars?_of_blank, takeWhile_inNumber, Option.none_or]
  by_cases hplus : n.sign = .plus
  · rw [if_pos hplus, if_pos hplus]
    rfl
  · rw [if_neg hplus, if_neg hplus, readChars?_chars]

/-! ## Comparisons -/

/-- Digits spell a number, with the sign that stands before them. -/
theorem ofScientific_cases (negative : Bool) (m : Nat) (e : Int) :
    (∃ k, ofScientific negative m e = .finite negative k) ∨ ofScientific negative m e = .infinite negative := by
  have hratio : ∀ num den, (∃ k, ofRatio negative num den = .finite negative k) ∨
      ofRatio negative num den = .infinite negative := by
    intro num den
    rw [ofRatio_eq]
    split
    · exact .inl ⟨_, rfl⟩
    · exact .inr rfl
  by_cases hm : m = 0
  · rw [ofScientific, if_pos hm]
    exact .inl ⟨0, rfl⟩
  · rw [ofScientific_eq_ofDecimal hm, ofDecimal]
    split
    · exact hratio _ _
    · exact hratio _ _

theorem le_self_ofScientific (negative : Bool) (m : Nat) (e : Int) :
    (ofScientific negative m e).le (ofScientific negative m e) = true := by
  rcases ofScientific_cases negative m e with ⟨k, h⟩ | h <;> rw [h] <;> simp [le, position?]

/-- Numbers of one sign that are equal are the same. -/
theorem ofScientific_eq_of_eq {negative : Bool} {m m' : Nat} {e e' : Int}
    (h : (ofScientific negative m e).eq (ofScientific negative m' e') = true) :
    ofScientific negative m e = ofScientific negative m' e' := by
  have hplace := position?_of_eq h
  rcases ofScientific_cases negative m e with ⟨k, hk⟩ | hk <;>
    rcases ofScientific_cases negative m' e' with ⟨k', hk'⟩ | hk' <;>
    rw [hk, hk'] at hplace ⊢ <;> cases negative <;> simp [position?] at hplace ⊢ <;> omega

theorem holds_comparing {key value : String} {op : Comparison} {bound : Binary64} {p : Properties}
    (h : p.get? key = some value) :
    (Leaf.comparing key op bound).holds p = (leadingNumber? value).any (op.holds · bound) := by
  rw [Leaf.holds, h, Option.bind_some]
  cases leadingNumber? value <;> rfl

end Binary64

namespace DecimalText

/-- There is no plus sign, and an exponent, if there is one, changes nothing. -/
def TakesUnit (n : DecimalText) : Prop := n.sign ≠ .plus ∧ n.withoutExponent.value = n.value

theorem takesUnit_of_power {n : DecimalText} (hsign : n.sign ≠ .plus) (hpower : n.power = 0) : n.TakesUnit := by
  refine ⟨hsign, ?_⟩
  rw [value, value, hpower]
  rfl

/-- An exponent that is not zero changes the number, unless that is zero or out of range. -/
theorem TakesUnit.power_eq_zero {n : DecimalText} (h : n.TakesUnit) :
    n.power = 0 ∨ n.value.isZero = true ∨ n.value.isFinite = false := by
  by_cases hpower : n.power = 0
  · exact .inl hpower
  · have hne : n.power - (n.part.getD []).length ≠ n.withoutExponent.power - (n.part.getD []).length := by
      have hzero : n.withoutExponent.power = 0 := rfl
      omega
    rcases ofScientific_shift hne h.2.symm with hvalue | hvalue
    · have hvalue : n.value = .finite (n.sign == .minus) 0 := hvalue
      exact .inr (.inl (by rw [hvalue]; rfl))
    · have hvalue : n.value = .infinite (n.sign == .minus) := hvalue
      exact .inr (.inr (by rw [hvalue]; rfl))

/-- If all comparisons hold of a number with a unit where they hold of the number, it takes units. -/
theorem takesUnit_of_alike {n : DecimalText} {unit : String} (hne : unit ≠ "")
    (hletters : ∀ c ∈ unit.toList, c.isAlpha = true)
    (halike : ∀ key op bound (p q : Properties), p.get? key = some n.text → q.get? key = some (n.text ++ " " ++ unit) →
      (Leaf.comparing key op bound).holds q = (Leaf.comparing key op bound).holds p) : n.TakesUnit := by
  have hcompare : ∀ (op : Comparison) (bound : Binary64),
      (leadingNumber? (n.text ++ " " ++ unit)).any (op.holds · bound) = op.holds n.value bound := by
    intro op bound
    have hget : ∀ value, (⟨[("", value)], by simp⟩ : Properties).get? "" = some value := fun value => rfl
    have hboth := halike "" op bound _ _ (hget _) (hget _)
    rw [holds_comparing (hget _), holds_comparing (hget _), leadingNumber?_text] at hboth
    exact hboth
  have hself : ∀ n : DecimalText, n.value.le n.value = true := fun n => le_self_ofScientific ..
  rw [leadingNumber?_unit n hne hletters] at hcompare
  by_cases hplus : n.sign = .plus
  · have hfalse := hcompare .atLeast n.value
    rw [if_pos hplus, Comparison.holds, hself] at hfalse
    cases hfalse
  · -- Each of the two numbers is a bound that the other one reaches.
    rw [if_neg hplus] at hcompare
    have habove := hcompare .atLeast n.value
    have hbelow := hcompare .atLeast n.withoutExponent.value
    simp only [Option.any_some, Comparison.holds, hself] at habove hbelow
    exact ⟨hplus, ofScientific_eq_of_eq (eq_of_le_of_le hbelow.symm habove)⟩

/-- A unit leaves a number as it is exactly if the number takes units; and exactly then every comparison holds of
both or of neither. It does without plus sign and exponent, or with the exponent zero, and with no other exponent
unless it is zero or out of range. -/
theorem unit_keeps_iff (n : DecimalText) {unit : String} (hne : unit ≠ "")
    (hletters : ∀ c ∈ unit.toList, c.isAlpha = true) :
    (leadingNumber? (n.text ++ " " ++ unit) = leadingNumber? n.text ↔ n.TakesUnit) ∧
      ((∀ key op bound (p q : Properties), p.get? key = some n.text → q.get? key = some (n.text ++ " " ++ unit) →
        (Leaf.comparing key op bound).holds q = (Leaf.comparing key op bound).holds p) ↔ n.TakesUnit) ∧
      (n.sign ≠ .plus → n.power = 0 → n.TakesUnit) ∧
      (n.TakesUnit → n.power = 0 ∨ n.value.isZero = true ∨ n.value.isFinite = false) := by
  have hiff : leadingNumber? (n.text ++ " " ++ unit) = leadingNumber? n.text ↔ n.TakesUnit := by
    rw [leadingNumber?_unit n hne hletters, leadingNumber?_text, TakesUnit]
    by_cases hplus : n.sign = .plus <;> simp [hplus]
  refine ⟨hiff, ⟨takesUnit_of_alike hne hletters, ?_⟩, takesUnit_of_power, TakesUnit.power_eq_zero⟩
  intro htakes key op bound p q hp hq
  rw [holds_comparing hp, holds_comparing hq, hiff.mpr htakes]

/-- The text `-7.50E+0`. -/
def depth : DecimalText where
  sign := .minus
  whole := ['7']
  part := some ['5', '0']
  exponent := some ⟨'E', .plus, ['0'], .inr rfl, List.all_eq_true.mp (by decide), by decide⟩
  isDigit := List.all_eq_true.mp (by decide)
  nonempty := by decide

/-- The exponent is zero, so depths with and without a unit compare alike. -/
theorem unit_keeps_iff_depth : ("m" ≠ "" ∧ ∀ c ∈ "m".toList, c.isAlpha = true) ∧ depth.TakesUnit ∧
    leadingNumber? "-7.50E+0 m" = leadingNumber? "-7.50E+0" ∧
    ∀ key op bound (p q : Properties), p.get? key = some "-7.50E+0" → q.get? key = some "-7.50E+0 m" →
      (Leaf.comparing key op bound).holds q = (Leaf.comparing key op bound).holds p := by
  have htext : depth.text = "-7.50E+0" := by decide
  have hunit : depth.text ++ " " ++ "m" = "-7.50E+0 m" := by decide
  have hne : "m" ≠ "" := by decide
  have hletters : ∀ c ∈ "m".toList, c.isAlpha = true := List.all_eq_true.mp (by decide)
  obtain ⟨hread, hcompare, hpower, -⟩ := unit_keeps_iff depth hne hletters
  rw [hunit, htext] at hread hcompare
  have htakes : depth.TakesUnit := hpower (by decide) (by decide)
  exact ⟨⟨hne, hletters⟩, htakes, hread.mpr htakes, hcompare.mpr htakes⟩

/-- The text `1e3`. -/
def thousand : DecimalText where
  sign := .none
  whole := ['1']
  part := none
  exponent := some ⟨'e', .none, ['3'], .inl rfl, List.all_eq_true.mp (by decide), by decide⟩
  isDigit := List.all_eq_true.mp (by decide)
  nonempty := by decide

/-- The text `+5`. -/
def five : DecimalText where
  sign := .plus
  whole := ['5']
  part := none
  exponent := none
  isDigit := List.all_eq_true.mp (by decide)
  nonempty := by decide

/-- A unit takes the exponent off a number, and a number with a plus sign is none with a unit. -/
theorem unit_changes_thousand :
    (thousand.text = "1e3" ∧ leadingNumber? "1e3" = some (ofInt 1000) ∧ leadingNumber? "1e3 m" = some (ofInt 1)) ∧
      (five.text = "+5" ∧ leadingNumber? "+5" = some (ofInt 5) ∧ leadingNumber? "+5 m" = none) ∧
      ¬ ∀ (n : DecimalText) (unit : String), unit ≠ "" → (∀ c ∈ unit.toList, c.isAlpha = true) →
        leadingNumber? (n.text ++ " " ++ unit) = leadingNumber? n.text := by
  refine ⟨by decide +kernel, by decide +kernel, ?_⟩
  intro hkeeps
  have hthousand := hkeeps thousand "m" (by decide) (List.all_eq_true.mp (by decide))
  revert hthousand
  decide +kernel

end DecimalText

end MapTheme
