/-
  MapTheme.Decimal.Binary64 — binary64 numbers as exact values.

  A finite number is a sign and a magnitude counted in the smallest positive step, 2^-1074; so the
  order of finite numbers is the order of integers, and NaN compares with nothing.
  Numbers enter by `ofRatio`, which rounds a quotient to the nearest binary64, ties to even.
-/

namespace MapTheme

/-- A binary64 number; `magnitude` counts steps of 2^-1074. -/
inductive Binary64
  | nan
  | infinite (negative : Bool)
  | finite (negative : Bool) (magnitude : Nat)
  deriving DecidableEq, Repr, Inhabited

namespace Binary64

/-- Steps of 2^-1074 in one. -/
def one : Nat := Nat.pow 2 1074

/-- The largest finite magnitude. -/
def largest : Nat := (Nat.pow 2 53 - 1) * Nat.pow 2 2045

/-- A quotient rounded to the nearest natural number, ties to even. -/
def roundEven (n d : Nat) : Nat :=
  let q := n / d
  let r := n % d
  if 2 * r < d || (2 * r == d && q % 2 == 0) then q else q + 1

/-- The quotient `± num / den` rounded to 53 significant bits (fewer below the normal range). -/
def ofRatio (negative : Bool) (num den : Nat) : Binary64 :=
  let steps := num <<< 1074
  let spare := Nat.log2 (steps / den) + 1 - 53
  let m := roundEven steps (den <<< spare) <<< spare
  if m ≤ largest then .finite negative m else .infinite negative

def ofInt (n : Int) : Binary64 := ofRatio (n < 0) n.natAbs 1

/-- The digits `m` times `10 ^ e`. Far outside the range the answer is known without the power. -/
def ofScientific (negative : Bool) (m : Nat) (e : Int) : Binary64 :=
  if m = 0 then .finite negative 0
  else if e > 400 then .infinite negative
  else if e + Nat.log2 m + 1 < -400 then .finite negative 0
  else if e < 0 then ofRatio negative m (Nat.pow 10 e.natAbs)
  else ofRatio negative (m * Nat.pow 10 e.natAbs) 1

def isNaN : Binary64 → Bool
  | nan => true
  | _ => false

def isFinite : Binary64 → Bool
  | finite .. => true
  | _ => false

/-! ## Order -/

/-- The place on the extended line: which end, and the signed magnitude. -/
def position? : Binary64 → Option (Int × Int)
  | nan => none
  | infinite negative => some (if negative then -1 else 1, 0)
  | finite negative m => some (0, if negative then -m else m)

def le (a b : Binary64) : Bool :=
  match a.position?, b.position? with
  | some x, some y => x.1 < y.1 || (x.1 == y.1 && x.2 ≤ y.2)
  | _, _ => false

def lt (a b : Binary64) : Bool :=
  match a.position?, b.position? with
  | some x, some y => x.1 < y.1 || (x.1 == y.1 && x.2 < y.2)
  | _, _ => false

/-- Numeric equality: both zeros are equal, and NaN differs from itself. -/
def eq (a b : Binary64) : Bool :=
  match a.position?, b.position? with
  | some x, some y => x == y
  | _, _ => false

/-- The larger number; a number wins over NaN. -/
def max (a b : Binary64) : Binary64 :=
  if a.isNaN then b else if b.isNaN then a else if lt a b then b else a

/-! ## Rounded products -/

def signXor : Bool → Bool → Bool := Bool.xor

def isZero : Binary64 → Bool
  | finite _ 0 => true
  | _ => false

def mul : Binary64 → Binary64 → Binary64
  | finite s m, finite t n => ofRatio (signXor s t) (m * n) (one * one)
  | nan, _ | _, nan => nan
  | infinite s, finite t n | finite t n, infinite s => if n = 0 then nan else infinite (signXor s t)
  | infinite s, infinite t => infinite (signXor s t)

def div : Binary64 → Binary64 → Binary64
  | finite s m, finite t n =>
    if n = 0 then (if m = 0 then nan else infinite (signXor s t)) else ofRatio (signXor s t) m n
  | nan, _ | _, nan => nan
  | infinite _, infinite _ => nan
  | infinite s, finite t _ => infinite (signXor s t)
  | finite s _, infinite t => finite (signXor s t) 0

def neg : Binary64 → Binary64
  | nan => nan
  | infinite s => infinite (!s)
  | finite s m => finite (!s) m

end Binary64

end MapTheme
