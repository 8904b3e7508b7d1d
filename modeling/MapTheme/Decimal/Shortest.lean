/-
  MapTheme.Decimal.Shortest — the fewest digits that read back.

  The exact value of a magnitude is `m * 5^1074` in units of 10^-1074. For 1, 2, … 17 digits the two
  neighbours of the value on that grid are tried; the first grid with a neighbour that reads back
  wins, and of two such neighbours the nearer.
-/

import MapTheme.Decimal.Binary64

namespace MapTheme

/-- Digits (first one not zero, except for zero itself) and the power of ten of the first. -/
structure Digits where
  digits : List Nat
  exponent : Int
  deriving DecidableEq, Repr

namespace Digits

def zero : Digits := ⟨[0], 0⟩

/-- How an exact tie between two shortest forms is broken. -/
inductive Tie
  | up
  | even
  deriving DecidableEq, Repr

def ofNat (n : Nat) : List Nat := (Nat.toDigits 10 n).map fun c => c.toNat - '0'.toNat

/-- The digits of `n * 10^e`, without zeros at the end. -/
def ofScaled (n : Nat) (e : Int) : Digits :=
  let all := ofNat n
  ⟨(all.reverse.dropWhile (· == 0)).reverse, e + all.length - 1⟩

def readsBack (m n : Nat) (e : Int) : Bool := Binary64.ofScientific false n e == .finite false m

/-- The neighbour of `w / unit` that reads back as `m`, if one does. -/
def onGrid? (tie : Tie) (m w unit : Nat) (e : Int) : Option Nat :=
  let below := w / unit
  let rest := w % unit
  match readsBack m below e, readsBack m (below + 1) e with
  | false, false => none
  | true, false => some below
  | false, true => some (below + 1)
  | true, true =>
    if 2 * rest < unit then some below
    else if 2 * rest > unit then some (below + 1)
    else match tie with
      | .up => some (below + 1)
      | .even => some (if below % 2 == 0 then below else below + 1)

def search (tie : Tie) (m w count : Nat) : (tries : Nat) → Digits
  | 0 => ofScaled w (-1074)
  | tries + 1 =>
    let k := 17 - tries
    if count ≤ k then ofScaled w (-1074)
    else
      let e : Int := (count - k : Nat) - 1074
      match onGrid? tie m w (Nat.pow 10 (count - k)) e with
      | some n => ofScaled n e
      | none => search tie m w count tries

/-- The shortest digits of a magnitude. -/
def shortest (tie : Tie) (m : Nat) : Digits :=
  if m = 0 then zero
  else
    let w := m * Nat.pow 5 1074
    search tie m w (ofNat w).length 17

end Digits

end MapTheme
