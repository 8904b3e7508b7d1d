/-
  MapTheme.Document.Reader — reading the text of a document.

  The reader takes the text as a list of characters and answers the document with what follows it.
  Documents are nested at most 127 deep. Of equal keys the last value counts, at the first place.
  A literal with a point or an exponent, `-0` and whole numbers beyond 64 bits are binary64: the
  digits that fit 64 bits, rounded, are multiplied or divided by a rounded power of ten.
  The fuel of the recursive readers bounds the calls; each call reads a character before the next.
-/

import MapTheme.Decimal.Reading
import MapTheme.Document.Basic

namespace MapTheme

namespace Number

/-- The largest value that unsigned 64 bits hold. -/
def word64 : Nat := Nat.pow 2 64 - 1

/-- Digits are taken as long as the value fits 64 bits: the value and the digits left over. -/
def absorb (n : Nat) : List Char → Nat × List Char
  | [] => (n, [])
  | c :: r =>
    let m := n * 10 + (c.toNat - '0'.toNat)
    if m > word64 then (n, c :: r) else absorb m r

def tenTo (e : Nat) : Binary64 := Binary64.ofRatio false (Nat.pow 10 e) 1

/-- Powers of ten within the binary64 range are applied in one step; below it in several. -/
def applyExponent (x : Binary64) (e : Int) : (steps : Nat) → Option Binary64
  | 0 => some x
  | steps + 1 =>
    if e.natAbs ≤ 308 then
      let y := if e ≥ 0 then x.mul (tenTo e.natAbs) else x.div (tenTo e.natAbs)
      if y.isFinite then some y else none
    else if x.isZero then some x
    else if e ≥ 0 then none
    else applyExponent (x.div (tenTo 308)) (e + 308) steps

/-- The value of a literal with its digits before and after the point and its exponent. -/
def ofLiteral? (negative : Bool) (whole part : List Char) (e : Int) : Option Binary64 :=
  let (n, beyond) := absorb 0 whole
  let (n, dropped) := absorb n part
  let e := e + beyond.length - (part.length - dropped.length : Nat)
  (applyExponent (Binary64.ofRatio false n 1) e 4).map fun x => if negative then x.neg else x

/-- A literal without point and exponent. -/
def ofWhole? (negative : Bool) (ds : List Char) : Option Number :=
  let n := Binary64.natOfDigits ds
  if !negative && n ≤ word64 then some (.whole n)
  else if negative && 0 < n && n ≤ Nat.pow 2 63 then some (.whole (-n))
  else (ofLiteral? negative ds [] 0).map .float

/-- Digits without a zero in front of others. -/
def wholeDigits? (s : List Char) : Option (List Char × List Char) :=
  match Binary64.digitRun s with
  | ([], _) => none
  | ('0' :: _ :: _, _) => none
  | r => some r

/-- The digits after a point, at least one; none without a point. -/
def partDigits? : List Char → Option (Option (List Char) × List Char)
  | '.' :: r =>
    match Binary64.digitRun r with
    | ([], _) => none
    | (ds, r) => some (some ds, r)
  | r => some (none, r)

/-- The exponent after an `e`; none without it. -/
def exponentDigits? : List Char → Option (Option Int × List Char)
  | c :: r =>
    if c = 'e' || c = 'E' then
      let (negative, r) := Binary64.takeSign r
      match Binary64.digitRun r with
      | ([], _) => none
      | (ds, r) =>
        let n : Int := Binary64.natOfDigits ds
        some (some (if negative then -n else n), r)
    else some (none, c :: r)
  | [] => some (none, [])

def read? (s : List Char) : Option (Number × List Char) := do
  let (negative, r) := match s with
    | '-' :: r => (true, r)
    | r => (false, r)
  let (before, r) ← wholeDigits? r
  let (part, r) ← partDigits? r
  let (e, r) ← exponentDigits? r
  match part, e with
  | none, none => (ofWhole? negative before).map (·, r)
  | _, _ => (ofLiteral? negative before (part.getD []) (e.getD 0)).map fun x => (.float x, r)

end Number

namespace Document

def skipBlanks (s : List Char) : List Char :=
  s.dropWhile fun c => c = ' ' || c = '\n' || c = '\r' || c = '\t'

def hexValue? (c : Char) : Option Nat :=
  if c.isDigit then some (c.toNat - '0'.toNat)
  else if 'a' ≤ c && c ≤ 'f' then some (c.toNat - 'a'.toNat + 10)
  else if 'A' ≤ c && c ≤ 'F' then some (c.toNat - 'A'.toNat + 10)
  else none

/-- Four hexadecimal digits. -/
def unit16? : List Char → Option (Nat × List Char)
  | a :: b :: c :: d :: r => do
    let a ← hexValue? a
    let b ← hexValue? b
    let c ← hexValue? c
    let d ← hexValue? d
    some (((a * 16 + b) * 16 + c) * 16 + d, r)
  | _ => none

/-- The character of a `u` escape; one outside the basic plane takes two units. -/
def escapedUnit? (s : List Char) : Option (Char × List Char) := do
  let (u, r) ← unit16? s
  if 0xD800 ≤ u && u < 0xDC00 then
    match r with
    | '\\' :: 'u' :: r =>
      let (v, r) ← unit16? r
      if 0xDC00 ≤ v && v < 0xE000 then some (Char.ofNat (0x10000 + (u - 0xD800) * 0x400 + (v - 0xDC00)), r)
      else none
    | _ => none
  else if 0xDC00 ≤ u && u < 0xE000 then none
  else some (Char.ofNat u, r)

def escaped? : List Char → Option (Char × List Char)
  | '"' :: r => some ('"', r)
  | '\\' :: r => some ('\\', r)
  | '/' :: r => some ('/', r)
  | 'b' :: r => some ('\x08', r)
  | 'f' :: r => some ('\x0c', r)
  | 'n' :: r => some ('\n', r)
  | 'r' :: r => some ('\r', r)
  | 't' :: r => some ('\t', r)
  | 'u' :: r => escapedUnit? r
  | _ => none

/-- The characters up to the closing quote; `found` holds those read so far, last first. -/
def readQuoted? (found : List Char) : (fuel : Nat) → List Char → Option (String × List Char)
  | 0, _ => none
  | _, [] => none
  | _, '"' :: r => some (String.ofList found.reverse, r)
  | fuel + 1, '\\' :: r => do
    let (c, r) ← escaped? r
    readQuoted? (c :: found) fuel r
  | fuel + 1, c :: r => if c.toNat < 0x20 then none else readQuoted? (c :: found) fuel r

mutual

/-- A value; `depth` levels may still open. -/
def readValue? : (fuel depth : Nat) → List Char → Option (Document × List Char)
  | 0, _, _ => none
  | fuel + 1, depth, s =>
    match skipBlanks s with
    | 'n' :: 'u' :: 'l' :: 'l' :: r => some (null, r)
    | 't' :: 'r' :: 'u' :: 'e' :: r => some (bool true, r)
    | 'f' :: 'a' :: 'l' :: 's' :: 'e' :: r => some (bool false, r)
    | '"' :: r => (readQuoted? [] fuel r).map fun (t, r) => (text t, r)
    | '[' :: r =>
      if depth ≤ 1 then none
      else match skipBlanks r with
        | ']' :: r => some (list [], r)
        | r => (readItems? [] fuel (depth - 1) r).map fun (items, r) => (list items, r)
    | '\x7b' :: r =>
      if depth ≤ 1 then none
      else match skipBlanks r with
        | '\x7d' :: r => some (object [], r)
        | r => (readFields? [] fuel (depth - 1) r).map fun (fields, r) => (object fields, r)
    | r => (Number.read? r).map fun (n, r) => (number n, r)

/-- One or more items and the closing bracket; `found` holds those read so far, last first. -/
def readItems? (found : List Document) : (fuel depth : Nat) → List Char → Option (List Document × List Char)
  | 0, _, _ => none
  | fuel + 1, depth, s => do
    let (d, r) ← readValue? fuel depth s
    match skipBlanks r with
    | ',' :: r => readItems? (d :: found) fuel depth r
    | ']' :: r => some ((d :: found).reverse, r)
    | _ => none

/-- One or more fields and the closing brace. -/
def readFields? (found : Fields) : (fuel depth : Nat) → List Char → Option (Fields × List Char)
  | 0, _, _ => none
  | fuel + 1, depth, s =>
    match skipBlanks s with
    | '"' :: r => do
      let (k, r) ← readQuoted? [] fuel r
      match skipBlanks r with
      | ':' :: r =>
        let (d, r) ← readValue? fuel depth r
        match skipBlanks r with
        | ',' :: r => readFields? (found.insert k d) fuel depth r
        | '\x7d' :: r => some (found.insert k d, r)
        | _ => none
      | _ => none
    | _ => none

end

/-- The document that a whole text spells, where it is nested less than `depth` deep. -/
def readWithin? (depth : Nat) (s : String) : Option Document :=
  let cs := s.toList
  match readValue? (2 * cs.length + 2) depth cs with
  | some (d, r) => if (skipBlanks r).isEmpty then some d else none
  | none => none

def maxDepth : Nat := 128

/-- The document that a whole text spells. -/
def read? (s : String) : Option Document := readWithin? maxDepth s

end Document

end MapTheme
