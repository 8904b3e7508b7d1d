/-
  MapTheme.Pattern.Reader — reading regular expressions.

  The syntax: `.` `^` `$`, groups (capturing, named, plain and with flags), alternatives, the
  repetitions `*` `+` `?` and counted ones in braces, classes in brackets with ranges, nested
  classes and the set operations `&&` `--` `~~`, and escapes. There is no look-around and there are
  no back-references.

  Flags are scoped by groups: `i` ignore case, `m` lines, `s` the dot matches line ends, `x` blanks
  and comments are skipped, `u` Unicode classes, `R` carriage returns end lines, `U` lazy. Laziness
  does not change which texts match.

  Each reader answers what it read and the rest, or nothing for a malformed text. Trees are nested
  at most `nestingLimit` deep; `depth` counts as the reader goes. The fuel bounds the calls: between
  two characters of the text there are at most four.
-/

import MapTheme.Pattern.Syntax
import MapTheme.Unicode.CaseFolding

namespace MapTheme.Pattern

open Unicode (CharSet)

structure Flags where
  ignoreCase : Bool := false
  lines : Bool := false
  dotAll : Bool := false
  skipBlanks : Bool := false
  unicode : Bool := true
  carriageReturns : Bool := false
  deriving DecidableEq, Repr

/-- Something read, and how deeply its tree is nested. -/
structure Sized (α : Type) where
  value : α
  depth : Nat

def nestingLimit : Nat := 250

/-- The depth of a tree over the given ones; a single one needs no tree over it. -/
def depthOver (depths : List Nat) : Nat :=
  match depths with
  | [] => 0
  | [d] => d
  | ds => ds.foldl max 0 + 1

/-! ## Blanks and numbers -/

def isBlankChar (c : Char) : Bool := Unicode.blanks.has c

/-- Without blanks and comments at the start; a comment runs from `#` to the end of the line. -/
def skipAll : (inComment : Bool) → List Char → List Char
  | _, [] => []
  | true, c :: r => if c = '\n' then skipAll false r else skipAll true r
  | false, c :: r =>
    if isBlankChar c then skipAll false r
    else if c = '#' then skipAll true r
    else c :: r

def skip (f : Flags) (s : List Char) : List Char := if f.skipBlanks then skipAll false s else s

/-- Digits, with skipped blanks between them. -/
def countDigits (f : Flags) : (fuel : Nat) → List Char → List Char × List Char
  | 0, s => ([], s)
  | _, [] => ([], [])
  | fuel + 1, c :: r =>
    if c.isDigit then
      let (ds, r) := countDigits f fuel (skip f r)
      (c :: ds, r)
    else ([], c :: r)

/-- A number below 2^32 with blanks around it. The outer `none` is an error, the inner one no digits. -/
def readCount? (f : Flags) (s : List Char) : Option (Option Nat × List Char) :=
  let (ds, r) := countDigits f s.length (s.dropWhile isBlankChar)
  let r := skip f (r.dropWhile isBlankChar)
  if ds.isEmpty then some (none, r)
  else
    let n := ds.foldl (fun n c => n * 10 + (c.toNat - '0'.toNat)) 0
    if n < Nat.pow 2 32 then some (some n, r) else none

/-! ## Escapes -/

/-- What a single escape or plain character stands for. -/
inductive Atom
  /-- A literal; `isByte` marks a two-digit hexadecimal escape. -/
  | char (c : Char) (isByte : Bool)
  | set (s : CharSet)
  | assertion (a : Assertion)

def isMeta (c : Char) : Bool := "\\.+*?()|[]\x7b\x7d^$#&-~".toList.contains c

/-- Characters that may be escaped to stand for themselves. -/
def isEscapable (c : Char) : Bool :=
  isMeta c || (c.toNat < 0x80 && !c.isAlphanum && c != '<' && c != '>')

def hexDigit? (c : Char) : Option Nat :=
  if c.isDigit then some (c.toNat - '0'.toNat)
  else if 'a' ≤ c && c ≤ 'f' then some (c.toNat - 'a'.toNat + 10)
  else if 'A' ≤ c && c ≤ 'F' then some (c.toNat - 'A'.toNat + 10)
  else none

def charOfCode? (n : Nat) : Option Char :=
  if n < 0xD800 || (0xE000 ≤ n && n ≤ 0x10FFFF) then some (Char.ofNat n) else none

/-- Hexadecimal digits up to a closing brace. -/
def bracedHex? (f : Flags) (found : List Nat) : (fuel : Nat) → List Char → Option (List Nat × List Char)
  | 0, _ => none
  | _, [] => none
  | fuel + 1, c :: r =>
    if c = '\x7d' then some (found.reverse, skip f r)
    else (hexDigit? c).bind fun d => bracedHex? f (d :: found) fuel (skip f r)

def fixedHex? (f : Flags) (found : List Nat) : (digits : Nat) → List Char → Option (List Nat × List Char)
  | 0, s => some (found.reverse, s)
  | _, [] => none
  | digits + 1, c :: r => (hexDigit? c).bind fun d => fixedHex? f (d :: found) digits (skip f r)

def ofHex (ds : List Nat) : Nat := ds.foldl (fun n d => n * 16 + d) 0

/-- The escapes `x`, `u` and `U`, after the letter. -/
def readHex? (f : Flags) (letter : Char) (s : List Char) : Option (Atom × List Char) :=
  match skip f s with
  | '\x7b' :: r => do
    let (ds, r) ← bracedHex? f [] (r.length + 1) (skip f r)
    if ds.isEmpty then none
    else
      let c ← charOfCode? (ofHex ds)
      some (.char c false, r)
  | r => do
    let digits := if letter = 'x' then 2 else if letter = 'u' then 4 else 8
    let (ds, r) ← fixedHex? f [] digits r
    let c ← charOfCode? (ofHex ds)
    some (.char c (letter = 'x'), r)

/-- The name inside braces of a property escape, blanks skipped. -/
def bracedName? (f : Flags) (found : List Char) : (fuel : Nat) → List Char → Option (List Char × List Char)
  | 0, _ => none
  | _, [] => none
  | fuel + 1, c :: r =>
    if c = '\x7d' then some (found.reverse, r) else bracedName? f (c :: found) fuel (skip f r)

/-- The parts of a name around the first `!=`. -/
def cutUnequal? : List Char → Option (List Char × List Char)
  | '!' :: '=' :: r => some ([], r)
  | c :: r => (cutUnequal? r).map fun (a, b) => (c :: a, b)
  | [] => none

def cutAt? (sep : Char) (s : List Char) : Option (List Char × List Char) :=
  match s.span (· != sep) with
  | (a, _ :: b) => some (a, b)
  | _ => none

/-- A property by the text in its braces, and whether the text negates it: `scx!=Han` does. -/
def propertySet? (name : List Char) : Option (CharSet × Bool) :=
  match cutUnequal? name with
  | some (p, v) => (Unicode.valued? p v).map (·, true)
  | none =>
    match (cutAt? ':' name).or (cutAt? '=' name) with
    | some (p, v) => (Unicode.valued? p v).map (·, false)
    | none => (Unicode.named? name).map (·, false)

/-- The set with case variants if asked for, then negated if asked for. Without Unicode classes a
negated set would contain more than characters, so it is refused. -/
def foldAndNegate? (f : Flags) (negated : Bool) (s : CharSet) : Option CharSet :=
  if f.unicode then
    let s := if f.ignoreCase then s.closeUnderCase else s.normal
    some (if negated then s.complement else s)
  else
    let s := if f.ignoreCase then s.closeUnderAsciiCase else s.normal
    if negated || !s.isAscii then none else some s

/-- The escapes `p` and `P`, after the letter. -/
def readProperty? (f : Flags) (negated : Bool) (s : List Char) : Option (Atom × List Char) := do
  let (name, r) ← match skip f s with
    | '\x7b' :: r => bracedName? f [] (r.length + 1) (skip f r)
    | '\\' :: _ => none
    | c :: r => some ([c], skip f r)
    | [] => none
  if !f.unicode then none
  else
    let (set, unequal) ← propertySet? name
    let set ← foldAndNegate? f (negated != unequal) set
    some (.set set, r)

/-- The classes `d`, `s` and `w`; in upper case their complements. -/
def classEscape? (f : Flags) (c : Char) : Option CharSet :=
  let set : CharSet :=
    if c = 'd' || c = 'D' then (if f.unicode then Unicode.decimalDigits else [(0x30, 0x39)])
    else if c = 's' || c = 'S' then (if f.unicode then Unicode.blanks else [(0x9, 0xD), (0x20, 0x20)])
    else wordSet f.unicode
  if c.isLower then some set
  else if f.unicode then some set.complement
  else none

/-- The named boundaries in braces after `b`; none when the braces hold something else. -/
def namedBoundary? (f : Flags) (s : List Char) : Option (Option (Assertion × List Char)) :=
  let inName := fun c : Char => c.isAlpha || c = '-'
  match s with
  | '\x7b' :: r =>
    match skip f r with
    | [] => none
    | c :: r =>
      if !inName c then some none
      else
        let rec name (found : List Char) : (fuel : Nat) → List Char → List Char × List Char
          | 0, s => (found.reverse, s)
          | _, [] => (found.reverse, [])
          | fuel + 1, c :: r => if inName c then name (c :: found) fuel (skip f r) else (found.reverse, c :: r)
        match name [] (r.length + 2) (c :: r) with
        | (n, '\x7d' :: r) =>
          match String.ofList n with
          | "start" => some (some (.wordStart f.unicode, r))
          | "end" => some (some (.wordEnd f.unicode, r))
          | "start-half" => some (some (.wordStartHalf f.unicode, r))
          | "end-half" => some (some (.wordEndHalf f.unicode, r))
          | _ => none
        | _ => none
  | _ => some none

/-- An escape, after the backslash. -/
def readEscape? (f : Flags) : List Char → Option (Atom × List Char)
  | [] => none
  | c :: r =>
    if c.isDigit then none
    else if c = 'x' || c = 'u' || c = 'U' then readHex? f c r
    else if c = 'p' || c = 'P' then readProperty? f (c = 'P') r
    else if c = 'd' || c = 'D' || c = 's' || c = 'S' || c = 'w' || c = 'W' then
      (classEscape? f c).map fun s => (.set s, r)
    else if isEscapable c then some (.char c false, r)
    else if c = 'a' then some (.char '\x07' false, r)
    else if c = 'f' then some (.char '\x0c' false, r)
    else if c = 't' then some (.char '\t' false, r)
    else if c = 'n' then some (.char '\n' false, r)
    else if c = 'r' then some (.char '\r' false, r)
    else if c = 'v' then some (.char '\x0b' false, r)
    else if c = 'A' then some (.assertion .textStart, r)
    else if c = 'z' then some (.assertion .textEnd, r)
    else if c = 'b' then
      (namedBoundary? f r).map fun found => found.getD (.wordBoundary f.unicode, r) |>.map .assertion id
    else if c = 'B' then some (.assertion (.notWordBoundary f.unicode), r)
    else if c = '<' then some (.assertion (.wordStart f.unicode), r)
    else if c = '>' then some (.assertion (.wordEnd f.unicode), r)
    else none

/-! ## Classes in brackets -/

def namedClasses : List (String × CharSet) :=
  [("alnum", [(0x30, 0x39), (0x41, 0x5A), (0x61, 0x7A)]), ("alpha", [(0x41, 0x5A), (0x61, 0x7A)]),
   ("ascii", [(0, 0x7F)]), ("blank", [(0x9, 0x9), (0x20, 0x20)]), ("cntrl", [(0, 0x1F), (0x7F, 0x7F)]),
   ("digit", [(0x30, 0x39)]), ("graph", [(0x21, 0x7E)]), ("lower", [(0x61, 0x7A)]), ("print", [(0x20, 0x7E)]),
   ("punct", [(0x21, 0x2F), (0x3A, 0x40), (0x5B, 0x60), (0x7B, 0x7E)]), ("space", [(0x9, 0xD), (0x20, 0x20)]),
   ("upper", [(0x41, 0x5A)]), ("word", asciiWord), ("xdigit", [(0x30, 0x39), (0x41, 0x46), (0x61, 0x66)])]

/-- A class name between colons, after the opening bracket: the set, whether it is negated, the rest. -/
def namedClass? (s : List Char) : Option (CharSet × Bool × List Char) := do
  match s with
  | ':' :: r =>
    let (negated, r) := match r with
      | '^' :: r => (true, r)
      | r => (false, r)
    match cutAt? ':' r with
    | some (name, ']' :: r) => (namedClasses.lookup (String.ofList name)).map (·, negated, r)
    | _ => none
  | _ => none

/-- A single character of a class. Without Unicode classes it is below U+0080. -/
def classChar? (f : Flags) : Atom → Option Char
  | .char c _ => if f.unicode || c.toNat < 0x80 then some c else none
  | _ => none

def atomSet? (f : Flags) : Atom → Option CharSet
  | .set s => some s
  | a => (classChar? f a).map CharSet.single

/-- One item of a class: an escape or any character. -/
def classAtom? (f : Flags) : List Char → Option (Atom × List Char)
  | [] => none
  | '\\' :: r => readEscape? f r
  | c :: r => some (.char c false, r)

/-- A character, an escape or a range. -/
def readRange? (f : Flags) (s : List Char) : Option (CharSet × List Char) := do
  let (first, r) ← classAtom? f s
  match skip f r with
  | [] => none
  | '-' :: r' =>
    match skip f r' with
    | ']' :: _ | '-' :: _ => (atomSet? f first).map (·, '-' :: r')
    | [] => none
    | r =>
      let (last, r) ← classAtom? f r
      let a ← classChar? f first
      let b ← classChar? f last
      if a ≤ b then some ([(a.toNat, b.toNat)], r) else none
  | r => (atomSet? f first).map (·, r)

inductive SetOp
  | inter
  | diff
  | symmDiff

/-- The set operation that a class text goes on with. -/
def setOp? : List Char → Option (SetOp × List Char)
  | '&' :: '&' :: r => some (.inter, r)
  | '-' :: '-' :: r => some (.diff, r)
  | '~' :: '~' :: r => some (.symmDiff, r)
  | _ => none

def SetOp.apply (f : Flags) (op : SetOp) (s t : CharSet) : CharSet :=
  let close := fun s : CharSet =>
    if f.ignoreCase then (if f.unicode then s.closeUnderCase else s.closeUnderAsciiCase) else s.normal
  match op with
  | .inter => (close s).inter (close t)
  | .diff => (close s).diff (close t)
  | .symmDiff => (close s).symmDiff (close t)

/-- What has been read of a class: the finished left operand and the items since. -/
structure ClassSoFar where
  left : Option (SetOp × Sized CharSet)
  items : List (Sized CharSet)

namespace ClassSoFar

def push (k : ClassSoFar) (s : CharSet) (depth : Nat) : ClassSoFar := { k with items := ⟨s, depth⟩ :: k.items }

def value (f : Flags) (k : ClassSoFar) : Sized CharSet :=
  let right : Sized CharSet :=
    ⟨CharSet.normal (k.items.flatMap (·.value)), depthOver (k.items.map (·.depth))⟩
  match k.left with
  | none => right
  | some (op, left) => ⟨op.apply f left.value right.value, max left.depth right.depth + 1⟩

end ClassSoFar

/-- Hyphens at the start of a class stand for themselves. -/
def leadingHyphens (f : Flags) (k : ClassSoFar) : (fuel : Nat) → List Char → ClassSoFar × List Char
  | fuel + 1, '-' :: r => leadingHyphens f (k.push (CharSet.single '-') 0) fuel (skip f r)
  | _, s => (k, s)

/-- The start of a class, after the bracket: negation, hyphens, and a closing bracket that stands
for itself. -/
def openClass (f : Flags) (s : List Char) : Bool × ClassSoFar × List Char :=
  let (negated, r) := match skip f s with
    | '^' :: r => (true, skip f r)
    | r => (false, r)
  let (k, r) := leadingHyphens f ⟨none, []⟩ r.length r
  match k.items, r with
  | [], ']' :: r => (negated, k.push (CharSet.single ']') 0, skip f r)
  | _, r => (negated, k, r)

/-- The rest of a class up to its closing bracket. -/
def readClass? (f : Flags) : (fuel : Nat) → (negated : Bool) → ClassSoFar → List Char →
    Option (Sized CharSet × List Char)
  | 0, _, _, _ => none
  | fuel + 1, negated, k, s =>
    match skip f s with
    | [] => none
    | ']' :: r =>
      let v := k.value f
      (foldAndNegate? f negated v.value).map fun set => (⟨set, v.depth + 1⟩, r)
    | '[' :: r =>
      match namedClass? r with
      | some (set, neg, r) => do
        let set ← foldAndNegate? f neg set
        readClass? f fuel negated (k.push set 0) r
      | none => do
        let (neg, inner, r) := openClass f r
        let (v, r) ← readClass? f fuel neg inner r
        readClass? f fuel negated (k.push v.value v.depth) r
    | r =>
      match setOp? r with
      | some (op, r) => readClass? f fuel negated ⟨some (op, k.value f), []⟩ r
      | none => do
        let (set, r) ← readRange? f r
        readClass? f fuel negated (k.push set 0) r

/-! ## Groups and flags -/

/-- Flags after `?`: those seen, each with whether it is switched off, and the rest from the closing
`:` or `)` on. A flag stands once, a `-` once and not last. -/
def readFlags? (seen : List (Char × Bool)) (off : Bool) : List Char → Option (List (Char × Bool) × List Char)
  | [] => none
  | c :: r =>
    if c = ':' || c = ')' then
      if off && !seen.any (·.2) then none else some (seen.reverse, c :: r)
    else if c = '-' then (if off then none else readFlags? seen true r)
    else if !"imsuURx".toList.contains c || seen.any (·.1 == c) then none
    else readFlags? ((c, off) :: seen) off r

def Flags.set (f : Flags) (c : Char) (on : Bool) : Flags :=
  if c = 'i' then { f with ignoreCase := on }
  else if c = 'm' then { f with lines := on }
  else if c = 's' then { f with dotAll := on }
  else if c = 'x' then { f with skipBlanks := on }
  else if c = 'u' then { f with unicode := on }
  else if c = 'R' then { f with carriageReturns := on }
  else f

def Flags.setAll (f : Flags) (items : List (Char × Bool)) : Flags :=
  items.foldl (fun f (c, off) => f.set c (!off)) f

/-- What follows an opening parenthesis. -/
inductive GroupStart
  | capture
  | named (name : List Char)
  | plain (flags : List (Char × Bool))
  /-- Flags for the rest of the surrounding group. -/
  | flagsOnly (flags : List (Char × Bool))

def isNameChar (first : Bool) (c : Char) : Bool :=
  if first then c = '_' || Unicode.alphabetic.has c
  else c = '_' || c = '.' || c = '[' || c = ']' || Unicode.alphabetic.has c || Unicode.numeric.has c

/-- A group's name up to the closing angle bracket. -/
def groupName? (s : List Char) : Option (List Char × List Char) :=
  match cutAt? '>' s with
  | some (c :: name, r) => if isNameChar true c && name.all (isNameChar false) then some (c :: name, r) else none
  | _ => none

def groupStart? (f : Flags) (s : List Char) : Option (GroupStart × List Char) :=
  match skip f s with
  | '?' :: '=' :: _ | '?' :: '!' :: _ | '?' :: '<' :: '=' :: _ | '?' :: '<' :: '!' :: _ => none
  | '?' :: 'P' :: '<' :: r | '?' :: '<' :: r => (groupName? r).map fun (n, r) => (.named n, r)
  | '?' :: r =>
    match readFlags? [] false r with
    | some (items, ':' :: r) => some (.plain items, r)
    | some (items, ')' :: r) => if items.isEmpty then none else some (.flagsOnly items, r)
    | _ => none
  | r => some (.capture, r)

/-! ## Whole expressions -/

/-- An element of a sequence; switches of flags are elements that cannot be repeated. -/
inductive Element
  | node (n : Sized Node)
  | switch

namespace Element

def depth : Element → Nat
  | node n => n.depth
  | switch => 0

def node? : Element → Option Node
  | node n => some n.value
  | switch => none

end Element

/-- The elements of a sequence, last one first, as one tree. -/
def sequenceOf (elements : List Element) : Sized Node :=
  ⟨Node.seqAll (elements.reverse.filterMap Element.node?), depthOver (elements.map Element.depth)⟩

def alternativesOf (branches : List (Sized Node)) : Sized Node :=
  ⟨Node.altAll (branches.reverse.map (·.value)), depthOver (branches.map (·.depth))⟩

/-- A literal character, with its case variants if asked for. -/
def literal? (f : Flags) (c : Char) (isByte : Bool) : Option Node :=
  if f.unicode then
    some (.chars (if f.ignoreCase then (CharSet.single c).closeUnderCase else CharSet.single c))
  else if isByte && 0x7F < c.toNat then none
  else if f.ignoreCase then
    if 0x7F < c.toNat then none else some (.chars (CharSet.single c).closeUnderAsciiCase)
  else some (.chars (CharSet.single c))

def dot? (f : Flags) : Option Node :=
  if !f.unicode then none
  else if f.dotAll then some (.chars CharSet.univ)
  else if f.carriageReturns then some (.chars (CharSet.complement [(0xA, 0xA), (0xD, 0xD)]))
  else some (.chars (CharSet.complement [(0xA, 0xA)]))

def startAssertion (f : Flags) : Assertion :=
  if f.lines then (if f.carriageReturns then .anyLineStart else .lineStart) else .textStart

def endAssertion (f : Flags) : Assertion :=
  if f.lines then (if f.carriageReturns then .anyLineEnd else .lineEnd) else .textEnd

def atomNode? (f : Flags) : Atom → Option Node
  | .char c isByte => literal? f c isByte
  | .set s => some (.chars s)
  | .assertion a => some (.assertion a)

/-- The bounds of a counted repetition, after the opening brace. -/
def readBounds? (f : Flags) (s : List Char) : Option (Nat × Option Nat × List Char) := do
  let s := skip f s
  let (least, r) ← readCount? f s
  let least ← least
  match r with
  | ',' :: r =>
    match skip f r with
    | '\x7d' :: r => some (least, none, skip f r)
    | [] => none
    | r =>
      let (most, r) ← readCount? f r
      let most ← most
      match r with
      | '\x7d' :: r => if least ≤ most then some (least, some most, skip f r) else none
      | _ => none
  | '\x7d' :: r => some (least, some least, skip f r)
  | _ => none

def skipLazy : List Char → List Char
  | '?' :: r => r
  | r => r

/-- The last element repeated; there has to be one that can be. -/
def repeatLast? (elements : List Element) (least : Nat) (most : Option Nat) : Option (List Element) :=
  match elements with
  | .node n :: rest => some (.node ⟨.rep n.value least most, n.depth + 1⟩ :: rest)
  | _ => none

/-- What is known when an expression has been read up to its end. -/
structure Reading where
  tree : Sized Node
  names : List (List Char)
  rest : List Char

/-- Alternatives up to a closing parenthesis or the end of the text. `names` are the group names so
far, `branches` the finished alternatives, `elements` those of the present one, last ones first. -/
def readExpression? : (fuel : Nat) → Flags → (names : List (List Char)) → (branches : List (Sized Node)) →
    (elements : List Element) → List Char → Option Reading
  | 0, _, _, _, _, _ => none
  | fuel + 1, f, names, branches, elements, s =>
    let done := fun rest => some (Reading.mk (alternativesOf (sequenceOf elements :: branches)) names rest)
    let add := fun (n : Node) rest => readExpression? fuel f names branches (.node ⟨n, 0⟩ :: elements) rest
    let again := fun least most rest =>
      (repeatLast? elements least most).bind fun elements =>
        readExpression? fuel f names branches elements (skipLazy rest)
    match skip f s with
    | [] => done []
    | ')' :: r => done (')' :: r)
    | '|' :: r => readExpression? fuel f names (sequenceOf elements :: branches) [] r
    | '(' :: r => do
      let (start, r) ← groupStart? f r
      let group := fun captures f' names r => do
        let inner ← readExpression? fuel f' names [] [] r
        match inner.rest with
        | ')' :: r =>
          let n := ⟨.group captures inner.tree.value, inner.tree.depth + 1⟩
          readExpression? fuel f inner.names branches (.node n :: elements) r
        | _ => none
      match start with
      | .flagsOnly items => readExpression? fuel (f.setAll items) names branches (.switch :: elements) r
      | .plain items => group false (f.setAll items) names r
      | .capture => group true f names r
      | .named name => if names.contains name then none else group true f (name :: names) r
    | '[' :: r => do
      let (negated, k, r) := openClass f r
      let (v, r) ← readClass? f (r.length + 1) negated k r
      readExpression? fuel f names branches (.node ⟨.chars v.value, v.depth⟩ :: elements) r
    | '?' :: r => again 0 (some 1) r
    | '*' :: r => again 0 none r
    | '+' :: r => again 1 none r
    | '\x7b' :: r => do
      let (least, most, r) ← readBounds? f r
      again least most r
    | '\\' :: r => do
      let (atom, r) ← readEscape? f r
      let n ← atomNode? f atom
      add n r
    | '.' :: r => (dot? f).bind (add · r)
    | '^' :: r => add (.assertion (startAssertion f)) r
    | '$' :: r => add (.assertion (endAssertion f)) r
    | c :: r => (literal? f c false).bind (add · r)

/-- The tree of a whole text. -/
def read? (s : List Char) : Option Node := do
  let r ← readExpression? (s.length + 1) {} [] [] [] s
  if r.rest.isEmpty && r.tree.depth ≤ nestingLimit then some r.tree.value else none

end MapTheme.Pattern
