/-
  MapTheme.Document.Yaml — documents written as flat YAML.

  A document has a field a line, `key: value`. A value is a scalar, a list in brackets, or it is
  missing; then the lines that follow may hold the items of a list, `- item`. Scalars in quotes are
  texts; plain ones may also be truth values, numbers and null. Comments, blank lines and a first
  line `---` say nothing. A key stands once. All other forms are refused, but for JSON objects.
-/

import MapTheme.Decimal.Reading
import MapTheme.Document.Reader
import MapTheme.Text.Blank
import MapTheme.Text.Pieces

namespace MapTheme.Yaml

def isSpace (c : Char) : Bool := c = ' ' || c = '\t'

def skipSpaces (s : List Char) : List Char := s.dropWhile isSpace

/-! ## Plain scalars -/

def digitValue? (base : Nat) (c : Char) : Option Nat :=
  let value :=
    if c.isDigit then some (c.toNat - '0'.toNat)
    else if 'a' ≤ c && c ≤ 'f' then some (c.toNat - 'a'.toNat + 10)
    else if 'A' ≤ c && c ≤ 'F' then some (c.toNat - 'A'.toNat + 10)
    else none
  value.filter (· < base)

/-- A number of digits in a base. -/
def natural? (base : Nat) (digits : List Char) : Option Nat :=
  if digits.isEmpty then none
  else digits.foldl (fun n c => (digitValue? base c).bind fun d => n.map (· * base + d)) (some 0)

/-- A number with a sign or none. -/
def integerIn? (base : Nat) : List Char → Option Int
  | '-' :: digits => (natural? base digits).map fun n => -(n : Int)
  | '+' :: digits => (natural? base digits).map Int.ofNat
  | digits => (natural? base digits).map Int.ofNat

/-- Whole numbers are those of 64 bits with a sign. -/
def integer? (s : List Char) : Option Int :=
  let n := match s with
    | '0' :: 'x' :: digits => (integerIn? 16 digits).or (integerIn? 10 s)
    | '0' :: 'o' :: digits => (integerIn? 8 digits).or (integerIn? 10 s)
    | _ => integerIn? 10 s
  n.filter fun n => -Int.pow 2 63 ≤ n && n < Int.pow 2 63

/-- What a plain scalar stands for. -/
def resolve (s : List Char) : Document :=
  if s = [] || s = ['~'] || s = "null".toList then .null
  else if s = "true".toList then .bool true
  else if s = "false".toList then .bool false
  else match integer? s with
    | some n => .number (.whole n)
    | none =>
      match if s.any Char.isDigit then Binary64.read? (String.ofList s) else none with
      | some x => .number (.float x)
      | none => .text (String.ofList s)

/-- Characters that do not start a plain scalar. -/
def indicators : List Char := ",[]\x7b\x7d#&*!|>'\"%@\x60".toList

/-- May a plain scalar start so? -/
def startsPlain : List Char → Bool
  | [] => false
  | [c] => !indicators.contains c && c != '-' && c != '?' && c != ':'
  | c :: d :: _ => !indicators.contains c && !((c = '-' || c = '?' || c = ':') && isSpace d)

/-- The characters of a plain scalar up to a comment, a key's colon or one of `stops`, and the rest. -/
def plainFrom (stops : List Char) : List Char → List Char × List Char
  | [] => ([], [])
  | c :: r =>
    if stops.contains c || c = ':' && (r.head?.map isSpace).getD true
        || isSpace c && (skipSpaces r).head? = some '#' then ([], c :: r)
    else
      let (taken, rest) := plainFrom stops r
      (c :: taken, rest)

/-! ## Quoted scalars -/

/-- The characters that stand for others after a backslash. -/
def escapes : List (Char × Char) :=
  [('0', '\x00'), ('a', '\x07'), ('b', '\x08'), ('t', '\t'), ('n', '\n'), ('v', '\x0b'), ('f', '\x0c'), ('r', '\r'),
   ('e', '\x1b'), (' ', ' '), ('"', '"'), ('/', '/'), ('\\', '\\'), ('N', '\u0085'), ('_', '\u00a0'), ('L', '\u2028'),
   ('P', '\u2029')]

/-- How many hexadecimal digits follow the letter of an escape. -/
def hexDigits? : Char → Option Nat
  | 'x' => some 2
  | 'u' => some 4
  | 'U' => some 8
  | _ => none

def charOf? (digits : List Char) : Option Char :=
  (natural? 16 digits).bind fun n => if n.isValidChar then some (Char.ofNat n) else none

/-- The character of an escape that starts with `letter`, and how many of the characters behind belong
to it. -/
def escape? (letter : Char) (behind : List Char) : Option (Char × Nat) :=
  match escapes.lookup letter, hexDigits? letter with
  | some c, _ => some (c, 0)
  | none, some n => if n ≤ behind.length then (charOf? (behind.take n)).map fun c => (c, n) else none
  | none, none => none

/-- The text up to the closing quote, and the rest; `skip` characters of an escape are still to be
passed over. -/
def doubleQuoted : (skip : Nat) → List Char → Option (List Char × List Char)
  | _, [] => none
  | skip + 1, _ :: r => doubleQuoted skip r
  | 0, '"' :: r => some ([], r)
  | 0, ['\\'] => none
  | 0, '\\' :: letter :: r =>
    match escape? letter r with
    | some (c, n) => (doubleQuoted n r).map fun (taken, rest) => (c :: taken, rest)
    | none => none
  | 0, c :: r => (doubleQuoted 0 r).map fun (taken, rest) => (c :: taken, rest)

/-- The text up to the closing quote, where two quotes stand for one, and the rest. -/
def singleQuoted : List Char → Option (List Char × List Char)
  | [] => none
  | '\'' :: '\'' :: r => (singleQuoted r).map fun (taken, rest) => ('\'' :: taken, rest)
  | '\'' :: r => some ([], r)
  | c :: r => (singleQuoted r).map fun (taken, rest) => (c :: taken, rest)

def quoted? : List Char → Option (String × List Char)
  | '"' :: r => (doubleQuoted 0 r).map fun (taken, rest) => (String.ofList taken, rest)
  | '\'' :: r => (singleQuoted r).map fun (taken, rest) => (String.ofList taken, rest)
  | _ => none

/-! ## Values -/

/-- A scalar and the rest of the line; plain ones end at the characters `stops`. -/
def scalar? (stops s : List Char) : Option (Document × List Char) :=
  match quoted? s with
  | some (t, rest) => some (.text t, rest)
  | none =>
    if startsPlain s then
      let (taken, rest) := plainFrom stops s
      some (resolve (Text.trimmed taken), rest)
    else none

/-- Does only a comment follow? -/
def isEnd (s : List Char) : Bool :=
  match skipSpaces s with
  | [] => true
  | c :: _ => c = '#' && (s.head?.map isSpace).getD false

/-- The items of a list up to its bracket, and the rest. -/
def itemsWithin : (fuel : Nat) → List Char → Option (List Document × List Char)
  | 0, _ => none
  | fuel + 1, s =>
    match skipSpaces s with
    | ']' :: rest => some ([], rest)
    | s => do
      let (d, rest) ← scalar? ",[]\x7b\x7d".toList s
      match skipSpaces rest with
      | ',' :: rest => (itemsWithin fuel rest).map fun (ds, rest) => (d :: ds, rest)
      | ']' :: rest => some ([d], rest)
      | _ => none

def bracketed? : List Char → Option (Document × List Char)
  | '[' :: r => (itemsWithin (r.length + 1) r).map fun (ds, rest) => (.list ds, rest)
  | _ => none

/-- The value on the rest of a line; none on an empty one. The outer option is for what is refused. -/
def value? (s : List Char) : Option (Option Document) :=
  let s := skipSpaces s
  if s.isEmpty || s.head? = some '#' then some none
  else match (bracketed? s).or (scalar? [] s) with
    | some (d, rest) => if isEnd rest then some (some d) else none
    | none => none

/-! ## Lines -/

inductive Line
  | field (indent : Nat) (key : String) (value : Option Document)
  | item (indent : Nat) (value : Document)

/-- The key of a line, and what follows its colon. -/
def key? (s : List Char) : Option (String × List Char) :=
  let keyed := match quoted? s with
    | some (key, rest) => some (key, skipSpaces rest)
    | none =>
      if startsPlain s then
        let (taken, rest) := plainFrom [] s
        some (String.ofList (Text.trimmed taken), rest)
      else none
  match keyed with
  | some (key, ':' :: rest) => if (rest.head?.map isSpace).getD true then some (key, rest) else none
  | _ => none

def Line.read? (s : List Char) : Option Line :=
  let indent := (s.takeWhile (· = ' ')).length
  match s.drop indent with
  | '-' :: r =>
    if (r.head?.map isSpace).getD true then (value? r).map fun d => .item indent (d.getD .null) else none
  | s => do
    let (key, rest) ← key? s
    let value ← value? rest
    some (.field indent key value)

/-- The value of a field that has a value of its own, or items below. -/
def fieldValue? (indent : Nat) (own : Option Document) (items : List (Nat × Document)) : Option Document :=
  match own, items with
  | some d, [] => some d
  | none, [] => some .null
  | none, (n, d) :: rest =>
    if indent ≤ n && rest.all (·.1 = n) then some (.list (d :: rest.map (·.2))) else none
  | some _, _ :: _ => none

/-- The items before the first field, and the fields, each with where its line starts. -/
def gather : List Line → Option (List (Nat × Document) × List (Nat × String × Document))
  | [] => some ([], [])
  | .item indent d :: rest => (gather rest).map fun (items, fields) => ((indent, d) :: items, fields)
  | .field indent key own :: rest => do
    let (items, fields) ← gather rest
    let d ← fieldValue? indent own items
    some ([], (indent, key, d) :: fields)

/-- The fields of lines that start in one column. -/
def objectOf? (lines : List Line) : Option Document :=
  match gather lines with
  | some ([], fields) =>
    let keys := fields.map (·.2.1)
    let indents := fields.map (·.1)
    if keys.eraseDups.length = keys.length && indents.all (some · == indents.head?) then
      some (.object (fields.map (·.2)))
    else none
  | _ => none

def isBlankLine (s : List Char) : Bool := (skipSpaces s).isEmpty || (skipSpaces s).head? = some '#'

def linesOf (s : String) : List (List Char) :=
  (Text.splitAt '\n' s.toList).map fun line => if line.getLast? = some '\r' then line.dropLast else line

/-- Is it a line that starts a document? -/
def isStart (s : List Char) : Bool :=
  match Text.after? "---".toList s with
  | some rest => isEnd rest
  | none => false

/-- The document; null if there is nothing after its start. -/
def read? (s : String) : Option Document :=
  match (linesOf s).filter (!isBlankLine ·) with
  | [] => some (.object [])
  | first :: rest =>
    if first.head? = some '\x7b' then Document.read? s
    else if isStart first then
      if rest.isEmpty then some .null else (rest.mapM Line.read?).bind objectOf?
    else ((first :: rest).mapM Line.read?).bind objectOf?

end MapTheme.Yaml
