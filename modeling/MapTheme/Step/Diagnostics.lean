/-
  MapTheme.Step.Diagnostics — what a conversion of documents reports.

  Problems are data: any error makes the result unusable, warnings and information are advisory.
  `Noted` is a value with the notes taken on the way to it; `finish` turns it into the outcome of a
  conversion, without a result if there is an error among the notes.
-/

namespace MapTheme

structure Diagnostics where
  errors : List String := []
  warnings : List String := []
  information : List String := []
  deriving DecidableEq, Repr, Inhabited

namespace Diagnostics

def empty : Diagnostics := {}

/-- A message with the place it speaks of. -/
def located (place message : String) : String := place ++ ": " ++ message

def ofError (place message : String) : Diagnostics := { errors := [located place message] }

def ofWarning (place message : String) : Diagnostics := { warnings := [located place message] }

def ofInformation (place message : String) : Diagnostics := { information := [located place message] }

def append (a b : Diagnostics) : Diagnostics :=
  ⟨a.errors ++ b.errors, a.warnings ++ b.warnings, a.information ++ b.information⟩

instance : Append Diagnostics := ⟨append⟩

def hasErrors (d : Diagnostics) : Bool := !d.errors.isEmpty

end Diagnostics

/-- The outcome of a conversion. -/
structure Converted (α : Type) where
  result : Option α
  notes : Diagnostics
  deriving Repr

namespace Converted

variable {α β : Type}

def success (result : α) : Converted α := ⟨some result, .empty⟩

def failure (place message : String) : Converted α := ⟨none, .ofError place message⟩

/-- There is a result and no error. -/
def isOk (c : Converted α) : Bool := c.notes.errors.isEmpty && c.result.isSome

def map (f : α → β) (c : Converted α) : Converted β := ⟨c.result.map f, c.notes⟩

end Converted

/-- A value and the notes taken on the way to it. -/
structure Noted (α : Type) where
  value : α
  notes : Diagnostics
  deriving Repr

namespace Noted

variable {α β : Type}

def bind (x : Noted α) (f : α → Noted β) : Noted β :=
  let y := f x.value
  ⟨y.value, x.notes ++ y.notes⟩

instance : Monad Noted where
  pure a := ⟨a, .empty⟩
  bind := bind

def error (place message : String) : Noted Unit := ⟨(), .ofError place message⟩

/-- An error whose text already names its place. -/
def problem (message : String) : Noted Unit := ⟨(), { errors := [message] }⟩

def warn (place message : String) : Noted Unit := ⟨(), .ofWarning place message⟩

def inform (place message : String) : Noted Unit := ⟨(), .ofInformation place message⟩

/-- The result of a conversion inside another one; its notes are taken over. -/
def absorb (c : Converted α) : Noted (Option α) := ⟨c.result, c.notes⟩

/-- The outcome: no result if there is an error. -/
def finish (x : Noted α) : Converted α := ⟨if x.notes.hasErrors then none else some x.value, x.notes⟩

/-- The notes of one run after the other. -/
def forEach (f : α → Noted Unit) : List α → Noted Unit
  | [] => pure ()
  | a :: as => do
    f a
    forEach f as

/-- The notes of one run after the other, with what the runs gave. -/
def each (f : α → Noted β) : List α → Noted (List β)
  | [] => pure []
  | a :: as => do
    let b ← f a
    let bs ← each f as
    pure (b :: bs)

end Noted

end MapTheme
