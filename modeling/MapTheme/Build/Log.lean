/-
  MapTheme.Build.Log — what a build says about its progress.
-/

import MapTheme.Step.Diagnostics

namespace MapTheme.Build

inductive Level
  | debug
  | info
  | warn
  | error
  deriving DecidableEq, Repr

def Level.name : Level → String
  | debug => "DEBUG"
  | info => "INFO"
  | warn => "WARN"
  | error => "ERROR"

structure LogEntry where
  level : Level
  message : String
  deriving DecidableEq, Repr

def LogEntry.text (e : LogEntry) : String := e.level.name ++ " " ++ e.message

/-- What is said about one document: `subject` is its kind and id. -/
def LogEntry.ofNotes (subject : String) (notes : Diagnostics) : List LogEntry :=
  let entries := fun (level : Level) (messages : List String) =>
    messages.map fun message => LogEntry.mk level (subject ++ ": " ++ message)
  entries .debug notes.information ++ entries .warn notes.warnings ++ entries .error notes.errors

end MapTheme.Build
