/-
  MapTheme.Files.Path — where files are.

  A path is the list of its components. In its text they stand between slashes; empty ones and `.`
  say nothing, and `..` takes back the component before it. A file name has an extension if there is
  a point in it that is not its first character.
-/

import MapTheme.Text.Pieces

namespace MapTheme

abbrev Path := List String

namespace Path

/-- One more component, where `done` are those before it, last first. -/
def descend (done : List String) (component : String) : List String :=
  if component = "" || component = "." then done
  else if component = ".." then
    match done with
    | [] => [".."]
    | last :: rest => if last = ".." then ".." :: last :: rest else rest
  else component :: done

def ofText (s : String) : Path := ((Text.split '/' s).foldl descend []).reverse

/-- The text of a path below a folder; a text that starts with a slash is no part of the folder. -/
def joinTexts (folder path : String) : String :=
  if folder.isEmpty || Text.startsWith "/" path then path
  else if Text.endsWith "/" folder then folder ++ path
  else folder ++ "/" ++ path

/-- The texts before and after the last point of a file name. -/
def splitName (name : String) : String × Option String :=
  match Text.cutAt? '.' name.toList.reverse with
  | none | some (_, []) => (name, none)
  | some (extension, stem) => (String.ofList stem.reverse, some (String.ofList extension.reverse))

/-- The last component; the empty text for the root. -/
def fileName (p : Path) : String := p.getLastD ""

/-- The name of a file without its extension. -/
def stem (p : Path) : String := (splitName p.fileName).1

def extension? (p : Path) : Option String := (splitName p.fileName).2

end Path

end MapTheme
