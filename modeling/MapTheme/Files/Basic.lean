/-
  MapTheme.Files.Basic — a tree of files.

  The folders above a file or a folder exist. What is written must be put into a folder, and never
  takes the place of one.
-/

import MapTheme.Files.Path

namespace MapTheme

structure Files where
  /-- The texts of the files. -/
  texts : List (Path × String)
  /-- Folders that exist even if nothing is in them. -/
  folders : List Path

namespace Files

def empty : Files := ⟨[], []⟩

def read? (files : Files) (p : Path) : Option String := files.texts.lookup p

def isFile (files : Files) (p : Path) : Bool := (files.read? p).isSome

/-- Is there a folder of the path, or something below it? -/
def isFolder (files : Files) (p : Path) : Bool :=
  files.folders.any (p.isPrefixOf ·) || files.texts.any fun (q, _) => p.isPrefixOf q && p != q

/-- The component by which a path leads on below a folder. -/
def childOf? (folder p : Path) : Option String := if folder.isPrefixOf p then p[folder.length]? else none

/-- The names in a folder, each once, in order. -/
def list? (files : Files) (folder : Path) : Option (List String) :=
  if files.isFolder folder then
    let paths := files.texts.map (·.1) ++ files.folders
    some (((paths.filterMap (childOf? folder)).mergeSort (· ≤ ·)).eraseDups)
  else none

/-- The tree with a file; one that was there is replaced. -/
def insert (files : Files) (p : Path) (text : String) : Files :=
  { files with texts := (p, text) :: files.texts.filter fun f => f.1 != p }

def write? (files : Files) (p : Path) (text : String) : Option Files :=
  if files.isFolder p || !files.isFolder p.dropLast then none else some (files.insert p text)

/-- The tree with a folder and those above it; no file may be in the way. -/
def addFolder? (files : Files) (p : Path) : Option Files :=
  if (List.range (p.length + 1)).any fun n => files.isFile (p.take n) then none
  else some { files with folders := p :: files.folders }

end Files

end MapTheme
