/-
  MapTheme.Library.Basic — the shared definitions that layers and themes refer to.

  A registry holds documents by name, in the order of names, each name once. A library has the
  registries of layers and renderings, the ids of the layers that some listed theme shows, and the
  settings.
-/

import MapTheme.Document.Basic
import MapTheme.Library.Settings
import MapTheme.Text.Suggestion

namespace MapTheme

abbrev Registry := List (String × Document)

namespace Registry

def find? (r : Registry) (name : String) : Option Document := List.lookup name r

def names (r : Registry) : List String := r.map (·.1)

def documents (r : Registry) : List Document := r.map (·.2)

/-- A registry with one more document; one of the same name is replaced. -/
def insert : Registry → String → Document → Registry
  | [], name, d => [(name, d)]
  | (n, e) :: rest, name, d =>
    if name = n then (n, d) :: rest
    else if name < n then (name, d) :: (n, e) :: rest
    else (n, e) :: insert rest name d

def ofList (pairs : List (String × Document)) : Registry := pairs.foldl (fun r (n, d) => insert r n d) []

/-- A hint for a name that is not in the registry. -/
def hint (r : Registry) (name : String) : String := Text.hint name r.names

end Registry

structure Library where
  layers : Registry
  renderings : Registry
  publicLayers : List String
  settings : Settings

end MapTheme
