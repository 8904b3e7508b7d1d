/-
  MapTheme.Library.Publicity — the shared layers that some listed theme shows.
-/

import MapTheme.Document.Basic

namespace MapTheme

/-- The ids in order, each once. -/
def sortedIds (ids : List String) : List String := (ids.mergeSort (· ≤ ·)).eraseDups

/-- The shared layers that an entry of a theme names: itself, or by its `builtin`. -/
def sharedIds (entry : Document) : List String :=
  match (entry.get? "builtin").getD entry with
  | .text id => [id]
  | .list ids => ids.filterMap Document.text?
  | _ => []

def isHidden (theme : Document) : Bool := (theme.get? "hideFromOverview").bind Document.bool? == some true

def publicLayers (themes : List Document) : List String :=
  let listed := themes.filter (!isHidden ·)
  sortedIds ((listed.flatMap fun theme => (theme.listAt? "layers").getD []).flatMap sharedIds)

end MapTheme
