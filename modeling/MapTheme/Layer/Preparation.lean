/-
  MapTheme.Layer.Preparation — from an authored layer to a fully expanded one.
-/

import MapTheme.Layer.Additions
import MapTheme.Layer.Styling
import MapTheme.Rendering.InlineId
import MapTheme.Rendering.SpecialBlock

namespace MapTheme.Layer

def preparationSteps (lib : Library) : List Step :=
  [.on "tagRenderings" (.concat Rendering.expandCopies),
   .on "tagRenderings" (.concat (Rendering.expandReference lib)),
   .on "tagRenderings" Rendering.uniqueInlineIds,
   .on "tagRenderings" (.each Rendering.replaceSpecialBlocks),
   moveOldStyle,
   .setDefault "titleIcons" (.texts ["defaults"]) true,
   .on "titleIcons" (.concat (expandTitleIcon lib)),
   addMiniMap lib,
   addQuestionBox lib,
   .on "filter" (.concat (expandFilter lib))]

def prepareLayer (lib : Library) : Step :=
  .fuse "PrepareLayer"
    "Expands shared tag renderings, rewrites legacy and shorthand syntax and adds generated renderings"
    (preparationSteps lib)

end MapTheme.Layer
