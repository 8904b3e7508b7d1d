/-
  MapTheme.Theme.Preparation — from an authored theme to a fully expanded one.

  Layers are prepared twice: before the override of all layers, and again for what it brought in.
-/

import MapTheme.Layer.Preparation
import MapTheme.Theme.Dependencies
import MapTheme.Theme.Imports
import MapTheme.Theme.NodeDatabase
import MapTheme.Theme.Origin
import MapTheme.Theme.Substitution
import MapTheme.Theme.Validation

namespace MapTheme.Theme

def preparationSteps (lib : Library) : List Step :=
  [annotateWordings "themes:",
   preparePersonalTheme lib,
   warnForInlineLayers,
   .on "layers" (.concat (substituteLayer lib)),
   .setDefault "socialImage" (.text lib.settings.defaultSocialImage) false,
   .on "layers" (.each (Layer.prepareLayer lib)),
   applyOverrideAll,
   .on "layers" (.each (Layer.prepareLayer lib)),
   addDefaultLayers lib,
   addDependencyLayers lib,
   addImportLayers lib,
   addNodeDatabaseFlag,
   validateTheme lib]

def prepareTheme (lib : Library) : Step :=
  .fuse "PrepareTheme"
    "Substitutes builtin layers, applies overrides and adds default, dependency and import layers"
    (preparationSteps lib)

end MapTheme.Theme
