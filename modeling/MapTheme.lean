import MapTheme.Build.Loading
import MapTheme.Build.Log
import MapTheme.Build.Run
import MapTheme.Config.Fault
import MapTheme.Config.Layer
import MapTheme.Config.Rendering
import MapTheme.Config.Shape
import MapTheme.Config.Theme
import MapTheme.Config.Wording
import MapTheme.Decimal.Binary64
import MapTheme.Decimal.Reading
import MapTheme.Decimal.Shortest
import MapTheme.Decimal.Spelling
import MapTheme.Document.Basic
import MapTheme.Document.Merge
import MapTheme.Document.Printer
import MapTheme.Document.Reader
import MapTheme.Document.Yaml
import MapTheme.Files.Basic
import MapTheme.Files.Path
import MapTheme.Filter.Answer
import MapTheme.Filter.Basic
import MapTheme.Filter.Fault
import MapTheme.Filter.Implication
import MapTheme.Filter.Optimise
import MapTheme.Filter.Properties
import MapTheme.Filter.Reading
import MapTheme.Filter.Writing
import MapTheme.Layer.Additions
import MapTheme.Layer.Dependency
import MapTheme.Layer.Preparation
import MapTheme.Layer.Styling
import MapTheme.Layer.Validation
import MapTheme.Library.Basic
import MapTheme.Library.Publicity
import MapTheme.Library.Settings
import MapTheme.Library.SettingsReading
import MapTheme.Main
import MapTheme.Pattern.Basic
import MapTheme.Pattern.Compilation
import MapTheme.Pattern.Everything
import MapTheme.Pattern.Footprint
import MapTheme.Pattern.Matching
import MapTheme.Pattern.Plan
import MapTheme.Pattern.Reader
import MapTheme.Pattern.Syntax
import MapTheme.Proofs.Build.Closure
import MapTheme.Proofs.Build.Compilation
import MapTheme.Proofs.Build.Independence
import MapTheme.Proofs.Build.Publication
import MapTheme.Proofs.Build.Validity
import MapTheme.Proofs.Config.Agreement
import MapTheme.Proofs.Config.Reading
import MapTheme.Proofs.Config.Shown
import MapTheme.Proofs.Config.Source
import MapTheme.Proofs.Decimal.Order
import MapTheme.Proofs.Decimal.RoundTrip
import MapTheme.Proofs.Decimal.Rounding
import MapTheme.Proofs.Decimal.Unit
import MapTheme.Proofs.Document.Alike
import MapTheme.Proofs.Document.Directives
import MapTheme.Proofs.Document.Distinct
import MapTheme.Proofs.Document.Fields
import MapTheme.Proofs.Document.Merge
import MapTheme.Proofs.Document.Overlay
import MapTheme.Proofs.Document.Reader
import MapTheme.Proofs.Files.Basic
import MapTheme.Proofs.Filter.Alternatives
import MapTheme.Proofs.Filter.Answer
import MapTheme.Proofs.Filter.Chain
import MapTheme.Proofs.Filter.Choice
import MapTheme.Proofs.Filter.Factoring
import MapTheme.Proofs.Filter.Fixpoint
import MapTheme.Proofs.Filter.Flattening
import MapTheme.Proofs.Filter.Fragment
import MapTheme.Proofs.Filter.Implication
import MapTheme.Proofs.Filter.Independent
import MapTheme.Proofs.Filter.Keys
import MapTheme.Proofs.Filter.Meaning
import MapTheme.Proofs.Filter.Negation
import MapTheme.Proofs.Filter.Opposites
import MapTheme.Proofs.Filter.Optimise
import MapTheme.Proofs.Filter.Passes
import MapTheme.Proofs.Filter.Preorder
import MapTheme.Proofs.Filter.Query
import MapTheme.Proofs.Filter.Reduction
import MapTheme.Proofs.Filter.Redundancy
import MapTheme.Proofs.Filter.Reordering
import MapTheme.Proofs.Filter.Reproducible
import MapTheme.Proofs.Filter.RoundTrip
import MapTheme.Proofs.Filter.Selection
import MapTheme.Proofs.Filter.Shape
import MapTheme.Proofs.Filter.Template
import MapTheme.Proofs.Filter.Weight
import MapTheme.Proofs.Filter.Written
import MapTheme.Proofs.Layer.AuthoredIds
import MapTheme.Proofs.Layer.Frame
import MapTheme.Proofs.Layer.Preparation
import MapTheme.Proofs.Layer.Repetition
import MapTheme.Proofs.Layer.Settled
import MapTheme.Proofs.Layer.Validation
import MapTheme.Proofs.Library.Publicity
import MapTheme.Proofs.Pattern.Literal
import MapTheme.Proofs.Rendering.CopyOrder
import MapTheme.Proofs.Rendering.Depth
import MapTheme.Proofs.Rendering.Distinct
import MapTheme.Proofs.Rendering.InlineId
import MapTheme.Proofs.Rendering.Languages
import MapTheme.Proofs.Rendering.LayerReference
import MapTheme.Proofs.Rendering.Renaming
import MapTheme.Proofs.Rendering.Replacements
import MapTheme.Proofs.Rendering.Resolution
import MapTheme.Proofs.Rendering.Settled
import MapTheme.Proofs.Rendering.SpecialBlock
import MapTheme.Proofs.Special.Finding
import MapTheme.Proofs.Special.Interleaving
import MapTheme.Proofs.Special.Template
import MapTheme.Proofs.Step.Basic
import MapTheme.Proofs.Step.Diagnostics
import MapTheme.Proofs.Step.Honesty
import MapTheme.Proofs.Step.Nesting
import MapTheme.Proofs.Text.Blank
import MapTheme.Proofs.Text.Distance
import MapTheme.Proofs.Text.Pieces
import MapTheme.Proofs.Text.Replacement
import MapTheme.Proofs.Theme.Annotation
import MapTheme.Proofs.Theme.Arrangement
import MapTheme.Proofs.Theme.Companions
import MapTheme.Proofs.Theme.Dependencies
import MapTheme.Proofs.Theme.Frame
import MapTheme.Proofs.Theme.Hiding
import MapTheme.Proofs.Theme.Imports
import MapTheme.Proofs.Theme.LayerIds
import MapTheme.Proofs.Theme.Layers
import MapTheme.Proofs.Theme.NodeDatabase
import MapTheme.Proofs.Theme.Order
import MapTheme.Proofs.Theme.Origin
import MapTheme.Proofs.Theme.Publicity
import MapTheme.Proofs.Theme.Renderings
import MapTheme.Proofs.Theme.Supply
import MapTheme.Proofs.Theme.Validation
import MapTheme.Rendering.Copies
import MapTheme.Rendering.InlineId
import MapTheme.Rendering.Reference
import MapTheme.Rendering.SpecialBlock
import MapTheme.Special.Registry
import MapTheme.Special.Template
import MapTheme.Step.Basic
import MapTheme.Step.Diagnostics
import MapTheme.Text.Blank
import MapTheme.Text.Distance
import MapTheme.Text.Pieces
import MapTheme.Text.Quoted
import MapTheme.Text.Scan
import MapTheme.Text.Suggestion
import MapTheme.Theme.Dependencies
import MapTheme.Theme.Imports
import MapTheme.Theme.Layers
import MapTheme.Theme.NodeDatabase
import MapTheme.Theme.Origin
import MapTheme.Theme.Preparation
import MapTheme.Theme.Substitution
import MapTheme.Theme.Validation
import MapTheme.Unicode.Age
import MapTheme.Unicode.Binary
import MapTheme.Unicode.Bytes
import MapTheme.Unicode.CaseFolding
import MapTheme.Unicode.Category
import MapTheme.Unicode.CharSet
import MapTheme.Unicode.Property
import MapTheme.Unicode.Script
import MapTheme.Unicode.Segmentation
import MapTheme.Unicode.Table
