/-
  MapTheme.Pattern.Basic — patterns: regular expressions that remember their source text.

  Which sources are well formed and which texts they accept is up to an engine. The compiled form is a function of
  the source, so patterns are equal when their sources are. The engine of this library compiles the anchored source
  to a tree and looks for that.
-/

import MapTheme.Pattern.Everything

namespace MapTheme

namespace Pattern

/-- What compiles and matches patterns. -/
class Engine where
  Compiled : Type
  compile : String → Except Fault Compiled
  accepts : Compiled → String → Bool
  /-- Any number of any characters. -/
  accepts_everything : ∀ c, compile ".*" = .ok c → ∀ text, accepts c text = true

instance engine : Engine where
  Compiled := Node
  compile := compile
  accepts := Node.foundIn
  accepts_everything _ h := foundIn_of_everything h

end Pattern

variable [Pattern.Engine]

structure Pattern where
  source : String
  compiled : Pattern.Engine.Compiled
  compiles : Pattern.Engine.compile source = .ok compiled

namespace Pattern

theorem ext_source {p q : Pattern} (h : p.source = q.source) : p = q := by
  obtain ⟨s, m, hm⟩ := p
  obtain ⟨t, n, hn⟩ := q
  simp only at h
  subst h
  have : m = n := by rw [hm] at hn; injection hn
  subst this
  rfl

instance : DecidableEq Pattern := fun p q =>
  if h : p.source = q.source then isTrue (ext_source h) else isFalse fun e => h (e ▸ rfl)

instance : Repr Pattern := ⟨fun p n => reprPrec p.source n⟩

def ofSource (source : String) : Except Fault Pattern :=
  match h : Engine.compile source with
  | .ok c => .ok ⟨source, c, h⟩
  | .error e => .error e

def accepts (p : Pattern) (text : String) : Bool := Engine.accepts p.compiled text

/-- The pattern `.*` accepts every text. -/
theorem accepts_of_everything {p : Pattern} (h : p.source = ".*") (text : String) : p.accepts text = true :=
  Engine.accepts_everything p.compiled (h ▸ p.compiles) text

end Pattern

end MapTheme
