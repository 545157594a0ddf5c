/-
  LayerTemplates.Render.Key
  ─────────────────────────
  The keys of layers: an exact name, or a pattern written as `/expr/` that matches many
  names.
-/
import LayerTemplates.Pattern.Reader

namespace LayerTemplates

/-- A regular expression: its text and the names it matches. -/
structure NamePattern where
  source : String
  accepts : String → Bool

/-- Reads a regular expression with the engine of this project.  Of the properties of characters
it knows those that are yes or no, general categories and scripts; script extensions count as
scripts, and an expression is refused that asks for an age or for a kind of text boundary.  Where
keys are read, any other engine can take its place. -/
def NamePattern.compile? (source : String) : Option NamePattern :=
  (Pattern.Regex.ofText? source).map fun regex => { source, accepts := regex.matchesIn }

/-- The key of a layer. -/
inductive LayerKey where
  | exact (name : String)
  | pattern (p : NamePattern)

namespace LayerKey

/-- The expression of a key written as `/expr/`. -/
def expression? (raw : String) : Option String :=
  match raw.toList with
  | '/' :: rest =>
      if rest.getLast? = some '/' ∧ rest.dropLast ≠ [] then some (String.ofList rest.dropLast)
      else none
  | _ => none

/-- Reads a key; none where its expression is invalid.  What an expression matches, and whether
it is valid, is for the engine `compile` to say. -/
def ofTextWith? (compile : String → Option NamePattern) (raw : String) : Option LayerKey :=
  match expression? raw with
  | some source => (compile source).map .pattern
  | none => some (.exact raw)

/-- Reads a key with the engine of this project. -/
def ofText? (raw : String) : Option LayerKey := ofTextWith? NamePattern.compile? raw

/-- Whether the key matches a name. -/
def accepts : LayerKey → String → Bool
  | .exact key, name => key == name
  | .pattern p, name => p.accepts name

/-- The key as it is written. -/
def text : LayerKey → String
  | .exact key => key
  | .pattern p => "/" ++ p.source ++ "/"

/-- Whether two keys are the same: both exact or both patterns, with the same text. -/
def same : LayerKey → LayerKey → Bool
  | .exact a, .exact b => a == b
  | .pattern p, .pattern q => p.source == q.source
  | _, _ => false

end LayerKey

end LayerTemplates
