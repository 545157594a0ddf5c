/-
  LayerTemplates.Yaml.Token
  ─────────────────────────
  The tokens of YAML: indicators, brackets, scalars and the properties of nodes, and the
  tokens that indentation stands for.
-/
namespace LayerTemplates.Yaml

/-- How a scalar is written. -/
inductive ScalarForm where
  | plain
  | quoted
  /-- A block whose lines are kept. -/
  | literal
  /-- A block whose lines are joined. -/
  | folded
  deriving Repr, DecidableEq, Inhabited

/-- A piece of YAML. -/
inductive Token where
  | version (major minor : Nat)
  /-- What a tag handle of this document stands for. -/
  | handle (name meaning : String)
  | documentStart
  | documentEnd
  /-- A list or map begins whose extent is given by indentation. -/
  | listStart
  | mapStart
  | blockEnd
  /-- The brackets of lists and maps, and the comma inside them. -/
  | openList
  | closeList
  | openMap
  | closeMap
  | comma
  /-- The dash before an item. -/
  | item
  | key
  | value
  | alias (name : String)
  | anchor (name : String)
  | tag (handle suffix : String)
  | scalar (text : String) (form : ScalarForm)
  deriving Repr, DecidableEq, Inhabited

end LayerTemplates.Yaml
