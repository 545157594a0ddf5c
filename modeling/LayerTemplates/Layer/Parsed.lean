/-
  LayerTemplates.Layer.Parsed
  ───────────────────────────
  A layer whose text is free of faults: its segments, every placeholder with its
  directive, and the control tree they form.

  Parsing scans the text, classifies the placeholders and builds the control tree.  A
  layer is accepted as a whole or refused with every fault it has: first those of the
  placeholder bodies in source order, then those of the nesting.
-/
import LayerTemplates.Layer.Segment
import LayerTemplates.Control.Builder

namespace LayerTemplates

/-! ## §1. Parsed layers. -/

/-- A layer without faults. -/
structure ParsedLayer where
  name : String
  arena : Arena
  segments : List Segment
  tree : ControlTree
  deriving Repr, DecidableEq, Inhabited

/-- Everything that is wrong with the text of a layer. -/
structure SyntaxReport where
  layer : String
  faults : List Fault
  deriving Repr, DecidableEq, Inhabited

/-- The placeholder that a segment is, if it is one. -/
def Segment.placeholder? : Segment → Option Placeholder
  | .text _ => none
  | .placeholder p => some p

namespace ParsedLayer

/-- The placeholders in source order. -/
def placeholders (layer : ParsedLayer) : List Placeholder :=
  layer.segments.filterMap Segment.placeholder?

/-- The name that a directive refers to, if its operator takes a target. -/
def referenceOf (a : Arena) (directive : Directive) : Option String :=
  if directive.operator.expectedParts = 2 then directive.targetName a else none

/-- The names of the layers that this layer refers to, in source order. -/
def references (layer : ParsedLayer) : List String :=
  layer.placeholders.filterMap fun placeholder =>
    placeholder.directive.bind (referenceOf layer.arena)

end ParsedLayer

/-! ## §2. Parsing. -/

/-- The segment with the directive that its expressions say. -/
def Segment.classified (a : Arena) : Segment → Segment
  | .text id => .text id
  | .placeholder p => .placeholder { p with directive := Directive.classify a p.roots }

/-- Adds a segment to the control tree; an unterminated placeholder adds nothing. -/
def TreeBuilder.addSegment (b : TreeBuilder) : Segment → TreeBuilder
  | .text id => b.addText id
  | .placeholder p =>
      match p.terminated, p.directive with
      | true, some directive => b.addDirective directive p.entry
      | _, _ => b

/-- Reads the text of a layer. -/
def ParsedLayer.parse (name text : String) (tags : Tags) : Except SyntaxReport ParsedLayer :=
  let scanned := scan text tags
  let segments := scanned.segments.map (Segment.classified scanned.arena)
  let builder := segments.foldl TreeBuilder.addSegment {}
  let faults := scanned.faults ++ builder.allFaults
  if faults.isEmpty then
    .ok { name, arena := scanned.arena, segments, tree := builder.tree }
  else
    .error { layer := name, faults }

end LayerTemplates
