/-
  LayerTemplates.Control.Outline
  ──────────────────────────────
  The outline of a control tree: one line for every node, indented by its depth, and
  under a conditional its two branches.
-/
import LayerTemplates.Control.Tree
import LayerTemplates.Lexeme.Canonical
import LayerTemplates.Text.Blank
import LayerTemplates.Text.Escaped

namespace LayerTemplates

/-- The number of escaped characters that stand for a longer text. -/
def previewLimit : Nat := 40

/-- A literal text on one line, cut where it is long. -/
def preview (text : String) : String :=
  let visible := escaped text
  if visible.length > previewLimit then
    "\"" ++ String.ofList (visible.take previewLimit) ++ "...\""
  else
    "\"" ++ String.ofList visible ++ "\""

/-- The expression that a node works on. -/
def targetText (a : Arena) (target : Option LexemeId) : String :=
  (target.map a.expression).getD "<none>"

namespace Item

mutual

/-- The lines of a node and everything below it. -/
def lines (a : Arena) (depth : Nat) : Item → List String
  | .text id => [indentation depth ++ "text " ++ preview (a.get id).value]
  | .insert target => [indentation depth ++ "insert " ++ targetText a target]
  | .conditional invert target onTrue onFalse =>
      (indentation depth ++ (if invert then "unless " else "if ") ++ targetText a target)
        :: (indentation depth ++ "  true:")
        :: linesOfAll a (depth + 2) onTrue
        ++ (indentation depth ++ "  false:") :: linesOfAll a (depth + 2) onFalse

/-- The lines of a block. -/
def linesOfAll (a : Arena) (depth : Nat) : List Item → List String
  | [] => []
  | item :: rest => item.lines a depth ++ linesOfAll a depth rest

end

end Item

/-- The outline of the tree; every line is ended. -/
def ControlTree.outline (t : ControlTree) (a : Arena) : String :=
  String.join ((Item.linesOfAll a 0 t.items).map (· ++ "\n"))

end LayerTemplates
