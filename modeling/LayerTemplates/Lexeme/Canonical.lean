/-
  LayerTemplates.Lexeme.Canonical
  ───────────────────────────────
  The canonical text of an expression: the path that starts at a lexeme, with its
  argument lists and brackets, without blanks except after the commas of an argument
  list.

  A path is written step by step along the `child` links.  Every step may own an
  argument list, and every argument is an expression again; arguments are allocated
  after their owner, so they nest at most as deep as the arena has lexemes.
-/
import LayerTemplates.Lexeme.Arena

namespace LayerTemplates

/-- The lexeme as it was written, without its arguments. -/
def Lexeme.written (l : Lexeme) : String :=
  match l.form, l.quote with
  | .relative, _ => "^" ++ l.value
  | _, some quote => quote.toString ++ l.value ++ quote.toString
  | _, none => l.value

namespace Arena

/-- One step of a path: the written lexeme, then its argument list if it owns one. -/
def stepText (a : Arena) (argumentText : LexemeId → String) (id : LexemeId) : String :=
  let lexeme := a.get id
  if lexeme.kind = .function then
    let arguments := (lexeme.firstArg.map a.siblings).getD []
    lexeme.written ++ "(" ++ ", ".intercalate (arguments.map argumentText) ++ ")"
  else
    lexeme.written

/-- A step after the first: elements stand in brackets, other steps follow a dot. -/
def laterStepText (a : Arena) (argumentText : LexemeId → String) (id : LexemeId) : String :=
  let step := a.stepText argumentText id
  if (a.get id).kind = .element then "[" ++ step ++ "]" else "." ++ step

/-- The path that starts at `id`, for arguments nested less than `depth` deep. -/
def expressionWithin (a : Arena) : Nat → LexemeId → String
  | 0, _ => ""
  | depth + 1, id =>
      match a.chain Lexeme.child a.size id with
      | [] => ""
      | first :: later =>
          a.stepText (a.expressionWithin depth) first
            ++ String.join (later.map (a.laterStepText (a.expressionWithin depth)))

/-- The canonical text of the expression that starts at `id`. -/
def expression (a : Arena) (id : LexemeId) : String := a.expressionWithin a.size id

end Arena

end LayerTemplates
