/-
  LayerTemplates.Lexeme.Delimiter
  ───────────────────────────────
  The symbols between operands: dots, commas and two kinds of brackets.
-/
namespace LayerTemplates

/-- The two kinds of brackets. -/
inductive Bracket where
  | square
  | round
  deriving Repr, DecidableEq, Inhabited

namespace Bracket

/-- The opening symbol. -/
def openSymbol : Bracket → Char
  | .square => '['
  | .round => '('

/-- The closing symbol. -/
def closeSymbol : Bracket → Char
  | .square => ']'
  | .round => ')'

end Bracket

/-- A symbol that asks for an operand after it. -/
inductive Delimiter where
  | dot
  | comma
  | opening (bracket : Bracket)
  deriving Repr, DecidableEq, Inhabited

/-- The symbol as it is written. -/
def Delimiter.symbol : Delimiter → Char
  | .dot => '.'
  | .comma => ','
  | .opening bracket => bracket.openSymbol

end LayerTemplates
