/-
  LayerTemplates.Directive
  ────────────────────────
  What a placeholder tells the renderer to do: an operator, the number of its parts,
  and the expression it works on.

  A placeholder whose first word is a keyword names its operator; every other one is
  an insert whose sign was left out, and that sign counts as a part.
-/
import LayerTemplates.Lexeme.Arena

namespace LayerTemplates

/-! ## §1. Operators. -/

/-- The operators of a placeholder. -/
inductive Operator where
  | insert
  | ifTrue
  | ifFalse
  | otherwise
  | endBlock
  | comment
  deriving Repr, DecidableEq, Inhabited

namespace Operator

/-- The word or sign of an operator. -/
def keyword : Operator → String
  | .insert => "="
  | .ifTrue => "if"
  | .ifFalse => "unless"
  | .otherwise => "else"
  | .endBlock => "end"
  | .comment => "#"

/-- All operators. -/
def all : List Operator := [.insert, .ifTrue, .ifFalse, .otherwise, .endBlock, .comment]

/-- The operator that a word names, in capitals or not.  No letter outside ASCII has a
lower-case form in a keyword, so folding ASCII letters is enough. -/
def ofKeyword? (word : String) : Option Operator :=
  let folded := word.toList.map Char.toLower
  all.find? fun operator => operator.keyword.toList == folded

/-- The number of parts that a placeholder with this operator has. -/
def expectedParts : Operator → Nat
  | .insert | .ifTrue | .ifFalse => 2
  | .otherwise | .endBlock | .comment => 1

/-- The keyword of an operator names that operator. -/
theorem ofKeyword?_keyword (operator : Operator) :
    ofKeyword? operator.keyword = some operator := by
  cases operator <;> decide

end Operator

/-! ## §2. Directives. -/

/-- What a placeholder tells the renderer to do. -/
structure Directive where
  operator : Operator
  /-- Whether the operator was written. -/
  explicit : Bool
  /-- The number of parts, an operator that was left out included. -/
  parts : Nat
  /-- The expression that the operator works on. -/
  target : Option LexemeId
  deriving Repr, DecidableEq, Inhabited

/-- The operator that a lexeme names: a bare word without a path or arguments. -/
def Arena.operatorAt? (a : Arena) (id : LexemeId) : Option Operator :=
  let lexeme := a.get id
  if lexeme.form = .plain ∧ lexeme.quote = none ∧ lexeme.kind = .plain ∧ lexeme.child = none then
    Operator.ofKeyword? lexeme.value
  else
    none

namespace Directive

/-- The directive of a placeholder with these expressions; none without expressions. -/
def classify (a : Arena) : List LexemeId → Option Directive
  | [] => none
  | first :: others =>
      match a.operatorAt? first with
      | some operator =>
          some { operator, explicit := true, parts := others.length + 1, target := others.head? }
      | none =>
          some { operator := .insert, explicit := false, parts := others.length + 2,
                 target := some first }

/-- Whether the directive has too few parts, the right number or too many. -/
def arity (d : Directive) : Ordering := compare d.parts d.operator.expectedParts

/-- The name of the layer that the target refers to: the first step of its path. -/
def targetName (d : Directive) (a : Arena) : Option String :=
  d.target.map fun id => (a.get id).value

end Directive

end LayerTemplates
