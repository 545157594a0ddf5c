/-
  LayerTemplates.Proofs.Expression.Acceptor
  ─────────────────────────────────────────
  A machine that accepts placeholder bodies.

  Of everything that the lexer keeps the machine keeps what decides whether a character is in
  place: what is being read, what stands before the next operand, the open brackets, whether
  the innermost lexeme has an argument list, and the word that leads the body as long as
  nothing follows it.  It stops at the first character that is out of place.

  Main definitions:
    * `Config.step` — one character.
    * `Config.Accepts` — the machine gets through characters and may end after them.
-/
import LayerTemplates.Proofs.Expression.Grammar

namespace LayerTemplates

/-! ## §1. Configurations. -/

/-- What is being read, as far as it matters. -/
inductive Phase where
  | between
  | word
  /-- A quoted literal, which has a value already or not. -/
  | literal (quote : Char) (escaping filled : Bool)
  /-- The digits after a caret, of which there is one already or not. -/
  | number (filled : Bool)
  | comment
  deriving Repr, DecidableEq, Inhabited

/-- The machine between two characters. -/
structure Config where
  reading : Phase := .between
  pending : Pending := .start
  /-- Whether the innermost lexeme of the chain has an argument list. -/
  called : Bool := false
  /-- The word that is all of the body so far. -/
  lead : Option (List Char) := none
  /-- The open brackets, innermost first. -/
  groups : List Bracket := []
  deriving Repr, DecidableEq, Inhabited

/-- Whether the word names an operator. -/
def namesOperator (lead : Option (List Char)) : Bool :=
  lead.any fun w => (Operator.ofKeyword? (String.ofList w)).isSome

/-- Nothing more of the leading word leaves it as it is. -/
theorem lead_nil (lead : Option (List Char)) : lead.map (· ++ []) = lead := by
  cases lead <;> simp

/-- Characters lengthen the leading word one by one as they do all at once; where no word leads the
body, none ever will. -/
theorem lead_append (lead : Option (List Char)) (c : Char) (w : List Char) :
    (lead.map (· ++ [c])).map (· ++ w) = lead.map (· ++ c :: w) := by
  cases lead <;> simp

namespace Config

/-- Ends the operand that is being read. -/
def ended (s : Config) : Config := { s with reading := .between, pending := .adjacent }

/-- Goes on after a blank. -/
def spaced (s : Config) : Config :=
  if s.pending = .adjacent then { s with pending := .blank } else s

/-- A blank shows in what is pending, and in nothing else. -/
@[simp] theorem spaced_reading (s : Config) : s.spaced.reading = s.reading := by
  unfold spaced
  split <;> rfl

@[simp] theorem spaced_groups (s : Config) : s.spaced.groups = s.groups := by
  unfold spaced
  split <;> rfl

/-- Starts an operand where one is in place; `word` is what it may lead the body with. -/
def begin (s : Config) (reading : Phase) (word : Option (List Char)) : Option Config :=
  match s.pending with
  | .start => some { s with reading, called := false, lead := word }
  | .blank =>
      if s.groups = [] then some { s with reading, called := false, lead := none } else none
  | .adjacent => none
  | .delimiter _ => some { s with reading, called := false, lead := none }

/-- Goes on after a dot or an opening bracket that is in place; a second argument list is not. -/
def delimited (s : Config) (d : Delimiter) : Option Config :=
  match d with
  | .opening .square => some { s with pending := .delimiter d, groups := .square :: s.groups }
  | .opening .round =>
      if s.called then none
      else some { s with pending := .delimiter d, groups := .round :: s.groups, lead := none }
  | .dot | .comma => some { s with pending := .delimiter d }

/-- A dot or an opening bracket. -/
def delimit (s : Config) (d : Delimiter) : Option Config :=
  if s.pending = .adjacent
      ∨ s.pending = .blank ∧ ¬ (s.groups = [] ∧ namesOperator s.lead = true) then
    s.delimited d
  else none

/-- A comma, which stands in argument lists only. -/
def comma (s : Config) : Option Config :=
  if (s.pending = .adjacent ∨ s.pending = .blank) ∧ s.groups.head? = some .round then
    some { s with pending := .delimiter .comma }
  else none

/-- A closing bracket.  It ends an operand, or an argument list that is empty. -/
def close (s : Config) (closer : Bracket) : Option Config :=
  match s.groups with
  | [] => none
  | bracket :: outer =>
      if bracket = closer ∧ (s.pending = .adjacent ∨ s.pending = .blank
          ∨ s.pending = .delimiter (.opening .round) ∧ closer = .round) then
        some { s with
          groups := outer, pending := .adjacent, called := s.called || closer == .round }
      else none

/-- A leading `=` or `#` is an operand of its own. -/
def signed (s : Config) (c : Char) : Config :=
  { s with pending := .blank, called := false, lead := some [c] }

/-- Behind a leading sign an operand stands as it does behind a blank. -/
@[simp] theorem signed_pending (s : Config) (c : Char) : (s.signed c).pending = .blank := rfl

/-- A character outside operands. -/
def between (s : Config) (c : Char) : Option Config :=
  if isBlank c then some s.spaced
  else if c = '=' ∧ s.pending = .start then
    some (s.signed c)
  else if c = '#' then
    some { (if s.pending = .start then s.signed c else s) with reading := .comment }
  else if c = '.' then s.delimit .dot
  else if c = '[' then s.delimit (.opening .square)
  else if c = '(' then s.delimit (.opening .round)
  else if c = ',' then s.comma
  else if c = ']' then s.close .square
  else if c = ')' then s.close .round
  else if c = '^' then s.begin (.number false) none
  else if isQuote c then s.begin (.literal c false false) none
  else s.begin .word (some [c])

/-- The machine after one more character, if it is in place. -/
def step (escape : Char) (s : Config) (c : Char) : Option Config :=
  match s.reading with
  | .between => s.between c
  | .word =>
      if isLexemeChar c then some { s with lead := s.lead.map (· ++ [c]) }
      else s.ended.between c
  | .literal quote true _ => some { s with reading := .literal quote false true }
  | .literal quote false filled =>
      if c = escape then some { s with reading := .literal quote true filled }
      else if c = quote then (if filled then some s.ended else none)
      else some { s with reading := .literal quote false true }
  | .number filled =>
      if c.isDigit then some { s with reading := .number true }
      else if filled then s.ended.between c
      else none
  | .comment => some s

/-- Whether a body may end here. -/
def Complete (s : Config) : Prop :=
  s.groups = [] ∧
    match s.reading with
    | .literal _ _ _ => False
    | .number filled => filled = true
    | .word => True
    | .between | .comment => s.pending = .adjacent ∨ s.pending = .blank

/-- Whether the machine gets through the characters and may end there. -/
def Accepts (escape : Char) : Config → List Char → Prop
  | s, [] => s.Complete
  | s, c :: rest => ∃ s', s.step escape c = some s' ∧ Accepts escape s' rest

end Config

end LayerTemplates
