/-
  LayerTemplates.Expression.Lexer
  ───────────────────────────────
  The lexer of placeholder bodies.  It is fed one character at a time together with
  the byte offset of that character, links the operands it reads in the arena of the
  layer, and notes every violation of the grammar instead of stopping at the first.

  The lexer is a value: `Lexer.feed` takes the lexer before a character to the lexer
  after it.  Between operands `pending` says what stands before the next one; inside
  brackets `groups` holds the brackets that are open, innermost first.  A body ends in
  one of two ways: `Lexer.finish` where the closing tag was found, `Lexer.abandon`
  where the text ended first.
-/
import LayerTemplates.Text.Blank
import LayerTemplates.Fault
import LayerTemplates.Directive

namespace LayerTemplates

/-! ## §1. The state. -/

/-- What the lexer is reading. -/
inductive Mode where
  /-- Nothing; the next character starts something. -/
  | between
  /-- A bare word. -/
  | bare (operand : LexemeId)
  /-- A quoted literal; after an escape character the next one is taken as it is. -/
  | quoted (operand : LexemeId) (quote : Char) (escaping : Bool)
  /-- The digits after a caret. -/
  | number (operand : LexemeId)
  /-- A comment, up to the end of the body. -/
  | comment (text : String)
  deriving Repr, DecidableEq, Inhabited

/-- What stands before the next operand. -/
inductive Pending where
  /-- The start of the body. -/
  | start
  /-- An operand and blanks. -/
  | blank
  /-- An operand. -/
  | adjacent
  /-- A delimiter. -/
  | delimiter (delimiter : Delimiter)
  deriving Repr, DecidableEq, Inhabited

/-- An open bracket. -/
structure Group where
  bracket : Bracket
  /-- The lexeme that the bracket belongs to. -/
  owner : LexemeId
  /-- The lexeme that the next delimiter inside the bracket belongs to. -/
  last : Option LexemeId := none
  deriving Repr, DecidableEq, Inhabited

/-- What was read of a placeholder body. -/
structure Expression where
  /-- The first lexemes of the expressions of the body. -/
  roots : List LexemeId := []
  comment : Option String := none
  issues : List Issue := []
  deriving Repr, DecidableEq, Inhabited

/-- The lexer between two characters. -/
structure Lexer where
  arena : Arena
  /-- Inside a quoted literal this character makes the next one literal. -/
  escape : Char
  mode : Mode := .between
  pending : Pending := .start
  /-- The lexeme that the next delimiter outside brackets belongs to. -/
  last : Option LexemeId := none
  /-- The open brackets, innermost first. -/
  groups : List Group := []
  roots : List LexemeId := []
  issues : List Issue := []
  /-- The offset of the character that was fed last. -/
  lastPosition : Nat := 0
  deriving Repr, DecidableEq, Inhabited

namespace Lexer

/-- Whether a quoted literal is being read; closing tags are ordinary text there. -/
def inLiteral (lx : Lexer) : Bool :=
  match lx.mode with
  | .quoted _ _ _ => true
  | _ => false

/-- Notes a violation of the grammar. -/
def note (lx : Lexer) (cause : Cause) (position : Nat) : Lexer :=
  { lx with issues := lx.issues ++ [{ cause, position }] }

/-- The lexeme that a delimiter would belong to. -/
def anchor (lx : Lexer) : Option LexemeId :=
  match lx.groups with
  | [] => lx.last
  | group :: _ => group.last

/-- Makes a lexeme the one that the next delimiter belongs to. -/
def setAnchor (lx : Lexer) (id : LexemeId) : Lexer :=
  match lx.groups with
  | [] => { lx with last := some id }
  | group :: outer => { lx with groups := { group with last := some id } :: outer }

/-! ## §2. Operands. -/

/-- Adds a character to an operand. -/
def pushChar (lx : Lexer) (id : LexemeId) (c : Char) (position : Nat) : Lexer :=
  { lx with arena := lx.arena.modify id fun l =>
      { l with value := l.value.push c, span := ⟨l.span.start, position + c.utf8Size⟩ } }

/-- Ends the operand that is being read. -/
def endOperand (lx : Lexer) : Lexer := { lx with mode := .between, pending := .adjacent }

/-- Ends the digits after a caret, of which there has to be one. -/
def endNumber (lx : Lexer) (id : LexemeId) (position : Nat) : Lexer :=
  if (lx.arena.get id).value.isEmpty then (lx.note .caretAlone position).endOperand
  else lx.endOperand

/-- The kind of a plain lexeme inside a bracket. -/
def kindIn : Bracket → LexemeKind
  | .square => .element
  | .round => .argument

/-- Links the operand at `id`, separated from the one before it by blanks at most. -/
def joinSibling (lx : Lexer) (id : LexemeId) : Lexer :=
  let arena := match lx.anchor with
    | some prev => lx.arena.attachNext prev id
    | none => lx.arena
  match lx.groups with
  | [] => { lx with arena, roots := lx.roots ++ [id] }.setAnchor id
  | group :: _ =>
      { lx with arena := arena.modify id (Lexeme.grouped (kindIn group.bracket)) }.setAnchor id

/-- Links the new operand at `id` to what stands before it. -/
def joinOperand (lx : Lexer) (id : LexemeId) (position : Nat) : Lexer :=
  match lx.pending with
  | .start => { lx with roots := lx.roots ++ [id] }.setAnchor id
  | .adjacent => (lx.note .operandsTouch position).joinSibling id
  | .blank =>
      if lx.groups.isEmpty then lx.joinSibling id
      else (lx.note .blankInBrackets position).joinSibling id
  | .delimiter .dot =>
      match lx.anchor with
      | some anchor =>
          { lx with arena := lx.arena.attachChild (lx.arena.deepest anchor) id }
      | none => lx
  | .delimiter .comma => lx.joinSibling id
  | .delimiter (.opening .square) =>
      match lx.groups with
      | [] => lx.setAnchor id
      | group :: _ =>
          let arena := (lx.arena.attachChild group.owner id).modify id (Lexeme.grouped .element)
          { lx with arena }.setAnchor id
  | .delimiter (.opening .round) =>
      match lx.groups with
      | [] => lx.setAnchor id
      | group :: _ => { lx with arena := lx.arena.attachFirstArg group.owner id }.setAnchor id

/-- Starts an operand; its index is the size that the arena had. -/
def beginOperand (lx : Lexer) (lexeme : Lexeme) (position : Nat) : Lexer :=
  { lx with arena := lx.arena.alloc lexeme }.joinOperand lx.arena.size position

/-- A leading `=` or `#` is an operand of its own. -/
def operatorSign (lx : Lexer) (c : Char) (position : Nat) : Lexer :=
  let id := lx.arena.size
  let sign := ((lx.beginOperand (.startingAt .plain position) position).pushChar id c position)
  { sign.endOperand with pending := .blank }

/-! ## §3. Delimiters. -/

/-- Whether a lexeme is the leading operator of the body, with blanks after it. -/
def isOperatorAnchor (lx : Lexer) (id : LexemeId) : Bool :=
  lx.pending == .blank && lx.groups.isEmpty && lx.roots == [id]
    && (lx.arena.operatorAt? id).isSome

/-- Opens a bracket after the path that starts at `anchor`. -/
def openBracket (lx : Lexer) (bracket : Bracket) (anchor : LexemeId) (position : Nat) : Lexer :=
  let owner := lx.arena.deepest anchor
  match bracket with
  | .square => { lx with groups := { bracket, owner } :: lx.groups }
  | .round =>
      let lexeme := lx.arena.get owner
      let lx := if lexeme.kind = .function then lx.note (.secondArguments lexeme.value) position
        else lx
      { lx with
        arena := lx.arena.modify owner fun l => { l with kind := .function }
        groups := { bracket, owner } :: lx.groups }

/-- A dot or an opening bracket. -/
def delimit (lx : Lexer) (delimiter : Delimiter) (position : Nat) : Lexer :=
  match lx.pending with
  | .start => lx.note (.delimiterFirst delimiter) position
  | .delimiter previous => lx.note (.symbolAfterDelimiter previous delimiter.symbol) position
  | .blank | .adjacent =>
      match lx.anchor with
      | none => lx.note (.delimiterFirst delimiter) position
      | some anchor =>
          if lx.isOperatorAnchor anchor then
            lx.note (.operatorOwner (lx.arena.get anchor).value delimiter) position
          else
            let opened := match delimiter with
              | .opening bracket => lx.openBracket bracket anchor position
              | .dot | .comma => lx
            { opened with pending := .delimiter delimiter }

/-- A comma, which stands in argument lists only. -/
def comma (lx : Lexer) (position : Nat) : Lexer :=
  match lx.pending with
  | .start => lx.note (.delimiterFirst .comma) position
  | .delimiter previous => lx.note (.symbolAfterDelimiter previous ',') position
  | .blank | .adjacent =>
      if lx.groups.head?.any fun group => group.bracket == .round then
        { lx with pending := .delimiter .comma }
      else
        lx.note .strayComma position

/-- Notes a closing bracket that follows a delimiter at once; an empty argument list is
the only place where that is right. -/
def noteDoubled (lx : Lexer) (closer : Bracket) (position : Nat) : Lexer :=
  match lx.pending with
  | .delimiter previous =>
      if previous = .opening .round ∧ closer = .round then lx
      else lx.note (.symbolAfterDelimiter previous closer.closeSymbol) position
  | .start | .blank | .adjacent => lx

/-- A closing bracket. -/
def closeBracket (lx : Lexer) (closer : Bracket) (position : Nat) : Lexer :=
  let doubled := lx.noteDoubled closer position
  match lx.groups with
  | [] =>
      { doubled.note (.closerFirst closer) position with
        pending := if lx.pending = .start then .start else .adjacent }
  | group :: outer =>
      let crossed := if group.bracket = closer then doubled
        else doubled.note (.crossedBrackets group.bracket closer) position
      { crossed with groups := outer, pending := .adjacent }

/-! ## §4. Characters. -/

/-- A character inside a quoted literal. -/
def feedQuoted (lx : Lexer) (id : LexemeId) (quote : Char) (escaping : Bool) (c : Char)
    (position : Nat) : Lexer :=
  if escaping then
    { lx.pushChar id c position with mode := .quoted id quote false }
  else if c == lx.escape then
    { lx with mode := .quoted id quote true }
  else if c == quote then
    let arena := lx.arena.modify id fun l =>
      { l with
        span := ⟨l.span.start, position + c.utf8Size⟩
        form := if quote == rawQuote then .plain else l.form }
    let closed := { lx with arena }
    let noted := if (arena.get id).value.isEmpty then closed.note (.emptyLiteral quote) position
      else closed
    noted.endOperand
  else
    lx.pushChar id c position

/-- A character outside operands. -/
def feedBetween (lx : Lexer) (c : Char) (position : Nat) : Lexer :=
  let id := lx.arena.size
  if isBlank c then
    if lx.pending = .adjacent then { lx with pending := .blank } else lx
  else if c == '=' && lx.pending == .start then
    lx.operatorSign c position
  else if c == '#' then
    let lx := if lx.pending = .start then lx.operatorSign c position else lx
    { lx with mode := .comment "" }
  else if c == '.' then
    lx.delimit .dot position
  else if c == '[' then
    lx.delimit (.opening .square) position
  else if c == '(' then
    lx.delimit (.opening .round) position
  else if c == ',' then
    lx.comma position
  else if c == ']' then
    lx.closeBracket .square position
  else if c == ')' then
    lx.closeBracket .round position
  else if c == '^' then
    let lexeme : Lexeme :=
      { form := .relative, kind := .ancestor, span := ⟨position, position + c.utf8Size⟩ }
    { lx.beginOperand lexeme position with mode := .number id }
  else if isQuote c then
    let lexeme : Lexeme :=
      { form := .quoted, quote := some c, span := ⟨position, position + c.utf8Size⟩ }
    { lx.beginOperand lexeme position with mode := .quoted id c false }
  else
    let started := lx.beginOperand (.startingAt .plain position) position
    { started.pushChar id c position with mode := .bare id }

/-- The lexer after one more character, which stands at the byte offset `position`. -/
def feed (lx : Lexer) (c : Char) (position : Nat) : Lexer :=
  let lx := { lx with lastPosition := position }
  match lx.mode with
  | .quoted id quote escaping => lx.feedQuoted id quote escaping c position
  | .number id =>
      if c.isDigit then lx.pushChar id c position
      else (lx.endNumber id position).feedBetween c position
  | .bare id =>
      if isLexemeChar c then lx.pushChar id c position
      else lx.endOperand.feedBetween c position
  | .comment text => { lx with mode := .comment (text.push c) }
  | .between => lx.feedBetween c position

/-- The lexer after more characters, the first of which stands at `position`. -/
def feedAll (lx : Lexer) (position : Nat) : List Char → Lexer
  | [] => lx
  | c :: rest => (lx.feed c position).feedAll (position + c.utf8Size) rest

/-! ## §5. The end of a body. -/

/-- What was read, without further checks. -/
def expression (lx : Lexer) : Expression :=
  { roots := lx.roots
    comment := match lx.mode with
      | .comment text => some text
      | _ => none
    issues := lx.issues }

/-- Ends whatever is being read at the end of a body. -/
def settle (lx : Lexer) (position : Nat) : Lexer :=
  match lx.mode with
  | .quoted _ _ _ => (lx.note .openLiteral lx.lastPosition).endOperand
  | .number id => lx.endNumber id position
  | .bare _ => lx.endOperand
  | .between | .comment _ => lx

/-- The lexer after the checks that a complete body has to pass. -/
def complete (lx : Lexer) (position : Nat) : Lexer :=
  let lx := lx.settle position
  let lx := match lx.pending with
    | .delimiter delimiter => lx.note (.delimiterLast delimiter) position
    | _ => lx
  let lx := if lx.groups.isEmpty then lx
    else lx.note (.openAtEnd (lx.groups.map Group.bracket).reverse) position
  if lx.roots.isEmpty && lx.expression.comment.isNone then lx.note .emptyBody position else lx

/-- What a body holds whose closing tag stands at `position`. -/
def finish (lx : Lexer) (position : Nat) : Expression := (lx.complete position).expression

/-- What a body holds that the end of the text cut off. -/
def abandon (lx : Lexer) : Expression :=
  if lx.inLiteral then (lx.note .openLiteral lx.lastPosition).expression else lx.expression

end Lexer

/-- Reads a placeholder body that stands alone. -/
def Expression.read (body : String) (escape : Char) : Arena × Expression :=
  let lx := Lexer.feedAll { arena := {}, escape } 0 body.toList
  (lx.arena, lx.finish body.utf8ByteSize)

end LayerTemplates
