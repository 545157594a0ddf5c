/-
  LayerTemplates.Fault
  ────────────────────
  What can be wrong with the text of one layer.

  A `Cause` says what happened; its heading, the symbol at fault and the explanation
  are functions of it.  A `Fault` is a cause with the placeholder it was found in and
  the byte offset inside that placeholder.
-/
import LayerTemplates.Lexeme.Delimiter

namespace LayerTemplates

/-! ## §1. Headings. -/

/-- The heading under which a fault is reported. -/
inductive FaultKind where
  | unbalancedBrackets
  | unbalancedParenthesis
  | twoDelimitersInRow
  | blankBetweenNestedLexemes
  | delimiterWithoutLexeme
  | commaNotInArguments
  | missingDelimiter
  | danglingDelimiter
  | unexpectedSymbol
  | unterminatedString
  | emptyString
  | invalidAncestorReference
  | unterminatedPlaceholder
  | emptyPlaceholder
  | twoElseInRow
  | brokenControlSequence
  | unclosedOperators
  | internalParserError
  deriving Repr, DecidableEq, Inhabited

/-- The heading as text. -/
def FaultKind.title : FaultKind → String
  | .unbalancedBrackets => "Unbalanced brackets"
  | .unbalancedParenthesis => "Unbalanced parenthesis"
  | .twoDelimitersInRow => "Two delimiters in a row"
  | .blankBetweenNestedLexemes => "Blank between nested lexemes"
  | .delimiterWithoutLexeme => "Delimiter without preceding lexeme"
  | .commaNotInArguments => "Comma not in arguments"
  | .missingDelimiter => "Missing delimiter"
  | .danglingDelimiter => "Dangling delimiter"
  | .unexpectedSymbol => "Unexpected symbol"
  | .unterminatedString => "Unterminated string"
  | .emptyString => "Empty string"
  | .invalidAncestorReference => "Invalid ancestor reference"
  | .unterminatedPlaceholder => "Unterminated placeholder"
  | .emptyPlaceholder => "Empty placeholder"
  | .twoElseInRow => "Two else in a row"
  | .brokenControlSequence => "Broken control sequence"
  | .unclosedOperators => "Unclosed operators"
  | .internalParserError => "Internal parser error"

/-! ## §2. Causes. -/

/-- What happened. -/
inductive Cause where
  /-- A delimiter stands where no operand comes before it. -/
  | delimiterFirst (delimiter : Delimiter)
  /-- A leading operator is followed by a delimiter. -/
  | operatorOwner (operator : String) (delimiter : Delimiter)
  /-- A second symbol follows a delimiter at once. -/
  | symbolAfterDelimiter (delimiter : Delimiter) (symbol : Char)
  /-- A second argument list follows the first. -/
  | secondArguments (owner : String)
  /-- A comma stands outside an argument list. -/
  | strayComma
  /-- A closing bracket stands where none is open. -/
  | closerFirst (closer : Bracket)
  /-- A bracket is closed by the other kind. -/
  | crossedBrackets (opened closer : Bracket)
  /-- Brackets are open at the end of the body, outermost first. -/
  | openAtEnd (brackets : List Bracket)
  /-- The body ends with a delimiter. -/
  | delimiterLast (delimiter : Delimiter)
  /-- Two operands touch. -/
  | operandsTouch
  /-- Inside brackets two operands are separated by blanks alone. -/
  | blankInBrackets
  /-- A quoted literal holds nothing. -/
  | emptyLiteral (quote : Char)
  /-- A quoted literal is not closed. -/
  | openLiteral
  /-- A caret has no digits. -/
  | caretAlone
  /-- The body holds neither an operand nor a comment. -/
  | emptyBody
  /-- The closing tag is missing. -/
  | openPlaceholder (openTag : String)
  /-- An `else` or `end` stands outside a conditional; the placeholder is named. -/
  | orphan (entry : String)
  /-- A conditional has a second `else`; the placeholder that opened it is named. -/
  | secondElse (opener : String)
  /-- Conditionals are open at the end of the layer, outermost first. -/
  | openConditionals (entries : List String)
  /-- The conditional to be continued is no longer open; where an `else` continues it, the
  placeholder that opened it is named. -/
  | lostConditional (opener : Option String)
  deriving Repr, DecidableEq, Inhabited

/-- Text between double quotes. -/
def inQuotes (text : String) : String := "\"" ++ text ++ "\""

/-- The explanation that an `else` or `end` placeholder is out of place. -/
def orphanText (entry : String) : String :=
  "The " ++ inQuotes entry ++ " placeholder is not preceded by \"if\" or \"unless\""

namespace Cause

/-- The heading under which a cause is reported. -/
def kind : Cause → FaultKind
  | .delimiterFirst _ | .operatorOwner _ _ => .delimiterWithoutLexeme
  | .symbolAfterDelimiter _ _ => .twoDelimitersInRow
  | .secondArguments _ => .unexpectedSymbol
  | .strayComma => .commaNotInArguments
  | .closerFirst .round => .unbalancedParenthesis
  | .closerFirst .square | .crossedBrackets _ _ | .openAtEnd _ => .unbalancedBrackets
  | .delimiterLast _ => .danglingDelimiter
  | .operandsTouch => .missingDelimiter
  | .blankInBrackets => .blankBetweenNestedLexemes
  | .emptyLiteral _ => .emptyString
  | .openLiteral => .unterminatedString
  | .caretAlone => .invalidAncestorReference
  | .emptyBody => .emptyPlaceholder
  | .openPlaceholder _ => .unterminatedPlaceholder
  | .orphan _ => .brokenControlSequence
  | .secondElse _ => .twoElseInRow
  | .openConditionals _ => .unclosedOperators
  | .lostConditional _ => .internalParserError

/-- The symbol at fault, where one symbol is. -/
def symbol : Cause → Option Char
  | .delimiterFirst delimiter | .operatorOwner _ delimiter | .delimiterLast delimiter =>
      some delimiter.symbol
  | .symbolAfterDelimiter _ symbol => some symbol
  | .secondArguments _ => some '('
  | .strayComma => some ','
  | .closerFirst closer | .crossedBrackets _ closer => some closer.closeSymbol
  | .emptyLiteral quote => some quote
  | .caretAlone => some '^'
  | _ => none

/-- The explanation, where there is one. -/
def detail : Cause → Option String
  | .operatorOwner operator delimiter =>
      some (inQuotes operator ++ " is an operator and cannot own "
        ++ inQuotes delimiter.symbol.toString)
  | .symbolAfterDelimiter delimiter symbol =>
      some (inQuotes delimiter.symbol.toString ++ " is followed by " ++ inQuotes symbol.toString)
  | .secondArguments owner => some (inQuotes owner ++ " already has an argument list")
  | .strayComma => some "commas only separate function arguments"
  | .closerFirst closer =>
      some (inQuotes closer.closeSymbol.toString ++ " is not preceded by "
        ++ inQuotes closer.openSymbol.toString)
  | .crossedBrackets opened closer =>
      some (inQuotes opened.openSymbol.toString ++ " is closed by "
        ++ inQuotes closer.closeSymbol.toString)
  | .openAtEnd brackets =>
      some ("unclosed "
        ++ ", ".intercalate (brackets.map fun bracket => inQuotes bracket.openSymbol.toString))
  | .delimiterLast _ => some "a delimiter must be followed by a lexeme"
  | .blankInBrackets => some "nested lexemes must be separated by a delimiter"
  | .emptyLiteral quote => some (quote.toString ++ quote.toString ++ " is not a valid lexeme")
  | .caretAlone => some "\"^\" must be followed by digits"
  | .openPlaceholder openTag => some (inQuotes openTag ++ " is never closed")
  | .orphan entry => some (orphanText entry)
  | .secondElse opener | .lostConditional (some opener) =>
      some (inQuotes opener ++ " already has an else branch")
  | .openConditionals entries =>
      some ("Unclosed statements detected: ... " ++ " ... ".intercalate entries ++ " ...")
  | .delimiterFirst _ | .operandsTouch | .openLiteral | .emptyBody | .lostConditional none => none

end Cause

/-! ## §3. Faults. -/

/-- A cause at an absolute byte offset of the layer text. -/
structure Issue where
  cause : Cause
  position : Nat
  deriving Repr, DecidableEq, Inhabited

/-- A cause with the place where it was found. -/
structure Fault where
  cause : Cause
  /-- Source text of the placeholder. -/
  placeholder : Option String := none
  /-- Byte offset from the start of the placeholder. -/
  position : Option Nat := none
  deriving Repr, DecidableEq, Inhabited

/-- The fault that an issue is in the placeholder that starts at a byte offset. -/
def Issue.toFault (issue : Issue) (entry : String) (start : Nat) : Fault :=
  { cause := issue.cause, placeholder := some entry, position := some (issue.position - start) }

/-- One line that names the heading and the placeholder. -/
def Fault.message (fault : Fault) : String :=
  match fault.placeholder with
  | some entry => fault.cause.kind.title ++ " in " ++ entry
  | none => fault.cause.kind.title

end LayerTemplates
