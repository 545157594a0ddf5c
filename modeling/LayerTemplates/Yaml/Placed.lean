/-
  LayerTemplates.Yaml.Placed
  ──────────────────────────
  YAML text as a list of characters that know where they stand.

  What a character means in YAML depends on its line and column, so every character
  carries its place.  Line breaks are brought to one form before anything else is read:
  afterwards a break is a single character.
-/
namespace LayerTemplates.Yaml

/-- A character and where it stands. -/
structure Placed where
  char : Char
  /-- The number of characters before it. -/
  index : Nat
  line : Nat
  column : Nat
  deriving Repr, Inhabited

/-! ## §1. Characters. -/

/-- A blank inside a line. -/
def isGap (c : Char) : Bool := c == ' ' || c == '\t'

/-- A line break in the form in which placed text has it.  The two separators of
Unicode keep their form and are never folded. -/
def isBreak (c : Char) : Bool := c == '\n' || c == '\u2028' || c == '\u2029'

/-- A character of a name: of an anchor, a tag handle or a directive. -/
def isNameChar (c : Char) : Bool := c.isAlphanum || c == '-' || c == '_'

/-- A character that YAML text may hold. -/
def isAllowed (c : Char) : Bool :=
  c == '\t' || c == '\n' || c == '\x0d' || c == '\u0085'
    || (0x20 ≤ c.toNat && c.toNat ≤ 0x7e) || (0xa0 ≤ c.toNat && c.toNat ≤ 0xfffd)
    || 0x10000 ≤ c.toNat

/-! ## §2. Places. -/

/-- The characters of a text with their places, counted from the given ones. -/
def placeFrom (index line column : Nat) : List Char → List Placed
  | [] => []
  | '\x0d' :: '\n' :: rest => ⟨'\n', index, line, column⟩ :: placeFrom (index + 2) (line + 1) 0 rest
  | c :: rest =>
      if c = '\n' ∨ c = '\x0d' ∨ c = '\u0085' then
        ⟨'\n', index, line, column⟩ :: placeFrom (index + 1) (line + 1) 0 rest
      else if isBreak c then
        ⟨c, index, line, column⟩ :: placeFrom (index + 1) (line + 1) 0 rest
      else
        ⟨c, index, line, column⟩ :: placeFrom (index + 1) line (column + 1) rest

/-- The characters of a text with their places.  A text with a control character is
refused, and a mark of the byte order at its start is no part of what it says. -/
def place? (text : String) : Option (List Placed) :=
  if text.toList.all isAllowed then
    match placeFrom 0 0 0 text.toList with
    | first :: rest => some (if first.char == '\uFEFF' then rest else first :: rest)
    | [] => some []
  else none

/-! ## §3. What stands ahead. -/

/-- Whether the text goes on with a character of a kind. -/
def startsWith (kind : Char → Bool) : List Placed → Bool
  | p :: _ => kind p.char
  | [] => false

/-- Whether a word is over: a blank, a break or the end comes next. -/
def wordIsOver : List Placed → Bool
  | p :: _ => isGap p.char || isBreak p.char
  | [] => true

/-- Whether a line is over. -/
def lineIsOver : List Placed → Bool
  | p :: _ => isBreak p.char
  | [] => true

/-- Whether a marker between documents comes next: three of the same character at the
start of a line, and nothing else in the word. -/
def atMarker (mark : Char) : List Placed → Bool
  | a :: b :: c :: rest =>
      a.column == 0 && a.char == mark && b.char == mark && c.char == mark && wordIsOver rest
  | _ => false

/-- Whether the start or the end of a document is marked here. -/
def atDocumentMarker (text : List Placed) : Bool := atMarker '-' text || atMarker '.' text

/-- The characters that stand at the front of a text as long as they are of a kind. -/
def runOf (kind : Char → Bool) (text : List Placed) : String :=
  String.ofList ((text.takeWhile fun p => kind p.char).map Placed.char)

/-- What follows the characters of a kind. -/
def dropRun (kind : Char → Bool) (text : List Placed) : List Placed :=
  text.dropWhile fun p => kind p.char

/-- What follows the blanks and the comment at the end of a line; none where something
else stands there. -/
def endOfLine? (text : List Placed) : Option (List Placed) :=
  let text := dropRun isGap text
  let text := if startsWith (· == '#') text then dropRun (fun c => !isBreak c) text else text
  if lineIsOver text then some (text.drop 1) else none

end LayerTemplates.Yaml
