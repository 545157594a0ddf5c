/-
  LayerTemplates.Yaml.Scalar
  ──────────────────────────
  The texts of scalars: plain ones, quoted ones and blocks.

  Where a plain or quoted scalar runs over several lines, the blanks around a break are
  dropped, a single break becomes a blank, and of several the first is dropped.  `Gap`
  holds what stands between two words until it is known what the gap says.
-/
import LayerTemplates.Yaml.Placed

namespace LayerTemplates.Yaml

/-! ## §1. Gaps. -/

/-- What stands between two words of a scalar. -/
structure Gap where
  /-- The blanks of a gap inside a line. -/
  blanks : String := ""
  /-- Whether the gap has a break; blanks count no more then. -/
  overLines : Bool := false
  firstBreak : String := ""
  moreBreaks : String := ""
  deriving Repr, Inhabited

namespace Gap

/-- The gap after a further blank or break. -/
def push (gap : Gap) (c : Char) : Gap :=
  if isBreak c then
    if gap.overLines then { gap with moreBreaks := gap.moreBreaks.push c }
    else { overLines := true, firstBreak := c.toString }
  else if gap.overLines then gap
  else { gap with blanks := gap.blanks.push c }

/-- What the gap says. -/
def text (gap : Gap) : String :=
  if gap.overLines then
    if gap.firstBreak == "\n" then
      if gap.moreBreaks.isEmpty then " " else gap.moreBreaks
    else gap.firstBreak ++ gap.moreBreaks
  else gap.blanks

/-- The gap that a break after a backslash opens: it says nothing by itself. -/
def escapedBreak : Gap := { overLines := true }

end Gap

/-! ## §2. Plain scalars. -/

/-- A scalar that was read. -/
structure ReadScalar where
  text : String
  /-- Whether lines ended on the way to what follows. -/
  crossedLine : Bool := false
  rest : List Placed
  deriving Inhabited

/-- A bracket or comma of a flow collection. -/
def isFlowIndicator (c : Char) : Bool :=
  c == ',' || c == '[' || c == ']' || c == '\x7b' || c == '\x7d'

/-- Whether a plain scalar is over before a character that is neither blank nor break. -/
def endsPlain (inFlow : Bool) (c : Char) (rest : List Placed) : Bool :=
  (c == ':' && wordIsOver rest) || (inFlow && isFlowIndicator c)

/-- A plain scalar.  Its further lines have to be indented to the given column, which
only counts outside of brackets; a blank before a `#` ends it. -/
def readPlain (inFlow : Bool) (indent : Nat) (text : String) (gap : Gap) :
    List Placed → Option ReadScalar
  | [] => some { text, crossedLine := gap.overLines, rest := [] }
  | p :: rest =>
      if isGap p.char then
        if gap.overLines && p.char == '\t' && p.column < indent then none
        else readPlain inFlow indent text (gap.push p.char) rest
      else if isBreak p.char then
        readPlain inFlow indent text (gap.push p.char) rest
      else if (gap.overLines && !inFlow && p.column < indent)
          || atDocumentMarker (p :: rest)
          || (p.char == '#' && (gap.overLines || !gap.blanks.isEmpty)) then
        some { text, crossedLine := gap.overLines, rest := p :: rest }
      else if inFlow && p.char == ':'
          && startsWith (fun c => isFlowIndicator c || c == '?') rest then
        none
      else if endsPlain inFlow p.char rest then
        some { text, crossedLine := gap.overLines, rest := p :: rest }
      else
        readPlain inFlow indent ((text ++ gap.text).push p.char) {} rest

/-! ## §3. Quoted scalars. -/

/-- What follows the opening quote of a scalar in single quotes.  A quote inside is
written twice. -/
def readSingle (text : String) (gap : Gap) : List Placed → Option ReadScalar
  | [] => none
  | p :: rest =>
      if isGap p.char || isBreak p.char then readSingle text (gap.push p.char) rest
      else if atDocumentMarker (p :: rest) then none
      else if p.char == '\x27' then
        match rest with
        | q :: rest =>
            if q.char == '\x27' then readSingle ((text ++ gap.text).push '\x27') {} rest
            else some { text := text ++ gap.text, rest := q :: rest }
        | [] => some { text := text ++ gap.text, rest := [] }
      else readSingle ((text ++ gap.text).push p.char) {} rest

/-- The character that a letter after a backslash names. -/
def namedEscape? : Char → Option Char
  | '0' => some '\x00'
  | 'a' => some '\x07'
  | 'b' => some '\x08'
  | 't' => some '\t'
  | '\t' => some '\t'
  | 'n' => some '\n'
  | 'v' => some '\x0b'
  | 'f' => some '\x0c'
  | 'r' => some '\x0d'
  | 'e' => some '\x1b'
  | ' ' => some ' '
  | '\x22' => some '\x22'
  | '/' => some '/'
  | '\\' => some '\\'
  | 'N' => some '\u0085'
  | '_' => some '\u00a0'
  | 'L' => some '\u2028'
  | 'P' => some '\u2029'
  | _ => none

/-- The number of digits after a letter that announces the code of a character. -/
def codeLength? : Char → Option Nat
  | 'x' => some 2
  | 'u' => some 4
  | 'U' => some 8
  | _ => none

/-- The value of a hexadecimal digit. -/
def hexValue? (c : Char) : Option Nat :=
  if '0' ≤ c && c ≤ '9' then some (c.toNat - '0'.toNat)
  else if 'a' ≤ c && c ≤ 'f' then some (c.toNat - 'a'.toNat + 10)
  else if 'A' ≤ c && c ≤ 'F' then some (c.toNat - 'A'.toNat + 10)
  else none

/-- The number that digits of a base say; none without digits and with others. -/
def numeral? (base : Nat) (digits : List Char) : Option Nat :=
  if digits.isEmpty then none
  else
    digits.foldlM (fun total c =>
      match hexValue? c with
      | some digit => if digit < base then some (total * base + digit) else none
      | none => none) 0

/-- The character with a code. -/
def charOfCode? (code : Nat) : Option Char :=
  if code.isValidChar then some (Char.ofNat code) else none

/-- The character that an escape after a backslash says, and the length of the escape. -/
def escape? : List Placed → Option (Char × Nat)
  | [] => none
  | p :: rest =>
      match codeLength? p.char with
      | some length => do
          let digits := (rest.take length).map Placed.char
          if digits.length < length then none
          else
            let code ← numeral? 16 digits
            return (← charOfCode? code, length + 1)
      | none => (namedEscape? p.char).map fun c => (c, 1)

/-- What follows the opening quote of a scalar in double quotes; `skip` characters
belong to an escape that is read already. -/
def readDouble (skip : Nat) (text : String) (gap : Gap) : List Placed → Option ReadScalar
  | [] => none
  | p :: rest =>
      match skip with
      | skip + 1 => readDouble skip text gap rest
      | 0 =>
          if isGap p.char || isBreak p.char then readDouble 0 text (gap.push p.char) rest
          else if atDocumentMarker (p :: rest) then none
          else if p.char == '\x22' then some { text := text ++ gap.text, rest }
          else if p.char == '\\' then
            if startsWith isBreak rest then
              readDouble 1 (text ++ gap.text) Gap.escapedBreak rest
            else
              match escape? rest with
              | some (c, length) => readDouble length ((text ++ gap.text).push c) {} rest
              | none => none
          else readDouble 0 ((text ++ gap.text).push p.char) {} rest

/-! ## §4. Blocks. -/

/-- What is kept of the breaks at the end of a block. -/
inductive Chomping where
  | keep
  /-- Only the break of the last line. -/
  | clip
  | strip
  deriving Repr, DecidableEq, Inhabited

/-- What the line of the indicator says about a block. -/
structure BlockHeader where
  chomping : Chomping := .clip
  /-- How far the lines are indented beyond the block around them. -/
  increment : Option Nat := none
  deriving Repr, Inhabited

/-- Reads a mark of how to chomp. -/
def readChomping (header : BlockHeader) : List Placed → BlockHeader × List Placed
  | p :: rest =>
      if p.char == '+' then ({ header with chomping := .keep }, rest)
      else if p.char == '-' then ({ header with chomping := .strip }, rest)
      else (header, p :: rest)
  | [] => (header, [])

/-- Reads a digit that says how far the lines are indented; zero is refused. -/
def readIncrement (header : BlockHeader) : List Placed → Option (BlockHeader × List Placed)
  | p :: rest =>
      if p.char == '0' then none
      else if p.char.isDigit then
        some ({ header with increment := some (p.char.toNat - '0'.toNat) }, rest)
      else some (header, p :: rest)
  | [] => some (header, [])

/-- Reads what stands behind the indicator of a block, in either order, to the end of
the line. -/
def readBlockHeader (text : List Placed) : Option (BlockHeader × List Placed) := do
  let (header, text) ←
    if startsWith (fun c => c == '+' || c == '-') text then
      let (header, text) := readChomping {} text
      readIncrement header text
    else do
      let (header, text) ← readIncrement {} text
      if header.increment.isSome then some (readChomping header text) else some (header, text)
  return (header, ← endOfLine? text)

/-- A block while it is read. -/
structure BlockText where
  text : String := ""
  /-- The break that ended the last line with text. -/
  lastBreak : String := ""
  /-- The breaks of empty lines after it. -/
  emptyLines : String := ""
  /-- Whether the last line with text begins with a blank; it is not joined then. -/
  afterBlank : Bool := false
  inLine : Bool := false
  /-- The largest indentation of the empty lines. -/
  widest : Nat := 0
  /-- The indentation of the lines, once it is known. -/
  indent : Option Nat := none
  deriving Repr, Inhabited

namespace BlockText

/-- What the breaks before a line say that begins with a character. -/
def joint (b : BlockText) (fold : Bool) (first : Char) : String :=
  if fold && b.lastBreak == "\n" && !b.afterBlank && !isGap first then
    (if b.emptyLines.isEmpty then " " else "") ++ b.emptyLines
  else b.lastBreak ++ b.emptyLines

/-- Begins a line. -/
def startLine (b : BlockText) (fold : Bool) (indent : Nat) (first : Char) : BlockText :=
  { text := (b.text ++ b.joint fold first).push first, afterBlank := isGap first,
    inLine := true, indent := some indent }

/-- The text at the end of the block. -/
def finish (b : BlockText) : Chomping → String
  | .keep => b.text ++ b.lastBreak ++ b.emptyLines
  | .clip => b.text ++ b.lastBreak
  | .strip => b.text

end BlockText

/-- The lines of a block.  Without an increment the first line with text and the empty
lines before it say how far the block is indented, but it is at least `least`. -/
def readBlock (fold : Bool) (least : Nat) (b : BlockText) :
    List Placed → Option (BlockText × List Placed)
  | [] => some (b, [])
  | p :: rest =>
      let indents := (b.indent.map fun indent => decide (p.column < indent)).getD true
      if b.inLine then
        if isBreak p.char then
          readBlock fold least { b with inLine := false, lastBreak := p.char.toString } rest
        else readBlock fold least { b with text := b.text.push p.char } rest
      else if isBreak p.char then
        readBlock fold least { b with emptyLines := b.emptyLines.push p.char,
                                      widest := max b.widest p.column } rest
      else if indents && p.char == ' ' then readBlock fold least b rest
      else if indents && p.char == '\t' then none
      else
        let indent := b.indent.getD (max (max b.widest p.column) least)
        if p.column = indent then
          readBlock fold least (b.startLine fold indent p.char) rest
        else some (b, p :: rest)

/-- A block scalar from behind its indicator, inside of a block with the given
indentation. -/
def readBlockScalar (fold : Bool) (parent : Option Nat) (text : List Placed) :
    Option ReadScalar := do
  let (header, text) ← readBlockHeader text
  let indent := header.increment.map fun increment => parent.getD 0 + increment
  let least := (parent.map (· + 1)).getD 1
  let (b, rest) ← readBlock fold least { indent } text
  return { text := b.finish header.chomping, crossedLine := true, rest }

end LayerTemplates.Yaml
