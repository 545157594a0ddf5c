/-
  LayerTemplates.Text.Wrap
  ────────────────────────
  Wrapping text to a width.

  Every line of the text is cut into words, and the words are put on lines so that the
  total cost of the lines is least; of two equally good ways the one whose last line
  starts earlier wins.  The cost of a line grows with the gap it leaves and, much
  faster, with the columns it is too long.
-/
import LayerTemplates.Text.Alphanumeric
import LayerTemplates.Text.LineBreak.Opportunity
import LayerTemplates.Text.Width

namespace LayerTemplates

/-! ## §1. Words. -/

/-- How a text is wrapped. -/
structure WrapOptions where
  width : Nat
  /-- Stands before the very first line. -/
  initialIndent : String := ""
  /-- Stands before every further line. -/
  subsequentIndent : String := ""
  deriving Repr, DecidableEq, Inhabited

/-- A word with the spaces after it. -/
structure Word where
  text : List Char
  spaces : Nat := 0
  deriving Repr, DecidableEq, Inhabited

namespace Word

/-- A piece of a line as a word: the spaces at its end are set apart. -/
def ofPiece (piece : List Char) : Word :=
  let text := (piece.reverse.dropWhile (· == ' ')).reverse
  { text, spaces := piece.length - text.length }

/-- The columns of the word without its spaces. -/
def width (w : Word) : Nat := displayWidth w.text

/-- Cuts off the first part of a text after every hyphen between two letters or digits;
`current` is the part that is being read in reverse. -/
def hyphenated (current : List Char) : List Char → List (List Char)
  | '-' :: next :: rest =>
      if current.head?.any isAlphanumeric && isAlphanumeric next then
        ('-' :: current).reverse :: hyphenated [next] rest
      else
        hyphenated ('-' :: current) (next :: rest)
  | c :: rest => hyphenated (c :: current) rest
  | [] => [current.reverse]

/-- Cuts a text into parts of at most `limit` columns and at least one character;
`current` is the part that is being read in reverse, which takes `used` columns. -/
def chopped (limit : Nat) (current : List Char) (used : Nat) : List Char → List (List Char)
  | [] => [current.reverse]
  | c :: rest =>
      let width := charWidth c
      if used > 0 && used + width > limit then
        current.reverse :: chopped limit [c] width rest
      else
        chopped limit (c :: current) (used + width) rest

/-- Gives the spaces of a word to the last of its parts. -/
def ofParts (spaces : Nat) : List (List Char) → List Word
  | [] => []
  | [last] => [{ text := last, spaces }]
  | part :: rest => { text := part } :: ofParts spaces rest

/-- The parts of a word at its hyphens. -/
def splitHyphens (w : Word) : List Word := ofParts w.spaces (hyphenated [] w.text)

/-- The parts of a word that is too wide. -/
def splitWide (limit : Nat) (w : Word) : List Word :=
  if w.width > limit then ofParts w.spaces (chopped limit [] 0 w.text) else [w]

/-- Whether no word ends after a piece: after a hyphen or a soft hyphen. -/
def continues (piece : List Char) : Bool :=
  piece.getLast?.any fun c => c == '-' || c.toNat == 0xad

/-- Joins every piece that no word ends after with the piece after it. -/
def joinContinued : List (List Char) → List (List Char)
  | [] => []
  | piece :: rest =>
      match joinContinued rest with
      | next :: later =>
          if continues piece then (piece ++ next) :: later else piece :: next :: later
      | [] => [piece]

/-- The words of a line. -/
def ofLine (line : List Char) : List Word :=
  (joinContinued (LineBreak.pieces line)).map ofPiece

end Word

/-! ## §2. Lines of least cost. -/

/-- The cost of a line with the words before `stop`, which starts at the word `start` and
takes `length` columns of `target`. -/
def lineCost (count start stop length target : Nat) : Nat :=
  if length > target then 2500 * (length - target)
  else if stop < count then (target - length) * (target - length)
  else if start + 1 = stop ∧ 4 * length < target then 25
  else 0

/-- The best way to put the words before a place on lines: where its last line starts, and
its cost. -/
structure Best where
  start : Nat
  cost : Nat
  deriving Repr, DecidableEq, Inhabited

/-- Where the words before a place end. -/
structure WordEnd where
  /-- The column after the spaces of the last word. -/
  full : Nat := 0
  /-- The column after the last word. -/
  trimmed : Nat := 0
  deriving Repr, DecidableEq, Inhabited

/-- The better of two ways; the first one if they are equally good. -/
def Best.better (a b : Best) : Best := if b.cost < a.cost then b else a

/-- The best way to put the words before `stop` on lines, from the best ways for the places
before it, which come with the columns where their words end. -/
def bestAt (firstTarget otherTarget count stop column : Nat) (earlier : List (Best × WordEnd)) :
    Best :=
  let candidates := earlier.mapIdx fun start (best, ended) =>
    let target := if start = 0 then firstTarget else otherTarget
    let cost := best.cost + 1000 + lineCost count start stop (column - ended.full) target
    ({ start, cost } : Best)
  match candidates with
  | [] => { start := 0, cost := 0 }
  | first :: others => others.foldl Best.better first

/-- The best ways to reach the place before the first word and the places after each
word. -/
def bestLines (firstTarget otherTarget : Nat) (ends : List WordEnd) : List Best :=
  let step (found : Array (Best × WordEnd)) (ended : WordEnd) : Array (Best × WordEnd) :=
    found.push
      (bestAt firstTarget otherTarget ends.length found.size ended.trimmed found.toList, ended)
  (ends.foldl step #[({ start := 0, cost := 0 }, {})]).toList.map Prod.fst

/-- The columns where the words end on one long line; `column` is where it goes on. -/
def wordEnds (column : Nat) : List Word → List WordEnd
  | [] => []
  | word :: rest =>
      let trimmed := column + word.width
      let full := trimmed + word.spaces
      { full, trimmed } :: wordEnds full rest

/-- The places where lines start, found from the end. -/
def lineStarts (best : List Best) : Nat → Nat → List Nat → List Nat
  | 0, _, starts => starts
  | fuel + 1, stop, starts =>
      match best[stop]? with
      | some ⟨start + 1, _⟩ => lineStarts best fuel (start + 1) ((start + 1) :: starts)
      | _ => 0 :: starts

/-- Groups words into lines that start at the given places. -/
def groupAt (words : List Word) (start : Nat) : List Nat → List (List Word)
  | [] => [words]
  | next :: later => words.take (next - start) :: groupAt (words.drop (next - start)) next later

/-- Puts words on lines at the least cost. -/
def optimalLines (firstTarget otherTarget : Nat) (words : List Word) : List (List Word) :=
  let best := bestLines (max firstTarget 1) (max otherTarget 1) (wordEnds 0 words)
  match lineStarts best words.length words.length [] with
  | [] => [words]
  | _ :: later => groupAt words 0 later

/-! ## §3. Wrapping. -/

/-- The text of a line without the spaces of its last word. -/
def lineText : List Word → List Char
  | [] => []
  | [last] => last.text
  | word :: rest => word.text ++ List.replicate word.spaces ' ' ++ lineText rest

/-- Wraps one line of the text; `isFirst` says whether no line has been written before.  A
line without words is left without indentation. -/
def wrapLine (o : WrapOptions) (isFirst : Bool) (line : List Char) : List String :=
  let indent := if isFirst then o.initialIndent else o.subsequentIndent
  if indent.isEmpty && (String.ofList line).utf8ByteSize < o.width then
    [String.ofList (Word.ofPiece line).text]
  else
    let firstTarget := o.width - displayWidth o.initialIndent.toList
    let otherTarget := o.width - displayWidth o.subsequentIndent.toList
    let words := ((Word.ofLine line).flatMap Word.splitHyphens).flatMap
      (Word.splitWide otherTarget)
    let words := if o.initialIndent.isEmpty then words else { text := [] } :: words
    (optimalLines firstTarget otherTarget words).mapIdx fun index line =>
      if line.isEmpty then ""
      else
        (if isFirst && index == 0 then o.initialIndent else o.subsequentIndent)
          ++ String.ofList (lineText line)

/-- Wraps a text. -/
def wrap (o : WrapOptions) (text : String) : List String :=
  ((text.toList.splitOn '\n').mapIdx fun index line => wrapLine o (index == 0) line).flatten

end LayerTemplates
