/-
  LayerTemplates.Pattern.Reader
  ─────────────────────────────
  Reading regular expressions.

  An expression is read item by item.  The groups that are open wait on a stack, each
  with the flags to be restored at its end; bracketed classes, which nest as well, are
  read in the same way.  Every step takes at least one character, so as many steps as
  there are characters are enough.
-/
import LayerTemplates.Pattern.Named

namespace LayerTemplates.Pattern

/-! ## §1. Characters. -/

/-- The flags in force. -/
structure Flags where
  ignoreCase : Bool := false
  multiLine : Bool := false
  dotAll : Bool := false
  unicode : Bool := true
  /-- Whether blanks and comments are skipped. -/
  verbose : Bool := false
  crlf : Bool := false
  deriving Repr, DecidableEq, Inhabited

/-- Skips the rest of a comment. -/
def skipComment : List Char → List Char
  | [] => []
  | c :: rest => if c == '\n' then rest else skipComment rest

/-- Skips blanks and comments, for at most as many of them as `fuel`. -/
def skipBlanks : Nat → List Char → List Char
  | 0, text => text
  | _, [] => []
  | fuel + 1, c :: rest =>
      if whiteSpace.contains c then skipBlanks fuel rest
      else if c == '#' then skipBlanks fuel (skipComment rest)
      else c :: rest

namespace Flags

/-- Skips blanks and comments where they have no meaning. -/
def skip (f : Flags) (text : List Char) : List Char :=
  if f.verbose then skipBlanks text.length text else text

/-- The text after its first character and what is skipped after it. -/
def next (f : Flags) (text : List Char) : List Char := f.skip (text.drop 1)

end Flags

/-- The value of a hexadecimal digit. -/
def hexDigitValue? (c : Char) : Option Nat :=
  if c.isDigit then some (c.toNat - '0'.toNat)
  else if 'a' ≤ c.toLower ∧ c.toLower ≤ 'f' then some (c.toLower.toNat - 'a'.toNat + 10)
  else none

/-- The character with a code point, if there is one. -/
def charOfCode? (code : Nat) : Option Char :=
  if h : code.isValidChar then some (Char.ofNatAux code h) else none

/-- Reads exactly `count` hexadecimal digits. -/
def hexDigits (f : Flags) : Nat → Nat → List Char → Option (Nat × List Char)
  | 0, value, text => some (value, text)
  | count + 1, value, c :: rest => do
      let digit ← hexDigitValue? c
      hexDigits f count (16 * value + digit) (f.skip rest)
  | _ + 1, _, [] => none

/-- Reads hexadecimal digits up to a closing brace; at least one is needed. -/
def hexBraced (f : Flags) (read : Bool) (value : Nat) : Nat → List Char → Option (Nat × List Char)
  | fuel + 1, c :: rest =>
      if c == '\x7d' then (if read then some (value, rest) else none)
      else do
        let digit ← hexDigitValue? c
        hexBraced f true (16 * value + digit) fuel (f.skip rest)
  | _, _ => none

/-- Reads the code point after `\x`, `\u` or `\U`. -/
def hexEscape (f : Flags) (letter : Char) (text : List Char) : Option (Char × List Char) := do
  let digits := if letter == 'x' then 2 else if letter == 'u' then 4 else 8
  let (code, rest) ← match text with
    | '\x7b' :: inner => hexBraced f false 0 text.length (f.skip inner)
    | _ => hexDigits f digits 0 text
  let c ← charOfCode? code
  return (c, rest)

/-! ## §2. Escapes. -/

/-- A single item of an expression or of a class. -/
inductive Primitive where
  | literal (c : Char)
  /-- A character given by its code, which without Unicode would be a byte. -/
  | coded (c : Char)
  | named (c : CharClass)
  | assertion (a : Assertion)
  deriving Repr, Inhabited

/-- Reads the name of a property after `\p` or `\P`. -/
def propertyEscape (f : Flags) (negated : Bool) (text : List Char) :
    Option (Primitive × List Char) := do
  if !f.unicode then failure
  let (name, rest) ← match text with
    | '\x7b' :: inner =>
        let name := inner.takeWhile fun c => c != '\x7d'
        match inner.drop name.length with
        | _ :: rest => some (f.skip name, rest)
        | [] => none
    | '\\' :: _ => none
    | c :: rest => some ([c], f.skip rest)
    | [] => none
  let upTo (stop : Char → Bool) : List Char := name.takeWhile fun c => !stop c
  let isSplit (c : Char) : Bool := c == ':' || c == '='
  let property := upTo isSplit
  let (found, flipped) ← match name.drop property.length with
    | [] => (named? (looseName name)).map fun c => (c, false)
    | _ :: value =>
        let unequal := property.getLast? == some '!'
        let property := if unequal then property.dropLast else property
        (valued? (looseName property) (looseName value)).map fun c => (c, unequal)
  let folded := if f.ignoreCase then CharClass.folded found else found
  let result := if negated != flipped then CharClass.complement folded else folded
  return (.named result, rest)

/-- Reads what follows `\b`: perhaps the name of a special word boundary in braces. -/
def boundaryEscape (f : Flags) (text : List Char) : Option (Primitive × List Char) :=
  let ascii := !f.unicode
  let plain : Option (Primitive × List Char) := some (.assertion (.boundary ascii), text)
  let nameChar (c : Char) : Bool := c.isAlpha || c == '-'
  match text with
  | '\x7b' :: inner =>
      let inner := f.skip inner
      match inner with
      | [] => none
      | c :: _ =>
          if nameChar c then
            let name := inner.takeWhile nameChar
            let kind := match String.ofList name with
              | "start" => some (.wordStart ascii)
              | "end" => some (.wordEnd ascii)
              | "start-half" => some (.wordStartHalf ascii)
              | "end-half" => some (.wordEndHalf ascii)
              | _ => none
            match f.skip (inner.drop name.length), kind with
            | '\x7d' :: rest, some kind => some (.assertion kind, rest)
            | _, _ => none
          else plain
  | _ => plain

/-- The characters that have a meaning of their own somewhere. -/
def metaChars : List Char :=
  ['\\', '.', '+', '*', '?', '(', ')', '|', '[', ']', '\x7b', '\x7d', '^', '$', '#', '&', '-', '~']

/-- Whether a character stands for itself after a backslash. -/
def isEscapable (c : Char) : Bool :=
  metaChars.contains c || (c.toNat < 0x80 && !c.isAlphanum && c != '<' && c != '>')

/-- Reads what follows a backslash. -/
def escape (f : Flags) (text : List Char) : Option (Primitive × List Char) :=
  let ascii := !f.unicode
  match text with
  | [] => none
  | c :: rest =>
      let control (code : Char) : Option (Primitive × List Char) := some (.literal code, rest)
      let condition (a : Assertion) : Option (Primitive × List Char) := some (.assertion a, rest)
      if c == 'x' || c == 'u' || c == 'U' then
        (hexEscape f c (f.skip rest)).map fun (code, rest) => (.coded code, rest)
      else if c == 'p' || c == 'P' then
        propertyEscape f (c == 'P') (f.skip rest)
      else if c == 'd' || c == 's' || c == 'w' then
        (escapeClass? c f.unicode).map fun found => (.named found, rest)
      else if c == 'D' || c == 'S' || c == 'W' then
        (escapeClass? c.toLower f.unicode).map fun found => (.named (.complement found), rest)
      else if isEscapable c then control c
      else match c with
        | 'a' => control '\x07'
        | 'f' => control '\x0c'
        | 't' => control '\t'
        | 'n' => control '\n'
        | 'r' => control '\x0d'
        | 'v' => control '\x0b'
        | 'A' => condition .textStart
        | 'z' => condition .textEnd
        | 'b' => boundaryEscape f rest
        | 'B' => condition (.notBoundary ascii)
        | '<' => condition (.wordStart ascii)
        | '>' => condition (.wordEnd ascii)
        | _ => none

/-! ## §3. Classes. -/

/-- A class with the levels of nesting below it. -/
structure NestedClass where
  set : CharClass
  depth : Nat := 0
  deriving Inhabited

/-- An operation between two classes. -/
inductive ClassOperation where
  | intersection
  | difference
  | symmetricDifference
  deriving Repr, DecidableEq, Inhabited

/-- A bracketed class that is being read. -/
structure OpenClass where
  negated : Bool
  /-- What stands before the current union, and how it is joined with it. -/
  pending : Option (NestedClass × ClassOperation) := none
  /-- The items of the current union. -/
  items : List NestedClass := []
  deriving Inhabited

namespace OpenClass

/-- Applies case folding where it is in force. -/
def foldedIf (f : Flags) (c : CharClass) : CharClass := if f.ignoreCase then .folded c else c

/-- Adds an item to the current union. -/
def add (o : OpenClass) (item : CharClass) : OpenClass :=
  { o with items := { set := item } :: o.items }

/-- The current union, joined with what stands before it. -/
def joined (o : OpenClass) (f : Flags) : NestedClass :=
  let union : NestedClass :=
    { set := .union (o.items.reverse.map NestedClass.set)
      depth := (o.items.map NestedClass.depth).foldl max 0 }
  match o.pending with
  | none => union
  | some (left, operation) =>
      let a := foldedIf f left.set
      let b := foldedIf f union.set
      let set := match operation with
        | .intersection => CharClass.intersection a b
        | .difference => .difference a b
        | .symmetricDifference => .symmetricDifference a b
      { set, depth := max left.depth union.depth + 1 }

/-- The class after its closing bracket. -/
def closed (o : OpenClass) (f : Flags) : NestedClass :=
  let inner := o.joined f
  let folded := foldedIf f inner.set
  { set := if o.negated then .complement folded else folded, depth := inner.depth + 1 }

end OpenClass

/-- Adds the hyphens at the start of a class. -/
def leadingHyphens (f : Flags) : Nat → OpenClass → List Char → OpenClass × List Char
  | fuel + 1, o, '-' :: rest => leadingHyphens f fuel (o.add (.single '-')) (f.skip rest)
  | _, o, text => (o, text)

/-- Reads the opening bracket of a class and what is special right after it. -/
def openClass (f : Flags) (text : List Char) : Option (OpenClass × List Char) :=
  let (negated, text) := match f.next text with
    | '^' :: rest => (true, f.skip rest)
    | text => (false, text)
  let (o, text) := leadingHyphens f text.length { negated } text
  match text with
  | [] => none
  | ']' :: rest =>
      if o.items.isEmpty then
        match f.skip rest with
        | [] => none
        | rest => some (o.add (.single ']'), rest)
      else some (o, text)
  | _ => some (o, text)

/-- Reads an ASCII class such as `[:alpha:]`. -/
def asciiClass (text : List Char) : Option (CharClass × List Char) :=
  match text with
  | '[' :: ':' :: rest =>
      let (negated, rest) := match rest with
        | '^' :: rest => (true, rest)
        | _ => (false, rest)
      let name := rest.takeWhile fun c => c != ':'
      match rest.drop name.length with
      | ':' :: ']' :: rest =>
          (asciiClass? (String.ofList name)).map fun c =>
            (if negated then .complement c else c, rest)
      | _ => none
  | _ => none

/-- Reads one item of a class. -/
def classItem (f : Flags) : List Char → Option (Primitive × List Char)
  | '\\' :: rest => escape f rest
  | c :: rest => some (.literal c, rest)
  | [] => none

/-- The character that an item stands for; without Unicode only ASCII is allowed. -/
def literal? (f : Flags) : Primitive → Option Char
  | .literal c | .coded c => if f.unicode || c.toNat < 0x80 then some c else none
  | _ => none

/-- Reads an item of a class, or a range between two of them. -/
def classRange (f : Flags) (text : List Char) : Option (CharClass × List Char) := do
  let (first, rest) ← classItem f text
  let rest := f.skip rest
  let alone : Option (CharClass × List Char) := match first with
    | .named c => some (c, rest)
    | .assertion _ => none
    | item => (literal? f item).map fun c => (.single c, rest)
  match rest with
  | [] => none
  | '-' :: _ =>
      match f.next rest with
      | ']' :: _ => alone
      | '-' :: _ => alone
      | [] => none
      | after =>
          let (second, rest) ← classItem f after
          let low ← literal? f first
          let high ← literal? f second
          if low ≤ high then some (.range low high, rest) else none
  | _ => alone

/-- Reads a bracketed class to its end, for at most `fuel` steps.  The classes around the
innermost one wait in `outer`. -/
def classFrom (f : Flags) : Nat → OpenClass → List OpenClass → List Char →
    Option (NestedClass × List Char)
  | 0, _, _, _ => none
  | fuel + 1, o, outer, text =>
      let operate (operation : ClassOperation) (rest : List Char) :=
        classFrom f fuel { o with pending := some (o.joined f, operation), items := [] } outer rest
      match f.skip text with
      | [] => none
      | ']' :: rest =>
          let closed := o.closed f
          match outer with
          | [] => some (closed, rest)
          | around :: outer =>
              classFrom f fuel { around with items := closed :: around.items } outer rest
      | '[' :: rest =>
          match asciiClass ('[' :: rest) with
          | some (c, rest) => classFrom f fuel (o.add c) outer rest
          | none =>
              match openClass f ('[' :: rest) with
              | some (inner, rest) => classFrom f fuel inner (o :: outer) rest
              | none => none
      | '&' :: '&' :: rest => operate .intersection rest
      | '-' :: '-' :: rest => operate .difference rest
      | '~' :: '~' :: rest => operate .symmetricDifference rest
      | text =>
          match classRange f text with
          | some (c, rest) => classFrom f fuel (o.add c) outer rest
          | none => none

/-! ## §4. Items. -/

/-- Part of an expression with the levels of nesting in it. -/
structure Item where
  regex : Regex
  depth : Nat := 0
  /-- Whether a repetition may follow. -/
  repeatable : Bool := true
  deriving Inhabited

/-- A class of characters as an item.  Without Unicode a class must not hold characters
outside ASCII, which single bytes could not tell apart. -/
def charItem (f : Flags) (c : CharClass) (depth : Nat) : Option Item :=
  if f.unicode then some { regex := .char c, depth }
  else if c.contains '\u0080' then none
  else some { regex := .char c, depth }

/-- One character as an item. -/
def literalItem (f : Flags) (c : Char) : Item :=
  let ascii : CharClass := .range '\x00' '\x7f'
  let folded := CharClass.folded (.single c)
  { regex := .char (
      if !f.ignoreCase then .single c
      else if f.unicode then folded
      else if c.toNat < 0x80 then .intersection folded ascii
      else .single c) }

/-- What an escape stands for. -/
def primitiveItem (f : Flags) : Primitive → Option Item
  | .literal c => some (literalItem f c)
  | .coded c => if f.unicode || c.toNat < 0x80 then some (literalItem f c) else none
  | .named c => charItem f c 0
  | .assertion a => some { regex := .assertion a }

/-- Any character, or any but a line end. -/
def dotItem (f : Flags) : Option Item :=
  charItem f (
    if f.dotAll then .all
    else if f.crlf then .complement (.union [.single '\n', .single '\x0d'])
    else .complement (.single '\n')) 0

/-- Items one after the other. -/
def sequenceItem (items : List Item) : Item :=
  match items with
  | [] => { regex := .empty }
  | [item] => item
  | first :: others =>
      { regex := others.foldl (fun r item => .concat r item.regex) first.regex
        depth := (items.map Item.depth).foldl max 0 + 1 }

/-- One of several items. -/
def choiceItem (items : List Item) : Item :=
  match items with
  | [] => { regex := .empty }
  | [item] => item
  | first :: others =>
      { regex := others.foldl (fun r item => .alternate r item.regex) first.regex
        depth := (items.map Item.depth).foldl max 0 + 1 }

/-- Reads a number between blanks. -/
def number? (f : Flags) (text : List Char) : Option Nat × List Char :=
  let start := text.dropWhile whiteSpace.contains
  let digits := (f.skip start).takeWhile Char.isDigit
  let rest := (start.drop digits.length).dropWhile whiteSpace.contains
  let value := digits.foldl (fun n c => 10 * n + (c.toNat - '0'.toNat)) 0
  (if digits.isEmpty || value ≥ 0x100000000 then none else some value, rest)

/-- Reads the count of a repetition after its opening brace. -/
def repeatCount (f : Flags) (text : List Char) : Option ((Nat × Option Nat) × List Char) := do
  let (least, rest) := number? f text
  let least ← least
  match rest with
  | '\x7d' :: rest => some ((least, some least), rest)
  | ',' :: rest =>
      match f.skip rest with
      | '\x7d' :: rest => some ((least, none), rest)
      | text =>
          let (most, rest) := number? f text
          let most ← most
          match rest with
          | '\x7d' :: rest => if least ≤ most then some ((least, some most), rest) else none
          | _ => none
  | _ => none

/-- Skips the mark of a lazy repetition, which is of no interest. -/
def skipLazy (text : List Char) : List Char :=
  match text with
  | '?' :: rest => rest
  | _ => text

/-! ## §5. Groups. -/

/-- Sets or clears the flag of a letter. -/
def Flags.set? (f : Flags) (letter : Char) (value : Bool) : Option Flags :=
  match letter with
  | 'i' => some { f with ignoreCase := value }
  | 'm' => some { f with multiLine := value }
  | 's' => some { f with dotAll := value }
  | 'u' => some { f with unicode := value }
  | 'x' => some { f with verbose := value }
  | 'R' => some { f with crlf := value }
  | 'U' => some f
  | _ => none

/-- The flags after the letters between `(?` and the end of the flags.  No letter stands
twice, and after a hyphen, of which there is at most one, at least one letter follows. -/
def readFlags (seen : List Char) (negated : Bool) (f : Flags) : List Char →
    Option (Flags × Bool × List Char)
  | [] => none
  | c :: rest =>
      if c == ':' || c == ')' then
        if seen.head? == some '-' then none else some (f, seen.isEmpty, c :: rest)
      else if seen.contains c then none
      else if c == '-' then readFlags (c :: seen) true f rest
      else
        match f.set? c (!negated) with
        | some f => readFlags (c :: seen) negated f rest
        | none => none

/-- A group that is open, or the whole expression. -/
structure OpenGroup where
  /-- The flags to be restored at its end. -/
  flags : Flags := {}
  /-- The alternatives that are complete, last one first. -/
  alternatives : List Item := []
  /-- The items of the current alternative, last one first. -/
  items : List Item := []
  deriving Inhabited

namespace OpenGroup

/-- Adds an item to the current alternative. -/
def add (g : OpenGroup) (item : Item) : OpenGroup := { g with items := item :: g.items }

/-- Completes the current alternative. -/
def alternate (g : OpenGroup) : OpenGroup :=
  { g with alternatives := sequenceItem g.items.reverse :: g.alternatives, items := [] }

/-- All alternatives together. -/
def whole (g : OpenGroup) : Item := choiceItem g.alternate.alternatives.reverse

/-- Repeats the last item, if there is one that can be. -/
def repeatLast (g : OpenGroup) (least : Nat) (most : Option Nat) : Option OpenGroup :=
  match g.items with
  | item :: others =>
      if item.repeatable then
        let repeated : Item :=
          { regex := .repeated item.regex least most, depth := item.depth + 1 }
        some { g with items := repeated :: others }
      else none
  | [] => none

end OpenGroup

/-- Whether a group name may hold a character. -/
def isNameChar (first : Bool) (c : Char) : Bool :=
  let letter := (listed? properties "alphabetic").any fun table => table.contains c
  let number := (category? "n").any fun table => table.contains c
  c == '_' || letter || (!first && (c == '.' || c == '[' || c == ']' || number))

/-- Reads the name of a group up to its closing angle bracket. -/
def groupName (text : List Char) : Option (List Char × List Char) :=
  let name := text.takeWhile fun c => c != '>'
  match text.drop name.length, name with
  | '>' :: rest, first :: others =>
      if isNameChar true first && others.all (isNameChar false) then some (name, rest) else none
  | _, _ => none

/-- What is read so far. -/
structure Reading where
  flags : Flags := {}
  current : OpenGroup := {}
  /-- The groups around the current one, innermost first. -/
  outer : List OpenGroup := []
  /-- The names of groups in use. -/
  names : List (List Char) := []
  deriving Inhabited

namespace Reading

/-- Adds an item. -/
def add (r : Reading) (item : Item) : Reading := { r with current := r.current.add item }

/-- Opens a group. -/
def enter (r : Reading) (flags : Flags) : Reading :=
  { r with flags, current := { flags := r.flags }, outer := r.current :: r.outer }

/-- Reads what follows an opening parenthesis. -/
def openGroup (r : Reading) (text : List Char) : Option (Reading × List Char) :=
  let text := r.flags.skip text
  match text with
  | '?' :: '=' :: _ => none
  | '?' :: '!' :: _ => none
  | '?' :: '<' :: '=' :: _ => none
  | '?' :: '<' :: '!' :: _ => none
  | '?' :: 'P' :: '<' :: rest => named rest
  | '?' :: '<' :: rest => named rest
  | '?' :: rest =>
      match readFlags [] false r.flags rest with
      | some (flags, _, ':' :: rest) => some (r.enter flags, rest)
      | some (flags, isEmpty, ')' :: rest) =>
          if isEmpty then none
          else some ({ r with flags }.add { regex := .empty, repeatable := false }, rest)
      | _ => none
  | _ => some (r.enter r.flags, text)
where
  named (rest : List Char) : Option (Reading × List Char) :=
    match groupName rest with
    | some (name, rest) =>
        if r.names.contains name then none
        else some ({ r.enter r.flags with names := name :: r.names }, rest)
    | none => none

/-- Closes the innermost group. -/
def closeGroup (r : Reading) : Option Reading :=
  match r.outer with
  | [] => none
  | around :: outer =>
      let whole := r.current.whole
      some { r with
        flags := r.current.flags
        current := around.add { whole with depth := whole.depth + 1, repeatable := true }
        outer }

/-- Repeats the last item. -/
def repeatLast (r : Reading) (least : Nat) (most : Option Nat) (rest : List Char) :
    Option (Reading × List Char) :=
  (r.current.repeatLast least most).map fun current => ({ r with current }, skipLazy rest)

/-- Adds an item where there is one. -/
def addIf (r : Reading) (rest : List Char) (item : Option Item) : Option (Reading × List Char) :=
  item.map fun item => (r.add item, rest)

/-- Reads one item or sign. -/
def step (r : Reading) (c : Char) (rest : List Char) : Option (Reading × List Char) :=
  let f := r.flags
  match c with
  | '(' => r.openGroup rest
  | ')' => r.closeGroup.map fun r => (r, rest)
  | '|' => some ({ r with current := r.current.alternate }, rest)
  | '[' => do
      let (o, inner) ← openClass f ('[' :: rest)
      let (found, rest) ← classFrom f (inner.length + 1) o [] inner
      r.addIf rest (charItem f found.set found.depth)
  | '?' => r.repeatLast 0 (some 1) rest
  | '*' => r.repeatLast 0 none rest
  | '+' => r.repeatLast 1 none rest
  | '\x7b' => do
      let ((least, most), rest) ← repeatCount f (f.skip rest)
      r.repeatLast least most (f.skip rest)
  | '.' => r.addIf rest (dotItem f)
  | '^' =>
      let start := if f.multiLine then Assertion.lineStart f.crlf else .textStart
      some (r.add { regex := .assertion start }, rest)
  | '$' =>
      let stop := if f.multiLine then Assertion.lineEnd f.crlf else .textEnd
      some (r.add { regex := .assertion stop }, rest)
  | '\\' =>
      match escape f rest with
      | some (primitive, rest) => r.addIf rest (primitiveItem f primitive)
      | none => none
  | c => some (r.add (literalItem f c), rest)

/-- Reads to the end, for at most `fuel` steps. -/
def run : Nat → Reading → List Char → Option Item
  | 0, _, _ => none
  | fuel + 1, r, text =>
      match r.flags.skip text with
      | [] => if r.outer.isEmpty then some r.current.whole else none
      | c :: rest =>
          match r.step c rest with
          | some (r, rest) => run fuel r rest
          | none => none

end Reading

/-- How deep an expression may nest. -/
def nestingLimit : Nat := 250

/-- How many bytes an expression may take. -/
def costLimit : Nat := 10 * 1024 * 1024

/-- Reads a regular expression. -/
def Regex.ofText? (text : String) : Option Regex := do
  let item ← Reading.run (text.length + 1) {} text.toList
  if item.depth ≤ nestingLimit ∧ item.regex.cost ≤ costLimit then some item.regex else none

end LayerTemplates.Pattern
