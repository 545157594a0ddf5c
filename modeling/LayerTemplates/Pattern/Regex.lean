/-
  LayerTemplates.Pattern.Regex
  ────────────────────────────
  Regular expressions and what they match.

  The meaning of an expression is a map between sets of places in a text: `advance`
  takes the places where a match may begin to those where it may end.  A text matches
  if some match begins and ends anywhere in it; which one is of no interest here, so
  neither greed nor groups have a meaning of their own.
-/
import LayerTemplates.Pattern.CaseFolding
import LayerTemplates.Pattern.Property

namespace LayerTemplates.Pattern

/-! ## §1. Classes. -/

/-- A class of characters. -/
inductive CharClass where
  | range (first last : Char)
  | table (set : CharSet)
  | union (classes : List CharClass)
  | complement (c : CharClass)
  | intersection (a b : CharClass)
  | difference (a b : CharClass)
  | symmetricDifference (a b : CharClass)
  /-- The characters that differ from one of the class in case only. -/
  | folded (c : CharClass)
  deriving Repr, Inhabited

namespace CharClass

mutual

/-- Whether a character belongs to the class. -/
def contains : CharClass → Char → Bool
  | .range first last, c => first ≤ c && c ≤ last
  | .table set, c => set.contains c
  | .union classes, c => anyContains classes c
  | .complement inner, c => !inner.contains c
  | .intersection a b, c => a.contains c && b.contains c
  | .difference a b, c => a.contains c && !b.contains c
  | .symmetricDifference a b, c => a.contains c != b.contains c
  | .folded inner, c => (caseVariants c).any fun variant => inner.contains variant

/-- Whether a character belongs to one of the classes. -/
def anyContains : List CharClass → Char → Bool
  | [], _ => false
  | first :: rest, c => first.contains c || anyContains rest c

end

mutual

/-- The number of ranges that the class is written with. -/
def rangeCount : CharClass → Nat
  | .range _ _ => 1
  | .table set => set.ranges.size
  | .union classes => rangeCounts classes
  | .complement inner | .folded inner => inner.rangeCount
  | .intersection a b | .difference a b | .symmetricDifference a b => a.rangeCount + b.rangeCount

/-- The number of ranges of all the classes. -/
def rangeCounts : List CharClass → Nat
  | [] => 0
  | first :: rest => first.rangeCount + rangeCounts rest

end

/-- The class of one character. -/
def single (c : Char) : CharClass := .range c c

/-- The class of all characters. -/
def all : CharClass := .range '\x00' (Char.ofNat 0x10ffff)

end CharClass

/-! ## §2. Expressions. -/

/-- A condition on a place in the text. -/
inductive Assertion where
  | textStart
  | textEnd
  /-- The start of a line; a carriage return ends a line too if `crlf` is set. -/
  | lineStart (crlf : Bool)
  | lineEnd (crlf : Bool)
  /-- A place with a word on one side. -/
  | boundary (ascii : Bool)
  | notBoundary (ascii : Bool)
  | wordStart (ascii : Bool)
  | wordEnd (ascii : Bool)
  /-- A place with no word before it. -/
  | wordStartHalf (ascii : Bool)
  /-- A place with no word after it. -/
  | wordEndHalf (ascii : Bool)
  deriving Repr, DecidableEq, Inhabited

/-- A regular expression. -/
inductive Regex where
  | empty
  | char (c : CharClass)
  | assertion (a : Assertion)
  | concat (a b : Regex)
  | alternate (a b : Regex)
  | repeated (r : Regex) (least : Nat) (most : Option Nat)
  deriving Repr, Inhabited

/-- Whether a character is part of a word. -/
def isWordChar (ascii : Bool) (c : Char) : Bool :=
  if c.toNat < 0x80 then c.isAlphanum || c == '_' else !ascii && wordChars.contains c

/-- Whether a condition holds between the character before a place and the one after it. -/
def Assertion.holds (a : Assertion) (before after : Option Char) : Bool :=
  let word (ascii : Bool) (c : Option Char) : Bool := c.any (isWordChar ascii)
  match a with
  | .textStart => before.isNone
  | .textEnd => after.isNone
  | .lineStart false => before.all (· == '\n')
  | .lineStart true => before.all fun c => c == '\n' || (c == '\x0d' && after != some '\n')
  | .lineEnd false => after.all (· == '\n')
  | .lineEnd true => after.all fun c => c == '\x0d' || (c == '\n' && before != some '\x0d')
  | .boundary ascii => word ascii before != word ascii after
  | .notBoundary ascii => word ascii before == word ascii after
  | .wordStart ascii => !word ascii before && word ascii after
  | .wordEnd ascii => word ascii before && !word ascii after
  | .wordStartHalf ascii => !word ascii before
  | .wordEndHalf ascii => !word ascii after

/-! ## §3. Meaning. -/

namespace Regex

/-- The places of either list, each once. -/
def union (a b : List Nat) : List Nat := a ++ b.filter fun place => !a.contains place

/-- The places after exactly `count` steps. -/
def iterate (step : List Nat → List Nat) : Nat → List Nat → List Nat
  | 0, places => places
  | count + 1, places => if places.isEmpty then [] else iterate step count (step places)

/-- The places after at most `count` steps; `frontier` holds those found last. -/
def reach (step : List Nat → List Nat) : Nat → List Nat → List Nat → List Nat
  | 0, found, _ => found
  | count + 1, found, frontier =>
      let fresh := (step frontier).filter fun place => !found.contains place
      if fresh.isEmpty then found else reach step count (union found fresh) fresh

/-- The places where a match may end if it begins at one of the given places. -/
def advance (text : Array Char) : Regex → List Nat → List Nat
  | .empty, places => places
  | .char c, places =>
      places.filterMap fun place =>
        if text[place]?.any c.contains then some (place + 1) else none
  | .assertion a, places =>
      places.filter fun place =>
        a.holds (if place = 0 then none else text[place - 1]?) text[place]?
  | .concat a b, places => b.advance text (a.advance text places)
  | .alternate a b, places => union (a.advance text places) (b.advance text places)
  | .repeated r least most, places =>
      let entered := iterate (r.advance text) least places
      let further := match most with
        | some most => most - least
        | none => text.size + 1
      reach (r.advance text) further entered entered

/-- Whether the expression matches somewhere in a text. -/
def matchesIn (r : Regex) (text : String) : Bool :=
  let chars := text.toList.toArray
  !(r.advance chars (List.range (chars.size + 1))).isEmpty

/-- An estimate of the bytes that a compiled expression takes. -/
def cost : Regex → Nat
  | .empty | .assertion _ => 32
  | .char c => if c.rangeCount ≤ 1 then 32 else 32 + 60 * c.rangeCount
  | .concat a b => a.cost + b.cost
  | .alternate a b => 32 + a.cost + b.cost
  | .repeated r least most => (max least (most.getD (least + 1)) + 1) * r.cost

end Regex

end LayerTemplates.Pattern
