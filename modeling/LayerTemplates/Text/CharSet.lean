/-
  LayerTemplates.Text.CharSet
  ───────────────────────────
  Sets of characters as sorted ranges of code points, and the textual form in which
  the tables of this library give them: hexadecimal code points and ranges such as
  `61-7a`, in ascending order, with blanks or line ends between them.
-/
namespace LayerTemplates

/-- A set of characters: disjoint ranges of code points in ascending order. -/
structure CharSet where
  ranges : Array (Nat × Nat)
  deriving Repr, DecidableEq, Inhabited

namespace CharSet

/-- The value of a hexadecimal numeral. -/
def hexValue (digits : List Char) : Nat :=
  digits.foldl (fun value c =>
    16 * value + (if c.isDigit then c.toNat - '0'.toNat else c.toLower.toNat - 'a'.toNat + 10)) 0

/-- Reads ranges written with hexadecimal code points; `low` is the start of the range
that is being read and `digits` holds the digits of the current numeral in reverse. -/
def readRanges (ranges : Array (Nat × Nat)) (low : Option Nat) (digits : List Char) :
    List Char → Array (Nat × Nat)
  | [] => close ranges low digits
  | c :: rest =>
      if c == ' ' || c == '\n' then readRanges (close ranges low digits) none [] rest
      else if c == '-' then readRanges ranges (some (hexValue digits.reverse)) [] rest
      else readRanges ranges low (c :: digits) rest
where
  close (ranges : Array (Nat × Nat)) (low : Option Nat) (digits : List Char) :
      Array (Nat × Nat) :=
    if digits.isEmpty then ranges
    else
      let high := hexValue digits.reverse
      ranges.push (low.getD high, high)

/-- The set that a table writes down. -/
def ofTable (table : String) : CharSet := ⟨readRanges #[] none [] table.toList⟩

/-- Looks a code point up among the ranges from `low` up to `high`, halving them. -/
def search (s : CharSet) (code : Nat) : Nat → Nat → Nat → Bool
  | 0, _, _ => false
  | fuel + 1, low, high =>
      if low < high then
        let middle := (low + high) / 2
        match s.ranges[middle]? with
        | none => false
        | some (first, last) =>
            if code < first then s.search code fuel low middle
            else if last < code then s.search code fuel (middle + 1) high
            else true
      else
        false

/-- Whether a character belongs to the set. -/
def contains (s : CharSet) (c : Char) : Bool :=
  s.search c.toNat (s.ranges.size.log2 + 2) 0 s.ranges.size

end CharSet

end LayerTemplates
