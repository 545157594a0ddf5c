/-
  LayerTemplates.Text.Blank
  ─────────────────────────
  The character classes of placeholder bodies: blanks, quotes, and the characters
  that a bare word may hold; and the blanks that indent nested output.

  Main statements:
    * `not_isBlank_of_isLexemeChar`, `not_isQuote_of_isLexemeChar` — the three
      classes do not overlap.
-/
namespace LayerTemplates

/-! ## §1. Blanks and quotes. -/

/-- The characters that separate lexemes. -/
def blanks : List Char :=
  [' ', '\x0c', '\n', '\x0d', '\t', '\x0b', '\u00a0', '\u1680', '\u180e',
   '\u2000', '\u2001', '\u2002', '\u2003', '\u2004', '\u2005', '\u2006',
   '\u2007', '\u2008', '\u2009', '\u200a', '\u200b', '\u2028', '\u2029',
   '\u202f', '\u205f', '\u3000']

/-- Whether a character separates lexemes. -/
def isBlank (c : Char) : Bool := blanks.contains c

/-- The quote whose literal counts as a plain word once it is closed. -/
def rawQuote : Char := '\x60'

/-- The characters that open a quoted literal. -/
def quotes : List Char := ['\x27', '\x22', rawQuote]

/-- Whether a character opens a quoted literal. -/
def isQuote (c : Char) : Bool := quotes.contains c

/-! ## §2. Bare words. -/

/-- The characters with a meaning of their own between operands. -/
def isPunctuation (c : Char) : Bool :=
  c == '.' || c == ',' || c == '[' || c == ']' || c == '(' || c == ')' || c == '^' || c == '#'

/-- Whether a character may stand in a bare word. -/
def isLexemeChar (c : Char) : Bool := !isBlank c && !isQuote c && !isPunctuation c

/-- A bare word ends at a blank. -/
theorem not_isBlank_of_isLexemeChar {c : Char} (h : isLexemeChar c = true) :
    isBlank c = false := by
  simp only [isLexemeChar, Bool.and_eq_true, Bool.not_eq_true'] at h
  exact h.1.1

/-- A bare word ends at a quote. -/
theorem not_isQuote_of_isLexemeChar {c : Char} (h : isLexemeChar c = true) :
    isQuote c = false := by
  simp only [isLexemeChar, Bool.and_eq_true, Bool.not_eq_true'] at h
  exact h.1.2

/-! ## §3. Indentation. -/

/-- Two spaces for every level. -/
def indentation (depth : Nat) : String := "".pushn ' ' (2 * depth)

end LayerTemplates
