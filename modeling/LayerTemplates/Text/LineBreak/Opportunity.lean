/-
  LayerTemplates.Text.LineBreak.Opportunity
  ─────────────────────────────────────────
  Where a line of text may be broken, by the rules of UAX #14.

  Combining marks first join the character before them; what results is a list of
  clusters.  A break between two clusters is decided by the first rule that applies,
  which looks at the clusters before it, nearest first, and at those after it.
-/
import LayerTemplates.Text.LineBreak.Class

namespace LayerTemplates.LineBreak

/-! ## §1. Clusters. -/

/-- A character with the marks that join it. -/
structure Cluster where
  kind : BreakClass
  base : Char
  /-- The characters of the cluster in reverse. -/
  reversed : List Char
  deriving Repr, DecidableEq, Inhabited

namespace Cluster

/-- Whether marks join a cluster of this class. -/
def attracts : BreakClass → Bool
  | .mandatory | .carriageReturn | .lineFeed | .nextLine | .space | .zeroWidthSpace => false
  | _ => true

/-- Adds a character to the clusters before it, which are given nearest first. -/
def add (before : List Cluster) (c : Char) : List Cluster :=
  let own := BreakClass.ofChar c
  let joins := own == .combiningMark || own == .zeroWidthJoiner
  match before with
  | last :: outer =>
      if joins && attracts last.kind then { last with reversed := c :: last.reversed } :: outer
      else { kind := if joins then .alphabetic else own, base := c, reversed := [c] } :: before
  | [] => [{ kind := if joins then .alphabetic else own, base := c, reversed := [c] }]

/-- The clusters of a text, last one first. -/
def ofText (text : List Char) : List Cluster := text.foldl add []

/-- Whether the cluster ends with a joiner. -/
def endsInJoiner (c : Cluster) : Bool := c.reversed.head?.any fun last => last.toNat == 0x200d

/-- Whether the cluster is an opening quotation mark. -/
def isInitialQuote (c : Cluster) : Bool := c.kind == .quotation && initialQuotes.contains c.base

/-- Whether the cluster is a closing quotation mark. -/
def isFinalQuote (c : Cluster) : Bool := c.kind == .quotation && finalQuotes.contains c.base

/-- Whether the cluster is of East Asian width. -/
def isEastAsian (c : Cluster) : Bool := eastAsian.contains c.base

/-- Whether the cluster is a letter. -/
def isLetter (c : Cluster) : Bool := c.kind == .alphabetic || c.kind == .hebrewLetter

/-- Whether the cluster is an ideograph or an emoji. -/
def isIdeographic (c : Cluster) : Bool :=
  c.kind == .ideographic || c.kind == .emojiBase || c.kind == .emojiModifier

/-- Whether the cluster is a Hangul syllable or a part of one. -/
def isHangul (c : Cluster) : Bool :=
  [.hangulL, .hangulV, .hangulT, .hangulLV, .hangulLVT].contains c.kind

end Cluster

/-! ## §2. Rules. -/

/-- What a rule says of a break; none where it does not apply. -/
abbrev Verdict := Option Bool

/-- The verdict of a rule where its condition holds. -/
def verdictIf (condition : Bool) (allowed : Bool) : Verdict :=
  if condition then some allowed else none

/-- The clusters before a run of spaces. -/
def beforeSpaces (before : List Cluster) : List Cluster :=
  before.dropWhile fun c => c.kind == .space

/-- Whether the nearest cluster is of one of these classes. -/
def nearestIs (clusters : List Cluster) (classes : List BreakClass) : Bool :=
  clusters.head?.any fun c => classes.contains c.kind

/-- The classes that end a line. -/
def lineEnds : List BreakClass := [.mandatory, .carriageReturn, .lineFeed, .nextLine]

/-- The classes after which a break before a glue may stand. -/
def yieldsToGlue : List BreakClass := [.space, .breakAfter, .hyphen]

/-- Whether there is no cluster, or the nearest one is of one of these classes. -/
def absentOr (clusters : List Cluster) (classes : List BreakClass) : Bool :=
  clusters.isEmpty || nearestIs clusters classes

/-- Line ends, spaces and joiners (LB4 to LB8a). -/
def spacingRule (before : List Cluster) (p n : Cluster) : Verdict :=
  verdictIf (p.kind == .carriageReturn && n.kind == .lineFeed) false
    <|> verdictIf (lineEnds.contains p.kind) true
    <|> verdictIf (lineEnds.contains n.kind) false
    <|> verdictIf (n.kind == .space || n.kind == .zeroWidthSpace) false
    <|> verdictIf (nearestIs (beforeSpaces before) [.zeroWidthSpace]) true
    <|> verdictIf p.endsInJoiner false
    <|> verdictIf (p.kind == .wordJoiner || n.kind == .wordJoiner) false
    <|> verdictIf (p.kind == .glue) false
    <|> verdictIf (n.kind == .glue && !yieldsToGlue.contains p.kind) false

/-- Whether a run of spaces follows an opening quotation mark that stands at the start of
a word. -/
def afterInitialQuote (before : List Cluster) : Bool :=
  match beforeSpaces before with
  | quote :: outer =>
      quote.isInitialQuote && absentOr outer
        (lineEnds ++ [.openPunctuation, .quotation, .glue, .space, .zeroWidthSpace])
  | [] => false

/-- Punctuation (LB13 to LB18). -/
def punctuationRule (before : List Cluster) (p n : Cluster) (after : List Cluster) : Verdict :=
  let outer := beforeSpaces before
  verdictIf ([.closePunctuation, .closeParenthesis, .exclamation, .breakSymbol].contains n.kind)
      false
    <|> verdictIf (nearestIs outer [.openPunctuation]) false
    <|> verdictIf (afterInitialQuote before) false
    <|> verdictIf (n.isFinalQuote && absentOr after
          (lineEnds ++ [.space, .glue, .wordJoiner, .closePunctuation, .quotation,
            .closeParenthesis, .exclamation, .infixSeparator, .breakSymbol, .zeroWidthSpace]))
          false
    <|> verdictIf (p.kind == .space && n.kind == .infixSeparator && nearestIs after [.numeric])
          true
    <|> verdictIf (n.kind == .infixSeparator) false
    <|> verdictIf (nearestIs outer [.closePunctuation, .closeParenthesis]
          && n.kind == .nonstarter) false
    <|> verdictIf (nearestIs outer [.breakBoth] && n.kind == .breakBoth) false
    <|> verdictIf (p.kind == .space) true

/-- Quotation marks inside words (LB19 and LB19a). -/
def quotationRule (before : List Cluster) (p n : Cluster) (after : List Cluster) : Verdict :=
  let opens := n.kind == .quotation
  let closes := p.kind == .quotation
  let plain (c : Option Cluster) : Bool := !c.any Cluster.isEastAsian
  verdictIf (opens && !n.isInitialQuote) false
    <|> verdictIf (closes && !p.isFinalQuote) false
    <|> verdictIf (opens && (plain (some p) || plain after.head?)) false
    <|> verdictIf (closes && (plain (some n) || plain (before.drop 1).head?)) false

/-- Hyphens, objects, nonstarters and leaders (LB20 to LB22). -/
def hyphenRule (before : List Cluster) (p n : Cluster) : Verdict :=
  let outer := before.drop 1
  let hyphen := p.kind == .hyphen || p.base.toNat == 0x2010
  verdictIf (p.kind == .contingent || n.kind == .contingent) true
    <|> verdictIf (hyphen && n.kind == .alphabetic
          && absentOr outer (lineEnds ++ [.space, .zeroWidthSpace, .contingent, .glue])) false
    <|> verdictIf ([.breakAfter, .hyphen, .nonstarter].contains n.kind) false
    <|> verdictIf (p.kind == .breakBefore) false
    <|> verdictIf (nearestIs outer [.hebrewLetter] && n.kind != .hebrewLetter
          && (p.kind == .hyphen || (p.kind == .breakAfter && !p.isEastAsian))) false
    <|> verdictIf (p.kind == .breakSymbol && n.kind == .hebrewLetter) false
    <|> verdictIf (n.kind == .inseparable) false

/-- Whether the nearest cluster ends a number, separators after its digits included. -/
def endsNumber (before : List Cluster) : Bool :=
  nearestIs (before.dropWhile fun c => c.kind == .breakSymbol || c.kind == .infixSeparator)
    [.numeric]

/-- Numbers (LB23 to LB25). -/
def numberRule (before : List Cluster) (p n : Cluster) (after : List Cluster) : Verdict :=
  let sign (c : Cluster) : Bool := c.kind == .prefixNumeric || c.kind == .postfixNumeric
  let closed := [.closePunctuation, .closeParenthesis].contains p.kind
    && endsNumber (before.drop 1)
  let opensNumber := n.kind == .openPunctuation
    && (nearestIs after [.numeric]
      || (nearestIs after [.infixSeparator] && nearestIs (after.drop 1) [.numeric]))
  verdictIf (p.isLetter && n.kind == .numeric) false
    <|> verdictIf (p.kind == .numeric && n.isLetter) false
    <|> verdictIf (p.kind == .prefixNumeric && n.isIdeographic) false
    <|> verdictIf (p.isIdeographic && n.kind == .postfixNumeric) false
    <|> verdictIf (sign p && n.isLetter) false
    <|> verdictIf (p.isLetter && sign n) false
    <|> verdictIf ((closed || endsNumber before) && sign n) false
    <|> verdictIf (sign p && (opensNumber || n.kind == .numeric)) false
    <|> verdictIf ([.hyphen, .infixSeparator].contains p.kind && n.kind == .numeric) false
    <|> verdictIf (endsNumber before && n.kind == .numeric) false

/-- Hangul syllables, words, brackets and emoji (LB26 to LB30b). -/
def wordRule (before : List Cluster) (p n : Cluster) : Verdict :=
  let flags := (before.takeWhile fun c => c.kind == .regionalIndicator).length
  verdictIf (p.kind == .hangulL
      && [.hangulL, .hangulV, .hangulLV, .hangulLVT].contains n.kind) false
    <|> verdictIf ([.hangulV, .hangulLV].contains p.kind
          && [.hangulV, .hangulT].contains n.kind) false
    <|> verdictIf ([.hangulT, .hangulLVT].contains p.kind && n.kind == .hangulT) false
    <|> verdictIf (p.isHangul && n.kind == .postfixNumeric) false
    <|> verdictIf (p.kind == .prefixNumeric && n.isHangul) false
    <|> verdictIf (p.isLetter && n.isLetter) false
    <|> verdictIf (p.kind == .infixSeparator && n.isLetter) false
    <|> verdictIf ((p.isLetter || p.kind == .numeric)
          && n.kind == .openPunctuation && !n.isEastAsian) false
    <|> verdictIf (p.kind == .closeParenthesis && !p.isEastAsian
          && (n.isLetter || n.kind == .numeric)) false
    <|> verdictIf (n.kind == .regionalIndicator && flags % 2 == 1) false
    <|> verdictIf (n.kind == .emojiModifier
          && (p.kind == .emojiBase || reservedPictographs.contains p.base)) false

/-- Whether a line may be broken between the clusters before and after. -/
def mayBreak (before after : List Cluster) : Bool :=
  match before, after with
  | p :: _, n :: following =>
      (spacingRule before p n
        <|> punctuationRule before p n following
        <|> quotationRule before p n following
        <|> hyphenRule before p n
        <|> numberRule before p n following
        <|> wordRule before p n).getD true
  | _, _ => false

/-! ## §3. Pieces. -/

/-- Cuts a text at its break opportunities.  `pieces` holds the text after the current
place, `before` the clusters before it, nearest first, and `after` those after it. -/
def cut (current : List Char) (pieces : List (List Char)) :
    List Cluster → List Cluster → List (List Char)
  | [], _ => if current.isEmpty then pieces else current :: pieces
  | c :: before, after =>
      if !current.isEmpty && mayBreak (c :: before) after then
        cut (c.reversed.reverse) (current :: pieces) before (c :: after)
      else
        cut (c.reversed.reverse ++ current) pieces before (c :: after)

/-- The pieces between the break opportunities of a text. -/
def pieces (text : List Char) : List (List Char) := cut [] [] (Cluster.ofText text) []

end LayerTemplates.LineBreak
