/-
  LayerTemplates.Yaml.Layout
  ──────────────────────────
  From placed text to tokens: what indentation and colons say.

  A key of a map is known as one only when its colon is found.  Where a key may begin,
  the layout keeps the place; with the colon, the key token is set in there, and so is
  the start of the map where the key stands further in than the block around it.  Such
  a key ends within its line.
-/
import LayerTemplates.Yaml.Property

namespace LayerTemplates.Yaml

/-! ## §1. The state of the layout. -/

/-- A place where a key may have begun. -/
structure PossibleKey where
  /-- Whether nothing but a key can stand there. -/
  required : Bool
  /-- The number of tokens before it. -/
  before : Nat
  place : Placed
  deriving Repr, Inhabited

/-- Tokens, and what is open behind them. -/
structure Layout where
  tokens : Array Token := #[]
  /-- The columns of the open blocks, the innermost first. -/
  columns : List Nat := []
  /-- Whether a key may begin next. -/
  keyAllowed : Bool := true
  /-- The key that may have begun inside the innermost bracket. -/
  key : Option PossibleKey := none
  /-- The same for what is around each open bracket, the innermost first. -/
  outerKeys : List (Option PossibleKey) := []
  deriving Repr, Inhabited

/-- Whether a key is out of reach from a place: its line is over, or more than 1024
characters lie in between. -/
def PossibleKey.isStale (key : PossibleKey) (p : Placed) : Bool :=
  key.place.line < p.line || key.place.index + 1024 < p.index

/-- A key as it stands at a place.  A required key that is out of reach is a mistake. -/
def refresh (p : Placed) : Option PossibleKey → Option (Option PossibleKey)
  | some key =>
      if key.isStale p then if key.required then none else some none else some (some key)
  | none => some none

namespace Layout

/-- Whether a bracket is open. -/
def inFlow (l : Layout) : Bool := !l.outerKeys.isEmpty

/-- Adds a token. -/
def push (l : Layout) (token : Token) : Layout := { l with tokens := l.tokens.push token }

/-- Sets tokens in after the first `before` tokens. -/
def setIn (l : Layout) (before : Nat) (tokens : List Token) : Layout :=
  let (front, back) := l.tokens.toList.splitAt before
  { l with tokens := (front ++ tokens ++ back).toArray }

/-! ## §2. Keys. -/

/-- Lets the keys lapse that are out of reach. -/
def refreshKeys (l : Layout) (p : Placed) : Option Layout := do
  let key ← refresh p l.key
  let outerKeys ← l.outerKeys.mapM (refresh p)
  return { l with key, outerKeys }

/-- Gives up the key that may have begun. -/
def dropKey (l : Layout) : Option Layout :=
  match l.key with
  | some key => if key.required then none else some { l with key := none }
  | none => some l

/-- Keeps a place where a key may begin. -/
def saveKey (l : Layout) (p : Placed) : Option Layout :=
  if l.keyAllowed then do
    let l ← l.dropKey
    let required := !l.inFlow && l.columns.head? == some p.column
    return { l with key := some { required, before := l.tokens.size, place := p } }
  else some l

/-! ## §3. Blocks. -/

/-- Whether a block at a column begins inside of the open ones. -/
def opensBlock (l : Layout) (column : Nat) : Bool :=
  !l.inFlow && (l.columns.head?.map fun open_ => decide (open_ < column)).getD true

/-- Begins a block at a column, if it stands further in than the open ones. -/
def openBlock (l : Layout) (column : Nat) (token : Token) : Layout :=
  if l.opensBlock column then { l.push token with columns := column :: l.columns } else l

/-- Ends the open blocks that stand further in than a column; all of them at the end of
a document. -/
def closeBlocks (l : Layout) (column : Option Nat) : Layout :=
  if l.inFlow then l
  else
    let (closed, kept) := l.columns.span fun open_ => column.all (· < open_)
    { l with columns := kept, tokens := l.tokens ++ closed.map fun _ => Token.blockEnd }

/-- A token that ends every open block: a directive or a marker between documents. -/
def boundary (l : Layout) (token : Token) : Option Layout := do
  let l ← (l.closeBlocks none).dropKey
  return { l.push token with keyAllowed := false }

/-! ## §4. Indicators. -/

/-- An opening bracket. -/
def openFlow (l : Layout) (p : Placed) (token : Token) : Option Layout := do
  let l ← l.saveKey p
  return { l.push token with keyAllowed := true, key := none, outerKeys := l.key :: l.outerKeys }

/-- A closing bracket. -/
def closeFlow (l : Layout) (token : Token) : Option Layout := do
  let l ← l.dropKey
  let l := { l.push token with keyAllowed := false }
  match l.outerKeys with
  | key :: outerKeys => return { l with key, outerKeys }
  | [] => return l

/-- A comma between brackets. -/
def comma (l : Layout) : Option Layout := do
  return { (← l.dropKey).push .comma with keyAllowed := true }

/-- The dash of an item. -/
def item (l : Layout) (p : Placed) : Option Layout :=
  if !l.inFlow && !l.keyAllowed then none
  else do
    let l ← (l.openBlock p.column .listStart).dropKey
    return { l.push .item with keyAllowed := true }

/-- The question mark of a key. -/
def explicitKey (l : Layout) (p : Placed) : Option Layout :=
  if !l.inFlow && !l.keyAllowed then none
  else do
    let l ← (l.openBlock p.column .mapStart).dropKey
    return { l.push .key with keyAllowed := !l.inFlow }

/-- The colon of a value.  If a key may have begun, it has. -/
def value (l : Layout) (p : Placed) : Option Layout :=
  match l.key with
  | some key =>
      let column := key.place.column
      let l :=
        if l.opensBlock column then
          { l.setIn key.before [.mapStart, .key] with columns := column :: l.columns }
        else l.setIn key.before [.key]
      some { l.push .value with key := none, keyAllowed := false }
  | none =>
      if !l.inFlow && !l.keyAllowed then none
      else
        let l := l.openBlock p.column .mapStart
        some { l.push .value with keyAllowed := !l.inFlow }

/-! ## §5. Tokens of several characters. -/

/-- A word that a key can consist of: an alias, a scalar or a property of a node. -/
def word (l : Layout) (p : Placed) (token : Token) : Option Layout := do
  return { (← l.saveKey p).push token with keyAllowed := false }

/-- Whether a plain scalar can begin with a character. -/
def beginsPlain (l : Layout) (c : Char) (rest : List Placed) : Bool :=
  if c == '-' then !startsWith isGap rest
  else if c == '?' || c == ':' then !l.inFlow && !wordIsOver rest
  else !isGap c && !",[]\x7b\x7d#&*!|>\x27\x22%@\x60".toList.contains c

/-- Reads the scalar that begins with a character. -/
def scalar (l : Layout) (p : Placed) (rest : List Placed) : Option (Layout × List Placed) :=
  if (p.char == '|' || p.char == '>') && !l.inFlow then do
    let fold := p.char == '>'
    let read ← readBlockScalar fold l.columns.head? rest
    let l := (← l.dropKey).push (.scalar read.text (if fold then .folded else .literal))
    return ({ l with keyAllowed := true }, read.rest)
  else if p.char == '\x27' || p.char == '\x22' then do
    let read ← if p.char == '\x22' then readDouble 0 "" {} rest else readSingle "" {} rest
    return (← l.word p (.scalar read.text .quoted), read.rest)
  else if l.beginsPlain p.char rest then do
    let indent := (l.columns.head?.map (· + 1)).getD 0
    let read ← readPlain l.inFlow indent "" {} (p :: rest)
    let l ← l.word p (.scalar read.text .plain)
    return ({ l with keyAllowed := read.crossedLine }, read.rest)
  else none

/-- Reads the token that begins with a character. -/
def token (l : Layout) (p : Placed) (rest : List Placed) : Option (Layout × List Placed) :=
  let whole := p :: rest
  let alone := l.inFlow || wordIsOver rest
  if p.column == 0 && p.char == '%' then do
    let (directive, rest) ← readDirective rest
    return (← l.boundary directive, rest)
  else if atMarker '-' whole then do return (← l.boundary .documentStart, rest.drop 2)
  else if atMarker '.' whole then do return (← l.boundary .documentEnd, rest.drop 2)
  else if p.char == '[' then do return (← l.openFlow p .openList, rest)
  else if p.char == '\x7b' then do return (← l.openFlow p .openMap, rest)
  else if p.char == ']' then do return (← l.closeFlow .closeList, rest)
  else if p.char == '\x7d' then do return (← l.closeFlow .closeMap, rest)
  else if p.char == ',' then do return (← l.comma, rest)
  else if p.char == '-' && wordIsOver rest then do return (← l.item p, rest)
  else if p.char == '?' && alone then do return (← l.explicitKey p, rest)
  else if p.char == ':' && alone then do return (← l.value p, rest)
  else if p.char == '*' then do
    let (name, rest) ← readAnchorName rest
    return (← l.word p (.alias name), rest)
  else if p.char == '&' then do
    let (name, rest) ← readAnchorName rest
    return (← l.word p (.anchor name), rest)
  else if p.char == '!' then do
    let (tag, rest) ← readTag l.inFlow whole
    return (← l.word p tag, rest)
  else l.scalar p rest

/-! ## §6. The whole text. -/

/-- What follows the blanks, comments and breaks before the next token.  A tab is no
blank where a key may begin in a block.  In a block, a key may begin on a new line. -/
def skipToToken (l : Layout) (inComment : Bool) : List Placed → Layout × List Placed
  | [] => (l, [])
  | p :: rest =>
      if isBreak p.char then
        { l with keyAllowed := l.keyAllowed || !l.inFlow }.skipToToken false rest
      else if inComment || p.char == ' ' then l.skipToToken inComment rest
      else if p.char == '\t' && (l.inFlow || !l.keyAllowed) then l.skipToToken inComment rest
      else if p.char == '#' then l.skipToToken true rest
      else (l, p :: rest)

/-- The layout at the end of a text. -/
def finish (l : Layout) : Option Layout := (l.closeBlocks none).dropKey

/-- Reads one token after the other; every token takes something off the text. -/
def read (l : Layout) (text : List Placed) : Option Layout :=
  match l.skipToToken false text with
  | (l, []) => l.finish
  | (l, p :: rest) =>
      match (l.refreshKeys p).bind fun l => (l.closeBlocks (some p.column)).token p rest with
      | some (l, after) => if after.length < text.length then l.read after else none
      | none => none
termination_by text.length

end Layout

/-- The tokens of a text. -/
def tokens? (text : List Placed) : Option (List Token) :=
  (({} : Layout).read text).map fun l => l.tokens.toList

end LayerTemplates.Yaml
