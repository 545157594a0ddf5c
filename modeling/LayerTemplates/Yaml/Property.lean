/-
  LayerTemplates.Yaml.Property
  ────────────────────────────
  The small words of YAML: names of anchors and aliases, tags, and directives.
-/
import LayerTemplates.Yaml.Scalar
import LayerTemplates.Yaml.Token

namespace LayerTemplates.Yaml

/-! ## §1. Anchors and aliases. -/

/-- The name of an anchor or alias.  It is followed by a blank or by a character that
can go on behind a node. -/
def readAnchorName (text : List Placed) : Option (String × List Placed) :=
  let name := runOf isNameChar text
  let rest := dropRun isNameChar text
  let ended := wordIsOver rest || startsWith ("?:,]\x7d%@\x60".toList.contains ·) rest
  if name.isEmpty || !ended then none else some (name, rest)

/-! ## §2. Tags. -/

/-- A character of a tag.  Between angle brackets three more are possible. -/
def isTagChar (bracketed : Bool) (c : Char) : Bool :=
  isNameChar c || ";/?:@&=+$.!~*\x27()%".toList.contains c
    || (bracketed && (c == ',' || c == '[' || c == ']'))

/-- The number of bytes of a character by its first byte; zero for no first byte. -/
def encodedLength (first : Nat) : Nat :=
  if first < 0x80 then 1
  else if first / 0x20 = 6 then 2
  else if first / 0x10 = 14 then 3
  else if first / 8 = 30 then 4
  else 0

/-- The bytes of percent escapes at the front of a text. -/
def percentBytes : Nat → List Char → Option (List Nat)
  | 0, _ => some []
  | count + 1, '%' :: a :: b :: rest => do
      let byte ← numeral? 16 [a, b]
      return byte :: (← percentBytes count rest)
  | _, _ => none

/-- The character that percent escapes say, and the number of bytes it takes. -/
def percentChar? (text : List Char) : Option (Char × Nat) := do
  let first ← (← percentBytes 1 text).head?
  let count := encodedLength first
  let bytes ← percentBytes count text
  let code := (bytes.drop 1).foldl (fun total byte => total * 64 + byte % 64)
    (if count = 1 then first else first % Nat.pow 2 (7 - count))
  if count = 0 || !(bytes.drop 1).all (fun byte => byte / 64 == 2) then none
  else
    let c ← charOfCode? code
    if c.utf8Size = count then some (c, count) else none

/-- The text of a tag with its percent escapes read; `skip` characters belong to an
escape that is read already. -/
def readPercent (skip : Nat) : List Char → Option (List Char)
  | [] => some []
  | c :: rest =>
      match skip with
      | skip + 1 => readPercent skip rest
      | 0 =>
          if c == '%' then do
            let (read, count) ← percentChar? (c :: rest)
            return read :: (← readPercent (3 * count - 1) rest)
          else do
            return c :: (← readPercent 0 rest)

/-- The suffix of a tag, or the meaning of a handle. -/
def readTagText (bracketed : Bool) (text : List Placed) : Option (String × List Placed) := do
  let run := runOf (isTagChar bracketed) text
  return (String.ofList (← readPercent 0 run.toList), dropRun (isTagChar bracketed) text)

/-- The handle that a text starts with: names between exclamation marks, or what there
is of it. -/
def readHandle (text : List Placed) : Option (String × List Placed) :=
  if startsWith (· == '!') text then
    let name := "!" ++ runOf isNameChar (text.drop 1)
    let rest := dropRun isNameChar (text.drop 1)
    if startsWith (· == '!') rest then some (name.push '!', rest.drop 1) else some (name, rest)
  else none

/-- Whether a handle is closed by a second exclamation mark. -/
def isClosedHandle (handle : String) : Bool :=
  1 < handle.length && handle.toList.getLast? == some '!'

/-- The handle and the suffix of the tag that a text starts with.  The handle is empty
where the tag is written out in full. -/
def readTagParts (text : List Placed) : Option (String × String × List Placed) :=
  if startsWith (· == '<') (text.drop 1) then do
    let (suffix, rest) ← readTagText true (text.drop 2)
    if suffix.isEmpty || !startsWith (· == '>') rest then none
    else some ("", suffix, rest.drop 1)
  else do
    let (handle, rest) ← readHandle text
    if isClosedHandle handle then
      let (suffix, rest) ← readTagText false rest
      if suffix.isEmpty then none else some (handle, suffix, rest)
    else
      let (suffix, rest) ← readTagText false rest
      let suffix := String.ofList (handle.toList.drop 1) ++ suffix
      if suffix.isEmpty then some ("", "!", rest) else some ("!", suffix, rest)

/-- The tag that a text starts with.  It is a word of its own; inside of brackets a
comma may follow. -/
def readTag (inFlow : Bool) (text : List Placed) : Option (Token × List Placed) := do
  let (handle, suffix, rest) ← readTagParts text
  if wordIsOver rest || (inFlow && startsWith (· == ',') rest) then
    some (.tag handle suffix, rest)
  else none

/-! ## §3. Directives. -/

/-- A part of a version: at most nine digits. -/
def readVersionPart (text : List Placed) : Option (Nat × List Placed) := do
  let digits := runOf Char.isDigit text
  let value ← numeral? 10 digits.toList
  if digits.length ≤ 9 then some (value, dropRun Char.isDigit text) else none

/-- The version that a directive names. -/
def readVersion (text : List Placed) : Option (Token × List Placed) := do
  let (major, text) ← readVersionPart (dropRun isGap text)
  if startsWith (· == '.') text then
    let (minor, text) ← readVersionPart (text.drop 1)
    some (.version major minor, text)
  else none

/-- The handle that a directive gives a meaning. -/
def readHandleMeaning (text : List Placed) : Option (Token × List Placed) := do
  let (handle, text) ← readHandle (dropRun isGap text)
  if (handle != "!" && !isClosedHandle handle) || !startsWith isGap text then none
  else
    let (meaning, text) ← readTagText true (dropRun isGap text)
    if meaning.isEmpty || !wordIsOver text then none else some (.handle handle meaning, text)

/-- A directive from behind its percent sign to the end of the line. -/
def readDirective (text : List Placed) : Option (Token × List Placed) := do
  let name := runOf isNameChar text
  let text := dropRun isNameChar text
  if !wordIsOver text then none
  else
    let (token, text) ←
      if name = "YAML" then readVersion text
      else if name = "TAG" then readHandleMeaning text
      else none
    return (token, ← endOfLine? text)

end LayerTemplates.Yaml
