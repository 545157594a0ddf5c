/-
  LayerTemplates.Yaml.Typed
  ─────────────────────────
  What the nodes of a document say: texts, truth values, numbers and data.

  A scalar without quotes says by its look what it is; where a text is wanted, every
  scalar is one.  A tag of the standard schema fixes the kind of a scalar.
-/
import LayerTemplates.Data.Record
import LayerTemplates.Yaml.Node

namespace LayerTemplates.Yaml

/-! ## §1. Words and numerals. -/

/-- Whether a word says that there is nothing. -/
def isNullWord (word : String) : Bool := ["null", "Null", "NULL", "~"].contains word

/-- The truth value that a word says. -/
def truth? (word : String) : Option Bool :=
  if ["true", "True", "TRUE"].contains word then some true
  else if ["false", "False", "FALSE"].contains word then some false
  else none

/-- The word without the sign at its front, where it has this one. -/
def unsigned (sign : Char) : List Char → List Char
  | c :: rest => if c = sign then rest else c :: rest
  | [] => []

/-- Whether digits begin with a zero that no number begins with. -/
def hasLeadingZero (word : List Char) : Bool :=
  let digits := match word with
    | '+' :: rest => rest
    | '-' :: rest => rest
    | other => other
  match digits with
  | '0' :: c :: rest => (c :: rest).all Char.isDigit
  | _ => false

/-- The natural number that a word without a sign says: decimal, or in another base that
the word names. -/
def naturalOf? : List Char → Option Nat
  | '0' :: 'x' :: digits => numeral? 16 digits
  | '0' :: 'o' :: digits => numeral? 8 digits
  | '0' :: 'b' :: digits => numeral? 2 digits
  | digits => if hasLeadingZero digits then none else numeral? 10 digits

/-- The number of values that 128 bits have. -/
def widest : Nat := 0x100000000000000000000000000000000

/-- The integer that a word says.  Numbers beyond 128 bits are not read as integers. -/
def integer? (word : String) : Option Int :=
  match word.toList with
  | '-' :: rest =>
      (naturalOf? rest).bind fun n => if n ≤ widest / 2 then some (-(n : Int)) else none
  | word =>
      (naturalOf? (unsigned '+' word)).bind fun n => if n < widest then some (n : Int) else none

/-- The exponent at the end of a decimal numeral, if what is there is one. -/
def exponent? : List Char → Option Int
  | [] => some 0
  | mark :: rest =>
      if mark != 'e' && mark != 'E' then none
      else
        match rest with
        | '-' :: digits => (numeral? 10 digits).map fun n => -(n : Int)
        | '+' :: digits => (numeral? 10 digits).map Int.ofNat
        | digits => (numeral? 10 digits).map Int.ofNat

/-- The decimal that a word without a sign says: digits with or without a point among
them or at their ends, and an exponent. -/
def decimal? (word : List Char) : Option Decimal := do
  let whole := word.takeWhile Char.isDigit
  let rest := word.drop whole.length
  let (fraction, tail) := match rest with
    | '.' :: rest => (rest.takeWhile Char.isDigit, rest.dropWhile Char.isDigit)
    | rest => ([], rest)
  let digits ← numeral? 10 (whole ++ fraction)
  return { digits, exponent := (← exponent? tail) - fraction.length }

/-- The number that a word says which may be infinite or no number at all. -/
def float? (word : String) : Option Float :=
  let infinite : Float := 1.0 / 0.0
  if [".inf", ".Inf", ".INF", "+.inf", "+.Inf", "+.INF"].contains word then some infinite
  else if ["-.inf", "-.Inf", "-.INF"].contains word then some (-infinite)
  else if [".nan", ".NaN", ".NAN"].contains word then some (0.0 / 0.0)
  else
    let (negative, digits) := match word.toList with
      | '-' :: rest => (true, rest)
      | '+' :: rest => (false, rest)
      | rest => (false, rest)
    match (decimal? digits).map Decimal.toFloat with
    | some magnitude =>
        if magnitude.isFinite then some (if negative then -magnitude else magnitude) else none
    | none => none

/-! ## §2. Scalars as data. -/

/-- A floating-point number as data: one that is not finite is nothing. -/
def valueOfFloat (x : Float) : Value := if x.isFinite then .number (.float x) else .null

/-- An integer as data; one of more than 64 bits is refused. -/
def valueOfInteger? (n : Int) : Option Value :=
  if Number.fits n then some (.number (.integer n)) else none

/-- What a scalar without quotes and tag says. -/
def valueOfWord? (word : String) : Option Value :=
  if word.isEmpty || isNullWord word then some .null
  else
    match truth? word, integer? word with
    | some b, _ => some (.bool b)
    | none, some n => valueOfInteger? n
    | none, none =>
        match if hasLeadingZero word.toList then none else float? word with
        | some x => some (valueOfFloat x)
        | none => some (.string word)

/-- A tag of the standard schema. -/
def standardTag (name : String) : String := "tag:yaml.org,2002:" ++ name

/-- What a scalar with a tag says.  A tag of the document's own is refused. -/
def valueOfTagged? (tag text : String) : Option Value :=
  if tag = standardTag "bool" then (truth? text).map .bool
  else if tag = standardTag "int" then (integer? text).bind valueOfInteger?
  else if tag = standardTag "float" then (float? text).map valueOfFloat
  else if tag = standardTag "null" then if isNullWord text then some .null else none
  else if tag.startsWith "!" then none
  else some (.string text)

namespace Node

/-- The text of a scalar of any form. -/
def text? : Node → Option String
  | .scalar text _ _ => some text
  | _ => none

/-- Whether a collection has a tag of the document's own; it is no data then. -/
def isOwnTag : Option String → Bool
  | some tag => tag.startsWith "!"
  | none => false

mutual

/-- A node as data.  Of several fields with one key the last one counts, in the place of
the first. -/
def value? : Node → Option Value
  | .scalar text form tag =>
      match tag with
      | some tag => valueOfTagged? tag text
      | none => if form = .plain then valueOfWord? text else some (.string text)
  | .list items tag => if isOwnTag tag then none else (itemValues? items).map .array
  | .map fields tag => if isOwnTag tag then none else (fieldValues? fields []).map .object
  | .endless => none

/-- The items of a list as data. -/
def itemValues? : List Node → Option (List Value)
  | [] => some []
  | item :: rest => do
      let value ← item.value?
      return value :: (← itemValues? rest)

/-- The fields of a map as data, behind the ones that are read already. -/
def fieldValues? : List (Node × Node) → List (String × Value) → Option (List (String × Value))
  | [], read => some read
  | (key, value) :: rest, read => do
      let name ← key.text?
      fieldValues? rest (setKey read name (← value.value?))

end

/-- Whether a scalar can be read as a truth value or number: it has no quotes, or it is a
block that is tagged as one. -/
def wordOf? (kind : String) : Node → Option String
  | .scalar text .plain _ => some text
  | .scalar text .literal tag => if tag = some (standardTag kind) then some text else none
  | _ => none

/-- Whether a node says that there is nothing. -/
def isNothing : Node → Bool
  | .scalar text .plain none => text.isEmpty || isNullWord text
  | .scalar text .plain (some tag) => tag = standardTag "null" && isNullWord text
  | _ => false

/-- The fields of a map with their names.  A scalar that is left out is an empty map. -/
def fields? : Node → Option (List (String × Node))
  | .map fields _ => fields.mapM fun (key, value) => key.text?.map fun name => (name, value)
  | .scalar text .plain _ => if text.isEmpty then some [] else none
  | _ => none

/-- The fields of a map as data.  A scalar that is left out is an empty map. -/
def dataFields? : Node → Option (List (String × Value))
  | .map fields _ => fieldValues? fields []
  | node => node.fields?.map fun _ => []

/-- YAML nodes as nodes of documents. -/
def view : NodeView Node where
  text? := text?
  bool? node := (node.wordOf? "bool").bind truth?
  natural? node := do
    match (← node.wordOf? "int").toList with
    | '-' :: _ => none
    | word =>
        let n ← naturalOf? (unsigned '+' word)
        if n < 0x10000000000000000 then some n else none
  isNothing := isNothing
  value? := value?
  parts? node :=
    match node with
    | .list items _ => some (.inOrder items)
    | node => node.fields?.map .named

end Node

end LayerTemplates.Yaml
