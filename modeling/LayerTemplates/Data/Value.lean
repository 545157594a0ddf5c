/-
  LayerTemplates.Data.Value
  ─────────────────────────
  The values that a layer can hold: JSON values whose objects keep the order of their
  keys, and their compact and indented texts.
-/
import LayerTemplates.Data.Decimal
import LayerTemplates.Text.Blank

namespace LayerTemplates

/-! ## §1. Values. -/

/-- A number: an integer of at most 64 bits, or a floating-point number. -/
inductive Number where
  | integer (value : Int)
  | float (value : Float)
  deriving Repr, Inhabited

/-- A JSON value. -/
inductive Value where
  | null
  | bool (value : Bool)
  | number (value : Number)
  | string (text : String)
  | array (items : List Value)
  /-- The fields in their order. -/
  | object (fields : List (String × Value))
  deriving Repr, Inhabited

/-- Sets a key of an ordered map.  A key that is there keeps its place. -/
def setKey {κ α : Type} [DecidableEq κ] (fields : List (κ × α)) (key : κ) (value : α) :
    List (κ × α) :=
  match fields with
  | [] => [(key, value)]
  | field :: rest =>
      if field.1 = key then (key, value) :: rest else field :: setKey rest key value

namespace Number

/-- Whether an integer is kept as one: it fits into 64 bits with or without a sign. -/
def fits (value : Int) : Bool := -0x8000000000000000 ≤ value && value < 0x10000000000000000

/-- An integer; one that does not fit becomes a floating-point number. -/
def ofInt (value : Int) : Number :=
  if fits value then .integer value
  else
    let magnitude := Decimal.toFloat ⟨value.natAbs, 0⟩
    .float (if value < 0 then -magnitude else magnitude)

/-- Whether the number is not zero. -/
def isNonzero : Number → Bool
  | .integer value => value != 0
  | .float value => value != 0.0

/-- The numeral of a number. -/
def text : Number → String
  | .integer value => toString value
  | .float value => (floatNumeral? value).getD "null"

end Number

/-! ## §2. Texts. -/

/-- A hexadecimal digit in lower case. -/
def hexDigit (digit : Nat) : Char := Nat.digitChar digit

namespace Value

/-- A character inside a JSON string. -/
def escapedChar (c : Char) : String :=
  if c == '\x22' then "\\\""
  else if c == '\\' then "\\\\"
  else if c == '\x08' then "\\b"
  else if c == '\x0c' then "\\f"
  else if c == '\n' then "\\n"
  else if c == '\x0d' then "\\r"
  else if c == '\t' then "\\t"
  else if c.toNat < 0x20 then
    "\\u00" ++ String.ofList [hexDigit (c.toNat / 16), hexDigit (c.toNat % 16)]
  else c.toString

/-- A JSON string with its quotes. -/
def quotedText (text : String) : String :=
  text.toList.foldl (fun out c => out ++ escapedChar c) "\"" ++ "\""

mutual

/-- The text of a value without blanks. -/
def compact : Value → String
  | .null => "null"
  | .bool value => if value then "true" else "false"
  | .number value => value.text
  | .string text => quotedText text
  | .array items => "[" ++ ",".intercalate (compactItems items) ++ "]"
  | .object fields => "\x7b" ++ ",".intercalate (compactFields fields) ++ "\x7d"

/-- The texts of the items of an array. -/
def compactItems : List Value → List String
  | [] => []
  | item :: rest => item.compact :: compactItems rest

/-- The texts of the fields of an object. -/
def compactFields : List (String × Value) → List String
  | [] => []
  | (key, value) :: rest => (quotedText key ++ ":" ++ value.compact) :: compactFields rest

end

/-- Lines between brackets, one level deeper than the brackets. -/
def bracketed (opener closer : String) (depth : Nat) (lines : List String) : String :=
  if lines.isEmpty then opener ++ closer
  else
    opener ++ "\n" ++ ",\n".intercalate (lines.map fun line => indentation (depth + 1) ++ line)
      ++ "\n" ++ indentation depth ++ closer

mutual

/-- The text of a value with one line for every item and field. -/
def pretty (depth : Nat) : Value → String
  | .array items => bracketed "[" "]" depth (prettyItems (depth + 1) items)
  | .object fields => bracketed "\x7b" "\x7d" depth (prettyFields (depth + 1) fields)
  | .null => "null"
  | .bool value => if value then "true" else "false"
  | .number value => value.text
  | .string text => quotedText text

/-- The texts of the items of an array. -/
def prettyItems (depth : Nat) : List Value → List String
  | [] => []
  | item :: rest => item.pretty depth :: prettyItems depth rest

/-- The texts of the fields of an object. -/
def prettyFields (depth : Nat) : List (String × Value) → List String
  | [] => []
  | (key, value) :: rest =>
      (quotedText key ++ ": " ++ value.pretty depth) :: prettyFields depth rest

end

end Value

end LayerTemplates
