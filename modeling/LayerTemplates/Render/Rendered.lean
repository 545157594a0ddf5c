/-
  LayerTemplates.Render.Rendered
  ──────────────────────────────
  What a layer amounts to when it is rendered: text, data that is passed on as it is,
  or nothing.

  Main statements:
    * `toText_ofValue`, `isTruthy_ofValue` — a value behaves the same whether it is
      looked at directly or as the result of a render.
-/
import LayerTemplates.Data.Value

namespace LayerTemplates

/-- What a layer amounts to. -/
inductive Rendered where
  | text (written : String)
  /-- A value other than a text. -/
  | data (value : Value)
  /-- A layer that is missing and has no substitute. -/
  | absent
  deriving Repr, Inhabited

/-- Whether a value counts as true: all but null, false, zero and the empty text. -/
def Value.isTruthy : Value → Bool
  | .null => false
  | .bool value => value
  | .number n => n.isNonzero
  | .string text => !text.isEmpty
  | .array _ | .object _ => true

/-- The text that a value is inserted as: nothing for null, a text as it is, else JSON. -/
def Value.insertedText : Value → String
  | .null => ""
  | .string text => text
  | value => value.compact

namespace Rendered

/-- A value as the result of rendering. -/
def ofValue : Value → Rendered
  | .string written => .text written
  | value => .data value

/-- Whether a conditional takes its true branch. -/
def isTruthy : Rendered → Bool
  | .text written => !written.isEmpty
  | .data value => value.isTruthy
  | .absent => false

/-- The text inserted in place of a placeholder. -/
def toText : Rendered → String
  | .text written => written
  | .data value => value.insertedText
  | .absent => ""

/-- A value and the text made of it are inserted alike. -/
theorem toText_ofValue (value : Value) : (ofValue value).toText = value.insertedText := by
  cases value <;> rfl

/-- A value counts as true as it is and as a result. -/
theorem isTruthy_ofValue (value : Value) : (ofValue value).isTruthy = value.isTruthy := by
  cases value <;> rfl

end Rendered

end LayerTemplates
