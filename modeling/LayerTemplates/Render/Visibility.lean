/-
  LayerTemplates.Render.Visibility
  ────────────────────────────────
  The conditionals that are open while a layer is walked.  Text is written while every
  one of them is visible; `else` flips the innermost one, once.
-/
import LayerTemplates.Directive
import LayerTemplates.Render.Error

namespace LayerTemplates

/-- An open conditional. -/
structure OpenConditional where
  operator : Operator
  /-- Source text of the placeholder that opened it. -/
  entry : String
  visible : Bool
  /-- Whether its `else` has been met. -/
  flipped : Bool := false
  deriving Repr, DecidableEq, Inhabited

/-- The open conditionals of a layer. -/
structure OpenConditionals where
  layer : String
  /-- Innermost first. -/
  frames : List OpenConditional := []
  deriving Repr, DecidableEq, Inhabited

namespace OpenConditionals

/-- Whether text is written. -/
def isVisible (s : OpenConditionals) : Bool := s.frames.all OpenConditional.visible

/-- The number of open conditionals. -/
def depth (s : OpenConditionals) : Nat := s.frames.length

/-- Opens a conditional. -/
def push (s : OpenConditionals) (operator : Operator) (entry : String) (visible : Bool) :
    OpenConditionals :=
  { s with frames := { operator, entry, visible } :: s.frames }

/-- Goes on to the other part of the innermost conditional. -/
def flip (s : OpenConditionals) (entry : String) : Except RenderError OpenConditionals :=
  match s.frames with
  | [] => .error (.brokenControlSequence s.layer entry)
  | frame :: outer =>
      if frame.flipped then .error (.twoElseInRow s.layer entry)
      else
        .ok { s with frames :=
          { frame with visible := !frame.visible, flipped := true } :: outer }

/-- Closes the innermost conditional. -/
def pop (s : OpenConditionals) (entry : String) :
    Except RenderError (OpenConditional × OpenConditionals) :=
  match s.frames with
  | [] => .error (.brokenControlSequence s.layer entry)
  | frame :: outer => .ok (frame, { s with frames := outer })

/-- Refuses conditionals that are open at the end of the layer, which are named from the
outermost to the innermost. -/
def finish (s : OpenConditionals) : Except RenderError Unit :=
  if s.frames.isEmpty then .ok ()
  else .error (.unclosedOperators s.layer (s.frames.map OpenConditional.entry).reverse)

end OpenConditionals

end LayerTemplates
