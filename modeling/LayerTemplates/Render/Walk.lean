/-
  LayerTemplates.Render.Walk
  ──────────────────────────
  Walking a layer: its segments are visited in source order, and what the placeholders
  refer to is asked of a resolver.

  Nothing is known of the resolver here: it may keep a state of any kind, give any
  result and stop the run.  A run gives a result or says why it stopped, and leaves a
  state either way.
-/
import LayerTemplates.Layer.Parsed
import LayerTemplates.Render.Rendered
import LayerTemplates.Render.Visibility

namespace LayerTemplates

/-! ## §1. Runs. -/

/-- Why a run stopped. -/
inductive Halt where
  | error (e : RenderError)
  /-- Layers nest deeper than the run was allowed to follow them. -/
  | tooDeep
  deriving Repr, DecidableEq, Inhabited

/-- A computation on a state that may stop. -/
abbrev Run (σ α : Type) : Type := ExceptT Halt (StateM σ) α

namespace Run

variable {σ α : Type}

/-- Stops with an error where there is one. -/
def ofExcept : Except RenderError α → Run σ α
  | .ok a => pure a
  | .error e => throw (.error e)

/-- Runs a computation and gives its outcome as a value. -/
def observe (run : Run σ α) : Run σ (Except Halt α) :=
  ExceptT.lift run.run

/-- The outcome of a computation from a state, and the state it leaves. -/
def outcome (run : Run σ α) (state : σ) : Except Halt α × σ := StateT.run run.run state

end Run

/-! ## §2. Placeholders in their text. -/

/-- The characters before a byte offset. -/
def takeBytes : Nat → List Char → List Char
  | _, [] => []
  | offset, c :: rest => if offset = 0 then [] else c :: takeBytes (offset - c.utf8Size) rest

/-- The characters from a byte offset on. -/
def dropBytes : Nat → List Char → List Char
  | _, [] => []
  | offset, c :: rest => if offset = 0 then c :: rest else dropBytes (offset - c.utf8Size) rest

/-- The number of characters shown on either side of a placeholder. -/
def excerptMargin : Nat := 20

/-- The end of a text, with a mark where something is left out. -/
def headExcerpt (before : List Char) : String :=
  (if before.length > excerptMargin then "..." else "")
    ++ String.ofList (before.drop (before.length - excerptMargin))

/-- The start of a text, with a mark where something is left out. -/
def tailExcerpt (after : List Char) : String :=
  String.ofList (after.take excerptMargin)
    ++ (if after.length > excerptMargin then "..." else "")

/-- A placeholder with some of the text around it. -/
def excerpt (text : String) (p : Placeholder) (layer : String) : String :=
  headExcerpt (takeBytes p.span.start text.toList) ++ p.entry
    ++ tailExcerpt (dropBytes p.span.stop text.toList)
    ++ " [layer: " ++ inQuotes layer ++ ", placeholder: " ++ inQuotes p.entry ++ "]"

/-- Refuses a placeholder with the wrong number of parts. -/
def checkArity (layer : ParsedLayer) (text : String) (p : Placeholder) (d : Directive) :
    Except RenderError Unit :=
  match d.arity with
  | .eq => .ok ()
  | .lt => .error (.tooFewParts layer.name (excerpt text p layer.name))
  | .gt => .error (.tooManyParts layer.name (excerpt text p layer.name))

/-- The name that a placeholder refers to. -/
def requireTarget (layer : ParsedLayer) (text : String) (p : Placeholder) (d : Directive) :
    Except RenderError String :=
  match d.targetName layer.arena with
  | some name => .ok name
  | none => .error (.tooFewParts layer.name (excerpt text p layer.name))

/-! ## §3. Walking. -/

/-- Where a walk stands: the open conditionals and the text written so far. -/
structure WalkState where
  stack : OpenConditionals
  output : String := ""
  deriving Repr, DecidableEq, Inhabited

variable {σ : Type}

/-- Writes text where it is visible. -/
def WalkState.write (w : WalkState) (text : String) : WalkState :=
  if w.stack.isVisible then { w with output := w.output ++ text } else w

/-- Whether a conditional takes its first part. -/
def takesFirst (operator : Operator) (result : Rendered) : Bool :=
  result.isTruthy != (operator == .ifFalse)

/-- Does what a placeholder says. -/
def walkDirective (layer : ParsedLayer) (text : String) (resolve : String → Run σ Rendered)
    (w : WalkState) (p : Placeholder) (d : Directive) : Run σ WalkState := do
  Run.ofExcept (checkArity layer text p d)
  match d.operator with
  | .insert =>
      if w.stack.isVisible then
        let name ← Run.ofExcept (requireTarget layer text p d)
        let result ← resolve name
        return { w with output := w.output ++ result.toText }
      else
        return w
  | .ifTrue | .ifFalse =>
      if w.stack.isVisible then
        let name ← Run.ofExcept (requireTarget layer text p d)
        let result ← resolve name
        return { w with stack := w.stack.push d.operator p.entry (takesFirst d.operator result) }
      else
        return { w with stack := w.stack.push d.operator p.entry false }
  | .otherwise =>
      let stack ← Run.ofExcept (w.stack.flip p.entry)
      return { w with stack }
  | .endBlock =>
      let (_, stack) ← Run.ofExcept (w.stack.pop p.entry)
      return { w with stack }
  | .comment => return w

/-- Visits a segment. -/
def walkSegment (layer : ParsedLayer) (text : String) (resolve : String → Run σ Rendered)
    (w : WalkState) : Segment → Run σ WalkState
  | .text id => return w.write (layer.arena.get id).value
  | .placeholder p =>
      match p.directive with
      | some d => walkDirective layer text resolve w p d
      | none => return w

/-- Walks a layer; `text` is the text it was read from. -/
def walk (layer : ParsedLayer) (text : String) (resolve : String → Run σ Rendered) :
    Run σ Rendered := do
  let start : WalkState := { stack := { layer := layer.name } }
  let w ← layer.segments.foldlM (walkSegment layer text resolve) start
  Run.ofExcept w.stack.finish
  return .text w.output

end LayerTemplates
