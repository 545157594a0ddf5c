/-
  LayerTemplates.Proofs.Control.Nesting
  ─────────────────────────────────────
  The grammar of control sequences.

  The builder of the control tree and the walk over the segments see the same sequence of
  steps: stretches of text and directives.  Both keep the conditionals that are open, each
  in its own way.  What both amount to is said here without either: `Nested` says which
  sequences are well nested and which items they stand for, and `Closes` is the machine
  that keeps no more of an open conditional than whether its `else` has been met.

  Main statement:
    * `Closes.nested` — what the machine accepts is well nested.
-/
import LayerTemplates.Layer.Parsed

namespace LayerTemplates

/-! ## §1. Steps. -/

/-- What a segment tells the builder and the walk. -/
inductive ControlStep where
  | text (id : LexemeId)
  | directive (d : Directive) (entry : String)
  deriving Repr, DecidableEq, Inhabited

/-- The step of a segment; a placeholder without a directive takes none. -/
def Segment.step? : Segment → Option ControlStep
  | .text id => some (.text id)
  | .placeholder p => p.directive.map fun d => .directive d p.entry

/-- The operator that opens a conditional, inverted or not. -/
def Operator.opening (invert : Bool) : Operator := if invert then .ifFalse else .ifTrue

/-- A conditional with its parts in the order in which they were written. -/
def Item.branching (invert : Bool) (target : Option LexemeId) (first second : List Item) : Item :=
  if invert then .conditional true target second first
  else .conditional false target first second

/-! ## §2. The grammar. -/

/-- The steps are well nested and stand for these items. -/
inductive Nested : List ControlStep → List Item → Prop
  | nil : Nested [] []
  | text {id : LexemeId} {steps : List ControlStep} {items : List Item}
      (rest : Nested steps items) : Nested (.text id :: steps) (.text id :: items)
  | insert {d : Directive} {entry : String} {steps : List ControlStep} {items : List Item}
      (op : d.operator = .insert) (rest : Nested steps items) :
      Nested (.directive d entry :: steps) (.insert d.target :: items)
  | comment {d : Directive} {entry : String} {steps : List ControlStep} {items : List Item}
      (op : d.operator = .comment) (rest : Nested steps items) :
      Nested (.directive d entry :: steps) items
  /-- A conditional without `else`. -/
  | conditional {d e : Directive} {entry closing : String} {first steps : List ControlStep}
      {onFirst items : List Item} {invert : Bool} (op : d.operator = .opening invert)
      (stop : e.operator = .endBlock) (inner : Nested first onFirst) (rest : Nested steps items) :
      Nested (.directive d entry :: (first ++ .directive e closing :: steps))
        (Item.branching invert d.target onFirst [] :: items)
  /-- A conditional with `else`. -/
  | alternative {d m e : Directive} {entry middle closing : String}
      {first second steps : List ControlStep} {onFirst onSecond items : List Item} {invert : Bool}
      (op : d.operator = .opening invert) (turn : m.operator = .otherwise)
      (stop : e.operator = .endBlock) (inner : Nested first onFirst)
      (other : Nested second onSecond) (rest : Nested steps items) :
      Nested
        (.directive d entry ::
          (first ++ .directive m middle :: (second ++ .directive e closing :: steps)))
        (Item.branching invert d.target onFirst onSecond :: items)

/-! ## §3. The machine. -/

/-- Whether the steps close the conditionals that are open and all that they open themselves.
Of an open conditional it is known whether its `else` has been met, innermost first. -/
def Closes : List Bool → List ControlStep → Prop
  | opened, [] => opened = []
  | opened, .text _ :: steps => Closes opened steps
  | opened, .directive d _ :: steps =>
      match d.operator with
      | .insert | .comment => Closes opened steps
      | .ifTrue | .ifFalse => Closes (false :: opened) steps
      | .otherwise =>
          match opened with
          | false :: outer => Closes (true :: outer) steps
          | _ => False
      | .endBlock =>
          match opened with
          | _ :: outer => Closes outer steps
          | [] => False

/-- The steps fall into well-nested parts with an `else` or an `end` of an open conditional
between them. -/
inductive Completes : List Bool → List ControlStep → Prop
  | done {steps : List ControlStep} {items : List Item} (all : Nested steps items) :
      Completes [] steps
  | close {flag : Bool} {outer : List Bool} {e : Directive} {closing : String}
      {part steps : List ControlStep} {items : List Item} (inner : Nested part items)
      (stop : e.operator = .endBlock) (rest : Completes outer steps) :
      Completes (flag :: outer) (part ++ .directive e closing :: steps)
  | switch {outer : List Bool} {m : Directive} {middle : String}
      {part steps : List ControlStep} {items : List Item} (inner : Nested part items)
      (turn : m.operator = .otherwise) (rest : Completes (true :: outer) steps) :
      Completes (false :: outer) (part ++ .directive m middle :: steps)

/-- What may stand before every well-nested sequence may stand before one that completes. -/
theorem Completes.prepend {opened : List Bool} {steps : List ControlStep}
    (hc : Completes opened steps) (unit : List ControlStep)
    (h : ∀ steps items, Nested steps items → ∃ items', Nested (unit ++ steps) items') :
    Completes opened (unit ++ steps) := by
  cases hc with
  | done all =>
      obtain ⟨items', h'⟩ := h _ _ all
      exact .done h'
  | close inner stop rest =>
      obtain ⟨items', h'⟩ := h _ _ inner
      rw [← List.append_assoc]
      exact .close h' stop rest
  | switch inner turn rest =>
      obtain ⟨items', h'⟩ := h _ _ inner
      rw [← List.append_assoc]
      exact .switch h' turn rest

/-- A conditional that the steps complete may be opened before them. -/
theorem Completes.cons_opening {d : Directive} {entry : String} (invert : Bool) {opened : List Bool}
    {steps : List ControlStep} (op : d.operator = .opening invert)
    (h : Completes (false :: opened) steps) :
    Completes opened (.directive d entry :: steps) := by
  cases h with
  | @close _ _ e closing part steps items inner stop rest =>
      have := rest.prepend (.directive d entry :: (part ++ [.directive e closing]))
        fun steps' items' h' => ⟨_, by simpa using Nested.conditional op stop inner h'⟩
      simpa using this
  | @switch _ m middle part steps items inner turn rest =>
      -- after an `else` only `end` can complete the conditional
      cases rest with
      | @close _ _ e closing part' steps items' inner' stop rest =>
          have := rest.prepend
            (.directive d entry ::
              (part ++ .directive m middle :: (part' ++ [.directive e closing])))
            fun steps' items' h' =>
              ⟨_, by simpa using Nested.alternative op turn stop inner inner' h'⟩
          simpa using this

/-- What the machine accepts completes the open conditionals. -/
theorem Closes.completes : ∀ {steps : List ControlStep} {opened : List Bool},
    Closes opened steps → Completes opened steps := by
  intro steps
  -- from the last step to the first: an opening takes the part that the next `end` closes
  induction steps with
  | nil =>
      intro opened h
      obtain rfl : opened = [] := h
      exact .done .nil
  | cons step steps ih =>
      intro opened h
      cases step with
      | text id =>
          exact (ih h).prepend [.text id] fun _ _ h' => ⟨_, .text h'⟩
      | directive d entry =>
          unfold Closes at h
          cases hop : d.operator with
          | insert =>
              rw [hop] at h
              exact (ih h).prepend [.directive d entry] fun _ _ h' => ⟨_, .insert hop h'⟩
          | comment =>
              rw [hop] at h
              exact (ih h).prepend [.directive d entry] fun _ _ h' => ⟨_, .comment hop h'⟩
          | ifTrue =>
              rw [hop] at h
              exact Completes.cons_opening false hop (ih h)
          | ifFalse =>
              rw [hop] at h
              exact Completes.cons_opening true hop (ih h)
          | otherwise =>
              rw [hop] at h
              match opened, h with
              | false :: outer, h => exact @Completes.switch _ _ _ [] _ _ .nil hop (ih h)
          | endBlock =>
              rw [hop] at h
              match opened, h with
              | flag :: outer, h => exact @Completes.close _ _ _ _ [] _ _ .nil hop (ih h)

/-- **What the machine accepts is well nested.** -/
theorem Closes.nested {steps : List ControlStep} (h : Closes [] steps) :
    ∃ items, Nested steps items := by
  cases h.completes with
  | done all => exact ⟨_, all⟩

end LayerTemplates
