/-
  LayerTemplates.Proofs.Expression.Shape
  ──────────────────────────────────────
  What the links of lexemes make up, apart from where it stands.

  A shape is a lexeme with what its three links lead to: its argument list, the next step of its
  path, and its sibling.  It knows of every lexeme how it was written and of which kind it is, and
  nothing of indices and ranges.  An arena shows a shape from an index on if the lexemes stand
  there in the order in which the shape is read: a lexeme, its arguments, the rest of its path,
  its siblings.  That fixes every link, those that lead back included, and the roles as well.

  A path grows at its last step, so the steps before that are told apart: they have been passed.

  Main statements:
    * `Arena.Shows.congr` — only the lexemes of a shape count.
    * `Arena.Passed.shows` — passed steps and a last one are a path.
    * `Arena.Shows.followed` — a path may be given a sibling later.
-/
import LayerTemplates.Proofs.Expression.Wiring

namespace LayerTemplates

/-! ## §1. Operands and shapes. -/

/-- An operand as it was written: its value, the form of it and its quote. -/
structure Operand where
  value : String
  form : LexemeForm := .plain
  quote : Option Char := none
  deriving Repr, DecidableEq, Inhabited

/-- The kind of an operand without arguments in a group of some kind; counting levels upwards it
keeps in every group. -/
def Operand.kindIn (o : Operand) (group : LexemeKind) : LexemeKind :=
  if o.form = .relative then .ancestor else group

/-- A lexeme with what its links lead to: arguments, the next step of the path, a sibling. -/
inductive Shape where
  | nothing
  | lexeme (operand : Operand) (kind : LexemeKind) (arguments child next : Shape)
  deriving Repr, DecidableEq, Inhabited

namespace Shape

/-- The number of lexemes. -/
def size : Shape → Nat
  | nothing => 0
  | lexeme _ _ arguments child next => 1 + arguments.size + child.size + next.size

/-- The link to a shape that stands at an index. -/
def link? (index : Nat) : Shape → Option Nat
  | nothing => none
  | lexeme _ _ _ _ _ => some index

@[simp] theorem size_nothing : nothing.size = 0 := rfl

@[simp] theorem link?_nothing (index : Nat) : nothing.link? index = none := rfl

@[simp] theorem link?_lexeme (index : Nat) (o : Operand) (kind : LexemeKind)
    (arguments child next : Shape) :
    (lexeme o kind arguments child next).link? index = some index := rfl

end Shape

/-- A step of a path: a lexeme without the step after it. -/
structure Step where
  operand : Operand
  kind : LexemeKind
  arguments : Shape := .nothing
  deriving Repr, DecidableEq, Inhabited

/-- The step that an operand is when it is read, in a group of some kind. -/
def Operand.step (o : Operand) (group : LexemeKind) : Step :=
  { operand := o, kind := o.kindIn group }

/-- The number of lexemes of a step, its arguments included. -/
def Step.size (s : Step) : Nat := 1 + s.arguments.size

/-- The path with some steps; `next` is the sibling of the first. -/
def Shape.path : List Step → Shape → Shape
  | [], _ => .nothing
  | s :: later, next => .lexeme s.operand s.kind s.arguments (path later .nothing) next

/-- The steps from one on stand in a path as long as the steps and what follows them. -/
theorem Shape.size_path (steps : List Step) (hne : steps ≠ []) (next : Shape) :
    (path steps next).size = (path steps .nothing).size + next.size := by
  cases steps with
  | nil => exact absurd rfl hne
  | cons s later => simp only [path, size]; omega

/-- A path with a last step has a lexeme at least. -/
theorem Shape.size_path_pos (passed : List Step) (last : Step) (next : Shape) :
    0 < (path (passed ++ [last]) next).size := by
  cases passed <;> simp only [List.nil_append, List.cons_append, path, size] <;> omega

/-! ## §2. What an arena shows. -/

/-- A lexeme without the range that it covers. -/
def Lexeme.unspanned (l : Lexeme) : Lexeme := { l with span := ⟨0, 0⟩ }

/-- Where a lexeme hangs: its role and the links that lead back. -/
structure Place where
  role : Role
  parent : Option Nat := none
  prev : Option Nat := none
  deriving Repr, DecidableEq, Inhabited

/-- The lexeme hangs at a place. -/
def Lexeme.hung (l : Lexeme) (place : Place) : Lexeme :=
  { l with role := place.role, parent := place.parent, prev := place.prev }

/-- The lexeme of a step at a place, with its three links. -/
def Step.lexeme (s : Step) (place : Place) (firstArg child next : Option Nat) : Lexeme :=
  { value := s.operand.value, form := s.operand.form, quote := s.operand.quote, kind := s.kind
    role := place.role, parent := place.parent, prev := place.prev, firstArg, child, next }

namespace Arena

/-- The lexeme with an index, without the range that it covers. -/
def view (a : Arena) (id : Nat) : Lexeme := (a.get id).unspanned

/-- From an index on the lexemes of a shape stand in the order in which they are read. -/
def Shows (a : Arena) : Place → Nat → Shape → Prop
  | _, _, .nothing => True
  | place, id, .lexeme o kind arguments child next =>
      let inner := id + 1
      let later := inner + arguments.size
      let behind := later + child.size
      a.view id = Step.lexeme { operand := o, kind } place (arguments.link? inner)
          (child.link? later) (next.link? behind)
        ∧ a.Shows { role := .firstArg, parent := some id } inner arguments
        ∧ a.Shows { role := .child, parent := some id } later child
        ∧ a.Shows { role := .sibling, parent := place.parent, prev := some id } behind next

variable {a a' : Arena} {place : Place} {id : Nat}

/-- **Only the lexemes of a shape count.** -/
theorem Shows.congr {shape : Shape} :
    ∀ {place : Place} {id : Nat}, a.Shows place id shape →
      (∀ j, id ≤ j → j < id + shape.size → a'.view j = a.view j) → a'.Shows place id shape := by
  induction shape with
  | nothing => intro place id _ _; trivial
  | lexeme o kind arguments child next iharguments ihchild ihnext =>
      intro place id h hsame
      obtain ⟨hview, harguments, hchild, hnext⟩ := h
      simp only [Shape.size] at hsame
      refine ⟨?_, ?_, ?_, ?_⟩
      · rw [hsame id (Nat.le_refl _) (by omega)]
        exact hview
      · exact iharguments harguments fun j hj hlt => hsame j (by omega) (by omega)
      · exact ihchild hchild fun j hj hlt => hsame j (by omega) (by omega)
      · exact ihnext hnext fun j hj hlt => hsame j (by omega) (by omega)

/-! What is known of a lexeme that is shown: where its links lead, and how it was written. -/

section

variable {o : Operand} {kind : LexemeKind} {arguments child next : Shape}
  (h : a.Shows place id (.lexeme o kind arguments child next))

include h

theorem Shows.firstArg_eq : (a.get id).firstArg = arguments.link? (id + 1) :=
  congrArg Lexeme.firstArg (show a.view id = _ from h.1)

theorem Shows.child_eq : (a.get id).child = child.link? (id + 1 + arguments.size) :=
  congrArg Lexeme.child (show a.view id = _ from h.1)

theorem Shows.next_eq :
    (a.get id).next = next.link? (id + 1 + arguments.size + child.size) :=
  congrArg Lexeme.next (show a.view id = _ from h.1)

theorem Shows.kind_eq : (a.get id).kind = kind :=
  congrArg Lexeme.kind (show a.view id = _ from h.1)

/-- The value, the form and the quote of the lexeme are those of the operand that was read. -/
theorem Shows.operand_eq :
    (⟨(a.get id).value, (a.get id).form, (a.get id).quote⟩ : Operand) = o :=
  congrArg (fun l : Lexeme => (⟨l.value, l.form, l.quote⟩ : Operand)) (show a.view id = _ from h.1)

end

/-- The steps of a path that have been passed: they stand one after another, and what follows them
stands at another index, at the place where the next step hangs. -/
inductive Passed (a : Arena) : Place → Nat → List Step → Place → Nat → Prop
  | here {place : Place} {id : Nat} : Passed a place id [] place id
  | step {place last : Place} {id stop : Nat} {s : Step} {later : List Step}
      (view : a.view id = s.lexeme place (s.arguments.link? (id + 1)) (some (id + s.size)) none)
      (arguments : a.Shows { role := .firstArg, parent := some id } (id + 1) s.arguments)
      (rest : Passed a { role := .child, parent := some id } (id + s.size) later last stop) :
      Passed a place id (s :: later) last stop

/-- The last step of a path, as long as nothing follows it. -/
structure Ending (a : Arena) (place : Place) (id : Nat) (s : Step) : Prop where
  view : a.view id = s.lexeme place (s.arguments.link? (id + 1)) none none
  arguments : a.Shows { role := .firstArg, parent := some id } (id + 1) s.arguments

variable {last place' : Place} {stop stop' : Nat} {s : Step} {steps more : List Step}

/-- What is passed stands one behind the other, so the path stops no earlier than it starts. -/
theorem Passed.le (h : a.Passed place id steps last stop) : id ≤ stop := by
  induction h with
  | here => exact Nat.le_refl _
  | step _ _ _ ih => exact Nat.le_trans (Nat.le_add_right _ _) ih

/-- Steps that are passed one after the other are passed together. -/
theorem Passed.append (h : a.Passed place id steps last stop)
    (h' : a.Passed last stop more place' stop') :
    a.Passed place id (steps ++ more) place' stop' := by
  induction h with
  | here => exact h'
  | step view arguments _ ih => exact .step view arguments (ih h')

/-- Only what stands in front of the next step counts. -/
theorem Passed.congr (h : a.Passed place id steps last stop)
    (hsame : ∀ j, id ≤ j → j < stop → a'.view j = a.view j) :
    a'.Passed place id steps last stop := by
  induction h with
  | here => exact .here
  | @step place last id stop s later view arguments rest ih =>
      have hle := rest.le
      unfold Step.size at hle
      refine .step ?_ ?_ ?_
      · rw [hsame id (Nat.le_refl _) (by omega)]
        exact view
      · exact arguments.congr fun j hj hlt => hsame j (by omega) (by omega)
      · exact ih fun j hj hlt => hsame j (by unfold Step.size at hj; omega) hlt

/-- **Passed steps and a last one are a path**, which reaches as far as the last step does. -/
theorem Passed.shows (h : a.Passed place id steps last stop) (hlast : a.Ending last stop s) :
    a.Shows place id (.path (steps ++ [s]) .nothing)
      ∧ id + (Shape.path (steps ++ [s]) .nothing).size = stop + s.size := by
  induction h with
  | here =>
      refine ⟨⟨?_, hlast.arguments, trivial, trivial⟩, ?_⟩
      · exact hlast.view
      · simp only [List.nil_append, Shape.path, Shape.size, Step.size]
        omega
  | @step place last id stop t later view arguments rest ih =>
      obtain ⟨hshows, hsize⟩ := ih hlast
      have hindex : id + t.size = id + 1 + t.arguments.size := by unfold Step.size; omega
      have hlink : (Shape.path (later ++ [s]) .nothing).link? (id + 1 + t.arguments.size)
          = some (id + t.size) := by
        rw [hindex]
        cases later <;> rfl
      rw [hindex] at hshows
      refine ⟨⟨?_, arguments, hshows, trivial⟩, ?_⟩
      · show a.view id = Step.lexeme _ _ _ (Shape.link? _ (Shape.path (later ++ [s]) .nothing)) _
        rw [hlink]
        exact view
      · simp only [List.cons_append, Shape.path, Shape.size]
        omega

/-- **A path may be given a sibling later**: its first lexeme is linked to it, and nothing else of
the path changes. -/
theorem Shows.followed {next : Shape} (hne : steps ≠ [])
    (h : a.Shows place id (.path steps .nothing))
    (hstop : id + (Shape.path steps .nothing).size = stop)
    (hfirst : a'.view id = { a.view id with next := next.link? stop })
    (hsame : ∀ j, id < j → j < stop → a'.view j = a.view j)
    (hnext : a'.Shows { role := .sibling, parent := place.parent, prev := some id } stop next) :
    a'.Shows place id (.path steps next) := by
  cases steps with
  | nil => exact absurd rfl hne
  | cons s later =>
      obtain ⟨hview, harguments, hlater, -⟩ := h
      simp only [Shape.path, Shape.size] at hstop
      refine ⟨?_, ?_, ?_, ?_⟩
      · rw [hfirst, hview, ← hstop]
        simp only [Step.lexeme]
        congr 2
        omega
      · exact harguments.congr fun j hj hlt => hsame j (by omega) (by omega)
      · exact hlater.congr fun j hj hlt => hsame j (by omega) (by omega)
      · rw [show id + 1 + s.arguments.size + (Shape.path later .nothing).size = stop by omega]
        exact hnext

end Arena

end LayerTemplates
