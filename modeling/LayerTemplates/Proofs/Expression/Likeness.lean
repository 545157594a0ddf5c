/-
  LayerTemplates.Proofs.Expression.Likeness
  ─────────────────────────────────────────
  Expressions of two arenas with the same structure.

  Two lexemes are alike if they were written alike, are of the same kind, and whatever hangs on one
  of them is like what hangs on the other: the argument lists, the rest of the paths, the siblings.
  Indices and ranges do not count.  Lexemes that are alike show the same shape, and what shows the
  same shape is alike.

  Main statements:
    * `Arena.Shows.alike` — what shows the same shape is alike.
    * `Arena.Alike.shape_eq` — what is alike shows the same shape.
-/
import LayerTemplates.Proofs.Expression.Shape

namespace LayerTemplates

namespace Arena

/-- Two lexemes have the same characters, form, kind and quote. -/
structure Matches (l l' : Lexeme) : Prop where
  value : l.value = l'.value
  form : l.form = l'.form
  kind : l.kind = l'.kind
  quote : l.quote = l'.quote

/-- Where two links lead has the same structure: neither leads anywhere, or both lead to lexemes
that match, and so do the argument lists, the paths and the siblings that follow them. -/
inductive Alike (a a' : Arena) : Option Nat → Option Nat → Prop
  | none : Alike a a' none none
  | some {id id' : Nat} (lexeme : Matches (a.get id) (a'.get id'))
      (arguments : Alike a a' (a.get id).firstArg (a'.get id').firstArg)
      (child : Alike a a' (a.get id).child (a'.get id').child)
      (next : Alike a a' (a.get id).next (a'.get id').next) : Alike a a' (some id) (some id')

/-- Two expressions have the same structure.  The siblings of the lexemes with which they start do
not belong to them. -/
structure SameExpression (a a' : Arena) (id id' : Nat) : Prop where
  lexeme : Matches (a.get id) (a'.get id')
  arguments : Alike a a' (a.get id).firstArg (a'.get id').firstArg
  child : Alike a a' (a.get id).child (a'.get id').child

variable {a a' : Arena} {place place' : Place} {id id' : Nat} {o : Operand} {kind : LexemeKind}
  {arguments child next next' : Shape}

/-- Lexemes of the same step match. -/
theorem Shows.matches (h : a.Shows place id (.lexeme o kind arguments child next))
    (h' : a'.Shows place' id' (.lexeme o kind arguments child next')) :
    Matches (a.get id) (a'.get id') := by
  have hoperand := h.operand_eq.trans h'.operand_eq.symm
  exact ⟨congrArg Operand.value hoperand, congrArg Operand.form hoperand,
    h.kind_eq.trans h'.kind_eq.symm, congrArg Operand.quote hoperand⟩

/-- **What shows the same shape is alike.** -/
theorem Shows.alike {shape : Shape} :
    ∀ {place place' : Place} {id id' : Nat}, a.Shows place id shape → a'.Shows place' id' shape →
      a.Alike a' (shape.link? id) (shape.link? id') := by
  induction shape with
  | nothing => intros; exact .none
  | lexeme o kind arguments child next iharguments ihchild ihnext =>
      intro place place' id id' h h'
      have ⟨_, harguments, hchild, hnext⟩ := h
      have ⟨_, harguments', hchild', hnext'⟩ := h'
      refine .some (h.matches h') ?_ ?_ ?_
      · rw [h.firstArg_eq, h'.firstArg_eq]
        exact iharguments harguments harguments'
      · rw [h.child_eq, h'.child_eq]
        exact ihchild hchild hchild'
      · rw [h.next_eq, h'.next_eq]
        exact ihnext hnext hnext'

/-- Expressions that show the same, but perhaps for what follows them, have the same structure. -/
theorem Shows.sameExpression (h : a.Shows place id (.lexeme o kind arguments child next))
    (h' : a'.Shows place' id' (.lexeme o kind arguments child next')) :
    a.SameExpression a' id id' := by
  have ⟨_, harguments, hchild, _⟩ := h
  have ⟨_, harguments', hchild', _⟩ := h'
  refine ⟨h.matches h', ?_, ?_⟩
  · rw [h.firstArg_eq, h'.firstArg_eq]
    exact harguments.alike harguments'
  · rw [h.child_eq, h'.child_eq]
    exact hchild.alike hchild'

/-- **What is alike shows the same shape.** -/
theorem Alike.shape_eq {shape : Shape} :
    ∀ {shape' : Shape} {place place' : Place} {id id' : Nat}, a.Shows place id shape →
      a'.Shows place' id' shape' → a.Alike a' (shape.link? id) (shape'.link? id') →
        shape = shape' := by
  induction shape with
  | nothing =>
      intro shape' place place' id id' _ _ halike
      cases shape' with
      | nothing => rfl
      | lexeme => cases halike
  | lexeme o kind arguments child next iharguments ihchild ihnext =>
      intro shape' place place' id id' h h' halike
      cases shape' with
      | nothing => cases halike
      | lexeme o' kind' arguments' child' next' =>
          have ⟨_, harguments, hchild, hnext⟩ := h
          have ⟨_, harguments', hchild', hnext'⟩ := h'
          cases halike with
          | some lexeme alikeArguments alikeChild alikeNext =>
              rw [h.firstArg_eq, h'.firstArg_eq] at alikeArguments
              rw [h.child_eq, h'.child_eq] at alikeChild
              rw [h.next_eq, h'.next_eq] at alikeNext
              have hoperand : o = o' := by
                rw [← h.operand_eq, ← h'.operand_eq, lexeme.value, lexeme.form, lexeme.quote]
              have hkind : kind = kind' := by
                rw [← h.kind_eq, ← h'.kind_eq, lexeme.kind]
              rw [hoperand, hkind, iharguments harguments harguments' alikeArguments,
                ihchild hchild hchild' alikeChild, ihnext hnext hnext' alikeNext]

end Arena

end LayerTemplates
