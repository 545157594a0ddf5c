/-
  LayerTemplates.Proofs.Expression.Fitting
  ────────────────────────────────────────
  Which shapes are drawn.

  A lexeme stands at a site: it starts a root, it goes on with a path, or it starts an argument.
  The site allows the kinds of some groups, and a lexeme has the kind that its operand gets in one
  of them, unless an argument list has made a function of it.  Of what a body draws every lexeme
  fits its site in this way, and the steps of a path have no siblings.

  Main statements:
    * `Draws.fits` — what is drawn fits.
    * `Laid.fits` — so do the chains of a body, but for a leading sign.
-/
import LayerTemplates.Proofs.Expression.Drawing

namespace LayerTemplates

/-! ## §1. Sites. -/

/-- Where a lexeme may stand. -/
inductive Site where
  | root
  /-- A step of a path after the first. -/
  | step
  | argument
  deriving Repr, DecidableEq, Inhabited

/-- The groups whose kinds are allowed at a site; what goes on with a path stands in brackets or
not. -/
def Site.Allows : Site → LexemeKind → Prop
  | .root, group => group = .plain
  | .step, group => group = .plain ∨ group = .element
  | .argument, group => group = .argument

/-- Every lexeme of a shape is spelled in some way and fits the site at which it stands. -/
def Shape.Fits (escape : Char) : Site → Shape → Prop
  | _, .nothing => True
  | site, .lexeme o kind arguments child next =>
      (∃ p, Spelling escape p o)
        ∧ (kind = .function ∧ arguments.Fits escape .argument
          ∨ (∃ group, site.Allows group ∧ kind = o.kindIn group) ∧ arguments = .nothing)
        ∧ child.Fits escape .step ∧ (site = .step → next = .nothing) ∧ next.Fits escape site

/-- A step fits a site. -/
structure Step.Fits (escape : Char) (site : Site) (s : Step) : Prop where
  spelled : ∃ p, Spelling escape p s.operand
  kind : s.kind = .function ∧ s.arguments.Fits escape .argument
    ∨ (∃ group, site.Allows group ∧ s.kind = s.operand.kindIn group) ∧ s.arguments = .nothing

/-- The steps of a path that starts at a site: those after the first go on with it. -/
inductive Fitting (escape : Char) (site : Site) : List Step → Prop
  | steps {s : Step} {later : List Step} (first : s.Fits escape site)
      (others : ∀ t ∈ later, t.Fits escape .step) : Fitting escape site (s :: later)

variable {escape : Char} {site : Site} {s : Step} {steps : List Step}

/-- An operand that gets its kind from a group fits every site that allows the group. -/
theorem Operand.step_fits {o : Operand} {p : List Char} (h : Spelling escape p o)
    {group : LexemeKind} (hgroup : site.Allows group) : (o.step group).Fits escape site :=
  ⟨⟨p, h⟩, .inr ⟨⟨group, hgroup, rfl⟩, rfl⟩⟩

/-- An argument list may be added to a step that fits, if its shape fits where arguments stand. -/
theorem Step.Fits.call (h : s.Fits escape site) {shape : Shape}
    (hshape : shape.Fits escape .argument) : (s.call shape).Fits escape site :=
  ⟨h.spelled, .inl ⟨rfl, hshape⟩⟩

/-- The argument list of a step fits as one, and an empty one does. -/
theorem Step.Fits.list {site : Site} {s : Step} (h : s.Fits escape site) :
    s.arguments.Fits escape .argument := by
  rcases h.kind with ⟨-, hlist⟩ | ⟨-, hnone⟩
  · exact hlist
  · rw [hnone]
    trivial

/-- A step that is no function has no arguments, and its kind comes from a group that the site
allows. -/
theorem Step.Fits.uncalled {site : Site} {s : Step} (h : s.Fits escape site)
    (hkind : s.kind ≠ .function) :
    s.arguments = .nothing ∧ ∃ group, site.Allows group ∧ s.kind = s.operand.kindIn group :=
  (h.kind.resolve_left fun hcalled => hkind hcalled.1).symm

/-- What goes on with a path fits step by step. -/
theorem Fitting.forall_step (h : Fitting escape .step steps) :
    ∀ t ∈ steps, t.Fits escape .step := by
  cases h with
  | steps first others => exact List.forall_mem_cons.2 ⟨first, others⟩

/-- Steps after the first make up a path that has no sibling. -/
theorem fits_later (h : ∀ t ∈ steps, t.Fits escape .step) :
    (Shape.path steps .nothing).Fits escape .step := by
  induction steps with
  | nil => trivial
  | cons s later ih =>
      have hs := h s List.mem_cons_self
      exact ⟨hs.spelled, hs.kind, ih fun t ht => h t (List.mem_cons_of_mem _ ht), fun _ => rfl,
        trivial⟩

/-- Steps that fit make up a shape that fits, in front of siblings that do; where a path goes on
there are none. -/
theorem Fitting.path (h : Fitting escape site steps) {next : Shape}
    (hsite : site = .step → next = .nothing) (hnext : next.Fits escape site) :
    (Shape.path steps next).Fits escape site := by
  cases h with
  | steps first others => exact ⟨first.spelled, first.kind, fits_later others, hsite, hnext⟩

/-- The first lexeme of a shape that fits is a step that fits. -/
theorem Shape.Fits.first {site : Site} {o : Operand} {kind : LexemeKind}
    {arguments child next : Shape} (h : (Shape.lexeme o kind arguments child next).Fits escape site) :
    Step.Fits escape site ⟨o, kind, arguments⟩ := ⟨h.1, h.2.1⟩

/-! ## §2. What is drawn. -/

/-- What characters stand for fits: suffixes where the step before them does. -/
def Part.Fits (escape : Char) : Part → Prop
  | .suffixes s passed last =>
      ∀ site, s.Fits escape site → Fitting escape site (passed ++ [last])
  | .arguments shape => shape.Fits escape .argument

/-- **What is drawn fits.** -/
theorem Draws.fits {part : Part} {x : List Char} {ts : List Token} (h : Draws escape part x ts) :
    part.Fits escape := by
  induction h with
  | done => exact fun site hs => .steps hs (by simp)
  | dot _ _ step _ ih =>
      exact fun site hs => .steps hs (ih .step (Operand.step_fits step (.inl rfl))).forall_step
  | @square s inner last o passed more _ _ _ _ _ _ _ _ _ _ head _ _ _ ihinside ihrest =>
      -- what follows the bracket goes on from the last step inside
      intro site hs
      have hinside := (ihinside .step (Operand.step_fits head (.inr rfl))).forall_step
      have hrest := (ihrest .step (hinside inner (by simp))).forall_step
      refine .steps hs fun t ht => ?_
      have hmem : t ∈ passed ++ (more ++ [last]) := List.append_assoc passed more [last] ▸ ht
      rcases List.mem_append.1 hmem with ht | ht
      · exact hinside t (List.mem_append_left _ ht)
      · exact hrest t ht
  | call _ _ _ _ ih => exact fun site hs => ih site (hs.call trivial)
  | round _ _ _ _ ihinside ih => exact fun site hs => ih site (hs.call ihinside)
  | argument _ head _ _ ih =>
      exact (ih .argument (Operand.step_fits head rfl)).path (by simp) trivial
  | more _ head _ _ _ ih ihrest =>
      exact (ih .argument (Operand.step_fits head rfl)).path (by simp) ihrest

/-! ## §3. Bodies. -/

variable {m : List Char} {chains : List Chain}

/-- A chain fits as a root: its first operand stands alone and the rest goes on with a path. -/
theorem Chain.fits {o : Operand} {p x : List Char} {passed : List Step} {last : Step}
    {ts : List Token} (head : Spelling escape p o)
    (tail : Draws escape (.suffixes (o.step .plain) passed last) x ts) :
    Fitting escape .root (Chain.of o ts passed last).steps :=
  tail.fits .root (Operand.step_fits head rfl)

/-- So does each of the chains that follow one another in a body. -/
theorem Strung.fits (h : Strung escape m chains) :
    ∀ c ∈ chains, Fitting escape .root c.steps := by
  induction h with
  | nil => simp
  | cons _ _ head tail _ ih => exact List.forall_mem_cons.2 ⟨Chain.fits head tail, ih⟩

/-- The first character of a body, apart from blanks. -/
def leadingChar? (body : List Char) : Option Char := (body.dropWhile isBlank).head?

/-- Blanks in front of a body do not hide the character that leads it. -/
theorem leadingChar?_blanks {b rest : List Char} (hb : Blanks b) {c : Char}
    (hc : isBlank c = false) : leadingChar? (b ++ c :: rest) = some c := by
  unfold leadingChar?
  rw [List.dropWhile_append_of_pos hb, List.dropWhile_cons_of_neg (by rw [hc]; simp)]
  rfl

/-- **The chains of a body fit**, but for a leading sign. -/
theorem Laid.fits {body : List Char} (h : Laid escape body chains) :
    ∃ signs others, chains = signs ++ others ∧ (∀ c ∈ others, Fitting escape .root c.steps)
      ∧ (signs = [] ∨ ∃ c, signs = [.sign c] ∧ leadingChar? body = some c ∧ (c = '=' ∨ c = '#')) := by
  cases h with
  | sign before _ =>
      exact ⟨_, [], rfl, by simp, .inr ⟨'=', rfl, leadingChar?_blanks before (by decide), .inl rfl⟩⟩
  | insert before _ head tail others _ =>
      exact ⟨[.sign '='], _, rfl, List.forall_mem_cons.2 ⟨Chain.fits head tail, others.fits⟩,
        .inr ⟨'=', rfl, leadingChar?_blanks before (by decide), .inl rfl⟩⟩
  | operands _ head _ tail _ others _ =>
      exact ⟨[], _, rfl, List.forall_mem_cons.2 ⟨Chain.fits head tail, others.fits⟩, .inl rfl⟩
  | comment before =>
      exact ⟨_, [], rfl, by simp, .inr ⟨'#', rfl, leadingChar?_blanks before (by decide), .inr rfl⟩⟩

end LayerTemplates
