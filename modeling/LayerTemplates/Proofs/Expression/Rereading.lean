/-
  LayerTemplates.Proofs.Expression.Rereading
  ──────────────────────────────────────────
  The canonical text of an expression is read as the same expression.

  The canonical text of an expression depends on its shape alone, and it is told here along the
  shape.  It decides by the kind of a step whether brackets stand around it: an element has them,
  and a step that became a function in brackets has lost them.  Either way the grammar draws the
  same shape again, since a function is one wherever it stands and levels are counted upwards in
  brackets as well as behind a dot.  What is not kept is how far the brackets reached.

  Between quotes the canonical text has no escape characters, so a literal is read again only if
  its value needs none.

  Main statements:
    * `Shape.Quotable.redrawn` — the canonical text of a shape draws the shape.
    * `Arena.Shows.texts` — the canonical text of an expression is that of its shape.
    * `expression_reread` — the canonical text of an expression is read as the same expression.
-/
import LayerTemplates.Lexeme.Canonical
import LayerTemplates.Proofs.Expression.Likeness
import LayerTemplates.Proofs.Expression.Walking

namespace LayerTemplates

/-! ## §1. Canonical texts of shapes. -/

/-- The operand as it was written, without the escape characters of a literal. -/
def Operand.chars (o : Operand) : List Char :=
  match o.form, o.quote with
  | .relative, _ => '^' :: o.value.toList
  | _, some quote => quote :: (o.value.toList ++ [quote])
  | _, none => o.value.toList

/-- The argument list of a function with the texts of its arguments; other steps have none. -/
def callChars (kind : LexemeKind) (arguments : List (List Char)) : List Char :=
  if kind = .function then '(' :: ([',', ' '].intercalate arguments ++ [')']) else []

/-- What stands before a step that is not the first, and what behind it. -/
def joinedChars (kind : LexemeKind) (step : List Char) : List Char :=
  if kind = .element then '[' :: (step ++ [']']) else '.' :: step

mutual

/-- The canonical text of the steps of a path after the first. -/
def Shape.later : Shape → List Char
  | .nothing => []
  | .lexeme o kind arguments child _ =>
      joinedChars kind (o.chars ++ callChars kind arguments.texts) ++ child.later

/-- The canonical texts of a path and of its siblings. -/
def Shape.texts : Shape → List (List Char)
  | .nothing => []
  | .lexeme o kind arguments child next =>
      (o.chars ++ callChars kind arguments.texts ++ child.later) :: next.texts

end

/-- An operand in quotes can do without escape characters. -/
def Operand.Quotable (escape : Char) (o : Operand) : Prop :=
  ∀ quote, o.quote = some quote → quote ∉ o.value.toList ∧ escape ∉ o.value.toList

/-- So can all operands of a shape. -/
def Shape.Quotable (escape : Char) : Shape → Prop
  | .nothing => True
  | .lexeme o _ arguments child next =>
      o.Quotable escape ∧ arguments.Quotable escape ∧ child.Quotable escape ∧ next.Quotable escape

variable {escape : Char}

theorem literalText_self {quote : Char} {value : List Char} (hquote : quote ∉ value)
    (hescape : escape ∉ value) : LiteralText escape quote value value := by
  induction value with
  | nil => exact .nil
  | cons c value ih =>
      simp only [List.mem_cons, not_or] at hquote hescape
      exact .plain (Ne.symm hescape.1) (Ne.symm hquote.1) (ih hquote.2 hescape.2)

/-- An operand that needs no escape characters is spelled by its canonical text. -/
theorem Spelling.chars {p : List Char} {o : Operand} (h : Spelling escape p o)
    (ho : o.Quotable escape) : Spelling escape o.chars o := by
  cases h with
  | word nonempty chars =>
      show Spelling escape (String.ofList p).toList _
      rw [String.toList_ofList]
      exact .word nonempty chars
  | @literal quote s value opens closes inner nonempty =>
      obtain ⟨hquote, hescape⟩ := ho quote rfl
      have hchars : (Operand.inQuotes quote (String.ofList value)).chars
          = quote :: (value ++ [quote]) := by
        unfold Operand.chars Operand.inQuotes
        by_cases hraw : quote = rawQuote <;> simp [hraw]
      rw [hchars]
      simp only [Operand.inQuotes, String.toList_ofList] at hquote hescape
      exact .literal opens closes (literalText_self hquote hescape) nonempty
  | @ancestor digits nonempty chars =>
      show Spelling escape ('^' :: (String.ofList digits).toList) _
      rw [String.toList_ofList]
      exact .ancestor nonempty chars

/-! ## §2. Shapes that are drawn again. -/

/-- From a step on the steps of a shape are drawn: what is drawn is the step with the shape behind
it. -/
def Redraws (escape : Char) (s : Step) (x : List Char) (o : Operand) (kind : LexemeKind)
    (arguments child : Shape) : Prop :=
  ∃ passed last ts, Draws escape (.suffixes s passed last) x ts
    ∧ Shape.path (passed ++ [last]) .nothing = .lexeme o kind arguments child .nothing

theorem Redraws.next {s : Step} {x : List Char} {o : Operand} {kind : LexemeKind}
    {arguments child : Shape} (h : Redraws escape s x o kind arguments child) (next : Shape) :
    ∃ passed last ts, Draws escape (.suffixes s passed last) x ts
      ∧ Shape.path (passed ++ [last]) next = .lexeme o kind arguments child next := by
  obtain ⟨passed, last, ts, hdraws, hpath⟩ := h
  refine ⟨passed, last, ts, hdraws, ?_⟩
  cases passed with
  | nil =>
      simp only [List.nil_append, Shape.path, Shape.lexeme.injEq] at hpath ⊢
      simp [hpath]
  | cons t passed =>
      simp only [List.cons_append, Shape.path, Shape.lexeme.injEq] at hpath ⊢
      simp [hpath]

/-- What a group makes of an operand, other than an element, it is behind a dot as well. -/
theorem kindIn_plain {o : Operand} {group : LexemeKind} (hgroup : Site.step.Allows group)
    (hne : o.kindIn group ≠ .element) : o.kindIn group = o.kindIn .plain := by
  rcases hgroup with rfl | rfl
  · rfl
  · unfold Operand.kindIn at hne ⊢
    split
    · rfl
    · next hform => exact absurd (if_neg hform) hne

/-- An operand in a group is called again if it was called, and goes on with its path. -/
theorem redraws_call {o : Operand} {kind group : LexemeKind} {arguments child : Shape}
    (hgroup : group ≠ .function)
    (hkind : kind = .function ∨ kind = o.kindIn group ∧ arguments = .nothing)
    (harguments : arguments ≠ .nothing →
      ∃ ts, Draws escape (.arguments arguments) ([',', ' '].intercalate arguments.texts) ts)
    (hchild : ∀ s : Step, Redraws escape s child.later s.operand s.kind s.arguments child) :
    Redraws escape (o.step group) (callChars kind arguments.texts ++ child.later) o kind arguments
      child := by
  have huncalled := o.step_uncalled hgroup
  rcases hkind with rfl | ⟨rfl, rfl⟩
  · by_cases hnone : arguments = .nothing
    · obtain ⟨passed, last, ts, hdraws, hpath⟩ := hchild ((o.step group).call .nothing)
      rw [hnone]
      exact ⟨passed, last, _, .call huncalled .nil .nil hdraws, hpath⟩
    · obtain ⟨us, hinside⟩ := harguments hnone
      obtain ⟨passed, last, ts, hdraws, hpath⟩ := hchild ((o.step group).call arguments)
      have hchars : callChars .function arguments.texts ++ child.later
          = [] ++ '(' :: ([',', ' '].intercalate arguments.texts ++ ')' :: child.later) := by
        simp [callChars]
      rw [hchars]
      exact ⟨passed, last, _, .round huncalled .nil hinside hdraws, hpath⟩
  · obtain ⟨passed, last, ts, hdraws, hpath⟩ := hchild (o.step group)
    have hchars : callChars (o.kindIn group) Shape.nothing.texts = [] := if_neg huncalled.1
    rw [hchars]
    exact ⟨passed, last, ts, hdraws, hpath⟩

/-- The steps of a shape and the arguments that it makes up are drawn by their canonical texts. -/
structure Shape.Redrawn (escape : Char) (shape : Shape) : Prop where
  later : shape.Fits escape .step →
    ∀ s : Step, Redraws escape s shape.later s.operand s.kind s.arguments shape
  arguments : shape.Fits escape .argument → shape ≠ .nothing → ∀ b, Blanks b →
    ∃ ts, Draws escape (.arguments shape) (b ++ [',', ' '].intercalate shape.texts) ts

/-- What goes on with a path: an element stands in brackets, everything else behind a dot. -/
theorem redraws_joined {o : Operand} {kind : LexemeKind} {arguments child : Shape}
    (ho : Spelling escape o.chars o)
    (hkind : kind = .function
      ∨ (∃ group, Site.step.Allows group ∧ kind = o.kindIn group) ∧ arguments = .nothing)
    (harguments : arguments ≠ .nothing →
      ∃ ts, Draws escape (.arguments arguments) ([',', ' '].intercalate arguments.texts) ts)
    (hchild : ∀ s : Step, Redraws escape s child.later s.operand s.kind s.arguments child)
    (s : Step) :
    Redraws escape s (joinedChars kind (o.chars ++ callChars kind arguments.texts) ++ child.later)
      s.operand s.kind s.arguments (.lexeme o kind arguments child .nothing) := by
  by_cases helement : kind = .element
  · -- only what became no function has kept the kind of an element
    obtain ⟨⟨group, hgroup, hin⟩, rfl⟩ := hkind.resolve_left (by rw [helement]; simp)
    have hstep : o.kindIn .element = .element := by
      rw [helement] at hin
      unfold Operand.kindIn at hin ⊢
      split at hin
      · exact absurd hin (by simp)
      · next hform => exact if_neg hform
    obtain ⟨passed, last, ts, hdraws, hpath⟩ := hchild (o.step .element)
    have hchars : joinedChars kind (o.chars ++ callChars kind Shape.nothing.texts) ++ child.later
        = [] ++ '[' :: ([] ++ (o.chars ++ ([] ++ ([] ++ ']' :: child.later)))) := by
      rw [helement]
      simp [joinedChars, callChars]
    rw [hchars]
    refine ⟨_, _, _, .square .nil .nil ho .done .nil hdraws, ?_⟩
    show Shape.lexeme _ _ _ (Shape.path (passed ++ [last]) .nothing) _ = _
    rw [hpath, helement]
    show Shape.lexeme _ _ _ (.lexeme o (o.kindIn .element) _ _ _) _ = _
    rw [hstep]
    rfl
  · have hplain : kind = .function ∨ kind = o.kindIn .plain ∧ arguments = .nothing := by
      rcases hkind with hfunction | ⟨⟨group, hgroup, rfl⟩, hnone⟩
      · exact .inl hfunction
      · exact .inr ⟨kindIn_plain hgroup helement, hnone⟩
    obtain ⟨passed, last, ts, hdraws, hpath⟩ :=
      redraws_call plain_ne_function hplain harguments hchild
    have hchars : joinedChars kind (o.chars ++ callChars kind arguments.texts) ++ child.later
        = [] ++ '.' :: ([] ++ (o.chars ++ (callChars kind arguments.texts ++ child.later))) := by
      simp [joinedChars, helement]
    rw [hchars]
    refine ⟨_, _, _, .dot .nil .nil ho hdraws, ?_⟩
    show Shape.lexeme _ _ _ (Shape.path (passed ++ [last]) .nothing) _ = _
    rw [hpath]

/-- The arguments of a function are drawn. -/
theorem Shape.Redrawn.list {arguments : Shape} (h : arguments.Redrawn escape) {called uncalled : Prop}
    (hkind : called ∧ arguments.Fits escape .argument ∨ uncalled ∧ arguments = .nothing)
    (hne : arguments ≠ .nothing) :
    ∃ ts, Draws escape (.arguments arguments) ([',', ' '].intercalate arguments.texts) ts := by
  rcases hkind with ⟨-, hfits⟩ | ⟨-, hnone⟩
  · exact h.arguments hfits hne [] .nil
  · exact absurd hnone hne

/-- **The canonical text of a shape draws the shape.** -/
theorem Shape.Quotable.redrawn {shape : Shape} (hquotable : shape.Quotable escape) :
    shape.Redrawn escape := by
  -- on the shape; arguments, path and siblings are written again one inside the other
  induction shape with
  | nothing => exact ⟨fun _ s => ⟨[], s, [], .done, rfl⟩, fun _ hne => absurd rfl hne⟩
  | lexeme o kind arguments child next iharguments ihchild ihnext =>
      obtain ⟨ho, hargumentsQuotable, hchildQuotable, hnextQuotable⟩ := hquotable
      have hlisted := iharguments hargumentsQuotable
      have hlater := ihchild hchildQuotable
      have hsiblings := ihnext hnextQuotable
      constructor
      · rintro ⟨⟨p, hp⟩, hkind, hchild, hsingle, -⟩ s
        obtain rfl := hsingle rfl
        exact redraws_joined (hp.chars ho) (hkind.imp_left And.left) (hlisted.list hkind)
          (hlater.later hchild) s
      · rintro ⟨⟨p, hp⟩, hkind, hchild, -, hnext⟩ - b hb
        have hargument : kind = .function ∨ kind = o.kindIn .argument ∧ arguments = .nothing := by
          rcases hkind with ⟨hfunction, -⟩ | ⟨⟨group, rfl, hgroup⟩, hnone⟩
          · exact .inl hfunction
          · exact .inr ⟨hgroup, hnone⟩
        obtain ⟨passed, last, ts, hdraws, hpath⟩ := (redraws_call (by simp) hargument
          (hlisted.list hkind) (hlater.later hchild)).next next
        have hsplit : o.chars ++ callChars kind arguments.texts ++ child.later
            = o.chars ++ (callChars kind arguments.texts ++ child.later) := List.append_assoc _ _ _
        rw [texts, ← hpath, hsplit]
        cases hrest : next with
        | nothing =>
            have hone := Draws.argument hb (hp.chars ho) hdraws .nil
            rw [List.append_nil] at hone
            exact ⟨_, by rw [texts, List.intercalate_singleton]; exact hone⟩
        | lexeme o' kind' arguments' child' next' =>
            rw [hrest] at hnext hsiblings
            obtain ⟨us, hothers⟩ := hsiblings.arguments hnext (by simp) [' ']
              (by simp [Blanks, isBlank, blanks])
            have hmore := Draws.more hb (hp.chars ho) hdraws .nil hothers
            refine ⟨.operand o :: (ts ++ .delimiter .comma :: us), ?_⟩
            rw [texts] at hmore ⊢
            rw [List.intercalate_cons_cons]
            simpa using hmore

/-! ## §3. Canonical texts of expressions. -/

/-- The indices of the steps of a path, if its shape stands from an index on. -/
def Shape.spine : Nat → Shape → List Nat
  | _, .nothing => []
  | id, .lexeme _ _ arguments child _ => id :: spine (id + 1 + arguments.size) child

/-- A lexeme is written as its operand is. -/
theorem Lexeme.toList_written (l : Lexeme) :
    l.written.toList = (⟨l.value, l.form, l.quote⟩ : Operand).chars := by
  unfold Lexeme.written Operand.chars
  dsimp only
  cases l.form <;> cases l.quote <;> simp [String.toList_append, Char.toString]

namespace Arena

variable {a : Arena} {shape : Shape}

/-- Steps are followed to the last one. -/
theorem Shows.steps (fuel : Nat) :
    ∀ {place : Place} {id : Nat}, a.Shows place id shape → shape ≠ .nothing →
      shape.size ≤ fuel + 1 → a.chain Lexeme.child fuel id = shape.spine id := by
  induction shape generalizing fuel with
  | nothing => exact fun _ hne => absurd rfl hne
  | lexeme o kind arguments child next _ ih _ =>
      intro place id h _ hsize
      simp only [Shape.size] at hsize
      refine chain_link h.child_eq (by omega) (fun hnone => by rw [hnone]; rfl) fun hne fewer hf => ?_
      exact ih fewer h.2.2.1 hne (by omega)

/-- The text of a step, if those of its arguments are known. -/
theorem Shows.stepText {place : Place} {id : Nat} {o : Operand} {kind : LexemeKind}
    {arguments child next : Shape} (h : a.Shows place id (.lexeme o kind arguments child next))
    (hsize : arguments.size ≤ a.size) {text : Nat → String}
    (htexts : ((arguments.heads (id + 1)).map fun j => (text j).toList) = arguments.texts) :
    (a.stepText text id).toList = o.chars ++ callChars kind arguments.texts := by
  have hwritten : (a.get id).written.toList = o.chars := by
    rw [Lexeme.toList_written, h.operand_eq]
  unfold Arena.stepText callChars
  dsimp only
  rw [h.kind_eq, h.listed hsize]
  split
  · simp only [String.toList_append, String.toList_intercalate, List.map_map, hwritten]
    rw [← htexts]
    simp [Function.comp_def]
  · rw [hwritten, List.append_nil]

theorem Shows.laterStepText {place : Place} {id : Nat} {o : Operand} {kind : LexemeKind}
    {arguments child next : Shape} (h : a.Shows place id (.lexeme o kind arguments child next))
    (hsize : arguments.size ≤ a.size) {text : Nat → String}
    (htexts : ((arguments.heads (id + 1)).map fun j => (text j).toList) = arguments.texts) :
    (a.laterStepText text id).toList
      = joinedChars kind (o.chars ++ callChars kind arguments.texts) := by
  unfold Arena.laterStepText joinedChars
  dsimp only
  rw [h.kind_eq, ← h.stepText hsize htexts]
  split <;> simp [String.toList_append]

/-- **The canonical texts of paths are those of their shape**, and so are those of the steps that
go on with one. -/
theorem Shows.texts (depth : Nat) :
    ∀ {place : Place} {id : Nat}, a.Shows place id shape → shape.size ≤ depth →
      shape.size ≤ a.size →
      ((shape.heads id).map fun j => (a.expressionWithin depth j).toList) = shape.texts
        ∧ ((shape.spine id).flatMap fun j =>
            (a.laterStepText (a.expressionWithin depth) j).toList) = shape.later := by
  -- along the shape; arguments are written with one level less
  induction shape generalizing depth with
  | nothing => intros; exact ⟨rfl, rfl⟩
  | lexeme o kind arguments child next iharguments ihchild ihnext =>
      intro place id h hdepth hsize
      have ⟨_, harguments, hchild, hnext⟩ := h
      have hspine := h.steps a.size (by simp) (Nat.le_succ_of_le hsize)
      simp only [Shape.size] at hdepth hsize
      obtain ⟨depth, rfl⟩ : ∃ fewer, depth = fewer + 1 := ⟨depth - 1, by omega⟩
      constructor
      · have hexpression : (a.expressionWithin (depth + 1) id).toList
            = o.chars ++ callChars kind arguments.texts ++ child.later := by
          unfold expressionWithin
          rw [hspine]
          simp only [Shape.spine, String.toList_append, String.toList_join, List.flatMap_map]
          rw [h.stepText (by omega) (iharguments depth harguments (by omega) (by omega)).1,
            (ihchild depth hchild (by omega) (by omega)).2]
        rw [Shape.heads, List.map_cons, hexpression, Shape.texts,
          (ihnext (depth + 1) hnext (by omega) (by omega)).1]
      · rw [Shape.spine, List.flatMap_cons, Shape.later,
          h.laterStepText (by omega) (iharguments (depth + 1) harguments (by omega) (by omega)).1,
          (ihchild (depth + 1) hchild (by omega) (by omega)).2]

/-- The operands of a shape can do without escape characters if its lexemes can. -/
theorem Shows.quotable {escape : Char} :
    ∀ {place : Place} {id : Nat}, a.Shows place id shape →
      (∀ j, id ≤ j → j < id + shape.size →
        Operand.Quotable escape ⟨(a.get j).value, (a.get j).form, (a.get j).quote⟩) →
      shape.Quotable escape := by
  induction shape with
  | nothing => intros; trivial
  | lexeme o kind arguments child next iharguments ihchild ihnext =>
      intro place id h hall
      have ⟨_, harguments, hchild, hnext⟩ := h
      simp only [Shape.size] at hall
      refine ⟨?_, ?_, ?_, ?_⟩
      · rw [← h.operand_eq]
        exact hall id (Nat.le_refl _) (by omega)
      · exact iharguments harguments fun j hj hlt => hall j (by omega) (by omega)
      · exact ihchild hchild fun j hj hlt => hall j (by omega) (by omega)
      · exact ihnext hnext fun j hj hlt => hall j (by omega) (by omega)

/-- A root shows the path of one of the chains. -/
theorem Shows.chain_of_mem {chains : List Chain} (hne : ∀ c ∈ chains, c.steps ≠ []) :
    ∀ {place : Place} {id : Nat}, a.Shows place id (Chain.shape chains) →
      ∀ r ∈ Chain.rootsFrom id chains, ∃ c ∈ chains, ∃ place' next,
        a.Shows place' r (.path c.steps next)
          ∧ r + (Shape.path c.steps next).size ≤ id + (Chain.shape chains).size := by
  induction chains with
  | nil => exact fun _ r hr => absurd hr (by simp [Chain.rootsFrom])
  | cons c others ih =>
      intro place id h r hr
      rcases List.mem_cons.1 hr with rfl | hr
      · exact ⟨c, List.mem_cons_self, place, Chain.shape others, h, Nat.le_refl _⟩
      · have hsize := Shape.size_path c.steps (hne c List.mem_cons_self) (Chain.shape others)
        have hrest : ∃ place', a.Shows place' (id + (Shape.path c.steps .nothing).size)
            (Chain.shape others) := by
          cases hsteps : c.steps with
          | nil => exact absurd hsteps (hne c List.mem_cons_self)
          | cons s later =>
              rw [Chain.shape, hsteps] at h
              have hnext := h.2.2.2
              refine ⟨{ role := .sibling, parent := place.parent, prev := some id }, ?_⟩
              simp only [Shape.path, Shape.size, Nat.add_assoc, Nat.add_zero] at hnext ⊢
              exact hnext
        obtain ⟨place', hshows⟩ := hrest
        obtain ⟨c', hc', place'', next, hpath, hle⟩ :=
          ih (fun c hc => hne c (List.mem_cons_of_mem _ hc)) hshows r hr
        refine ⟨c', List.mem_cons_of_mem _ hc', place'', next, hpath, ?_⟩
        rw [Chain.shape, hsize]
        omega

end Arena

/-! ## §4. Reading again. -/

/-- A root other than a leading sign shows a chain whose steps fit. -/
theorem Laid.shows_fitting {body : List Char} {chains : List Chain} {a : Arena}
    (h : Laid escape body chains) (hshows : a.Shows { role := .root } 0 (Chain.shape chains))
    {r : Nat} (hr : r ∈ Chain.rootsFrom 0 chains)
    (hsign : leadingChar? body = some '=' ∨ leadingChar? body = some '#' → r ≠ 0) :
    ∃ steps place next, Fitting escape .root steps ∧ a.Shows place r (.path steps next)
      ∧ r + (Shape.path steps next).size ≤ (Chain.shape chains).size := by
  have hne : ∀ c ∈ chains, c.steps ≠ [] := fun c hc => (h.straight c hc).1
  obtain ⟨signs, others, rfl, hfits, rfl | ⟨c, rfl, hleads, hc⟩⟩ := h.fits
  · obtain ⟨c, hc, place, next, hpath, hle⟩ := hshows.chain_of_mem hne r hr
    exact ⟨c.steps, place, next, hfits c hc, hpath, by omega⟩
  · have hr' : r ∈ Chain.rootsFrom 1 others := by
      rcases List.mem_cons.1 hr with hzero | hr
      · rcases hc with rfl | rfl
        · exact absurd hzero (hsign (.inl hleads))
        · exact absurd hzero (hsign (.inr hleads))
      · exact hr
    obtain ⟨c', hc', place, next, hpath, hle⟩ := Arena.Shows.chain_of_mem
      (fun c hc => hne c (List.mem_cons_of_mem _ hc)) hshows.2.2.2 r hr'
    refine ⟨c'.steps, place, next, hfits c' hc', hpath, ?_⟩
    refine Nat.le_trans hle ?_
    show _ ≤ (1 + 0 + 0 + (Chain.shape others).size)
    exact Nat.le_refl _

/-- The walk from a root, whose path fits, goes through the path and the arguments on it. -/
theorem Arena.Shows.walk_root {a : Arena} {place : Place} {r : Nat} {o : Operand}
    {kind : LexemeKind} {arguments child next : Shape}
    (h : a.Shows place r (.lexeme o kind arguments child next))
    (hstraight : (Shape.lexeme o kind arguments child .nothing).Straight)
    (hsize : arguments.size + child.size < a.size) :
    a.walk r = List.range' r (1 + arguments.size + child.size) := by
  have ⟨_, harguments, hchild, _⟩ := h
  obtain ⟨hargumentsStraight, hchildStraight, hsingle, -⟩ := hstraight
  obtain ⟨depth, hdepth⟩ : ∃ fewer, a.size = fewer + 1 := ⟨a.size - 1, by omega⟩
  unfold Arena.walk
  rw [hdepth]
  exact h.walkWithin hsingle (by omega)
    (harguments.walk depth hargumentsStraight (by omega) (by omega))
    (hchild.walk depth hchildStraight (by omega) (by omega))

/-- The canonical text of a path that fits, behind an insert sign, is laid out in the sign and a
chain with the same shape. -/
theorem Shape.Fits.laid {o : Operand} {kind : LexemeKind} {arguments child : Shape}
    (hfits : (Shape.lexeme o kind arguments child .nothing).Fits escape .root)
    (hquotable : (Shape.lexeme o kind arguments child .nothing).Quotable escape) :
    ∃ copy : Chain, Laid escape ('=' :: ' ' :: (o.chars ++ callChars kind arguments.texts
        ++ child.later)) [.sign '=', copy]
      ∧ Shape.path copy.steps .nothing = .lexeme o kind arguments child .nothing := by
  obtain ⟨⟨p, hp⟩, hkind, hchild, -, -⟩ := hfits
  obtain ⟨ho, hargumentsQuotable, hchildQuotable, -⟩ := hquotable
  have hroot : kind = .function ∨ kind = o.kindIn .plain ∧ arguments = .nothing := by
    rcases hkind with ⟨hfunction, -⟩ | ⟨⟨group, rfl, hgroup⟩, hnone⟩
    · exact .inl hfunction
    · exact .inr ⟨hgroup, hnone⟩
  obtain ⟨passed, last, ts, hdraws, hpath⟩ := redraws_call plain_ne_function hroot
    (hargumentsQuotable.redrawn.list hkind) (hchildQuotable.redrawn.later hchild)
  refine ⟨.of o ts passed last, ?_, hpath⟩
  have hblank : Blanks [' '] := by simp [Blanks, isBlank, blanks]
  have hlaid := Laid.insert .nil hblank (hp.chars ho) hdraws .nil (.blanks .nil)
  simpa using hlaid

/-- What is written down of a path that fits is read as the sign and a path of the same shape. -/
theorem Arena.Shows.reread {a : Arena} {place : Place} {r : Nat} {o : Operand}
    {kind : LexemeKind} {arguments child next : Shape}
    (h : a.Shows place r (.lexeme o kind arguments child next))
    (hfits : (Shape.lexeme o kind arguments child .nothing).Fits escape .root)
    (hsize : r + (Shape.lexeme o kind arguments child next).size ≤ a.size)
    (hquotes : ∀ id ∈ a.walk r, ∀ quote, (a.get id).quote = some quote →
      quote ∉ (a.get id).value.toList ∧ escape ∉ (a.get id).value.toList) :
    let again := Expression.read ("= " ++ a.expression r) escape
    again.2.issues = [] ∧ ∃ copy, again.2.roots = [0, copy] ∧ ∃ place',
      again.1.Shows place' copy (.lexeme o kind arguments child .nothing) := by
  intro again
  simp only [Shape.size] at hsize
  have harguments := h.2.1
  have hchild := h.2.2.1
  have hwalk := h.walk_root hfits.straight (by omega)
  -- the walk goes through all operands of the path
  have hoperand : ∀ j, r ≤ j → j < r + (1 + arguments.size + child.size) →
      Operand.Quotable escape ⟨(a.get j).value, (a.get j).form, (a.get j).quote⟩ := by
    intro j hj hlt
    refine hquotes j ?_
    rw [hwalk]
    exact List.mem_range'_1.2 ⟨hj, hlt⟩
  have hquotable : (Shape.lexeme o kind arguments child .nothing).Quotable escape := by
    refine ⟨?_, harguments.quotable fun j hj hlt => hoperand j (by omega) (by omega),
      hchild.quotable fun j hj hlt => hoperand j (by omega) (by omega), trivial⟩
    rw [← h.operand_eq]
    exact hoperand r (Nat.le_refl _) (by omega)
  have htext : (a.expression r).toList
      = o.chars ++ callChars kind arguments.texts ++ child.later := by
    have htexts := (h.texts a.size (by simp only [Shape.size]; omega)
      (by simp only [Shape.size]; omega)).1
    rw [Shape.heads, Shape.texts] at htexts
    exact (List.cons.inj htexts).1
  obtain ⟨copy, hlaid, hpath⟩ := hfits.laid hquotable
  have hbody : ("= " ++ a.expression r).toList = '=' :: ' ' :: (a.expression r).toList := by
    rw [String.toList_append]
    rfl
  rw [← htext, ← hbody] at hlaid
  have hholds := hlaid.holds
  have hshows := hholds.shows.2.2.2
  refine ⟨hholds.clean, 1, hholds.roots, { role := .sibling, prev := some 0 }, ?_⟩
  rw [← hpath]
  exact hshows

/-- **The canonical form of an expression is read as the same expression.**  Whatever root of a
body without an issue is taken, other than a leading sign, if no quoted literal of it holds its
quote or the escape character, then its canonical text behind an insert sign is read without an
issue as the sign and an expression with the same structure. -/
theorem expression_reread (body : String) (escape : Char) (r : Nat)
    (hclean : (Expression.read body escape).2.issues = [])
    (hroot : r ∈ (Expression.read body escape).2.roots)
    (hsign : leadingChar? body.toList = some '=' ∨ leadingChar? body.toList = some '#' →
      (Expression.read body escape).2.roots.head? ≠ some r)
    (hquotes : ∀ id ∈ (Expression.read body escape).1.walk r, ∀ quote,
      ((Expression.read body escape).1.get id).quote = some quote →
        quote ∉ ((Expression.read body escape).1.get id).value.toList
          ∧ escape ∉ ((Expression.read body escape).1.get id).value.toList) :
    let a := (Expression.read body escape).1
    let again := Expression.read ("= " ++ a.expression r) escape
    again.2.issues = []
      ∧ ∃ sign copy, again.2.roots = [sign, copy] ∧ a.SameExpression again.1 r copy := by
  intro a again
  obtain ⟨chains, hlaid, hholds⟩ := read_holds hclean
  have hfirst : (Expression.read body escape).2.roots.head? = some 0 :=
    (congrArg List.head? hholds.roots).trans (hlaid.first 0).2
  obtain ⟨steps, place, next, hfitting, hshows, hle⟩ := hlaid.shows_fitting hholds.shows
    (hholds.roots ▸ hroot) fun hleads hzero => hsign hleads (hfirst.trans (congrArg some hzero.symm))
  rw [← hholds.size] at hle
  have hfits := hfitting.path (fun _ => rfl) (show Shape.nothing.Fits escape .root from trivial)
  cases hsteps : steps with
  | nil =>
      rw [hsteps] at hfitting
      cases hfitting
  | cons s later =>
      rw [hsteps] at hshows hfits hle
      obtain ⟨hissues, copy, hroots, place', hcopy⟩ := hshows.reread hfits hle hquotes
      exact ⟨hissues, 0, copy, hroots, hshows.sameExpression hcopy⟩

/-- The brackets behind a call reach over two steps, and the copy has them around one. -/
theorem expression_reread_brackets :
    let read := Expression.read "f('b',g) [x . ^1 ] .y d" '\\'
    let again := Expression.read "= f('b', g)[x].^1.y" '\\'
    again.2.issues = [] ∧ ∃ sign copy, again.2.roots = [sign, copy]
      ∧ read.1.SameExpression again.1 0 copy := by
  intro read again
  have hclean : read.2.issues = [] := by decide +kernel
  have hroot : 0 ∈ read.2.roots := by decide +kernel
  have hsign : ¬ (leadingChar? "f('b',g) [x . ^1 ] .y d".toList = some '='
      ∨ leadingChar? "f('b',g) [x . ^1 ] .y d".toList = some '#') := by decide
  have hquotes : ((read.1.walk 0).all fun id => (read.1.get id).quote.all fun quote =>
      !(read.1.get id).value.toList.contains quote
        && !(read.1.get id).value.toList.contains '\\') = true := by decide +kernel
  have htext : "= " ++ read.1.expression 0 = "= f('b', g)[x].^1.y" := by decide +kernel
  have hreread := expression_reread "f('b',g) [x . ^1 ] .y d" '\\' 0 hclean hroot
    (fun h => absurd h hsign) fun id hid quote hquote => by
      have hplain := List.all_eq_true.1 hquotes id hid
      rw [hquote] at hplain
      simpa using hplain
  dsimp only at hreread
  rwa [htext] at hreread

end LayerTemplates
