/-
  LayerTemplates.Proofs.Expression.Walking
  ────────────────────────────────────────
  No operand is lost, shared or reordered.

  A walk starts at a lexeme, goes through its argument list and then through the rest of its path.
  An arena shows a shape in the order of such walks, so the walks from the siblings of a shape list
  the indices at which it stands, one after another; and the roots of a body are the siblings of
  the shape of its chains.  Whoever hangs a lexeme in a shape links to it, so of every link that
  leads on there is one that leads back, and the other way round.

  Main statements:
    * `Arena.Shows.walk` — the walks from the siblings of a shape list it in order.
    * `Arena.Shows.woven` — in a shape the links that lead back are the inverse of the others.
    * `walk_roots` — in a body without an issue both hold of all lexemes.
-/
import LayerTemplates.Proofs.Expression.Fitting
import LayerTemplates.Proofs.Expression.Layout

namespace LayerTemplates

/-! ## §1. Walks. -/

namespace Arena

/-- The lexemes below one, itself included, for arguments and steps nested less than `depth` deep:
first the argument list, each argument in turn, and then the rest of the path. -/
def walkWithin (a : Arena) : Nat → Nat → List Nat
  | 0, _ => []
  | depth + 1, id =>
      let arguments := ((a.get id).firstArg.map a.siblings).getD []
      let later := ((a.get id).child.map (a.walkWithin depth)).getD []
      id :: (arguments.flatMap (a.walkWithin depth) ++ later)

/-- The lexemes below one, itself included; they are nested no deeper than there are lexemes. -/
def walk (a : Arena) (id : Nat) : List Nat := a.walkWithin a.size id

/-- What leads back from a lexeme leads to the one that links to it; nothing links to the first
root. -/
def Backed (a : Arena) (roots : List Nat) (id : Nat) : Prop :=
  match (a.get id).role with
  | .root => roots.head? = some id
  | .child => ∃ p, (a.get id).parent = some p ∧ (a.get p).child = some id
  | .firstArg => ∃ p, (a.get id).parent = some p ∧ (a.get p).firstArg = some id
  | .sibling => ∃ p, (a.get id).prev = some p ∧ (a.get p).next = some id
      ∧ (a.get id).parent = (a.get p).parent

/-- What a lexeme links to has the role of the link and leads back to it. -/
structure Leading (a : Arena) (id : Nat) : Prop where
  child : ∀ t, (a.get id).child = some t → (a.get t).role = .child ∧ (a.get t).parent = some id
  firstArg : ∀ t, (a.get id).firstArg = some t →
    (a.get t).role = .firstArg ∧ (a.get t).parent = some id
  next : ∀ t, (a.get id).next = some t →
    (a.get t).role = .sibling ∧ (a.get t).prev = some id ∧ (a.get t).parent = (a.get id).parent

end Arena

/-! ## §2. Shapes in order. -/

namespace Shape

/-- The indices of a lexeme and its siblings, if a shape stands from an index on. -/
def heads : Nat → Shape → List Nat
  | _, .nothing => []
  | id, .lexeme _ _ arguments child next =>
      id :: heads (id + 1 + arguments.size + child.size) next

/-- A lexeme without a sibling, if any. -/
def Single : Shape → Prop
  | .nothing => True
  | .lexeme _ _ _ _ next => next = .nothing

/-- No step of a path has a sibling, but for the first. -/
def Straight : Shape → Prop
  | .nothing => True
  | .lexeme _ _ arguments child next =>
      arguments.Straight ∧ child.Straight ∧ child.Single ∧ next.Straight

theorem Fits.single {escape : Char} {shape : Shape} (h : shape.Fits escape .step) :
    shape.Single := by
  cases shape with
  | nothing => trivial
  | lexeme o kind arguments child next => exact h.2.2.2.1 rfl

theorem Fits.straight {escape : Char} {shape : Shape} :
    ∀ {site : Site}, shape.Fits escape site → shape.Straight := by
  induction shape with
  | nothing => intro _ _; trivial
  | lexeme o kind arguments child next iharguments ihchild ihnext =>
      rintro site ⟨-, harguments, hchild, -, hnext⟩
      refine ⟨?_, ihchild hchild, hchild.single, ihnext hnext⟩
      rcases harguments with ⟨-, harguments⟩ | ⟨-, rfl⟩
      · exact iharguments harguments
      · trivial

/-- What is read from the only lexeme of a shape is read from all of its heads. -/
theorem Single.flatMap {shape : Shape} (h : shape.Single) (id : Nat) (f : Nat → List Nat) :
    ((shape.link? id).map f).getD [] = (shape.heads id).flatMap f := by
  cases shape with
  | nothing => rfl
  | lexeme o kind arguments child next =>
      obtain rfl : next = .nothing := h
      simp [heads]

end Shape

namespace Arena

variable {a : Arena} {shape : Shape}

/-- A chain of links goes on from the shape to which the first link leads. -/
theorem chain_link {link : Lexeme → Option Nat} {fuel id next : Nat} {rest : Shape}
    {indices : List Nat} (hlink : link (a.get id) = rest.link? next) (hsize : rest.size ≤ fuel)
    (hnone : rest = .nothing → indices = [])
    (hsome : rest ≠ .nothing → ∀ fewer, fuel = fewer + 1 → a.chain link fewer next = indices) :
    a.chain link fuel id = id :: indices := by
  cases rest with
  | nothing =>
      rw [hnone rfl]
      cases fuel with
      | zero => rfl
      | succ fewer =>
          unfold chain
          rw [hlink]
          rfl
  | lexeme o kind arguments child sibling =>
      cases fuel with
      | zero => simp only [Shape.size] at hsize; omega
      | succ fewer =>
          unfold chain
          rw [hlink]
          exact congrArg (id :: ·) (hsome (by simp) fewer rfl)

/-- Siblings are followed to the last one. -/
theorem Shows.siblings (fuel : Nat) :
    ∀ {place : Place} {id : Nat}, a.Shows place id shape → shape ≠ .nothing →
      shape.size ≤ fuel + 1 → a.chain Lexeme.next fuel id = shape.heads id := by
  induction shape generalizing fuel with
  | nothing => exact fun _ hne => absurd rfl hne
  | lexeme o kind arguments child next _ _ ih =>
      intro place id h _ hsize
      simp only [Shape.size] at hsize
      refine chain_link h.next_eq (by omega) (fun hnone => by rw [hnone]; rfl) fun hne fewer hf => ?_
      exact ih fewer h.2.2.2 hne (by omega)

/-- The argument list of a lexeme is followed to its end. -/
theorem Shows.listed {place : Place} {id : Nat} {o : Operand} {kind : LexemeKind}
    {arguments child next : Shape} (h : a.Shows place id (.lexeme o kind arguments child next))
    (hsize : arguments.size ≤ a.size) :
    ((a.get id).firstArg.map a.siblings).getD [] = arguments.heads (id + 1) := by
  have ⟨_, harguments, _, _⟩ := h
  rw [h.firstArg_eq]
  cases arguments with
  | nothing => rfl
  | lexeme => exact harguments.siblings a.size (by simp) (Nat.le_succ_of_le hsize)

/-- The walk from a lexeme, if those from its arguments and from its child are known. -/
theorem Shows.walkWithin {place : Place} {id depth : Nat} {o : Operand} {kind : LexemeKind}
    {arguments child next : Shape} (h : a.Shows place id (.lexeme o kind arguments child next))
    (hsingle : child.Single) (hsize : arguments.size ≤ a.size)
    (harguments : (arguments.heads (id + 1)).flatMap (a.walkWithin depth)
      = List.range' (id + 1) arguments.size)
    (hchild : (child.heads (id + 1 + arguments.size)).flatMap (a.walkWithin depth)
      = List.range' (id + 1 + arguments.size) child.size) :
    a.walkWithin (depth + 1) id = List.range' id (1 + arguments.size + child.size) := by
  have hlater : ((a.get id).child.map (a.walkWithin depth)).getD []
      = (child.heads (id + 1 + arguments.size)).flatMap (a.walkWithin depth) := by
    rw [h.child_eq]
    exact hsingle.flatMap _ _
  unfold Arena.walkWithin
  dsimp only
  rw [h.listed hsize, hlater, harguments, hchild, Nat.add_assoc 1, Nat.add_comm 1,
    List.range'_succ, List.range'_append_1]

/-- **The walks from the siblings of a shape list it in order.** -/
theorem Shows.walk (depth : Nat) :
    ∀ {place : Place} {id : Nat}, a.Shows place id shape → shape.Straight → shape.size ≤ depth →
      shape.size ≤ a.size →
      (shape.heads id).flatMap (a.walkWithin depth) = List.range' id shape.size := by
  -- along the shape; arguments and steps are walked with one level less
  induction shape generalizing depth with
  | nothing => intros; rfl
  | lexeme o kind arguments child next iharguments ihchild ihnext =>
      intro place id h hstraight hdepth hsize
      have ⟨_, harguments, hchild, hnext⟩ := h
      obtain ⟨hargumentsStraight, hchildStraight, hsingle, hnextStraight⟩ := hstraight
      simp only [Shape.size] at hdepth hsize ⊢
      obtain ⟨depth, rfl⟩ : ∃ fewer, depth = fewer + 1 := ⟨depth - 1, by omega⟩
      have hwalk := h.walkWithin hsingle (by omega)
        (iharguments depth harguments hargumentsStraight (by omega) (by omega))
        (ihchild depth hchild hchildStraight (by omega) (by omega))
      rw [Shape.heads, List.flatMap_cons, hwalk,
        ihnext (depth + 1) hnext hnextStraight (by omega) (by omega), Nat.add_assoc id,
        Nat.add_assoc id, List.range'_append_1]

/-- What a link leads to is the first lexeme of a shape. -/
theorem Shows.hung_of_link {place : Place} {id t : Nat} (h : a.Shows place id shape)
    (ht : shape.link? id = some t) :
    (a.get t).role = place.role ∧ (a.get t).parent = place.parent
      ∧ (a.get t).prev = place.prev := by
  cases shape with
  | nothing => exact absurd ht (by simp)
  | lexeme o kind arguments child next =>
      obtain rfl := Option.some.inj ht
      exact ⟨congrArg Lexeme.role h.1, congrArg Lexeme.parent h.1, congrArg Lexeme.prev h.1⟩

/-- Of a shape that stands from an index on, the first lexeme is backed if it is linked to. -/
theorem Shows.backed_of_link {place : Place} {id : Nat} {roots : List Nat}
    (h : a.Shows place id shape)
    (hlinked : shape.link? id = some id → a.Backed roots id)
    (hbehind : ∀ j, id < j → j < id + shape.size → a.Backed roots j) :
    ∀ j, id ≤ j → j < id + shape.size → a.Backed roots j := by
  intro j hj hlt
  rcases Nat.lt_or_eq_of_le hj with hlt' | rfl
  · exact hbehind j hlt' hlt
  · cases shape with
    | nothing => simp at hlt
    | lexeme => exact hlinked rfl

/-- What a lexeme of a shape links to leads back to it. -/
theorem Shows.leading {place : Place} {id : Nat} {o : Operand} {kind : LexemeKind}
    {arguments child next : Shape} (h : a.Shows place id (.lexeme o kind arguments child next)) :
    a.Leading id := by
  have ⟨hview, harguments, hchild, hnext⟩ := h
  have hparent : (a.get id).parent = place.parent := congrArg Lexeme.parent hview
  constructor
  · intro t ht
    obtain ⟨hrole, hback, -⟩ := hchild.hung_of_link (h.child_eq ▸ ht)
    exact ⟨hrole, hback⟩
  · intro t ht
    obtain ⟨hrole, hback, -⟩ := harguments.hung_of_link (h.firstArg_eq ▸ ht)
    exact ⟨hrole, hback⟩
  · intro t ht
    obtain ⟨hrole, hback, hprev⟩ := hnext.hung_of_link (h.next_eq ▸ ht)
    exact ⟨hrole, hprev, hback.trans hparent.symm⟩

/-- What holds of the three parts of a shape holds behind its first lexeme. -/
theorem forall_parts {P : Nat → Prop} {id : Nat} {o : Operand} {kind : LexemeKind}
    {arguments child next : Shape}
    (harguments : ∀ j, id + 1 ≤ j → j < id + 1 + arguments.size → P j)
    (hchild : ∀ j, id + 1 + arguments.size ≤ j → j < id + 1 + arguments.size + child.size → P j)
    (hnext : ∀ j, id + 1 + arguments.size + child.size ≤ j →
      j < id + 1 + arguments.size + child.size + next.size → P j) :
    ∀ j, id < j → j < id + (Shape.lexeme o kind arguments child next).size → P j := by
  intro j hj hlt
  simp only [Shape.size] at hlt
  by_cases h₁ : j < id + 1 + arguments.size
  · exact harguments j hj h₁
  by_cases h₂ : j < id + 1 + arguments.size + child.size
  · exact hchild j (by omega) h₂
  · exact hnext j (by omega) (by omega)

/-- **In a shape the links that lead back are the inverse of the others**: of each of its lexemes,
but for what leads back from the first. -/
theorem Shows.woven (roots : List Nat) :
    ∀ {place : Place} {id : Nat}, a.Shows place id shape →
      (∀ j, id < j → j < id + shape.size → a.Backed roots j)
        ∧ ∀ j, id ≤ j → j < id + shape.size → a.Leading j := by
  induction shape with
  | nothing =>
      refine fun _ => ⟨fun j _ hlt => ?_, fun j _ hlt => ?_⟩ <;>
        simp only [Shape.size_nothing] at hlt <;> omega
  | lexeme o kind arguments child next iharguments ihchild ihnext =>
      intro place id h
      have ⟨hview, harguments, hchild, hnext⟩ := h
      obtain ⟨hbacked₁, hleading₁⟩ := iharguments harguments
      obtain ⟨hbacked₂, hleading₂⟩ := ihchild hchild
      obtain ⟨hbacked₃, hleading₃⟩ := ihnext hnext
      have hparent : (a.get id).parent = place.parent := congrArg Lexeme.parent hview
      -- the first lexeme links to the three parts, so it backs the first lexeme of each
      have hall₁ := harguments.backed_of_link (fun hlink => by
        obtain ⟨hrole, hback, -⟩ := harguments.hung_of_link hlink
        unfold Backed
        rw [hrole]
        exact ⟨id, hback, h.firstArg_eq.trans hlink⟩) hbacked₁
      have hall₂ := hchild.backed_of_link (fun hlink => by
        obtain ⟨hrole, hback, -⟩ := hchild.hung_of_link hlink
        unfold Backed
        rw [hrole]
        exact ⟨id, hback, h.child_eq.trans hlink⟩) hbacked₂
      have hall₃ := hnext.backed_of_link (fun hlink => by
        obtain ⟨hrole, hback, hprev⟩ := hnext.hung_of_link hlink
        unfold Backed
        rw [hrole]
        exact ⟨id, hprev, h.next_eq.trans hlink, hback.trans hparent.symm⟩) hbacked₃
      refine ⟨forall_parts hall₁ hall₂ hall₃, fun j hj hlt => ?_⟩
      rcases Nat.eq_or_lt_of_le hj with rfl | hj
      · exact h.leading
      · exact forall_parts hleading₁ hleading₂ hleading₃ j hj hlt

end Arena

/-! ## §3. Bodies. -/

namespace Chain

variable {chains : List Chain}

/-- The roots of chains are the siblings of their shape. -/
theorem rootsFrom_eq (chains : List Chain) (hne : ∀ c ∈ chains, c.steps ≠ []) :
    ∀ id, rootsFrom id chains = (shape chains).heads id := by
  induction chains with
  | nil => exact fun _ => rfl
  | cons c others ih =>
      intro id
      have hrest := ih fun c hc => hne c (List.mem_cons_of_mem _ hc)
      cases hsteps : c.steps with
      | nil => exact absurd hsteps (hne c List.mem_cons_self)
      | cons s later =>
          rw [rootsFrom, shape, hsteps, hrest, Shape.path, Shape.path, Shape.heads]
          simp only [Shape.size, Nat.add_assoc, Nat.add_zero]

theorem straight_shape (h : ∀ c ∈ chains, (Shape.path c.steps .nothing).Straight) :
    (shape chains).Straight := by
  induction chains with
  | nil => trivial
  | cons c others ih =>
      have hrest := ih fun c hc => h c (List.mem_cons_of_mem _ hc)
      have hfirst := h c List.mem_cons_self
      unfold shape
      cases hsteps : c.steps with
      | nil => trivial
      | cons s later =>
          rw [hsteps] at hfirst
          obtain ⟨harguments, hlater, hsingle, -⟩ := hfirst
          exact ⟨harguments, hlater, hsingle, hrest⟩

end Chain

/-- A chain of a body has a step, and no step after the first has a sibling. -/
theorem Laid.straight {escape : Char} {body : List Char} {chains : List Chain}
    (h : Laid escape body chains) :
    ∀ c ∈ chains, c.steps ≠ [] ∧ (Shape.path c.steps .nothing).Straight := by
  obtain ⟨signs, others, rfl, hfits, hsigns⟩ := h.fits
  rw [List.forall_mem_append]
  constructor
  · rcases hsigns with rfl | ⟨c, rfl, -⟩
    · simp
    · exact List.forall_mem_singleton.2 ⟨by simp [Chain.sign], trivial, trivial, trivial, trivial⟩
  · intro c hc
    have hfitting := hfits c hc
    refine ⟨?_, (hfitting.path (fun _ => rfl) trivial).straight⟩
    cases hsteps : c.steps with
    | nil =>
        rw [hsteps] at hfitting
        cases hfitting
    | cons => simp

/-- A body has a first chain. -/
theorem Laid.first {escape : Char} {body : List Char} {chains : List Chain}
    (h : Laid escape body chains) (id : Nat) :
    (Chain.shape chains).link? id = some id ∧ (Chain.rootsFrom id chains).head? = some id := by
  have hne : chains ≠ [] := by cases h <;> simp
  cases chains with
  | nil => exact absurd rfl hne
  | cons c others =>
      have hsteps := (h.straight c List.mem_cons_self).1
      refine ⟨?_, rfl⟩
      unfold Chain.shape
      cases hc : c.steps with
      | nil => exact absurd hc hsteps
      | cons => rfl

/-- **No operand is lost, shared or reordered.**  In a body without an issue the walks from the
roots list every lexeme exactly once, in the order in which they were read.  What leads back from a
lexeme leads to the one that links to it, what a lexeme links to leads back to it, and the first
root is the only lexeme that has the role of a root. -/
theorem walk_roots (body : String) (escape : Char)
    (hclean : (Expression.read body escape).2.issues = []) :
    let a := (Expression.read body escape).1
    let roots := (Expression.read body escape).2.roots
    roots.flatMap a.walk = List.range a.size
      ∧ (∀ id < a.size, a.Backed roots id ∧ a.Leading id)
      ∧ ∀ id, roots.head? = some id → (a.get id).role = .root := by
  intro a roots
  obtain ⟨chains, hlaid, hholds⟩ := read_holds hclean
  have hshows : a.Shows { role := .root } 0 (Chain.shape chains) := hholds.shows
  have hsize : a.size = (Chain.shape chains).size := hholds.size
  have hroots : roots = (Chain.shape chains).heads 0 :=
    hholds.roots.trans (Chain.rootsFrom_eq chains (fun c hc => (hlaid.straight c hc).1) 0)
  obtain ⟨hbacked, hleading⟩ := hshows.woven roots
  have hfirst : (Chain.shape chains).link? 0 = some 0 ∧ roots.head? = some 0 :=
    ⟨(hlaid.first 0).1, (congrArg List.head? hholds.roots).trans (hlaid.first 0).2⟩
  obtain ⟨hrole, -, -⟩ := hshows.hung_of_link hfirst.1
  refine ⟨?_, fun id hid => ⟨?_, hleading id (Nat.zero_le _) (by omega)⟩, fun id hid => ?_⟩
  · rw [hroots, List.range_eq_range', hsize]
    exact hshows.walk a.size (Chain.straight_shape fun c hc => (hlaid.straight c hc).2)
      (Nat.le_of_eq hsize.symm) (Nat.le_of_eq hsize.symm)
  · refine hshows.backed_of_link (fun _ => ?_) hbacked id (Nat.zero_le _) (by omega)
    unfold Arena.Backed
    rw [hrole]
    exact hfirst.2
  · obtain rfl : 0 = id := Option.some.inj (hfirst.2.symm.trans hid)
    exact hrole

/-- Two roots; the first calls a function and goes on in brackets. -/
theorem walk_roots_call :
    let read := Expression.read "f(a, b.c)[d] e" '\\'
    read.2.issues = [] ∧ read.2.roots.flatMap read.1.walk = [0, 1, 2, 3, 4, 5]
      ∧ read.1.Backed read.2.roots 4 := by
  intro read
  have hclean : read.2.issues = [] := by decide +kernel
  have hsize : List.range read.1.size = [0, 1, 2, 3, 4, 5] := by decide +kernel
  have hwalk := walk_roots "f(a, b.c)[d] e" '\\' hclean
  exact ⟨hclean, hwalk.1.trans hsize, (hwalk.2.1 4 (by decide +kernel)).1⟩

end LayerTemplates
