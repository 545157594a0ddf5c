/-
  LayerTemplates.Proofs.Control.Outlining
  ───────────────────────────────────────
  What the outline of a control tree says.

  The outline goes through the blocks of a tree and gives every text and every insert a line, and
  every conditional three, with the lines of its branches between them.  Lines are indented by
  the conditionals around them, so the indentation alone tells how the tree is nested.  Literal
  text is escaped before it is shown, but a target is shown as it is: a line holds a line feed if
  the text of a target does, and for no other reason.

  Main statements:
    * `unbroken_preview` — no literal text breaks a line.
    * `Nesting.indents_injective` — how a tree is nested is read back from its indentation.
    * `Outlined.length_lines`, `Outlined.leadingBlanks_lines`, `Outlined.unbroken_iff` — how many
      lines there are, how they are indented, and when one of them is broken.
    * `Visits.outlined` — the lines of the items that are met on a way through a tree.
    * `TreeBuilder.outlined` — the outline of a tree that is built goes through all of its nodes.
-/
import LayerTemplates.Control.Outline
import LayerTemplates.Proofs.Control.Traversal

namespace LayerTemplates

/-! ## §1. Lines. -/

/-- No line ends within a text. -/
def Unbroken (text : String) : Prop := '\n' ∉ text.toList

instance (text : String) : Decidable (Unbroken text) :=
  inferInstanceAs (Decidable ('\n' ∉ text.toList))

theorem unbroken_append {s t : String} : Unbroken (s ++ t) ↔ Unbroken s ∧ Unbroken t := by
  unfold Unbroken
  rw [String.toList_append, List.mem_append, not_or]

theorem unbroken_ofList {chars : List Char} : Unbroken (String.ofList chars) ↔ '\n' ∉ chars := by
  unfold Unbroken
  rw [String.toList_ofList]

theorem toList_indentation (depth : Nat) :
    (indentation depth).toList = List.replicate (2 * depth) ' ' := by
  have hpushed : ∀ count, ("".pushn ' ' count).toList = List.replicate count ' ' := by
    intro count
    induction count with
    | zero => rfl
    | succ count ih =>
        show (("".pushn ' ' count).push ' ').toList = _
        rw [String.toList_push, ih, List.replicate_succ']
  exact hpushed (2 * depth)

theorem unbroken_indentation (depth : Nat) : Unbroken (indentation depth) := by
  unfold Unbroken
  rw [toList_indentation]
  intro hmem
  exact absurd (List.eq_of_mem_replicate hmem) (by decide)

/-- The digits of a number are no line ends. -/
theorem not_mem_toDigits (n : Nat) : '\n' ∉ Nat.toDigits 16 n := by
  have hdigit : ∀ d < 16, d.digitChar ≠ '\n' := by decide
  have hcore : ∀ (fuel n : Nat) (digits : List Char), '\n' ∉ digits →
      '\n' ∉ Nat.toDigitsCore 16 fuel n digits := by
    intro fuel
    induction fuel with
    | zero => exact fun n digits h => h
    | succ fuel ih =>
        intro n digits h
        have hmore : '\n' ∉ (n % 16).digitChar :: digits := by
          rw [List.mem_cons, not_or]
          exact ⟨Ne.symm (hdigit (n % 16) (Nat.mod_lt n (by decide))), h⟩
        unfold Nat.toDigitsCore
        dsimp only
        split
        · exact hmore
        · exact ih _ _ hmore
  exact hcore _ _ _ List.not_mem_nil

/-- A line end is never written as it is. -/
theorem not_mem_escapedChar (rule : EscapeRule) (c : Char) : '\n' ∉ escapedChar rule c := by
  unfold escapedChar
  split
  · decide
  split
  · decide
  split
  · decide
  split
  · decide
  next hline =>
  split
  · decide
  have hne : '\n' ≠ c := fun heq => hline (beq_iff_eq.2 heq.symm)
  split
  · simp [hne]
  split
  · unfold codePointEscape
    have hdigits := not_mem_toDigits c.toNat
    simp [hdigits]
  · simp [hne]

theorem not_mem_escaped (text : String) : '\n' ∉ escaped text := by
  unfold escaped
  split
  · exact List.not_mem_nil
  · rw [List.mem_append, not_or, List.mem_flatMap]
    refine ⟨not_mem_escapedChar _ _, ?_⟩
    rintro ⟨c, -, hc⟩
    exact not_mem_escapedChar _ c hc

/-- **No literal text breaks a line.** -/
theorem unbroken_preview (text : String) : Unbroken (preview text) := by
  have hquote : Unbroken "\"" := by decide
  have hcut : Unbroken "...\"" := by decide
  have hvisible := not_mem_escaped text
  unfold preview
  dsimp only
  split
  · rw [unbroken_append, unbroken_append]
    refine ⟨⟨hquote, unbroken_ofList.2 fun hmem => ?_⟩, hcut⟩
    exact hvisible (List.mem_of_mem_take hmem)
  · rw [unbroken_append, unbroken_append]
    exact ⟨⟨hquote, unbroken_ofList.2 hvisible⟩, hquote⟩

/-- The number of spaces with which a line starts. -/
def leadingBlanks (line : String) : Nat := (line.toList.takeWhile fun c => c == ' ').length

/-- A line is indented by what stands before the first character that is no space. -/
theorem leadingBlanks_indented (depth : Nat) {rest : String} (spaces : Nat) {c : Char}
    {chars : List Char} (hrest : rest.toList = List.replicate spaces ' ' ++ c :: chars)
    (hc : c ≠ ' ') : leadingBlanks (indentation depth ++ rest) = 2 * depth + spaces := by
  unfold leadingBlanks
  rw [String.toList_append, toList_indentation, hrest, ← List.append_assoc,
    List.replicate_append_replicate, List.takeWhile_append_of_pos (by simp),
    List.takeWhile_cons_of_neg (by simpa using hc), List.append_nil, List.length_replicate]

/-! ## §2. How a tree is nested. -/

/-- The nodes of a block, as far as it is seen from them how the tree is nested. -/
inductive Nesting where
  | nothing
  /-- A text or an insert, and what stands behind it. -/
  | leaf (rest : Nesting)
  /-- A conditional with its branches, and what stands behind it. -/
  | branching (onTrue onFalse rest : Nesting)
  deriving Repr, DecidableEq, Inhabited

namespace Nesting

/-- The indentation of the lines of a block inside so many conditionals. -/
def indents (depth : Nat) : Nesting → List Nat
  | nothing => []
  | leaf rest => 4 * depth :: rest.indents depth
  | branching onTrue onFalse rest =>
      4 * depth :: (4 * depth + 2) :: (onTrue.indents (depth + 1)
        ++ (4 * depth + 2) :: (onFalse.indents (depth + 1) ++ rest.indents depth))

/-- The lines of a block come first, those after it are less indented. -/
theorem head?_indents (depth : Nat) (nesting : Nesting) (rest : List Nat)
    (hrest : ∀ n ∈ rest.head?, n < 4 * depth) :
    ∀ n ∈ (nesting.indents depth ++ rest).head?, n ≤ 4 * depth := by
  intro n hn
  cases nesting with
  | nothing => exact Nat.le_of_lt (hrest n hn)
  | leaf more | branching onTrue onFalse more => exact Nat.le_of_eq (Option.some.inj hn).symm

/-- Blocks with the same lines are nested alike, and so is what follows them. -/
theorem indents_append_inj {nesting : Nesting} :
    ∀ {depth : Nat} {other : Nesting} {rest rest' : List Nat},
      (∀ n ∈ rest.head?, n < 4 * depth) → (∀ n ∈ rest'.head?, n < 4 * depth) →
      nesting.indents depth ++ rest = other.indents depth ++ rest' →
        nesting = other ∧ rest = rest' := by
  -- on the nodes of the first block; what stands behind a node is not indented like a branch
  induction nesting with
  | nothing =>
      intro depth other rest rest' hrest hrest' h
      cases other with
      | nothing => exact ⟨rfl, h⟩
      | leaf more | branching onTrue onFalse more =>
          have hhead : rest.head? = some (4 * depth) := by
            rw [show rest = _ from h]
            rfl
          exact absurd (hrest _ hhead) (Nat.lt_irrefl _)
  | leaf more ih =>
      intro depth other rest rest' hrest hrest' h
      cases other with
      | nothing =>
          have hhead : rest'.head? = some (4 * depth) := by
            rw [show rest' = _ from h.symm]
            rfl
          exact absurd (hrest' _ hhead) (Nat.lt_irrefl _)
      | leaf more' =>
          obtain ⟨rfl, hsame⟩ := ih hrest hrest' (List.cons.inj h).2
          exact ⟨rfl, hsame⟩
      | branching onTrue onFalse more' =>
          have hbehind : more.indents depth ++ rest = _ := (List.cons.inj h).2
          have hle := head?_indents depth more rest hrest (4 * depth + 2) (by rw [hbehind]; rfl)
          omega
  | branching onTrue onFalse more ih₁ ih₂ ih₃ =>
      intro depth other rest rest' hrest hrest' h
      cases other with
      | nothing =>
          have hhead : rest'.head? = some (4 * depth) := by
            rw [show rest' = _ from h.symm]
            rfl
          exact absurd (hrest' _ hhead) (Nat.lt_irrefl _)
      | leaf more' =>
          have hbehind : more'.indents depth ++ rest' = _ := (List.cons.inj h).2.symm
          have hle := head?_indents depth more' rest' hrest' (4 * depth + 2) (by rw [hbehind]; rfl)
          omega
      | branching onTrue' onFalse' more' =>
          have hlines : (onTrue.indents (depth + 1)
                ++ (4 * depth + 2) :: (onFalse.indents (depth + 1) ++ more.indents depth)) ++ rest
              = (onTrue'.indents (depth + 1)
                ++ (4 * depth + 2) :: (onFalse'.indents (depth + 1) ++ more'.indents depth))
                ++ rest' :=
            (List.cons.inj (List.cons.inj h).2).2
          simp only [List.append_assoc, List.cons_append] at hlines
          have hinner : ∀ lines : List Nat, ∀ n ∈ ((4 * depth + 2) :: lines).head?,
              n < 4 * (depth + 1) := by
            intro lines n hn
            obtain rfl := Option.some.inj hn
            omega
          have houter : ∀ (block : Nesting) (lines : List Nat), (∀ n ∈ lines.head?, n < 4 * depth) →
              ∀ n ∈ (block.indents depth ++ lines).head?, n < 4 * (depth + 1) := by
            intro block lines hlines n hn
            have := head?_indents depth block lines hlines n hn
            omega
          obtain ⟨rfl, hfalse⟩ := ih₁ (hinner _) (hinner _) hlines
          obtain ⟨rfl, hbehind⟩ :=
            ih₂ (houter more rest hrest) (houter more' rest' hrest') (List.cons.inj hfalse).2
          obtain ⟨rfl, hsame⟩ := ih₃ hrest hrest' hbehind
          exact ⟨rfl, hsame⟩

/-- **How a tree is nested is read back from the indentation of its lines.** -/
theorem indents_injective {nesting other : Nesting} (h : nesting.indents 0 = other.indents 0) :
    nesting = other := by
  have hnil : ∀ n ∈ ([] : List Nat).head?, n < 4 * 0 := fun n hn => absurd hn (by simp)
  exact (indents_append_inj hnil hnil (congrArg (· ++ []) h)).1

end Nesting

/-! ## §3. Outlines. -/

namespace ControlTree

/-- The line of a node that shows a target. -/
def targetLine (a : Arena) (depth : Nat) (what : String) (target : Option LexemeId) : String :=
  indentation (2 * depth) ++ what ++ targetText a target

/-- The lines of the nodes `ids`, which stand inside so many conditionals; the nodes that are met,
and how they are nested. -/
inductive Outlined (t : ControlTree) (a : Arena) :
    Nat → List NodeId → List NodeId → Nesting → List String → Prop
  | nil {depth : Nat} : Outlined t a depth [] [] .nothing []
  | text {depth : Nat} {id : NodeId} {lexeme : LexemeId} {ids met : List NodeId}
      {nesting : Nesting} {lines : List String} (found : t.shape? id = some (.text lexeme))
      (rest : Outlined t a depth ids met nesting lines) :
      Outlined t a depth (id :: ids) (id :: met) (.leaf nesting)
        ((indentation (2 * depth) ++ "text " ++ preview (a.get lexeme).value) :: lines)
  | insert {depth : Nat} {id : NodeId} {target : Option LexemeId} {ids met : List NodeId}
      {nesting : Nesting} {lines : List String} (found : t.shape? id = some (.insert target))
      (rest : Outlined t a depth ids met nesting lines) :
      Outlined t a depth (id :: ids) (id :: met) (.leaf nesting)
        (targetLine a depth "insert " target :: lines)
  | conditional {depth : Nat} {id : NodeId} {c : Conditional} {ids onTrue onFalse met : List NodeId}
      {inTrue inFalse nesting : Nesting} {linesTrue linesFalse lines : List String}
      (found : t.shape? id = some (.conditional c))
      (true : Outlined t a (depth + 1) (t.block c.truePath).nodes onTrue inTrue linesTrue)
      (false : Outlined t a (depth + 1) (t.block c.falsePath).nodes onFalse inFalse linesFalse)
      (rest : Outlined t a depth ids met nesting lines) :
      Outlined t a depth (id :: ids) (id :: (onTrue ++ onFalse) ++ met)
        (.branching inTrue inFalse nesting)
        (targetLine a depth (if c.invert then "unless " else "if ") c.target
          :: (indentation (2 * depth) ++ "  true:") :: (linesTrue
            ++ (indentation (2 * depth) ++ "  false:") :: (linesFalse ++ lines)))

/-- The number of lines that a node takes. -/
def lineCount (t : ControlTree) (id : NodeId) : Nat :=
  match t.shape? id with
  | some (.conditional _) => 3
  | some (.text _) | some (.insert _) => 1
  | none => 0

/-- The number of lines that some nodes take. -/
def lineTotal (t : ControlTree) (ids : List NodeId) : Nat :=
  ids.foldr (fun id total => t.lineCount id + total) 0

theorem lineTotal_cons (t : ControlTree) (id : NodeId) (ids : List NodeId) :
    t.lineTotal (id :: ids) = t.lineCount id + t.lineTotal ids := rfl

theorem lineTotal_append (t : ControlTree) (ids others : List NodeId) :
    t.lineTotal (ids ++ others) = t.lineTotal ids + t.lineTotal others := by
  induction ids with
  | nil => exact (Nat.zero_add _).symm
  | cons id ids ih => rw [List.cons_append, lineTotal_cons, lineTotal_cons, ih, Nat.add_assoc]

/-- The order of the nodes does not matter. -/
theorem lineTotal_perm (t : ControlTree) {ids others : List NodeId} (h : ids.Perm others) :
    t.lineTotal ids = t.lineTotal others := by
  induction h with
  | nil => rfl
  | cons id _ ih => rw [lineTotal_cons, lineTotal_cons, ih]
  | swap id other ids => exact Nat.add_left_comm _ _ _
  | trans _ _ ih₁ ih₂ => exact ih₁.trans ih₂

/-- The target that a node shows, if it shows one. -/
def target? (t : ControlTree) (id : NodeId) : Option (Option LexemeId) :=
  match t.shape? id with
  | some (.insert target) => some target
  | some (.conditional c) => some c.target
  | some (.text _) | none => none

namespace Outlined

variable {t : ControlTree} {a : Arena} {depth : Nat} {ids met : List NodeId} {nesting : Nesting}
  {lines : List String}

/-- **Every node that is met takes its lines, and there are no others.** -/
theorem length_lines (h : t.Outlined a depth ids met nesting lines) :
    lines.length = t.lineTotal met := by
  induction h with
  | nil => rfl
  | text found rest ih | insert found rest ih =>
      rw [List.length_cons, lineTotal_cons, ih]
      unfold lineCount
      rw [found]
      exact Nat.add_comm _ 1
  | @conditional _ id _ _ _ _ _ _ _ _ _ _ _ found true false rest ih₁ ih₂ ih₃ =>
      have hcount : t.lineCount id = 3 := by
        unfold lineCount
        rw [found]
      simp only [List.length_cons, List.length_append, List.cons_append, lineTotal_cons,
        lineTotal_append, ih₁, ih₂, ih₃, hcount]
      omega

/-- **Lines are indented by the conditionals around them.** -/
theorem leadingBlanks_lines (h : t.Outlined a depth ids met nesting lines) :
    lines.map leadingBlanks = nesting.indents depth := by
  have htarget : ∀ (depth : Nat) (what : String) (c : Char) (chars : List Char) target,
      what.toList = c :: chars → c ≠ ' ' →
        leadingBlanks (targetLine a depth what target) = 4 * depth := by
    intro depth what c chars target hwhat hc
    unfold targetLine
    rw [String.append_assoc, leadingBlanks_indented _ 0 (c := c) (by
      rw [String.toList_append, hwhat]
      rfl) hc]
    omega
  have hbranch : ∀ (depth : Nat) (what : String) (c : Char) (chars : List Char),
      what.toList = ' ' :: ' ' :: c :: chars → c ≠ ' ' →
        leadingBlanks (indentation (2 * depth) ++ what) = 4 * depth + 2 := by
    intro depth what c chars hwhat hc
    rw [leadingBlanks_indented _ 2 (c := c) (by rw [hwhat]; rfl) hc]
    omega
  -- along the outline: the words of a line start with a letter, the branches are set in by two
  induction h with
  | nil => rfl
  | @text depth id lexeme ids met nesting lines found rest ih =>
      rw [List.map_cons, ih, String.append_assoc, leadingBlanks_indented _ 0 (c := 't') (by
        rw [String.toList_append]
        rfl) (by decide)]
      show _ = 4 * depth :: _
      congr 1
      omega
  | insert found rest ih =>
      rw [List.map_cons, ih, htarget _ _ 'i' _ _ rfl (by decide)]
      rfl
  | @conditional depth id c _ _ _ _ _ _ _ _ _ _ found true false rest ih₁ ih₂ ih₃ =>
      have hhead : leadingBlanks (targetLine a depth (if c.invert then "unless " else "if ")
          c.target) = 4 * depth := by
        cases c.invert with
        | true => exact htarget _ _ 'u' _ _ rfl (by decide)
        | false => exact htarget _ _ 'i' _ _ rfl (by decide)
      simp only [List.map_cons, List.map_append, ih₁, ih₂, ih₃, hhead]
      rw [hbranch _ _ 't' _ rfl (by decide), hbranch _ _ 'f' _ rfl (by decide)]
      rfl

/-- **A line is broken only where the text of a target is.** -/
theorem unbroken_iff (h : t.Outlined a depth ids met nesting lines) :
    (∀ line ∈ lines, Unbroken line)
      ↔ ∀ id ∈ met, ∀ target, t.target? id = some target → Unbroken (targetText a target) := by
  have htarget : ∀ (depth : Nat) (what : String) target, Unbroken what →
      (Unbroken (targetLine a depth what target) ↔ Unbroken (targetText a target)) := by
    intro depth what target hwhat
    unfold targetLine
    rw [unbroken_append, unbroken_append]
    exact ⟨And.right, fun h => ⟨⟨unbroken_indentation _, hwhat⟩, h⟩⟩
  have hbranch : ∀ (depth : Nat) (what : String), Unbroken what →
      Unbroken (indentation depth ++ what) := fun depth what hwhat =>
    unbroken_append.2 ⟨unbroken_indentation _, hwhat⟩
  -- along the outline: of all that is written only the text of a target may break a line
  induction h with
  | nil => simp
  | @text depth id lexeme ids met nesting lines found rest ih =>
      have hnone : t.target? id = none := by
        unfold target?
        rw [found]
      have hline : Unbroken
          (indentation (2 * depth) ++ "text " ++ preview (a.get lexeme).value) :=
        unbroken_append.2 ⟨hbranch _ _ (by decide), unbroken_preview _⟩
      simp only [List.forall_mem_cons, hnone, ih]
      simp [hline]
  | @insert depth id target ids met nesting lines found rest ih =>
      have hsome : t.target? id = some target := by
        unfold target?
        rw [found]
      simp only [List.forall_mem_cons, hsome, ih, htarget _ _ _ (by decide : Unbroken "insert ")]
      simp
  | @conditional depth id c _ _ _ _ _ _ _ _ _ _ found true false rest ih₁ ih₂ ih₃ =>
      have hsome : t.target? id = some c.target := by
        unfold target?
        rw [found]
      have hwhat : Unbroken (if c.invert then "unless " else "if ") := by
        cases c.invert <;> decide
      have htrue := hbranch (2 * depth) "  true:" (by decide)
      have hfalse := hbranch (2 * depth) "  false:" (by decide)
      simp only [List.forall_mem_cons, List.forall_mem_append, List.cons_append, hsome, ih₁, ih₂,
        ih₃, htarget _ _ _ hwhat]
      simp [htrue, hfalse, and_assoc]

end Outlined

/-! ## §4. The outline of a tree that is built. -/

variable {t : ControlTree}

/-- The number of nodes that are texts. -/
def textCount (t : ControlTree) : Nat :=
  (List.range t.nodes.size).countP fun id =>
    match t.shape? id with
    | some (.text _) => true
    | _ => false

/-- The number of nodes that are inserts. -/
def insertCount (t : ControlTree) : Nat :=
  (List.range t.nodes.size).countP fun id =>
    match t.shape? id with
    | some (.insert _) => true
    | _ => false

theorem isSome_conditional?_eq (t : ControlTree) (id : NodeId) :
    (t.conditional? id).isSome
      = match t.shape? id with
        | some (.conditional _) => true
        | _ => false := by
  unfold shape?
  rw [conditional?_eq_bind]
  rcases t.node? id with _ | ⟨kind, block, entry⟩
  · rfl
  · cases kind <;> rfl

/-- A text takes one line, and so does an insert; a conditional takes three. -/
theorem lineTotal_range (t : ControlTree) :
    t.lineTotal (List.range t.nodes.size)
      = t.textCount + t.insertCount + 3 * t.conditionalCount := by
  unfold textCount insertCount conditionalCount
  induction List.range t.nodes.size with
  | nil => rfl
  | cons id ids ih =>
      rw [lineTotal_cons, ih, List.countP_cons, List.countP_cons, List.countP_cons,
        isSome_conditional?_eq]
      unfold lineCount
      rcases t.shape? id with _ | (_ | _ | _)
      all_goals
        simp only [Bool.false_eq_true, if_true, if_false]
        omega

/-- The item of a node whose branches have conditionals that nest less than `fuel` deep. -/
def itemAt? (t : ControlTree) (fuel : Nat) (id : NodeId) : Option Item :=
  (t.shape? id).map fun
    | .text lexeme => .text lexeme
    | .insert target => .insert target
    | .conditional c =>
        .conditional c.invert c.target (t.itemsWithin fuel c.truePath)
          (t.itemsWithin fuel c.falsePath)

theorem itemsWithin_succ (t : ControlTree) (fuel : Nat) (block : BlockId) :
    t.itemsWithin (fuel + 1) block = (t.block block).nodes.filterMap (t.itemAt? fuel) := by
  rw [itemsWithin]
  refine List.filterMap_congr fun id _ => ?_
  unfold itemAt? shape?
  rcases t.node? id with _ | ⟨kind, entry⟩
  · rfl
  · cases kind <;> rfl

/-- **The lines of what is met on a way**, where the bound on the depth allows for its blocks. -/
theorem Visits.outlined {low high : Nat} {ids met : List NodeId} (h : t.Visits low high ids met)
    (a : Arena) :
    ∀ fuel depth : Nat, high ≤ low + fuel →
      ∃ (shown : List NodeId) (nesting : Nesting), shown.Perm met
        ∧ t.Outlined a depth ids shown nesting
            (Item.linesOfAll a (2 * depth) (ids.filterMap (t.itemAt? fuel))) := by
  induction h with
  | nil => exact fun _ _ _ => ⟨[], .nothing, .nil, .nil⟩
  | @leaf low high id kind ids met found plain rest ih =>
      intro fuel depth hfuel
      obtain ⟨shown, nesting, hperm, hlines⟩ := ih fuel depth hfuel
      refine ⟨id :: shown, .leaf nesting, hperm.cons id, ?_⟩
      rw [List.filterMap_cons]
      unfold itemAt?
      rw [found]
      cases kind with
      | text lexeme => exact .text found hlines
      | insert target => exact .insert found hlines
      | conditional c => exact absurd plain (by simp [NodeKind.conditional?])
  | @conditional low middle next high id c ids onFirst onSecond met found paths first second rest
      ih₁ ih₂ ih₃ =>
      intro fuel depth hfuel
      have hle₁ := first.le
      have hle₂ := second.le
      have hle₃ := rest.le
      -- the two branches are blocks on the way, so there is depth left for what is in them
      obtain ⟨fuel, rfl⟩ : ∃ less, fuel = less + 1 := ⟨fuel - 1, by omega⟩
      obtain ⟨shown₁, nesting₁, hperm₁, hlines₁⟩ := ih₁ fuel (depth + 1) (by omega)
      obtain ⟨shown₂, nesting₂, hperm₂, hlines₂⟩ := ih₂ fuel (depth + 1) (by omega)
      obtain ⟨shown, nesting, hperm, hlines⟩ := ih₃ (fuel + 1) depth (by omega)
      rw [← itemsWithin_succ] at hlines₁ hlines₂
      have hitem : t.itemAt? (fuel + 1) id
          = some (.conditional c.invert c.target (t.itemsWithin (fuel + 1) c.truePath)
              (t.itemsWithin (fuel + 1) c.falsePath)) := by
        unfold itemAt?
        rw [found]
        rfl
      have hshown : ∀ items : List Item, Item.linesOfAll a (2 * depth)
          (.conditional c.invert c.target (t.itemsWithin (fuel + 1) c.truePath)
            (t.itemsWithin (fuel + 1) c.falsePath) :: items)
          = targetLine a depth (if c.invert then "unless " else "if ") c.target
            :: (indentation (2 * depth) ++ "  true:")
            :: (Item.linesOfAll a (2 * (depth + 1)) (t.itemsWithin (fuel + 1) c.truePath)
              ++ (indentation (2 * depth) ++ "  false:")
              :: (Item.linesOfAll a (2 * (depth + 1)) (t.itemsWithin (fuel + 1) c.falsePath)
                ++ Item.linesOfAll a (2 * depth) items)) := by
        intro items
        rw [Item.linesOfAll, Item.lines]
        simp only [List.cons_append, List.append_assoc]
        rfl
      rw [List.filterMap_cons, hitem, hshown]
      -- which branch is the first part depends on whether the conditional is inverted
      obtain ⟨invert, target, truePath, falsePath, status⟩ := c
      cases invert with
      | false =>
          refine ⟨_, _, ?_, .conditional found hlines₁ hlines₂ hlines⟩
          exact ((hperm₁.append hperm₂).cons id).append hperm
      | true =>
          refine ⟨_, _, ?_, .conditional found hlines₂ hlines₁ hlines⟩
          exact (((hperm₂.append hperm₁).trans List.perm_append_comm).cons id).append hperm

end ControlTree

/-- **The outline of a tree goes through all of its nodes.** -/
theorem TreeBuilder.Traced.outlined {b : TreeBuilder} (h : b.Traced) (a : Arena) :
    ∃ (shown : List NodeId) (nesting : Nesting), shown.Perm (List.range b.tree.nodes.size)
      ∧ b.tree.Outlined a 0 (b.tree.block ControlTree.root).nodes shown nesting
          (Item.linesOfAll a 0 b.tree.items) := by
  obtain ⟨low, before, met, htrail, hmet, hall⟩ := h
  have hvisits := htrail.visits hmet
  have hpos := hvisits.le
  obtain ⟨less, hless⟩ : ∃ less, b.tree.blocks.size = less + 1 :=
    ⟨b.tree.blocks.size - 1, by omega⟩
  have hitems : b.tree.items
      = (b.tree.block ControlTree.root).nodes.filterMap (b.tree.itemAt? less) := by
    unfold ControlTree.items
    rw [hless, ControlTree.itemsWithin_succ]
  rw [hitems, ← hall]
  exact hvisits.outlined a less 0 (by omega)

end LayerTemplates
