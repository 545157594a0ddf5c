/-
  LayerTemplates.Proofs.Layer.Scanning
  ────────────────────────────────────
  Scanning as a relation between a text and its pieces.

  `Scans` says how a text is cut, one stretch of literal text and one placeholder after the
  other, each with the characters that really follow it; there is no bound on the number of
  placeholders in it.  A placeholder takes at least the characters of its two tags, so unless
  both are empty the scan reaches the end of every text, and a greater bound than the number
  of characters changes nothing.

  Main statements:
    * `breakAt_avoids` — literal text ends at the first place where the opening tag stands.
    * `Body.ReadFrom.first` — a body ends at the first place where the closing tag counts.
    * `scans_scanFrom` — what is computed is a scan of the whole text.
    * `scanFrom_eq_of_lt` — every sufficient bound gives the same.
-/
import LayerTemplates.Layer.Segment

namespace LayerTemplates

/-! ## §1. Bytes. -/

@[simp] theorem byteCount_cons (c : Char) (chars : List Char) :
    byteCount (c :: chars) = c.utf8Size + byteCount chars := rfl

@[simp] theorem byteCount_append (chars rest : List Char) :
    byteCount (chars ++ rest) = byteCount chars + byteCount rest := by
  induction chars with
  | nil => exact (Nat.zero_add _).symm
  | cons c chars ih => rw [List.cons_append, byteCount_cons, byteCount_cons, ih, Nat.add_assoc]

/-- Characters take the bytes of the text they make up. -/
theorem byteCount_eq_utf8ByteSize (chars : List Char) :
    byteCount chars = (String.ofList chars).utf8ByteSize := by
  induction chars with
  | nil => rfl
  | cons c chars ih =>
    rw [byteCount_cons, ih, String.ofList_cons, String.utf8ByteSize_append,
      String.utf8ByteSize_singleton]

theorem byteCount_toList (text : String) : byteCount text.toList = text.utf8ByteSize := by
  rw [byteCount_eq_utf8ByteSize, String.ofList_toList]

/-! ## §2. Literal text. -/

/-- At no place inside a piece does a tag stand; it may reach into what follows the piece. -/
def Avoids (tag piece rest : List Char) : Prop :=
  ∀ before after, piece = before ++ after → after ≠ [] → ¬ tag <+: after ++ rest

theorem avoids_nil (tag rest : List Char) : Avoids tag [] rest := fun _ _ h hne =>
  absurd (List.append_eq_nil_iff.1 h.symm).2 hne

/-- At no place of a longer piece does the tag stand, if it does not stand at the first. -/
theorem Avoids.cons {tag piece rest : List Char} {c : Char} (h : Avoids tag piece rest)
    (hfirst : ¬ tag <+: c :: piece ++ rest) : Avoids tag (c :: piece) rest := by
  intro before after heq hne
  cases before with
  | nil =>
      rw [List.nil_append] at heq
      rwa [← heq]
  | cons d before =>
      obtain ⟨rfl, htail⟩ := List.cons.inj heq
      exact h before after htail hne

theorem Avoids.tail {tag piece rest : List Char} {c : Char} (h : Avoids tag (c :: piece) rest) :
    Avoids tag piece rest := fun before after heq hne =>
  h (c :: before) after (congrArg (c :: ·) heq) hne

/-- **Literal text ends at the first place where the tag stands.** -/
theorem breakAt_avoids (tag chars : List Char) :
    Avoids tag (breakAt tag chars).1 (breakAt tag chars).2 := by
  induction chars with
  | nil => exact avoids_nil tag []
  | cons c rest ih =>
      have happend := breakAt_append tag rest
      unfold breakAt
      split
      · exact avoids_nil tag _
      · next hprefix =>
          refine ih.cons ?_
          rw [List.cons_append, happend, ← List.isPrefixOf_iff_prefix]
          exact hprefix

/-- It ends there, or at the end of the text. -/
theorem breakAt_snd (tag chars : List Char) :
    (breakAt tag chars).2 = [] ∨ tag <+: (breakAt tag chars).2 := by
  induction chars with
  | nil => exact Or.inl rfl
  | cons c rest ih =>
      unfold breakAt
      split
      · next hprefix => exact Or.inr (List.isPrefixOf_iff_prefix.1 hprefix)
      · exact ih

/-- There is one place only that literal text can end at. -/
theorem breakAt_eq {tag before after : List Char} (hplain : Avoids tag before after)
    (hafter : after = [] ∨ tag <+: after) : breakAt tag (before ++ after) = (before, after) := by
  induction before with
  | nil =>
      cases after with
      | nil => rfl
      | cons c after =>
          rw [List.nil_append, breakAt,
            if_pos (List.isPrefixOf_iff_prefix.2 (hafter.resolve_left (by simp)))]
  | cons c before ih =>
      have hfirst := hplain [] (c :: before) rfl (by simp)
      rw [List.cons_append, ← List.isPrefixOf_iff_prefix] at hfirst
      rw [List.cons_append, breakAt, if_neg hfirst, ih hplain.tail]

/-! ## §3. Bodies. -/

/-- The closing tag stands at the start of the rest and counts, because no literal is open. -/
def Lexer.ClosedBy (lx : Lexer) (closeTag rest : List Char) : Prop :=
  lx.inLiteral = false ∧ rest ≠ [] ∧ closeTag <+: rest

/-- A body was read from some characters by a lexer, up to the first place where the closing
tag counts. -/
structure Body.ReadFrom (body : Body) (closeTag : List Char) (lx : Lexer) (position : Nat)
    (chars : List Char) : Prop where
  chars_eq : chars = body.chars ++ body.closing.getD []
  lexer_eq : body.lexer = lx.feedAll position body.chars
  closed : ∀ closing, body.closing = some closing → body.lexer.ClosedBy closeTag closing
  first : ∀ before after, body.chars = before ++ after → after ≠ [] →
    ¬ (lx.feedAll position before).ClosedBy closeTag (after ++ body.closing.getD [])

/-- **Reading a body** stops at the first place where the closing tag counts. -/
theorem readBody_readFrom (closeTag chars : List Char) :
    ∀ (lx : Lexer) (position : Nat),
      (readBody closeTag lx position chars).ReadFrom closeTag lx position chars := by
  induction chars with
  | nil =>
      intro lx position
      refine ⟨rfl, rfl, fun _ h => absurd h (by simp [readBody]), ?_⟩
      intro before after heq hne
      exact absurd (List.append_eq_nil_iff.1 heq.symm).2 hne
  | cons c rest ih =>
      intro lx position
      unfold readBody
      split
      · next hcloses =>
          simp only [Bool.and_eq_true, Bool.not_eq_true', List.isPrefixOf_iff_prefix] at hcloses
          refine ⟨rfl, rfl, fun closing h => ?_, fun before after heq hne => ?_⟩
          · obtain rfl := Option.some.inj h
            exact ⟨hcloses.1, by simp, hcloses.2⟩
          · exact absurd (List.append_eq_nil_iff.1 heq.symm).2 hne
      · next hopen =>
          have hread := ih (lx.feed c position) (position + c.utf8Size)
          refine ⟨congrArg (c :: ·) hread.chars_eq, hread.lexer_eq, hread.closed, ?_⟩
          intro before after heq hne
          cases before with
          | nil =>
              -- the first place is the one that was looked at
              rintro ⟨hliteral, -, hprefix⟩
              refine hopen ?_
              rw [List.nil_append] at heq
              rw [← heq] at hprefix
              simp only [Bool.and_eq_true, Bool.not_eq_true', List.isPrefixOf_iff_prefix]
              refine ⟨hliteral, ?_⟩
              rw [hread.chars_eq]
              exact hprefix
          | cons d before =>
              obtain ⟨rfl, htail⟩ := List.cons.inj heq
              exact hread.first before after htail hne

/-- There is one body only that can be read. -/
theorem Body.ReadFrom.readBody_eq {closeTag chars : List Char} {lx : Lexer} {position : Nat}
    {body : Body} (h : body.ReadFrom closeTag lx position chars) :
    readBody closeTag lx position chars = body := by
  obtain ⟨lexer, taken, closing⟩ := body
  obtain ⟨hchars, hlexer, hclosed, hfirst⟩ := h
  dsimp only at hchars hlexer hclosed hfirst
  subst hchars hlexer
  -- along the characters that were taken
  induction taken generalizing lx position with
  | nil =>
      cases closing with
      | none => rfl
      | some closing =>
          obtain ⟨hliteral, hne, hprefix⟩ := hclosed closing rfl
          obtain ⟨c, rest, rfl⟩ := List.exists_cons_of_ne_nil hne
          replace hliteral : lx.inLiteral = false := hliteral
          show readBody closeTag lx position (c :: rest) = _
          rw [readBody, if_pos]
          · rfl
          · rw [hliteral, List.isPrefixOf_iff_prefix.2 hprefix]
            rfl
  | cons c taken ih =>
      have hopen := hfirst [] (c :: taken) rfl (by simp)
      rw [List.cons_append, readBody, if_neg]
      · rw [ih (fun before after heq hne =>
          hfirst (c :: before) after (congrArg (c :: ·) heq) hne) hclosed]
        rfl
      · simp only [Bool.and_eq_true, Bool.not_eq_true', List.isPrefixOf_iff_prefix]
        exact fun hcloses => hopen ⟨hcloses.1, by simp, hcloses.2⟩

/-! ## §4. Scans. -/

/-- A text whose first character stands at a byte offset is cut into pieces, whose lexemes are
added to an arena. -/
inductive Scans (tags : Tags) : Nat → List Char → Arena → Scanned → Prop
  /-- There is no further placeholder. -/
  | done {position : Nat} {chars : List Char} {arena : Arena}
      (plain : Avoids tags.openTag.toList chars []) :
      Scans tags position chars arena
        { arena := (pushText arena chars position).1
          segments := (pushText arena chars position).2 }
  /-- The end of the text cuts the next placeholder off. -/
  | cutOff {position start : Nat} {before : List Char} {arena : Arena} {body : Body}
      (plain : Avoids tags.openTag.toList before (tags.openTag.toList ++ body.chars))
      (start_eq : start = position + byteCount before)
      (read : body.ReadFrom tags.closeTag.toList
        { arena := (pushText arena before position).1, escape := tags.escape }
        (start + tags.openTag.utf8ByteSize) body.chars)
      (closing : body.closing = none)
      (nonempty : tags.openTag.toList ++ body.chars ≠ []) :
      Scans tags position (before ++ (tags.openTag.toList ++ body.chars)) arena
        { arena := body.lexer.arena
          segments := (pushText arena before position).2
            ++ [.placeholder (openPlaceholder tags start body).1]
          faults := (openPlaceholder tags start body).2 }
  /-- The next placeholder is closed, and the scan goes on after it. -/
  | closed {position start : Nat} {before rest : List Char} {arena : Arena} {body : Body}
      {scanned : Scanned}
      (plain : Avoids tags.openTag.toList before
        (tags.openTag.toList ++ (body.chars ++ (tags.closeTag.toList ++ rest))))
      (start_eq : start = position + byteCount before)
      (read : body.ReadFrom tags.closeTag.toList
        { arena := (pushText arena before position).1, escape := tags.escape }
        (start + tags.openTag.utf8ByteSize) (body.chars ++ (tags.closeTag.toList ++ rest)))
      (closing : body.closing = some (tags.closeTag.toList ++ rest))
      (scans : Scans tags (closedPlaceholder tags start body).1.span.stop rest body.lexer.arena
        scanned) :
      Scans tags position
        (before ++ (tags.openTag.toList ++ (body.chars ++ (tags.closeTag.toList ++ rest)))) arena
        { arena := scanned.arena
          segments := (pushText arena before position).2
            ++ .placeholder (closedPlaceholder tags start body).1 :: scanned.segments
          faults := (closedPlaceholder tags start body).2 ++ scanned.faults }

/-- One of the tags has a character. -/
def Tags.Visible (tags : Tags) : Prop := tags.openTag ≠ "" ∨ tags.closeTag ≠ ""

instance (tags : Tags) : Decidable tags.Visible :=
  inferInstanceAs (Decidable (tags.openTag ≠ "" ∨ tags.closeTag ≠ ""))

theorem Tags.Visible.length_pos {tags : Tags} (h : tags.Visible) :
    0 < tags.openTag.toList.length + tags.closeTag.toList.length := by
  have hpos : ∀ s : String, s ≠ "" → 0 < s.toList.length := fun s hs =>
    List.length_pos_iff.2 fun hnil => hs (String.toList_eq_nil_iff.1 hnil)
  rcases h with h | h
  · have := hpos _ h
    omega
  · have := hpos _ h
    omega

variable {tags : Tags}

/-- **What is computed is a scan of the whole text**, if the bound is greater than the number of
characters. -/
theorem scans_scanFrom (hvisible : tags.Visible) (fuel : Nat) :
    ∀ (position : Nat) (chars : List Char) (arena : Arena), chars.length < fuel →
      Scans tags position chars arena (scanFrom tags fuel position chars arena) := by
  -- a closed placeholder takes its tags away from the text, and one of them has a character
  induction fuel with
  | zero => intro position chars arena hfuel; exact absurd hfuel (Nat.not_lt_zero _)
  | succ fuel ih =>
      intro position chars arena hfuel
      have happend := breakAt_append tags.openTag.toList chars
      have hplain := breakAt_avoids tags.openTag.toList chars
      have hopen := breakAt_snd tags.openTag.toList chars
      unfold scanFrom
      dsimp only
      generalize breakAt tags.openTag.toList chars = broken at happend hplain hopen ⊢
      obtain ⟨before, after⟩ := broken
      dsimp only at happend hplain hopen ⊢
      cases after with
      | nil =>
          rw [List.append_nil] at happend
          subst happend
          exact .done hplain
      | cons c after =>
          obtain ⟨inner, hinner⟩ := hopen.resolve_left (by simp)
          dsimp only
          rw [← hinner] at happend hplain ⊢
          rw [← String.length_toList, List.drop_left]
          have hread := readBody_readFrom tags.closeTag.toList inner
            { arena := (pushText arena before position).1, escape := tags.escape }
            (position + byteCount before + tags.openTag.utf8ByteSize)
          generalize readBody tags.closeTag.toList
            { arena := (pushText arena before position).1, escape := tags.escape }
            (position + byteCount before + tags.openTag.utf8ByteSize) inner = body at hread ⊢
          have hchars := hread.chars_eq
          cases hclosing : body.closing with
          | none =>
              rw [hclosing, Option.getD_none, List.append_nil] at hchars
              subst hchars happend
              refine .cutOff hplain rfl hread hclosing ?_
              rw [hinner]
              simp
          | some closing =>
              rw [hclosing, Option.getD_some] at hchars
              obtain ⟨rest, rfl⟩ := (hread.closed closing hclosing).2.2
              subst hchars happend
              refine .closed hplain rfl hread hclosing ?_
              rw [← String.length_toList, List.drop_left]
              refine ih _ _ _ ?_
              have hpos := hvisible.length_pos
              simp only [List.length_append] at hfuel
              omega

/-- **A scan is what is computed**, with every bound that is greater than the number of
characters. -/
theorem Scans.eq_scanFrom (hvisible : tags.Visible) {position : Nat} {chars : List Char}
    {arena : Arena} {scanned : Scanned} (h : Scans tags position chars arena scanned) :
    ∀ fuel : Nat, chars.length < fuel → scanFrom tags fuel position chars arena = scanned := by
  -- on the scan; with each placeholder at least its tags are used up, so the fuel lasts
  induction h with
  | @done position chars arena plain =>
      intro fuel hfuel
      cases fuel with
      | zero => exact absurd hfuel (Nat.not_lt_zero _)
      | succ fuel =>
          have hbreak := breakAt_eq plain (Or.inl rfl)
          rw [List.append_nil] at hbreak
          unfold scanFrom
          rw [hbreak]
  | @cutOff position start before arena body plain start_eq read closing nonempty =>
      intro fuel hfuel
      cases fuel with
      | zero => exact absurd hfuel (Nat.not_lt_zero _)
      | succ fuel =>
          subst start_eq
          have hbreak := breakAt_eq plain (Or.inr (List.prefix_append _ _))
          obtain ⟨c, after, hafter⟩ := List.exists_cons_of_ne_nil nonempty
          unfold scanFrom
          rw [hbreak, hafter]
          dsimp only
          rw [← hafter, ← String.length_toList, List.drop_left, read.readBody_eq, closing]
  | @closed position start before rest arena body scanned plain start_eq read closing scans ih =>
      intro fuel hfuel
      cases fuel with
      | zero => exact absurd hfuel (Nat.not_lt_zero _)
      | succ fuel =>
          subst start_eq
          have hbreak := breakAt_eq plain (Or.inr (List.prefix_append _ _))
          have hpos := hvisible.length_pos
          simp only [List.length_append] at hfuel
          have hrest := ih fuel (by omega)
          obtain ⟨c, after, hafter⟩ := List.exists_cons_of_ne_nil
            (l := tags.openTag.toList ++ (body.chars ++ (tags.closeTag.toList ++ rest))) (by
              rw [← List.length_pos_iff]
              simp only [List.length_append]
              omega)
          unfold scanFrom
          rw [hbreak, hafter]
          dsimp only
          rw [← hafter, ← String.length_toList, List.drop_left, read.readBody_eq, closing]
          dsimp only
          rw [← String.length_toList, List.drop_left, hrest]

/-- A text is scanned to its end. -/
theorem scans_scan (hvisible : tags.Visible) (text : String) :
    Scans tags 0 text.toList {} (scan text tags) := by
  refine scans_scanFrom hvisible (text.length + 1) 0 text.toList {} ?_
  rw [String.length_toList]
  exact Nat.lt_succ_self _

/-- **Every sufficient bound gives the same.** -/
theorem scanFrom_eq_scan (hvisible : tags.Visible) (text : String) {fuel : Nat}
    (hfuel : text.length < fuel) : scanFrom tags fuel 0 text.toList {} = scan text tags := by
  rw [← String.length_toList] at hfuel
  exact (scans_scan hvisible text).eq_scanFrom hvisible fuel hfuel

end LayerTemplates
