/-
  LayerTemplates.Proofs.Layer.Naming
  ──────────────────────────────────
  The names that templates can refer to: all but the empty one.

  A name is the text of an operand, and no operand of an accepted layer is empty.  Conversely
  any other text can be written as a quoted literal, with the escape character in front of
  every quote of the literal's own kind and of every escape character.  While the literal is
  open no closing tag counts, whatever the name contains; and an escape character never stands
  in front of the closing quote, because each of those in the name has one of its own.

  Main statements:
    * `Scans.spelled` — a text without faults leaves no empty lexeme in the arena.
    * `ParsedLayer.ne_empty_of_mem_references` — an accepted layer does not refer to the empty
      name.
    * `Lexer.continues_literalChars` — the lexer reads an escaped name back.
    * `parse_insertText` — every other name can be written in a layer.
-/
import LayerTemplates.Proofs.Expression.Spelling
import LayerTemplates.Proofs.Layer.Accepted
import LayerTemplates.Proofs.Layer.Cuts

namespace LayerTemplates

/-! ## §1. Accepted layers refer to no empty name. -/

theorem spelled_pushText {arena : Arena} (h : arena.Spelled) (chars : List Char) (start : Nat) :
    (pushText arena chars start).1.Spelled := by
  unfold pushText
  split
  · exact h
  · next hne =>
      intro id hid
      rw [Arena.size_alloc] at hid
      rw [Arena.get_alloc]
      split
      · intro hempty
        have hnil : chars = [] := by simpa [Lexeme.ofText] using congrArg String.toList hempty
        exact hne (by rw [hnil]; rfl)
      · next hold => exact h id (Nat.lt_of_le_of_ne (Nat.le_of_lt_succ hid) hold)

/-- **A text without faults leaves no empty lexeme in the arena**, which holds all that its
placeholders start with. -/
theorem Scans.spelled {tags : Tags} {position : Nat} {chars : List Char} {arena : Arena}
    {scanned : Scanned} (h : Scans tags position chars arena scanned)
    (hclean : scanned.faults = []) (harena : arena.Spelled) :
    scanned.arena.Spelled
      ∧ ∀ p, .placeholder p ∈ scanned.segments → ∀ id ∈ p.roots, id < scanned.arena.size := by
  induction h with
  | @done position chars arena plain =>
      refine ⟨spelled_pushText harena chars position, fun p hp => ?_⟩
      obtain ⟨id, hid⟩ := mem_pushText hp
      exact absurd hid (by simp)
  | cutOff plain start_eq read closing nonempty =>
      exact absurd hclean (by simp [openPlaceholder])
  | @closed position start before rest arena body scanned plain start_eq read closing scans ih =>
      obtain ⟨hbody, hrest⟩ := List.append_eq_nil_iff.1 hclean
      have hissues := List.map_eq_nil_iff.1 hbody
      have hread : body.lexer.Spelled := by
        rw [read.lexer_eq]
        exact Lexer.spelled_feedAll _ _ _ (.start (spelled_pushText harena before position) _)
      obtain ⟨hspelled, hroots⟩ := ih hrest (hread.finish hissues)
      refine ⟨hspelled, fun p hp => ?_⟩
      rcases List.mem_append.1 hp with hp | hp
      · obtain ⟨id, hid⟩ := mem_pushText hp
        exact absurd hid (by simp)
      · rcases List.mem_cons.1 hp with hp | hp
        · obtain rfl : p = _ := Segment.placeholder.inj hp
          intro id hid
          replace hid : id ∈ (body.lexer.finish _).roots := hid
          rw [Lexer.roots_finish] at hid
          exact Nat.lt_of_lt_of_le (hread.roots id hid) scans.extends.size_le
        · exact hroots p hp

/-- A directive has its target from the roots of the placeholder. -/
theorem Directive.target_mem {a : Arena} {roots : List LexemeId} {d : Directive} {id : LexemeId}
    (h : classify a roots = some d) (htarget : d.target = some id) : id ∈ roots := by
  unfold classify at h
  split at h
  · exact absurd h (by simp)
  · next first others =>
      split at h <;> obtain rfl := Option.some.inj h
      · exact List.mem_cons_of_mem _ (List.mem_of_mem_head? htarget)
      · obtain rfl := Option.some.inj htarget
        exact List.mem_cons_self

/-- **An accepted layer does not refer to the empty name.** -/
theorem ParsedLayer.ne_empty_of_mem_references {name text other : String} {tags : Tags}
    {layer : ParsedLayer} (hvisible : tags.Visible) (h : parse name text tags = .ok layer)
    (hother : other ∈ layer.references) : other ≠ "" := by
  unfold parse at h
  dsimp only at h
  split at h
  · next hfaults =>
      obtain ⟨hclean, -⟩ := List.append_eq_nil_iff.1 (List.isEmpty_iff.1 hfaults)
      obtain ⟨hspelled, hroots⟩ :=
        (scans_scan hvisible text).spelled hclean fun id hid => absurd hid (Nat.not_lt_zero id)
      obtain rfl := Except.ok.inj h
      obtain ⟨p, hp, hrefers⟩ := List.mem_filterMap.1 hother
      obtain ⟨q, hq, rfl⟩ := classified_of_mem (mem_placeholders.1 hp)
      obtain ⟨d, hd, hname⟩ := Option.bind_eq_some_iff.1 hrefers
      unfold referenceOf at hname
      split at hname
      · obtain ⟨id, htarget, rfl⟩ := Option.map_eq_some_iff.1 hname
        exact hspelled id (hroots q hq id (Directive.target_mem hd htarget))
      · exact absurd hname (by simp)
  · exact absurd h (by simp)

/-! ## §2. Escaped names. -/

/-- A character of a name inside a literal. -/
def literalChar (quote escape c : Char) : List Char :=
  if c = quote ∨ c = escape then [escape, c] else [c]

/-- A name inside a literal: an escape character stands in front of every quote and of every
escape character. -/
def literalChars (quote escape : Char) (name : List Char) : List Char :=
  name.flatMap (literalChar quote escape)

/-- In front of every character of an escaped name the literal is open. -/
theorem foldl_next_literalChars {quote escape : Char} (name : List Char) :
    ∀ before after, literalChars quote escape name = before ++ after →
      ∃ escaping, before.foldl (Quoting.next escape) (.inside quote false)
        = .inside quote escaping := by
  induction name with
  | nil =>
      intro before after h
      obtain ⟨rfl, -⟩ := List.append_eq_nil_iff.1 h.symm
      exact ⟨false, rfl⟩
  | cons c rest ih =>
      intro before after h
      replace h : literalChar quote escape c ++ literalChars quote escape rest
        = before ++ after := h
      unfold literalChar at h
      by_cases hspecial : c = quote ∨ c = escape
      · -- the escape character stands first, and the one behind it is taken as it is
        rw [if_pos hspecial] at h
        have hescape : (Quoting.inside quote false).next escape escape = .inside quote true := by
          rw [Quoting.next_inside, if_pos (beq_self_eq_true escape)]
        cases before with
        | nil => exact ⟨false, rfl⟩
        | cons first before =>
            simp only [List.cons_append, List.nil_append, List.cons.injEq] at h
            obtain ⟨rfl, h⟩ := h
            rw [List.foldl_cons, hescape]
            cases before with
            | nil => exact ⟨true, rfl⟩
            | cons second before =>
                simp only [List.cons_append, List.cons.injEq] at h
                exact ih before after h.2
      · rw [if_neg hspecial] at h
        obtain ⟨hquote, hescape⟩ := not_or.1 hspecial
        cases before with
        | nil => exact ⟨false, rfl⟩
        | cons first before =>
            simp only [List.cons_append, List.nil_append, List.cons.injEq] at h
            obtain ⟨rfl, h⟩ := h
            rw [List.foldl_cons, Quoting.next_inside, if_neg (by simpa using hescape),
              if_neg (by simpa using hquote)]
            exact ih before after h

namespace Lexer

theorem feedAll_append (front : List Char) :
    ∀ (lx : Lexer) (position : Nat) (rest : List Char),
      lx.feedAll position (front ++ rest)
        = (lx.feedAll position front).feedAll (position + byteCount front) rest := by
  induction front with
  | nil => intro lx position rest; rfl
  | cons c front ih =>
      intro lx position rest
      show (lx.feed c position).feedAll (position + c.utf8Size) (front ++ rest) = _
      rw [ih, byteCount_cons, ← Nat.add_assoc]
      rfl

/-- Up to the position one lexer differs from another in the characters of one lexeme only. -/
structure Continues (lx lx' : Lexer) (id : LexemeId) : Prop where
  same : { lx' with arena := lx.arena, lastPosition := lx.lastPosition } = lx
  size : lx'.arena.size = lx.arena.size
  others : ∀ j, j ≠ id → lx'.arena.get j = lx.arena.get j

variable {lx lx' lx'' : Lexer} {id : LexemeId}

theorem Continues.refl (lx : Lexer) (id : LexemeId) : lx.Continues lx id :=
  ⟨rfl, rfl, fun _ _ => rfl⟩

theorem Continues.trans (h : lx.Continues lx' id) (h' : lx'.Continues lx'' id) :
    lx.Continues lx'' id where
  same := by
    have hsame := congrArg (fun other : Lexer =>
      { other with arena := lx.arena, lastPosition := lx.lastPosition }) h'.same
    exact hsame.trans h.same
  size := h'.size.trans h.size
  others j hj := (h'.others j hj).trans (h.others j hj)

theorem Continues.mode (h : lx.Continues lx' id) : lx'.mode = lx.mode :=
  (congrArg Lexer.mode h.same :)

theorem Continues.escape (h : lx.Continues lx' id) : lx'.escape = lx.escape :=
  (congrArg Lexer.escape h.same :)

/-- A character of a name, escaped or not, is added to the literal. -/
theorem feedAll_literalChar {quote : Char} (hmode : lx.mode = .quoted id quote false)
    (hquote : quote ≠ lx.escape) (c : Char) (position : Nat) :
    ∃ place, lx.feedAll position (literalChar quote lx.escape c)
      = { lx.pushChar id c place with lastPosition := place } := by
  obtain ⟨arena, escape, mode, pending, last, groups, roots, issues, lastPosition⟩ := lx
  dsimp only at hmode hquote ⊢
  subst hmode
  unfold literalChar
  by_cases hspecial : c = quote ∨ c = escape
  · rw [if_pos hspecial]
    refine ⟨position + escape.utf8Size, ?_⟩
    unfold feedAll feed feedQuoted
    dsimp only
    rw [if_neg (by simp), if_pos (by simp)]
    rfl
  · rw [if_neg hspecial]
    obtain ⟨hother, hescape⟩ := not_or.1 hspecial
    refine ⟨position, ?_⟩
    unfold feedAll feed feedQuoted
    dsimp only
    rw [if_neg (by simp), if_neg (by simpa using hescape), if_neg (by simpa using hother)]
    rfl

/-- **The lexer reads an escaped name back**, and does nothing else meanwhile. -/
theorem continues_literalChars {quote : Char} (name : List Char) :
    ∀ (lx : Lexer) (position : Nat), lx.mode = .quoted id quote false → quote ≠ lx.escape →
      id < lx.arena.size →
        lx.Continues (lx.feedAll position (literalChars quote lx.escape name)) id
          ∧ ((lx.feedAll position (literalChars quote lx.escape name)).arena.get id).value
            = (lx.arena.get id).value ++ String.ofList name := by
  -- on the name; a character that needs it is fed with an escape in front
  induction name with
  | nil =>
      intro lx position _ _ _
      refine ⟨.refl lx id, ?_⟩
      show (lx.arena.get id).value = (lx.arena.get id).value ++ ""
      rw [String.append_empty]
  | cons c rest ih =>
      intro lx position hmode hquote hid
      obtain ⟨place, hplace⟩ := feedAll_literalChar hmode hquote c position
      have hfed : lx.feedAll position (literalChars quote lx.escape (c :: rest))
          = ({ lx.pushChar id c place with lastPosition := place } : Lexer).feedAll
            (position + byteCount (literalChar quote lx.escape c))
            (literalChars quote lx.escape rest) := by
        rw [← hplace, ← feedAll_append]
        rfl
      have hpushed : lx.Continues { lx.pushChar id c place with lastPosition := place } id :=
        ⟨rfl, Arena.size_modify _ _ _, fun j hj => Arena.get_modify_of_ne _ _ hj⟩
      have hvalue : ((lx.pushChar id c place).arena.get id).value
          = (lx.arena.get id).value.push c := by
        show ((lx.arena.modify id _).get id).value = _
        rw [Arena.get_modify_self _ _ hid]
      obtain ⟨hrest, hheld⟩ := ih { lx.pushChar id c place with lastPosition := place }
        (position + byteCount (literalChar quote lx.escape c)) hmode hquote
        (by rw [hpushed.size]; exact hid)
      rw [hfed]
      refine ⟨hpushed.trans hrest, hheld.trans ?_⟩
      show ((lx.pushChar id c place).arena.get id).value ++ String.ofList rest = _
      rw [hvalue, String.ofList_cons, String.push_eq_append, String.append_assoc]

/-- An equals sign that stands alone is an operator. -/
theorem operatorAt?_sign {a : Arena} (hform : (a.get id).form = .plain)
    (hquote : (a.get id).quote = none) (hkind : (a.get id).kind = .plain)
    (hchild : (a.get id).child = none) (hvalue : (a.get id).value = "=") :
    a.operatorAt? id = some .insert := by
  unfold Arena.operatorAt?
  dsimp only
  rw [if_pos ⟨hform, hquote, hkind, hchild⟩, hvalue]
  exact Operator.ofKeyword?_keyword .insert

/-- The lexer after an equals sign and a quote: a literal is open that has no character yet. -/
structure Opened (escape quote : Char) (lx : Lexer) : Prop where
  mode : lx.mode = .quoted 1 quote false
  escape : lx.escape = escape
  groups : lx.groups = []
  roots : lx.roots = [0, 1]
  issues : lx.issues = []
  size : lx.arena.size = 2
  operator : lx.arena.operatorAt? 0 = some .insert
  value : (lx.arena.get 1).value = ""

/-- The lexer after an equals sign, which is an operand of its own. -/
theorem feedAll_equals (escape : Char) (position : Nat) :
    feedAll { arena := {}, escape } position ['=']
      = { arena := ⟨#[{ value := "=", span := ⟨position, position + 1⟩, role := .root }]⟩
          escape, pending := .blank, last := some 0, roots := [0], lastPosition := position } := rfl

/-- A quote opens a literal. -/
theorem feedBetween_quote (lx : Lexer) {quote : Char} (hquote : isQuote quote = true)
    (position : Nat) :
    lx.feedBetween quote position
      = { lx.beginOperand
            { form := .quoted, quote := some quote, span := ⟨position, position + quote.utf8Size⟩ }
            position with mode := .quoted lx.arena.size quote false } := by
  have hcases : quote = '\x27' ∨ quote = '\x22' ∨ quote = rawQuote := by
    simpa [isQuote, quotes] using hquote
  rcases hcases with rfl | rfl | rfl <;> rfl

theorem opened_feedAll (escape : Char) {quote : Char} (hquote : isQuote quote = true)
    (position : Nat) :
    Opened escape quote (feedAll { arena := {}, escape } position ['=', quote]) := by
  rw [show ['=', quote] = ['='] ++ [quote] from rfl, feedAll_append, feedAll_equals]
  -- the position is kept first, and the quote is read between operands
  show Opened escape quote (feedBetween
    { arena := _, escape, pending := .blank, last := some 0, roots := [0], lastPosition := _ }
    quote _)
  rw [feedBetween_quote _ hquote]
  exact ⟨rfl, rfl, rfl, rfl, rfl, rfl, operatorAt?_sign rfl rfl rfl rfl rfl, rfl⟩

/-- The lexer after a literal that was closed: it has read an equals sign and a name. -/
structure Named (name : String) (lx : Lexer) : Prop where
  mode : lx.mode = .between
  pending : lx.pending = .adjacent
  groups : lx.groups = []
  roots : lx.roots = [0, 1]
  issues : lx.issues = []
  operator : lx.arena.operatorAt? 0 = some .insert
  value : (lx.arena.get 1).value = name

/-- The quote closes the literal, which holds the name. -/
theorem Opened.named {escape quote : Char} (h : Opened escape quote lx) (hquote : quote ≠ escape)
    {name : String} (hname : name ≠ "") (position : Nat) :
    Named name (lx.feedAll position (literalChars quote escape name.toList ++ [quote])) := by
  have hread := continues_literalChars name.toList lx position h.mode (by rwa [h.escape])
    (by rw [h.size]; decide)
  rw [h.escape, h.value, String.ofList_toList, String.empty_append] at hread
  rw [feedAll_append]
  generalize lx.feedAll position (literalChars quote escape name.toList) = held at hread
  generalize position + byteCount (literalChars quote escape name.toList) = place
  obtain ⟨hcontinues, hvalue⟩ := hread
  have hsize : held.arena.size = 2 := hcontinues.size.trans h.size
  have hmode : held.mode = .quoted 1 quote false := hcontinues.mode.trans h.mode
  have hheld : held.escape = escape := hcontinues.escape.trans h.escape
  -- closing the literal changes neither its characters nor the sign in front of it
  have hclosed : ∀ f : Lexeme → Lexeme, (∀ l, (f l).value = l.value) →
      ((held.arena.modify 1 f).get 1).value = name
        ∧ (held.arena.modify 1 f).operatorAt? 0 = some .insert := by
    intro f hf
    refine ⟨?_, ?_⟩
    · rw [Arena.get_modify_self _ _ (by rw [hsize]; decide), hf, hvalue]
    · have hsign : (held.arena.modify 1 f).get 0 = lx.arena.get 0 := by
        rw [Arena.get_modify_of_ne _ _ (by decide), hcontinues.others 0 (by decide)]
      rw [← h.operator]
      unfold Arena.operatorAt?
      rw [hsign]
  show Named name (held.feed quote place)
  unfold feed
  dsimp only
  rw [hmode]
  dsimp only
  unfold feedQuoted
  rw [if_neg (by simp), if_neg (by simpa [hheld] using hquote), if_pos (by simp)]
  dsimp only
  have hlast := hclosed (fun l =>
    { l with
      span := ⟨l.span.start, place + quote.utf8Size⟩
      form := if quote == rawQuote then .plain else l.form }) fun _ => rfl
  generalize held.arena.modify 1 _ = arena at hlast ⊢
  rw [hlast.1, if_neg (by simpa using hname)]
  exact ⟨rfl, rfl, (congrArg Lexer.groups hcontinues.same :).trans h.groups,
    (congrArg Lexer.roots hcontinues.same :).trans h.roots,
    (congrArg Lexer.issues hcontinues.same :).trans h.issues, hlast.2, hlast.1⟩

/-- A body that ends there has no issue. -/
theorem Named.issues_finish {name : String} (h : Named name lx) (position : Nat) :
    (lx.finish position).issues = [] := by
  have hsettle : lx.settle position = lx := by
    unfold settle
    rw [h.mode]
  rw [issues_finish_eq_nil_iff, hsettle, h.pending, h.roots]
  exact ⟨h.issues, by simp, h.groups, by simp⟩

end Lexer

/-! ## §3. Templates for names. -/

/-- The characters of a placeholder for a name, between the tags. -/
def insertBody (quote escape : Char) (name : String) : List Char :=
  '=' :: quote :: (literalChars quote escape name.toList ++ [quote])

/-- A text that inserts the layer of a name. -/
def insertText (tags : Tags) (quote : Char) (name : String) : String :=
  tags.openTag ++ String.ofList (insertBody quote tags.escape name) ++ tags.closeTag

section Insert

variable {tags : Tags} {quote : Char} {name : String}

/-- The closing tag does not start as the body or its literal does. -/
theorem not_prefix_of_start (hclose : tags.closeTag ≠ "")
    (hstart : ∀ c, tags.closeTag.toList.head? = some c → c ≠ '=' ∧ c ≠ quote)
    {c : Char} (hc : c = '=' ∨ c = quote) (others : List Char) :
    ¬ tags.closeTag.toList <+: c :: others := by
  intro hprefix
  cases hchars : tags.closeTag.toList with
  | nil => exact hclose (String.toList_eq_nil_iff.1 hchars)
  | cons first chars =>
      rw [hchars] at hprefix
      obtain rfl : first = c := (List.cons_prefix_cons.1 hprefix).1
      have hne := hstart first (by rw [hchars]; rfl)
      exact hc.elim hne.1 hne.2

/-- **The literal is open** as long as what is read ends before its last quote. -/
theorem inLiteral_insertBody (hquote : isQuote quote = true) (position : Nat)
    {before after : List Char}
    (h : literalChars quote tags.escape name.toList ++ [quote] = before ++ after)
    (hafter : after ≠ []) :
    (Lexer.feedAll { arena := {}, escape := tags.escape } position
      ('=' :: quote :: before)).inLiteral = true := by
  obtain ⟨held, hheld⟩ : ∃ held, literalChars quote tags.escape name.toList = before ++ held := by
    rcases List.append_eq_append_iff.1 h with ⟨more, hmore, hlast⟩ | ⟨more, hmore, -⟩
    · obtain ⟨rfl, -⟩ | ⟨-, rfl⟩ := List.append_eq_singleton_iff.1 hlast.symm
      · exact ⟨[], by rw [hmore, List.append_nil, List.append_nil]⟩
      · exact absurd rfl hafter
    · exact ⟨more, hmore⟩
  obtain ⟨escaping, hinside⟩ := foldl_next_literalChars _ before held hheld
  have hnumber : (quote == '#') = false := by
    rw [beq_eq_false_iff_ne]
    rintro rfl
    exact absurd hquote (by decide)
  have hopened : ['=', quote].foldl (Quoting.next tags.escape) .outside = .inside quote false := by
    rw [List.foldl_cons, List.foldl_cons, List.foldl_nil, Quoting.next_outside rfl rfl,
      Quoting.next_outside_of_isQuote hnumber hquote]
  rw [Lexer.inLiteral_eq, Lexer.quoting_feedAll,
    show '=' :: quote :: before = ['=', quote] ++ before from rfl, List.foldl_append]
  show (before.foldl (Quoting.next tags.escape)
    (['=', quote].foldl (Quoting.next tags.escape) .outside)).isInside = true
  rw [hopened, hinside]
  rfl

/-- While the body is read no closing tag counts, unless it starts as the body does. -/
theorem not_closedBy_insertBody (hquote : isQuote quote = true)
    (hstart : ∀ c, tags.closeTag.toList.head? = some c → c ≠ '=' ∧ c ≠ quote)
    (hclose : tags.closeTag ≠ "") (position : Nat) {before after rest : List Char}
    (hbody : insertBody quote tags.escape name = before ++ after) (hafter : after ≠ []) :
    ¬ (Lexer.feedAll { arena := {}, escape := tags.escape } position before).ClosedBy
      tags.closeTag.toList (after ++ rest) := by
  rintro ⟨hliteral, -, hprefix⟩
  unfold insertBody at hbody
  -- before the literal the closing tag does not fit, and in it no tag counts
  cases before with
  | nil =>
      rw [List.nil_append] at hbody
      rw [← hbody] at hprefix
      exact not_prefix_of_start hclose hstart (Or.inl rfl) _ hprefix
  | cons first before =>
      simp only [List.cons_append, List.cons.injEq] at hbody
      obtain ⟨rfl, hbody⟩ := hbody
      cases before with
      | nil =>
          rw [List.nil_append] at hbody
          rw [← hbody] at hprefix
          exact not_prefix_of_start hclose hstart (Or.inr rfl) _ hprefix
      | cons second before =>
          simp only [List.cons_append, List.cons.injEq] at hbody
          obtain ⟨rfl, hbody⟩ := hbody
          rw [inLiteral_insertBody hquote position hbody hafter] at hliteral
          exact absurd hliteral (by simp)

/-- The body is read to its end, where the closing tag counts. -/
theorem readFrom_insertBody (hquote : isQuote quote = true) (hescape : isQuote tags.escape = false)
    (hstart : ∀ c, tags.closeTag.toList.head? = some c → c ≠ '=' ∧ c ≠ quote)
    (hclose : tags.closeTag ≠ "") (hname : name ≠ "") (position : Nat) :
    ∃ lx, lx.Named name
      ∧ Body.ReadFrom
        { lexer := lx
          chars := insertBody quote tags.escape name
          closing := some (tags.closeTag.toList ++ []) }
        tags.closeTag.toList { arena := {}, escape := tags.escape } position
        (insertBody quote tags.escape name ++ (tags.closeTag.toList ++ [])) := by
  have hne : quote ≠ tags.escape := by
    rintro rfl
    rw [hquote] at hescape
    exact absurd hescape (by simp)
  have hnamed := (Lexer.opened_feedAll tags.escape hquote position).named hne hname
    (position + byteCount ['=', quote])
  rw [← Lexer.feedAll_append] at hnamed
  refine ⟨_, hnamed, rfl, rfl, fun closing hclosing => ?_, fun before after hbody hafter => ?_⟩
  · obtain rfl := Option.some.inj hclosing
    refine ⟨?_, ?_, List.prefix_append _ _⟩
    · rw [Lexer.inLiteral_eq, hnamed.mode]
      rfl
    · rw [List.append_nil]
      exact fun hnil => hclose (String.toList_eq_nil_iff.1 hnil)
  · exact not_closedBy_insertBody hquote hstart hclose position hbody hafter

theorem toList_insertText :
    (insertText tags quote name).toList
      = [] ++ (tags.openTag.toList
        ++ (insertBody quote tags.escape name ++ (tags.closeTag.toList ++ []))) := by
  unfold insertText
  rw [String.toList_append, String.toList_append, String.toList_ofList, List.append_assoc,
    List.nil_append, List.append_nil]

/-- A text for a name is scanned into one placeholder, without a fault. -/
theorem scan_insertText (hquote : isQuote quote = true) (hescape : isQuote tags.escape = false)
    (hstart : ∀ c, tags.closeTag.toList.head? = some c → c ≠ '=' ∧ c ≠ quote)
    (hclose : tags.closeTag ≠ "") (hname : name ≠ "") :
    ∃ (lx : Lexer) (p : Placeholder), lx.Named name ∧ p.roots = [0, 1] ∧ p.terminated = true
      ∧ scan (insertText tags quote name) tags
        = { arena := lx.arena, segments := [.placeholder p], faults := [] } := by
  obtain ⟨lx, hnamed, hread⟩ := readFrom_insertBody hquote hescape hstart hclose hname
    (0 + tags.openTag.utf8ByteSize)
  generalize hbody : ({
    lexer := lx
    chars := insertBody quote tags.escape name
    closing := some (tags.closeTag.toList ++ []) } : Body) = body at hread
  have hlexer : body.lexer = lx := by rw [← hbody]
  have hchars : body.chars = insertBody quote tags.escape name := by rw [← hbody]
  have hclosing : body.closing = some (tags.closeTag.toList ++ []) := by rw [← hbody]
  refine ⟨lx, (closedPlaceholder tags 0 body).1, hnamed, ?_, rfl, ?_⟩
  · show (body.lexer.finish _).roots = _
    rw [Lexer.roots_finish, hlexer, hnamed.roots]
  -- no text stands in front of the placeholder, and none behind it
  have hscans : Scans tags 0 (insertText tags quote name).toList {}
      { arena := body.lexer.arena
        segments := [.placeholder (closedPlaceholder tags 0 body).1]
        faults := (closedPlaceholder tags 0 body).2 ++ [] } := by
    rw [toList_insertText, ← hchars]
    rw [← hchars] at hread
    exact .closed (avoids_nil _ _) rfl hread hclosing (.done (avoids_nil _ _))
  have hfaults : (closedPlaceholder tags 0 body).2 = [] := by
    show (body.lexer.finish _).issues.map _ = []
    rw [hlexer, hnamed.issues_finish]
    rfl
  rw [hfaults, hlexer] at hscans
  have hfuel : (insertText tags quote name).toList.length
      < (insertText tags quote name).length + 1 := by
    rw [String.length_toList]
    exact Nat.lt_succ_self _
  exact hscans.eq_scanFrom (Or.inr hclose) _ hfuel

end Insert

/-- **Every name but the empty one can be written in a layer.**  An equals sign and the name as a
quoted literal, with an escape character in front of every quote and escape character of it, make
up a placeholder of an accepted layer, which inserts the name and has the right number of parts.
This is so whatever the name contains, the tags included, if the closing tag does not start as
the placeholder or the literal does. -/
theorem parse_insertText (layer name : String) (tags : Tags) (quote : Char)
    (hname : name ≠ "") (hquote : isQuote quote = true) (hescape : isQuote tags.escape = false)
    (hclose : tags.closeTag ≠ "")
    (hstart : ∀ c, tags.closeTag.toList.head? = some c → c ≠ '=' ∧ c ≠ quote) :
    ∃ parsed p d, ParsedLayer.parse layer (insertText tags quote name) tags = .ok parsed
      ∧ parsed.segments = [.placeholder p] ∧ p.directive = some d
      ∧ d.operator = .insert ∧ d.explicit = true ∧ d.arity = .eq
      ∧ parsed.references = [name] := by
  obtain ⟨lx, p, hnamed, hroots, hterminated, hscan⟩ :=
    scan_insertText hquote hescape hstart hclose hname
  have hclassify : Directive.classify lx.arena p.roots = some ⟨.insert, true, 2, some 1⟩ := by
    rw [hroots]
    unfold Directive.classify
    dsimp only
    rw [hnamed.operator]
    rfl
  have hsegments : [Segment.placeholder p].map (Segment.classified lx.arena)
      = [.placeholder { p with directive := some ⟨.insert, true, 2, some 1⟩ }] := by
    rw [List.map_singleton, Segment.classified, hclassify]
  have hbuilder : ([Segment.placeholder
      { p with directive := some ⟨.insert, true, 2, some 1⟩ }].foldl
        TreeBuilder.addSegment {}).allFaults = [] := by
    rw [List.foldl_cons, List.foldl_nil]
    unfold TreeBuilder.addSegment
    dsimp only
    rw [hterminated]
    rfl
  unfold ParsedLayer.parse
  rw [hscan]
  dsimp only
  rw [hsegments, hbuilder]
  refine ⟨_, _, _, rfl, rfl, rfl, rfl, rfl, rfl, ?_⟩
  show [(lx.arena.get 1).value] = [name]
  rw [hnamed.value]

/-- A name that holds a closing tag, a blank, an escape character and quotes. -/
def awkwardName : String := "\x7d\x7d \\'\"if"

theorem parse_insertText_awkwardName :
    insertText {} '\x27' awkwardName = "\x7b\x7b='\x7d\x7d \\\\\\'\"if'\x7d\x7d"
      ∧ ∃ parsed p d, ParsedLayer.parse "start" (insertText {} '\x27' awkwardName) {} = .ok parsed
        ∧ parsed.segments = [.placeholder p] ∧ p.directive = some d
        ∧ d.operator = .insert ∧ d.explicit = true ∧ d.arity = .eq
        ∧ parsed.references = [awkwardName] := by
  refine ⟨by decide, ?_⟩
  have hstart : ∀ c, ({} : Tags).closeTag.toList.head? = some c → c ≠ '=' ∧ c ≠ '\x27' := by
    intro c hc
    obtain rfl : '\x7d' = c := Option.some.inj hc
    decide
  exact parse_insertText "start" awkwardName {} '\x27' (by decide) rfl rfl (by decide) hstart

end LayerTemplates
