/-
  LayerTemplates.Proofs.Layer.Alone
  ─────────────────────────────────
  A placeholder of a layer is read as its body is read alone.

  One arena serves all segments of a layer, in source order.  Literal text adds one lexeme to
  it; a placeholder adds what its lexer reads of the body, started on the arena as it is then.
  So the arena holds the lexemes of one segment behind those of another.  The lexemes of a
  placeholder are those of its body alone, numbered after the ones before it and counted from
  where the body stands, and its roots, its comment and its faults are those of the body too.

  Main statements:
    * `Lexer.arena_elsewhere` — the lexemes of a body, wherever it stands.
    * `Scans.allocates` — the segments of a scan fill its arena one after another.
    * `Allocates.size_eq` — how many lexemes they add.
    * `scan_placeholder_alone` — what the scan of a layer holds of a placeholder.
-/
import LayerTemplates.Proofs.Layer.Cuts
import LayerTemplates.Proofs.Layer.Reporting

namespace LayerTemplates

/-! ## §1. Arenas. -/

/-- The first lexemes of an arena. -/
def Arena.upTo (a : Arena) (count : Nat) : Arena := ⟨a.lexemes.take count⟩

/-- An arena that others were added to is the first part of what it has become. -/
theorem Arena.Extends.upTo_size {base a : Arena} (h : base.Extends a) :
    a.upTo base.size = base := by
  have hsize : base.lexemes.size ≤ a.lexemes.size := h.size_le
  unfold upTo
  obtain ⟨lexemes⟩ := base
  congr 1
  apply Array.ext_getElem?
  intro j
  show (a.lexemes.take lexemes.size)[j]? = _
  by_cases hj : j < lexemes.size
  · -- both arenas have a lexeme there, and the same one
    have hja : j < a.lexemes.size := Nat.lt_of_lt_of_le hj hsize
    have hget := h.get_eq j hj
    unfold get at hget
    rw [Array.getElem?_eq_getElem hja, Array.getElem?_eq_getElem hj] at hget
    simp only [Option.getD_some] at hget
    simp [hj, hja, hget]
  · simp [hj]

/-- The lexemes that a body adds are those that it has alone, wherever it stands. -/
theorem Lexer.arena_elsewhere (base : Arena) (offset : Nat) (escape : Char)
    (chars : List Char) :
    (feedAll { arena := base, escape } offset chars).arena
      = (feedAll { arena := {}, escape } 0 chars).arena.moved base offset := by
  cases chars with
  | nil =>
      show base = Arena.moved {} base offset
      simp [Arena.moved]
  | cons c rest =>
      rw [feedAll_elsewhere]
      rfl

/-! ## §2. Placeholders in their place. -/

namespace Placeholder

variable (p : Placeholder) (tags : Tags) (text : String) (base : Arena)

/-- Where the body starts. -/
def bodyStart : Nat := p.span.start + tags.openTag.utf8ByteSize

/-- Where the body stops. -/
def bodyStop : Nat := p.bodyStart tags + (p.body tags text).utf8ByteSize

/-- The lexer at the end of the body, started where the body starts on an arena that holds some
lexemes already. -/
def lexerOn : Lexer :=
  Lexer.feedAll { arena := base, escape := tags.escape } (p.bodyStart tags)
    (p.body tags text).toList

/-- What this lexer has read. -/
def expressionOn : Expression :=
  if p.terminated then (p.lexerOn tags text base).finish (p.bodyStop tags text)
  else (p.lexerOn tags text base).abandon

/-- The body of a placeholder stands in the text behind the opening tag, and in front of the
closing tag or the end. -/
structure Place (front after : List Char) : Prop where
  text_eq : text.toList
    = front ++ (tags.openTag.toList ++ ((p.body tags text).toList ++ after))
  start_eq : p.span.start = byteCount front
  close : if p.terminated then tags.closeTag.toList <+: after else after = []

/-- A placeholder of a text is what was read of its body by a lexer that was started on an
arena. -/
structure ReadOn : Prop where
  place : ∃ front after, p.Place tags text front after
  entry : p.terminated = true → p.entry = tags.openTag ++ p.body tags text ++ tags.closeTag
  roots : p.roots = (p.expressionOn tags text base).roots
  comment : p.comment = (p.expressionOn tags text base).comment
  faults : p.faults tags text
    = ((p.expressionOn tags text base).issues.map fun issue => issue.toFault p.entry p.span.start)
      ++ if p.terminated then []
        else [{ cause := .openPlaceholder tags.openTag, placeholder := some p.entry }]

theorem arena_lexerOn :
    (p.lexerOn tags text base).arena
      = (Expression.read (p.body tags text) tags.escape).1.moved base (p.bodyStart tags) :=
  Lexer.arena_elsewhere base _ _ _

/-- **A complete body says the same in its place as alone.** -/
theorem expressionOn_of_terminated (h : p.terminated = true) :
    p.expressionOn tags text base
      = (Expression.read (p.body tags text) tags.escape).2.moved base.size
          (p.bodyStart tags) := by
  unfold expressionOn
  rw [if_pos h]
  exact Lexer.finish_elsewhere base (p.bodyStart tags) tags.escape (p.body tags text)

end Placeholder

variable {tags : Tags} {text : String} {base a after : Arena}

/-- **A placeholder whose closing tag was found** is read in its place. -/
theorem readOn_closedPlaceholder {front rest : List Char} {body : Body}
    (h : text.toList
      = front ++ (tags.openTag.toList ++ (body.chars ++ (tags.closeTag.toList ++ rest))))
    (read : body.lexer = Lexer.feedAll { arena := base, escape := tags.escape }
      (byteCount front + tags.openTag.utf8ByteSize) body.chars) :
    (closedPlaceholder tags (byteCount front) body).1.lexerOn tags text base = body.lexer
      ∧ (closedPlaceholder tags (byteCount front) body).1.ReadOn tags text base := by
  have hbody := body_closedPlaceholder h
  have hfaults := faults_closedPlaceholder h read
  have hlexer : (closedPlaceholder tags (byteCount front) body).1.lexerOn tags text base
      = body.lexer := by
    unfold Placeholder.lexerOn
    rw [hbody, String.toList_ofList, read]
    rfl
  have hexpression : (closedPlaceholder tags (byteCount front) body).1.expressionOn tags text base
      = body.lexer.finish
          (byteCount front + tags.openTag.utf8ByteSize + byteCount body.chars) := by
    unfold Placeholder.expressionOn Placeholder.bodyStop
    rw [hlexer, hbody, ← byteCount_eq_utf8ByteSize]
    rfl
  refine ⟨hlexer, ?_, ?_, ?_, ?_, ?_⟩
  · refine ⟨front, tags.closeTag.toList ++ rest, ?_, rfl, List.prefix_append _ _⟩
    rw [hbody, String.toList_ofList, h]
  · intro _
    rw [hbody]
    rfl
  · rw [hexpression]
    rfl
  · rw [hexpression]
    rfl
  · rw [hexpression, ← hfaults]
    exact (List.append_nil _).symm

/-- **A placeholder that the end of the text cuts off** is read in its place. -/
theorem readOn_openPlaceholder {front : List Char} {body : Body}
    (h : text.toList = front ++ (tags.openTag.toList ++ body.chars))
    (read : body.lexer = Lexer.feedAll { arena := base, escape := tags.escape }
      (byteCount front + tags.openTag.utf8ByteSize) body.chars) :
    (openPlaceholder tags (byteCount front) body).1.lexerOn tags text base = body.lexer
      ∧ (openPlaceholder tags (byteCount front) body).1.ReadOn tags text base := by
  have hbody := body_openPlaceholder h
  have hfaults := faults_openPlaceholder h read
  have hlexer : (openPlaceholder tags (byteCount front) body).1.lexerOn tags text base
      = body.lexer := by
    unfold Placeholder.lexerOn
    rw [hbody, String.toList_ofList, read]
    rfl
  have hexpression : (openPlaceholder tags (byteCount front) body).1.expressionOn tags text base
      = body.lexer.abandon := by
    unfold Placeholder.expressionOn
    rw [hlexer]
    rfl
  refine ⟨hlexer, ?_, ?_, ?_, ?_, ?_⟩
  · refine ⟨front, [], ?_, rfl, rfl⟩
    rw [hbody, String.toList_ofList, h, List.append_nil]
  · intro hterminated
    exact absurd hterminated (by simp [openPlaceholder])
  · rw [hexpression]
    rfl
  · rw [hexpression]
    rfl
  · rw [hexpression, ← hfaults]
    rfl

/-! ## §3. Segments that fill an arena. -/

/-- The number of lexemes that a segment adds. -/
def Segment.lexemeCount (tags : Tags) (text : String) : Segment → Nat
  | .text _ => 1
  | .placeholder p => (Expression.read (p.body tags text) tags.escape).1.size

/-- The number of lexemes that segments add. -/
def lexemeCount (tags : Tags) (text : String) (segments : List Segment) : Nat :=
  segments.foldr (fun segment count => segment.lexemeCount tags text + count) 0

/-- The segments of a text take an arena to another one: each is read on the arena that those
before it have left. -/
inductive Allocates (tags : Tags) (text : String) : Arena → List Segment → Arena → Prop
  | nil {a : Arena} : Allocates tags text a [] a
  | text {a after : Arena} {front piece rest : List Char} {segments : List Segment}
      (place : text.toList = front ++ (piece ++ rest)) (nonempty : piece ≠ [])
      (others : Allocates tags text (a.alloc (Lexeme.ofText (String.ofList piece)
        ⟨byteCount front, byteCount front + byteCount piece⟩)) segments after) :
      Allocates tags text a (.text a.size :: segments) after
  | placeholder {a after : Arena} {p : Placeholder} {segments : List Segment}
      (read : p.ReadOn tags text a)
      (others : Allocates tags text (p.lexerOn tags text a).arena segments after) :
      Allocates tags text a (.placeholder p :: segments) after

/-- Literal text, if there is any, is read first. -/
theorem Allocates.pushText {front piece rest : List Char} {segments : List Segment}
    (place : text.toList = front ++ (piece ++ rest))
    (h : Allocates tags text (LayerTemplates.pushText a piece (byteCount front)).1 segments
      after) :
    Allocates tags text a
      ((LayerTemplates.pushText a piece (byteCount front)).2 ++ segments) after := by
  unfold LayerTemplates.pushText at h ⊢
  by_cases hempty : piece.isEmpty = true
  · rw [if_pos hempty] at h ⊢
    exact h
  · rw [if_neg hempty] at h ⊢
    exact .text place (fun hnil => hempty (List.isEmpty_iff.2 hnil)) h

/-- **The segments of a scan fill its arena one after another.** -/
theorem Scans.allocates {position : Nat} {chars : List Char} {arena : Arena} {scanned : Scanned}
    (h : Scans tags position chars arena scanned) :
    ∀ front : List Char, text.toList = front ++ chars → position = byteCount front →
      Allocates tags text arena scanned.segments scanned.arena := by
  -- on the scan, which is of the rest of the text behind what was read already
  induction h with
  | @done position chars arena plain =>
      rintro front htext rfl
      have hend : Allocates tags text (pushText arena chars (byteCount front)).1 []
          (pushText arena chars (byteCount front)).1 := .nil
      have htext' : text.toList = front ++ (chars ++ []) := by rw [htext, List.append_nil]
      have hall := hend.pushText htext'
      rwa [List.append_nil] at hall
  | @cutOff position start before arena body plain start_eq read closing nonempty =>
      rintro front htext rfl
      obtain rfl : start = byteCount (front ++ before) := by rw [start_eq, byteCount_append]
      have hbefore := htext
      rw [← List.append_assoc] at htext
      obtain ⟨hlexer, hread⟩ := readOn_openPlaceholder htext read.lexer_eq
      refine Allocates.pushText hbefore (.placeholder hread ?_)
      rw [hlexer]
      exact .nil
  | @closed position start before rest arena body scanned plain start_eq read closing scans ih =>
      rintro front htext rfl
      obtain rfl : start = byteCount (front ++ before) := by rw [start_eq, byteCount_append]
      have hbefore := htext
      rw [← List.append_assoc] at htext
      obtain ⟨hlexer, hread⟩ := readOn_closedPlaceholder htext read.lexer_eq
      refine Allocates.pushText hbefore (.placeholder hread ?_)
      rw [hlexer]
      refine ih (front ++ before ++ (tags.openTag.toList ++ (body.chars ++ tags.closeTag.toList)))
        ?_ ?_
      · rw [htext]
        simp only [List.append_assoc]
      · exact (congrArg Span.stop (span_closedPlaceholder tags _ body)).trans
          (byteCount_append _ _).symm

theorem scan_allocates (hvisible : tags.Visible) (text : String) :
    Allocates tags text {} (scan text tags).segments (scan text tags).arena :=
  (scans_scan hvisible text).allocates [] rfl rfl

namespace Allocates

/-- What was there before stays. -/
theorem keeps {segments : List Segment} (h : Allocates tags text a segments after) :
    a.Extends after := by
  induction h with
  | nil => exact .refl _
  | text place nonempty others ih => exact (Arena.extends_alloc _ _).trans ih
  | placeholder read others ih => exact (Lexer.extends_feedAll _ _ _ _).trans ih

/-- The first segments are read before the others. -/
theorem split {before segments : List Segment} :
    ∀ {a : Arena}, Allocates tags text a (before ++ segments) after →
      ∃ between, Allocates tags text a before between
        ∧ Allocates tags text between segments after := by
  induction before with
  | nil => exact fun {a} h => ⟨a, .nil, h⟩
  | cons segment before ih =>
      intro a h
      cases h with
      | text place nonempty others =>
          obtain ⟨between, hbefore, hrest⟩ := ih others
          exact ⟨between, .text place nonempty hbefore, hrest⟩
      | placeholder read others =>
          obtain ⟨between, hbefore, hrest⟩ := ih others
          exact ⟨between, .placeholder read hbefore, hrest⟩

/-- **How many lexemes the segments add.** -/
theorem size_eq {segments : List Segment} (h : Allocates tags text a segments after) :
    after.size = a.size + lexemeCount tags text segments := by
  induction h with
  | nil => rfl
  | text place nonempty others ih =>
      rw [ih, Arena.size_alloc]
      simp only [lexemeCount, List.foldr_cons, Segment.lexemeCount]
      omega
  | @placeholder a after p segments read others ih =>
      rw [ih, p.arena_lexerOn, Arena.size_moved]
      simp only [lexemeCount, List.foldr_cons, Segment.lexemeCount]
      omega

/-- **Where a placeholder is reached**, the arena holds the lexemes of the segments before it,
and in the end it still starts with these and with those that the placeholder has added. -/
theorem reached {before others : List Segment} {p : Placeholder}
    (h : Allocates tags text a (before ++ .placeholder p :: others) after) :
    ∃ reached, Allocates tags text a before reached
      ∧ reached.size = a.size + lexemeCount tags text before
      ∧ p.ReadOn tags text reached
      ∧ after.upTo (a.size + lexemeCount tags text before) = reached
      ∧ after.upTo (a.size + lexemeCount tags text before
          + (Expression.read (p.body tags text) tags.escape).1.size)
        = (p.lexerOn tags text reached).arena := by
  obtain ⟨reached, hbefore, hrest⟩ := h.split
  refine ⟨reached, hbefore, hbefore.size_eq, ?_⟩
  rw [← hbefore.size_eq]
  have hreached := hrest.keeps.upTo_size
  cases hrest with
  | placeholder read others =>
      have hafter := others.keeps.upTo_size
      rw [p.arena_lexerOn, Arena.size_moved, ← p.arena_lexerOn] at hafter
      exact ⟨read, hreached, hafter⟩

end Allocates

/-! ## §4. Whole texts. -/

namespace Scanned

/-- The faults of the placeholders among some segments. -/
def faultsOf (tags : Tags) (text : String) (segments : List Segment) : List Fault :=
  (segments.filterMap Segment.placeholder?).flatMap fun p => p.faults tags text

end Scanned

theorem scan_faults_split (hvisible : tags.Visible) {text : String} {before others : List Segment}
    {p : Placeholder} (h : (scan text tags).segments = before ++ .placeholder p :: others) :
    (scan text tags).faults = Scanned.faultsOf tags text before
      ++ (p.faults tags text ++ Scanned.faultsOf tags text others) := by
  rw [scan_faults hvisible]
  unfold Scanned.placeholders Scanned.faultsOf
  rw [h, List.filterMap_append, List.flatMap_append]
  rfl

/-- **A placeholder of a layer is read as its body is read alone.**  The segments of a layer add
all of its lexemes, one segment after another.  Where a closed placeholder is reached, the arena
holds the lexemes of the segments before it; the lexer that is started there, where the body
stands, adds the lexemes of the body alone, numbered after those and counted from where the body
stands, and nothing changes these lexemes later on.  The roots and the comment of the placeholder
are those of the body alone, with the roots numbered in the same way.  Its faults are the issues of
the body alone, with positions that count the opening tag, and stand in the report between those
of the placeholders before it and those of the placeholders after it. -/
theorem scan_placeholder_alone (hvisible : tags.Visible) (text : String) :
    let scanned := scan text tags
    scanned.arena.size = lexemeCount tags text scanned.segments
      ∧ ∀ before p others, scanned.segments = before ++ .placeholder p :: others →
        p.terminated = true →
        let body := p.body tags text
        let alone := Expression.read body tags.escape
        let first := lexemeCount tags text before
        let reached := scanned.arena.upTo first
        let offset := p.span.start + tags.openTag.utf8ByteSize
        let lexer := Lexer.feedAll { arena := reached, escape := tags.escape } offset body.toList
        p.entry = tags.openTag ++ body ++ tags.closeTag
          ∧ reached.size = first
          ∧ lexer.arena = scanned.arena.upTo (first + alone.1.size)
          ∧ lexer.arena = alone.1.moved reached offset
          ∧ lexer.finish (offset + body.utf8ByteSize) = alone.2.moved first offset
          ∧ p.roots = alone.2.roots.map (first + ·)
          ∧ p.comment = alone.2.comment
          ∧ scanned.faults = Scanned.faultsOf tags text before
            ++ ((alone.2.issues.map fun issue =>
                { cause := issue.cause
                  placeholder := some (tags.openTag ++ body ++ tags.closeTag)
                  position := some (tags.openTag.utf8ByteSize + issue.position) })
              ++ Scanned.faultsOf tags text others) := by
  intro scanned
  have hall := scan_allocates hvisible text
  refine ⟨?_, ?_⟩
  · rw [hall.size_eq]
    exact Nat.zero_add _
  · intro before p others hsegments hterminated body alone first reached offset lexer
    -- the placeholder is read on the arena that the segments before it have left
    have hfaults := scan_faults_split hvisible hsegments
    rw [show (scan text tags).segments = before ++ .placeholder p :: others from hsegments] at hall
    obtain ⟨found, -, hsize, hread, hfound, hafter⟩ := hall.reached
    rw [show Arena.size {} = 0 from rfl, Nat.zero_add] at hsize hfound hafter
    obtain rfl : reached = found := hfound
    have hexpression := p.expressionOn_of_terminated tags text reached hterminated
    have hfinish : lexer.finish (offset + body.utf8ByteSize) = alone.2.moved first offset := by
      have hin : p.expressionOn tags text reached
          = lexer.finish (offset + body.utf8ByteSize) := if_pos hterminated
      rw [← hin, hexpression, hsize]
      rfl
    refine ⟨hread.entry hterminated, hsize, hafter.symm, p.arena_lexerOn tags text reached,
      hfinish, ?_, ?_, ?_⟩
    · rw [hread.roots, hexpression, hsize]
      rfl
    · rw [hread.comment, hexpression]
      rfl
    -- of all faults those of its own are the ones noted alone, told with its entry
    · have hown : p.faults tags text
          = alone.2.issues.map fun issue => issue.inPlaceholder tags p.entry := if_pos hterminated
      rw [hread.entry hterminated] at hown
      rw [show scanned.faults = _ from hfaults, hown]
      rfl

/-- A placeholder with two faults, behind another one and a text of two bytes. -/
def crowdedText : String := "\x7b\x7ba.b\x7d\x7d\u00e9\x7b\x7bc..d e(\x27\x27)\x7d\x7d\x7b\x7b^"

theorem scan_placeholder_alone_crowdedText :
    let alone := Expression.read "c..d e(\x27\x27)" '\\'
    ({} : Tags).Visible
      ∧ ∃ before p others, (scan crowdedText {}).segments = before ++ .placeholder p :: others
        ∧ p.terminated = true
        ∧ lexemeCount {} crowdedText before = 3
        ∧ (scan crowdedText {}).arena.upTo 7
          = alone.1.moved ((scan crowdedText {}).arena.upTo 3) 11
        ∧ p.roots = alone.2.roots.map (3 + ·)
        ∧ alone.2.roots = [0, 2]
        ∧ alone.2.issues.map Issue.position = [2, 8] := by
  intro alone
  have hvisible : ({} : Tags).Visible := by decide
  have hsegments : (scan crowdedText {}).segments
      = (scan crowdedText {}).segments.take 2
        ++ .placeholder
          { entry := "\x7b\x7bc..d e(\x27\x27)\x7d\x7d", span := ⟨9, 23⟩, roots := [3, 5]
            comment := none, terminated := true }
        :: (scan crowdedText {}).segments.drop 3 := by decide +kernel
  have hfirst : lexemeCount {} crowdedText ((scan crowdedText {}).segments.take 2) = 3 := by
    decide +kernel
  obtain ⟨-, -, hadded, harena, -, hroots, -⟩ :=
    (scan_placeholder_alone hvisible crowdedText).2 _ _ _ hsegments rfl
  refine ⟨hvisible, _, _, _, hsegments, rfl, hfirst, ?_, ?_, by decide +kernel, by decide +kernel⟩
  · rw [hfirst] at hadded harena
    exact hadded.symm.trans harena
  · rw [hfirst] at hroots
    exact hroots

end LayerTemplates
