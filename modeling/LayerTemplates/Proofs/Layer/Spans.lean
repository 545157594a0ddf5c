/-
  LayerTemplates.Proofs.Layer.Spans
  ─────────────────────────────────
  The ranges of the lexemes of a layer.

  A scan goes over a text once, and so do the lexemes that it adds to its arena.  Literal text
  stands where it was cut; a body is read on the arena as it is then, so the operands of the body
  stand behind what was there before.  The tags belong to no lexeme.  Nothing of this depends on
  whether a body has faults.

  Main statements:
    * `Scans.along` — the lexemes of a scan stand in the text, one after another.
    * `Allocates.encloses` — the lexemes that a segment adds stand in it.
    * `scan_spans` — what the ranges of the lexemes of a layer are.
-/
import LayerTemplates.Proofs.Expression.Spans
import LayerTemplates.Proofs.Layer.Alone

namespace LayerTemplates

variable {tags : Tags} {text : String}

/-! ## §1. Whole scans. -/

/-- The text ends inside a literal of a placeholder that it cuts off. -/
def EndsInLiteral (tags : Tags) (text : String) (segments : List Segment) : Prop :=
  ∃ p, segments.getLast? = some (.placeholder p) ∧ p.terminated = false
    ∧ (Lexer.feedAll { arena := {}, escape := tags.escape } 0
      (p.body tags text).toList).inLiteral = true

/-- What comes before the last segments does not matter to how the text ends. -/
theorem EndsInLiteral.append {segments : List Segment} (h : EndsInLiteral tags text segments)
    (before : List Segment) : EndsInLiteral tags text (before ++ segments) := by
  obtain ⟨p, hlast, hrest⟩ := h
  refine ⟨p, ?_, hrest⟩
  rw [List.getLast?_append, hlast]
  rfl

/-- Literal text stands where it was cut. -/
theorem Along.pushText {escape : Char} {a : Arena} {front : List Char}
    (h : Along escape a.marks front false) (piece : List Char) :
    Along escape (LayerTemplates.pushText a piece (byteCount front)).1.marks (front ++ piece)
      false := by
  unfold LayerTemplates.pushText
  by_cases hempty : piece.isEmpty = true
  · rw [if_pos hempty, List.isEmpty_iff.1 hempty, List.append_nil]
    exact h
  · rw [if_neg hempty, Arena.marks_alloc]
    have hvalue : String.ofList piece ≠ "" := fun heq =>
      hempty (List.isEmpty_iff.2 (String.ofList_eq_empty_iff.1 heq))
    have hwritten : Mark.WrittenAs escape (Lexeme.ofText (String.ofList piece)
        ⟨byteCount front, byteCount front + byteCount piece⟩).mark
        (String.ofList piece).toList := .text rfl rfl hvalue
    rw [String.toList_ofList] at hwritten
    exact h.mark hwritten rfl

/-- The operands of a body stand behind the opening tag. -/
theorem Body.ReadFrom.along {body : Body} {closeTag chars front : List Char} {arena : Arena}
    (h : body.ReadFrom closeTag { arena, escape := tags.escape }
      (byteCount front + tags.openTag.utf8ByteSize) chars)
    (halong : Along tags.escape arena.marks front false) :
    Along tags.escape body.lexer.arena.marks (front ++ (tags.openTag.toList ++ body.chars))
      body.lexer.inLiteral := by
  have hbody := LaidOut.along_feedAll (halong.skips tags.openTag.toList) body.chars
  rw [byteCount_append, byteCount_toList, ← h.lexer_eq, List.append_assoc] at hbody
  exact hbody

/-- **The lexemes of a scan stand in the text one after another.**  Only a literal in which the
text ends is not complete. -/
theorem Scans.along {position : Nat} {chars : List Char} {arena : Arena} {scanned : Scanned}
    (h : Scans tags position chars arena scanned) :
    ∀ front : List Char, text.toList = front ++ chars → position = byteCount front →
      Along tags.escape arena.marks front false →
      ∃ isOpen, Along tags.escape scanned.arena.marks text.toList isOpen
        ∧ (isOpen = true → EndsInLiteral tags text scanned.segments) := by
  -- on the scan: what stands in the text up to a placeholder also stands in front of its body
  induction h with
  | @done position chars arena plain =>
      rintro front htext rfl halong
      rw [htext]
      exact ⟨false, halong.pushText chars, fun htrue => absurd htrue (by simp)⟩
  | @cutOff position start before arena body plain start_eq read closing nonempty =>
      rintro front htext rfl halong
      obtain rfl : start = byteCount (front ++ before) := by rw [start_eq, byteCount_append]
      rw [← List.append_assoc] at htext
      have hbody := read.along (halong.pushText before)
      rw [← htext] at hbody
      refine ⟨body.lexer.inLiteral, hbody, fun hliteral => ?_⟩
      refine EndsInLiteral.append ⟨_, rfl, rfl, ?_⟩ _
      rw [body_openPlaceholder htext, String.toList_ofList, Lexer.inLiteral_feedAll tags.escape {}
        (LayerTemplates.pushText arena before (byteCount front)).1 0
        (byteCount (front ++ before) + tags.openTag.utf8ByteSize), ← read.lexer_eq]
      exact hliteral
  | @closed position start before rest arena body scanned plain start_eq read closing scans ih =>
      rintro front htext rfl halong
      obtain rfl : start = byteCount (front ++ before) := by rw [start_eq, byteCount_append]
      rw [← List.append_assoc] at htext
      have hbody := read.along (halong.pushText before)
      rw [(read.closed _ closing).1] at hbody
      obtain ⟨isOpen, hall, hends⟩ := ih
        (front ++ before ++ (tags.openTag.toList ++ (body.chars ++ tags.closeTag.toList)))
        (by rw [htext]; simp only [List.append_assoc])
        ((congrArg Span.stop (span_closedPlaceholder tags _ body)).trans
          (byteCount_append _ _).symm)
        (by simpa only [List.append_assoc] using hbody.skips tags.closeTag.toList)
      refine ⟨isOpen, hall, fun htrue => ?_⟩
      exact (List.append_cons _ _ _).symm ▸ (hends htrue).append _

/-! ## §2. Single segments. -/

/-- A lexeme stands in the segment that has added it: it is the literal text itself, or its
range lies in the body, which stands between the tags. -/
def Segment.Encloses (tags : Tags) (text : String) (a : Arena) (id : LexemeId) : Segment → Prop
  | .text own => id = own ∧ (a.get id).form = .text
  | .placeholder p =>
      (∃ front after, p.Place tags text front after)
      ∧ p.bodyStart tags ≤ (a.get id).span.start
      ∧ (a.get id).span.stop ≤ p.bodyStop tags text

/-- The lexemes of a body alone stand in it. -/
theorem along_read (body : String) (escape : Char) :
    ∃ isOpen, Along escape (Expression.read body escape).1.marks body.toList isOpen := by
  have hnone : Along escape ({} : Arena).marks [] false := .nil
  exact ⟨_, LaidOut.along_feedAll hnone body.toList⟩

/-- **The lexemes that a segment adds stand in it.** -/
theorem Allocates.encloses {a after : Arena} {before others : List Segment} {segment : Segment}
    (h : Allocates tags text a (before ++ segment :: others) after) {id : LexemeId}
    (hlow : a.size + lexemeCount tags text before ≤ id)
    (hhigh : id < a.size + lexemeCount tags text before + segment.lexemeCount tags text) :
    segment.Encloses tags text after id := by
  obtain ⟨reached, hbefore, hrest⟩ := h.split
  rw [← hbefore.size_eq] at hlow hhigh
  cases hrest with
  | @text _ _ front piece rest _ place nonempty others =>
      obtain rfl : id = reached.size := Nat.le_antisymm (Nat.le_of_lt_succ hhigh) hlow
      refine ⟨rfl, ?_⟩
      rw [others.keeps.get_eq _ (by simp), Arena.get_alloc, if_pos rfl]
      rfl
  | @placeholder _ _ p _ read others =>
      -- the lexeme is one of the body alone, counted from where the body starts
      obtain ⟨k, rfl⟩ := Nat.exists_eq_add_of_le hlow
      have hk : k < (Expression.read (p.body tags text) tags.escape).1.size := by
        exact Nat.lt_of_add_lt_add_left hhigh
      obtain ⟨isOpen, halong⟩ := along_read (p.body tags text) tags.escape
      obtain ⟨piece, hholds, -⟩ := halong.get k _ (Arena.marks_getElem? hk)
      have hstop := hholds.stop_le
      rw [byteCount_toList] at hstop
      have hspan : (after.get (reached.size + k)).span
          = ((Expression.read (p.body tags text) tags.escape).1.get k).span.moved
            (p.bodyStart tags) := by
        rw [others.keeps.get_eq _ (by rw [p.arena_lexerOn, Arena.size_moved]; omega),
          p.arena_lexerOn, Arena.get_moved, if_pos hk]
        rfl
      refine ⟨read.place, ?_, ?_⟩
      · rw [hspan]
        exact Nat.le_add_right _ _
      · rw [hspan]
        exact Nat.add_le_add_left hstop _

/-! ## §3. Whole texts. -/

/-- **The ranges of lexemes are faithful.**  In allocation order the ranges of the lexemes of a
layer are increasing and disjoint, and every lexeme lies in the segment that has added it.  At
every range stands a piece of the text: the value itself for literal text and for bare words, a
caret and the value for levels, and for a literal its quote, a string that gives the value, and
the same quote.  Only a literal that the end of the text cuts off has no second quote. -/
theorem scan_spans (hvisible : tags.Visible) (text : String) :
    let scanned := scan text tags
    let a := scanned.arena
    (∀ i j, i < j → j < a.size → (a.get i).span.stop ≤ (a.get j).span.start)
      ∧ a.size = lexemeCount tags text scanned.segments
      ∧ (∀ before segment others, scanned.segments = before ++ segment :: others →
          ∀ id, lexemeCount tags text before ≤ id →
            id < lexemeCount tags text before + segment.lexemeCount tags text →
            segment.Encloses tags text a id)
      ∧ ∀ id < a.size, (a.get id).span.start < (a.get id).span.stop
        ∧ ∃ piece, (a.get id).span.Holds text.toList piece
          ∧ ((a.get id).mark.WrittenAs tags.escape piece
            ∨ id + 1 = a.size ∧ EndsInLiteral tags text scanned.segments
              ∧ (a.get id).mark.LeftOpen tags.escape piece) := by
  intro scanned a
  have hall := scan_allocates hvisible text
  obtain ⟨isOpen, halong, hends⟩ := (scans_scan hvisible text).along [] rfl rfl .nil
  -- all is read off the marks, which stand in the order of allocation
  have hmark : ∀ id, id < a.size → a.marks[id]? = some (a.get id).mark :=
    fun id hid => Arena.marks_getElem? hid
  refine ⟨fun i j hij hj => ?_, ?_, ?_, fun id hid => ⟨?_, ?_⟩⟩
  · have hpair := List.pairwise_iff_getElem.1 halong.pairwise i j
      (by rw [Arena.length_marks]; exact Nat.lt_trans hij hj) (by rwa [Arena.length_marks]) hij
    have hi := hmark i (Nat.lt_trans hij hj)
    have hj := hmark j hj
    rw [(List.getElem?_eq_some_iff.1 hi).2, (List.getElem?_eq_some_iff.1 hj).2] at hpair
    exact hpair
  · rw [hall.size_eq]
    exact Nat.zero_add _
  · intro before segment others hsegments id hlow hhigh
    rw [show (scan text tags).segments = before ++ segment :: others from hsegments] at hall
    exact hall.encloses (by rwa [show Arena.size {} = 0 from rfl, Nat.zero_add])
      (by rwa [show Arena.size {} = 0 from rfl, Nat.zero_add])
  · exact halong.start_lt_stop (List.mem_of_getElem? (hmark id hid))
  · obtain ⟨piece, hholds, hwritten⟩ := halong.get id _ (hmark id hid)
    refine ⟨piece, hholds, hwritten.imp_right ?_⟩
    rintro ⟨htrue, hlast, hopen⟩
    rw [Arena.length_marks] at hlast
    exact ⟨hlast, hends htrue, hopen⟩

/-- Operands with and without faults: escaped, empty, raw, and cut off. -/
def brokenText : String :=
  "a\x7b\x7b\u00e9.\x27b\\\x27c\x27 \x27\x27\x7d\x7d\x7b\x7b^2[)\x60x\x60 \x22y"

theorem scan_spans_brokenText :
    let scanned := scan brokenText {}
    let a := scanned.arena
    ({} : Tags).Visible
      ∧ (∀ i j, i < j → j < a.size → (a.get i).span.stop ≤ (a.get j).span.start)
      ∧ a.size = 7
      ∧ (∀ before segment others, scanned.segments = before ++ segment :: others →
          ∀ id, lexemeCount {} brokenText before ≤ id →
            id < lexemeCount {} brokenText before + segment.lexemeCount {} brokenText →
            segment.Encloses {} brokenText a id)
      ∧ (∀ id < a.size, ∃ piece, (a.get id).span.Holds brokenText.toList piece
        ∧ ((a.get id).mark.WrittenAs '\\' piece
          ∨ id + 1 = a.size ∧ EndsInLiteral {} brokenText scanned.segments
            ∧ (a.get id).mark.LeftOpen '\\' piece))
      ∧ a.marks.map Mark.span
        = [⟨0, 1⟩, ⟨3, 5⟩, ⟨6, 12⟩, ⟨13, 15⟩, ⟨19, 21⟩, ⟨23, 26⟩, ⟨27, 29⟩] := by
  intro scanned a
  have hvisible : ({} : Tags).Visible := by decide
  obtain ⟨hordered, -, hencloses, hstands⟩ := scan_spans hvisible brokenText
  exact ⟨hvisible, hordered, by decide +kernel, hencloses, fun id hid => (hstands id hid).2,
    by decide +kernel⟩

end LayerTemplates
