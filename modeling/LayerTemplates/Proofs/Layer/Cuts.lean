/-
  LayerTemplates.Proofs.Layer.Cuts
  ────────────────────────────────
  Scanning loses nothing and cuts at the right places.

  The ranges of the segments follow one another from the start of the text to its end.  Every
  segment was cut from the characters in its range: literal text up to the first opening tag,
  a placeholder from its opening tag to the first closing tag that counts.  Where the closing
  tag counts is what a lexer says that was fed the characters in between, whatever arena it
  adds to and wherever they stand.

  Main statements:
    * `Scans.extends` — what was scanned stays in the arena.
    * `Cuts.cons`, `Cuts.pushText` — one more segment in front of those of the rest.
    * `Scans.cuts` — a scan cuts the rest of a text.
    * `scan_cuts` — the scan of a text ends by itself, and cuts all of it.
-/
import Mathlib.Data.List.Chain
import LayerTemplates.Proofs.Layer.Scanning
import LayerTemplates.Proofs.Expression.Literal
import LayerTemplates.Proofs.Expression.Locality

namespace LayerTemplates

/-! ## §1. Segments and their ranges. -/

/-- The range of a segment. -/
def Segment.span (a : Arena) : Segment → Span
  | .text id => (a.get id).span
  | .placeholder p => p.span

/-- Whether a segment is literal text. -/
def Segment.isText : Segment → Bool
  | .text _ => true
  | .placeholder _ => false

/-- Ranges follow one another from an offset to an offset. -/
def Consecutive (start : Nat) : List Span → Nat → Prop
  | [], stop => start = stop
  | span :: rest, stop => span.start = start ∧ Consecutive span.stop rest stop

/-- After a part of a body, at a place with the given rest, the closing tag counts. -/
def Tags.ClosesAt (tags : Tags) (arena : Arena) (position : Nat) (body rest : List Char) : Prop :=
  (Lexer.feedAll { arena, escape := tags.escape } position body).ClosedBy tags.closeTag.toList rest

/-- A segment was cut from the characters of a piece, in front of some rest. -/
inductive Segment.Fits (tags : Tags) (a : Arena) : Segment → List Char → List Char → Prop
  /-- Literal text holds the piece; no opening tag stands at any place in it. -/
  | text {id : LexemeId} {piece rest : List Char} (inside : id < a.size) (nonempty : piece ≠ [])
      (form : (a.get id).form = .text) (value : (a.get id).value = String.ofList piece)
      (plain : Avoids tags.openTag.toList piece rest) :
      Fits tags a (.text id) piece rest
  /-- A placeholder has its tags around the body; the closing tag is the first that counts. -/
  | closed {p : Placeholder} {body rest : List Char} (terminated : p.terminated = true)
      (entry : p.entry
        = String.ofList (tags.openTag.toList ++ (body ++ tags.closeTag.toList)))
      (closes : ∀ arena position, tags.ClosesAt arena position body (tags.closeTag.toList ++ rest))
      (first : ∀ arena position before after, body = before ++ after → after ≠ [] →
        ¬ tags.ClosesAt arena position before (after ++ (tags.closeTag.toList ++ rest))) :
      Fits tags a (.placeholder p) (tags.openTag.toList ++ (body ++ tags.closeTag.toList)) rest
  /-- A placeholder that is cut off goes on to the end; nowhere in it a closing tag counts. -/
  | cutOff {p : Placeholder} {body : List Char} (terminated : p.terminated = false)
      (entry : p.entry
        = String.ofList ((tags.openTag.toList ++ body).take excerptLength) ++ "...")
      (never : ∀ arena position before after, body = before ++ after →
        ¬ tags.ClosesAt arena position before after) :
      Fits tags a (.placeholder p) (tags.openTag.toList ++ body) []

/-- A segment was cut from the characters in its range. -/
def Segment.CutFrom (tags : Tags) (a : Arena) (text : String) (segment : Segment) : Prop :=
  ∃ before piece after, text.toList = before ++ (piece ++ after)
    ∧ segment.span a = ⟨byteCount before, byteCount before + byteCount piece⟩
    ∧ segment.Fits tags a piece after

/-- The segments are what a text is cut into from an offset on. -/
structure Cuts (tags : Tags) (a : Arena) (text : String) (start : Nat) (segments : List Segment) :
    Prop where
  consecutive : Consecutive start (segments.map (Segment.span a)) text.utf8ByteSize
  apart : segments.IsChain fun segment next => segment.isText = true → next.isText = false
  last : ∀ p, .placeholder p ∈ segments.dropLast → p.terminated = true
  fits : ∀ segment ∈ segments, segment.CutFrom tags a text

/-- Ranges that follow one another do not overlap, and none starts before the first. -/
theorem Consecutive.pairwise {spans : List Span} :
    ∀ {start stop : Nat}, Consecutive start spans stop →
      (∀ span ∈ spans, span.start ≤ span.stop) →
        (∀ span ∈ spans, start ≤ span.start)
          ∧ spans.Pairwise fun span next => span.stop ≤ next.start := by
  induction spans with
  | nil => exact fun _ _ => ⟨fun _ hspan => absurd hspan (by simp), .nil⟩
  | cons span spans ih =>
      rintro start stop ⟨rfl, hrest⟩ hforward
      obtain ⟨hfirst, hforward⟩ := List.forall_mem_cons.1 hforward
      obtain ⟨hlater, hpairwise⟩ := ih hrest hforward
      refine ⟨List.forall_mem_cons.2 ⟨Nat.le_refl _, fun next hnext => ?_⟩,
        List.pairwise_cons.2 ⟨hlater, hpairwise⟩⟩
      exact Nat.le_trans hfirst (hlater next hnext)

/-! ## §2. The closing tag. -/

/-- Neither the arena nor the position matters to whether a closing tag counts. -/
theorem Tags.ClosesAt.elsewhere {tags : Tags} {arena : Arena} {position : Nat}
    {body rest : List Char} (h : tags.ClosesAt arena position body rest) (arena' : Arena)
    (position' : Nat) : tags.ClosesAt arena' position' body rest := by
  obtain ⟨hliteral, hrest⟩ := h
  refine ⟨?_, hrest⟩
  rw [Lexer.inLiteral_feedAll tags.escape arena' arena position' position]
  exact hliteral

/-! ## §3. The arena. -/

theorem extends_pushText (arena : Arena) (chars : List Char) (start : Nat) :
    arena.Extends (pushText arena chars start).1 := by
  unfold pushText
  split
  · exact .refl arena
  · exact arena.extends_alloc _

/-- A body leaves the lexemes alone that were there before. -/
theorem Body.ReadFrom.extends {body : Body} {closeTag chars : List Char} {arena : Arena}
    {escape : Char} {position : Nat}
    (h : body.ReadFrom closeTag { arena, escape } position chars) :
    arena.Extends body.lexer.arena := by
  rw [h.lexer_eq]
  exact Lexer.extends_feedAll arena escape position body.chars

/-- **What was scanned stays in the arena.** -/
theorem Scans.extends {tags : Tags} {position : Nat} {chars : List Char} {arena : Arena}
    {scanned : Scanned} (h : Scans tags position chars arena scanned) :
    arena.Extends scanned.arena := by
  induction h with
  | done plain => exact extends_pushText _ _ _
  | cutOff plain start_eq read closing nonempty =>
      exact (extends_pushText _ _ _).trans read.extends
  | closed plain start_eq read closing scans ih =>
      exact ((extends_pushText _ _ _).trans read.extends).trans ih

/-! ## §4. One more segment. -/

variable {tags : Tags} {a : Arena} {text : String} {start : Nat} {segments : List Segment}

theorem Cuts.nil (h : start = text.utf8ByteSize) : Cuts tags a text start [] where
  consecutive := h
  apart := .nil
  last _ hp := absurd hp (by simp)
  fits _ hsegment := absurd hsegment (by simp)

/-- A segment in front of those of the rest. -/
theorem Cuts.cons {segment : Segment} {stop : Nat} (h : Cuts tags a text stop segments)
    (hspan : segment.span a = ⟨start, stop⟩) (hfits : segment.CutFrom tags a text)
    (hapart : segment.isText = true → ∀ next ∈ segments.head?, next.isText = false)
    (hlast : ∀ p, segment = .placeholder p → segments ≠ [] → p.terminated = true) :
    Cuts tags a text start (segment :: segments) where
  consecutive := by
    rw [List.map_cons, hspan]
    exact ⟨rfl, h.consecutive⟩
  apart := List.isChain_cons.2 ⟨fun next hnext htext => hapart htext next hnext, h.apart⟩
  last p hp := by
    cases segments with
    | nil => exact absurd hp (by simp)
    | cons next rest =>
        rw [List.dropLast_cons_cons] at hp
        rcases List.mem_cons.1 hp with hp | hp
        · exact hlast p hp.symm (by simp)
        · exact h.last p hp
  fits other hother := by
    rcases List.mem_cons.1 hother with rfl | hother
    · exact hfits
    · exact h.fits other hother

/-- Literal text, if there is any, in front of a placeholder or the end. -/
theorem Cuts.pushText {arena : Arena} {before chars rest : List Char}
    (h : Cuts tags a text (byteCount (before ++ chars)) segments)
    (htext : text.toList = before ++ (chars ++ rest))
    (hplain : Avoids tags.openTag.toList chars rest)
    (hextends : (pushText arena chars (byteCount before)).1.Extends a)
    (hapart : ∀ next ∈ segments.head?, next.isText = false) :
    Cuts tags a text (byteCount before)
      ((LayerTemplates.pushText arena chars (byteCount before)).2 ++ segments) := by
  rw [byteCount_append] at h
  unfold LayerTemplates.pushText at hextends ⊢
  -- no segment is made of nothing
  by_cases hempty : chars.isEmpty = true
  · rw [if_pos hempty]
    obtain rfl := List.isEmpty_iff.1 hempty
    exact h
  · rw [if_neg hempty] at hextends ⊢
    have hinside : arena.size < (arena.alloc (Lexeme.ofText (String.ofList chars)
        ⟨byteCount before, byteCount before + byteCount chars⟩)).size := by
      rw [Arena.size_alloc]
      exact Nat.lt_succ_self _
    have hlexeme : a.get arena.size = Lexeme.ofText (String.ofList chars)
        ⟨byteCount before, byteCount before + byteCount chars⟩ := by
      rw [hextends.get_eq _ hinside, Arena.get_alloc, if_pos rfl]
    have hspan : (Segment.text arena.size).span a
        = ⟨byteCount before, byteCount before + byteCount chars⟩ := by
      show (a.get arena.size).span = _
      rw [hlexeme]
      rfl
    refine h.cons hspan ⟨before, chars, rest, htext, hspan, ?_⟩ (fun _ => hapart) ?_
    · refine .text (Nat.lt_of_lt_of_le hinside hextends.size_le) ?_ ?_ ?_ hplain
      · exact fun hnil => hempty (List.isEmpty_iff.2 hnil)
      · rw [hlexeme]
        rfl
      · rw [hlexeme]
        rfl
    · intro p hp
      exact absurd hp (by simp)

/-- A placeholder in front of the rest. -/
theorem Cuts.placeholder {p : Placeholder} {before piece rest : List Char}
    (h : Cuts tags a text (byteCount (before ++ piece)) segments)
    (htext : text.toList = before ++ (piece ++ rest))
    (hspan : p.span = ⟨byteCount before, byteCount before + byteCount piece⟩)
    (hfits : (Segment.placeholder p).Fits tags a piece rest)
    (hlast : segments ≠ [] → p.terminated = true) :
    Cuts tags a text (byteCount before) (.placeholder p :: segments) := by
  rw [byteCount_append] at h
  refine h.cons hspan ⟨before, piece, rest, htext, hspan, hfits⟩ ?_ ?_
  · exact fun htext => absurd htext (by simp [Segment.isText])
  · rintro q hq hne
    obtain rfl : p = q := by simpa using hq
    exact hlast hne

/-! ## §5. Placeholders. -/

/-- A placeholder that the end of the text cuts off. -/
theorem fits_openPlaceholder {arena : Arena} {position : Nat} {body : Body}
    (read : body.ReadFrom tags.closeTag.toList { arena, escape := tags.escape } position body.chars)
    (closing : body.closing = none) :
    (Segment.placeholder (openPlaceholder tags start body).1).Fits tags a
      (tags.openTag.toList ++ body.chars) [] := by
  refine .cutOff rfl rfl fun arena' position' before after heq hcloses => ?_
  have hfirst := read.first before after heq hcloses.2.1
  rw [closing, Option.getD_none, List.append_nil] at hfirst
  exact hfirst (hcloses.elsewhere arena position)

/-- A placeholder whose closing tag was found. -/
theorem fits_closedPlaceholder {arena : Arena} {position : Nat} {body : Body} {rest : List Char}
    (read : body.ReadFrom tags.closeTag.toList { arena, escape := tags.escape } position
      (body.chars ++ (tags.closeTag.toList ++ rest)))
    (closing : body.closing = some (tags.closeTag.toList ++ rest)) :
    (Segment.placeholder (closedPlaceholder tags start body).1).Fits tags a
      (tags.openTag.toList ++ (body.chars ++ tags.closeTag.toList)) rest := by
  refine .closed rfl ?_ (fun arena' position' => ?_) ?_
  · show tags.openTag ++ String.ofList body.chars ++ tags.closeTag = _
    rw [String.ofList_append, String.ofList_append, String.ofList_toList, String.ofList_toList,
      String.append_assoc]
  · have hcloses := read.closed _ closing
    rw [read.lexer_eq] at hcloses
    exact Tags.ClosesAt.elsewhere hcloses arena' position'
  · intro arena' position' before after heq hne hcloses
    have hfirst := read.first before after heq hne
    rw [closing, Option.getD_some] at hfirst
    exact hfirst (hcloses.elsewhere arena position)

/-- The range of a placeholder that is cut off holds its tag and its body. -/
theorem span_openPlaceholder (tags : Tags) (start : Nat) (body : Body) :
    (openPlaceholder tags start body).1.span
      = ⟨start, start + byteCount (tags.openTag.toList ++ body.chars)⟩ := by
  rw [byteCount_append, byteCount_toList, ← Nat.add_assoc]
  rfl

/-- The range of a closed placeholder holds its tags and its body. -/
theorem span_closedPlaceholder (tags : Tags) (start : Nat) (body : Body) :
    (closedPlaceholder tags start body).1.span
      = ⟨start, start
          + byteCount (tags.openTag.toList ++ (body.chars ++ tags.closeTag.toList))⟩ := by
  rw [byteCount_append, byteCount_append, byteCount_toList, byteCount_toList, ← Nat.add_assoc,
    ← Nat.add_assoc]
  rfl

/-! ## §6. Whole texts. -/

/-- **A scan cuts the rest of a text**, from where it starts to the end. -/
theorem Scans.cuts {position : Nat} {chars : List Char} {arena : Arena} {scanned : Scanned}
    (h : Scans tags position chars arena scanned) :
    ∀ front : List Char, text.toList = front ++ chars → position = byteCount front →
      Cuts tags scanned.arena text position scanned.segments := by
  -- along the scan: what was cut off in front of the rest only moves the offset
  induction h with
  | @done position chars arena plain =>
      rintro front htext rfl
      have hend : Cuts tags (pushText arena chars (byteCount front)).1 text
          (byteCount (front ++ chars)) [] := .nil (by rw [← htext, byteCount_toList])
      have hcuts := hend.pushText (by rw [htext, List.append_nil]) plain (.refl _) (by simp)
      rwa [List.append_nil] at hcuts
  | @cutOff position start before arena body plain start_eq read closing nonempty =>
      rintro front htext rfl
      obtain rfl : start = byteCount (front ++ before) := by rw [start_eq, byteCount_append]
      rw [← List.append_assoc] at htext
      have hend : Cuts tags body.lexer.arena text
          (byteCount (front ++ before ++ (tags.openTag.toList ++ body.chars))) [] :=
        .nil (by rw [← htext, byteCount_toList])
      have hlast := hend.placeholder (by rw [htext, List.append_nil]) (span_openPlaceholder _ _ _)
        (fits_openPlaceholder read closing) fun hne => absurd rfl hne
      rw [List.append_assoc] at htext
      exact hlast.pushText htext plain read.extends (by simp [Segment.isText])
  | @closed position start before rest arena body scanned plain start_eq read closing scans ih =>
      rintro front htext rfl
      obtain rfl : start = byteCount (front ++ before) := by rw [start_eq, byteCount_append]
      have hspan := span_closedPlaceholder tags (byteCount (front ++ before)) body
      have hstop := (congrArg Span.stop hspan).trans (byteCount_append _ _).symm
      have hrest := ih
        (front ++ before ++ (tags.openTag.toList ++ (body.chars ++ tags.closeTag.toList)))
        (by rw [htext]; simp only [List.append_assoc]) hstop
      rw [hstop] at hrest
      have hnext := hrest.placeholder (by rw [htext]; simp only [List.append_assoc]) hspan
        (fits_closedPlaceholder read closing) fun _ => rfl
      exact hnext.pushText htext plain (read.extends.trans scans.extends) (by simp [Segment.isText])

/-- **Scanning loses nothing and cuts at the right places.** It ends by itself, whatever bound is
set on it beyond the number of characters, and its segments are what the text is cut into from
its start to its end. -/
theorem scan_cuts (hvisible : tags.Visible) (text : String) :
    (∀ fuel, text.length < fuel → scanFrom tags fuel 0 text.toList {} = scan text tags)
      ∧ Cuts tags (scan text tags).arena text 0 (scan text tags).segments :=
  ⟨fun _ hfuel => scanFrom_eq_scan hvisible text hfuel,
    (scans_scan hvisible text).cuts [] rfl rfl⟩

/-- A closing tag that a literal hides, and one that is followed by a part of another. -/
def hiddenTag : String := "x\x7b\x7b'\x7d\x7d'\x7d\x7d\x7d"

theorem scan_cuts_hiddenTag :
    ({} : Tags).Visible
      ∧ (∀ fuel, hiddenTag.length < fuel →
          scanFrom {} fuel 0 hiddenTag.toList {} = scan hiddenTag {})
      ∧ Cuts {} (scan hiddenTag {}).arena hiddenTag 0 (scan hiddenTag {}).segments
      ∧ (scan hiddenTag {}).segments.map (Segment.span (scan hiddenTag {}).arena)
        = [⟨0, 1⟩, ⟨1, 9⟩, ⟨9, 10⟩] := by
  have hvisible : ({} : Tags).Visible := by decide
  have hcuts := scan_cuts hvisible hiddenTag
  exact ⟨hvisible, hcuts.1, hcuts.2, rfl⟩

end LayerTemplates
