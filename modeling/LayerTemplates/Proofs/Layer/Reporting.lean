/-
  LayerTemplates.Proofs.Layer.Reporting
  ─────────────────────────────────────
  What the report on a layer says.

  A body is read to its end whatever is wrong with it, and the next placeholder is read as if
  nothing had been wrong; so the faults of a placeholder are those of its body, read on its own.
  The builder is told of every placeholder that was closed, also of one with faults, and its own
  faults come last.  No fault hides another one and none comes from anywhere else: a layer is
  accepted exactly if its placeholders have no faults and are well nested.

  Main statements:
    * `Scans.faults_eq` — the faults of a scan are those of its placeholders, one by one.
    * `Scanned.foldl_addSegment` — the builder is told of every closed placeholder.
    * `ParsedLayer.parse_eq` — what is accepted, and what is reported otherwise.
    * `ParsedLayer.parse_reports` — every fault is reported and none is made up.
-/
import Mathlib.Data.String.Basic
import LayerTemplates.Proofs.Control.Origins
import LayerTemplates.Proofs.Expression.Moving
import LayerTemplates.Proofs.Layer.Accepted
import LayerTemplates.Proofs.Layer.Scanning

namespace LayerTemplates

/-! ## §1. Placeholders on their own. -/

/-- The issues of a body that the end of the text cuts off: those of its characters, and that a
literal is open.  What a complete body has to pass is not asked of it. -/
def Expression.cutIssues (body : String) (escape : Char) : List Issue :=
  let lx := Lexer.feedAll { arena := {}, escape } 0 body.toList
  lx.issues ++ if lx.inLiteral then [{ cause := .openLiteral, position := lx.lastPosition }] else []

/-- The fault that an issue of the body is in a placeholder of its own. -/
def Issue.inPlaceholder (issue : Issue) (tags : Tags) (entry : String) : Fault :=
  { cause := issue.cause
    placeholder := some entry
    position := some (tags.openTag.utf8ByteSize + issue.position) }

namespace Placeholder

/-- The body of a placeholder of a text: what stands between its tags, or from the opening tag
to the end. -/
def body (p : Placeholder) (tags : Tags) (text : String) : String :=
  String.Pos.Raw.extract text ⟨p.span.start + tags.openTag.utf8ByteSize⟩
    ⟨if p.terminated then p.span.stop - tags.closeTag.utf8ByteSize else p.span.stop⟩

/-- The faults of a placeholder, told from its body alone. -/
def faults (p : Placeholder) (tags : Tags) (text : String) : List Fault :=
  if p.terminated then
    (Expression.read (p.body tags text) tags.escape).2.issues.map fun issue =>
      issue.inPlaceholder tags p.entry
  else
    ((Expression.cutIssues (p.body tags text) tags.escape).map fun issue =>
      issue.inPlaceholder tags p.entry)
      ++ [{ cause := .openPlaceholder tags.openTag, placeholder := some p.entry }]

end Placeholder

namespace Scanned

/-- The placeholders in source order. -/
def placeholders (scanned : Scanned) : List Placeholder :=
  scanned.segments.filterMap Segment.placeholder?

end Scanned

/-- The step of a segment, as soon as its placeholder is classified; one that is cut off takes
none. -/
def Segment.scannedStep? (a : Arena) : Segment → Option ControlStep
  | .text id => some (.text id)
  | .placeholder p =>
      if p.terminated then (Directive.classify a p.roots).map fun d => .directive d p.entry
      else none

/-- The stretches of text and the directives of all closed placeholders. -/
def Scanned.steps (scanned : Scanned) : List ControlStep :=
  scanned.segments.filterMap (Segment.scannedStep? scanned.arena)

/-! ## §2. Bodies. -/

variable {tags : Tags} {text : String}

/-- **What stands at a range is the piece that was cut there.** -/
theorem extract_eq {before piece after : List Char}
    (h : text.toList = before ++ (piece ++ after)) :
    String.Pos.Raw.extract text ⟨byteCount before⟩ ⟨byteCount before + byteCount piece⟩
      = String.ofList piece := by
  have hbytes : ∀ chars : List Char, byteCount chars = String.utf8Len chars := by
    intro chars
    rw [byteCount_eq_utf8ByteSize, String.utf8ByteSize_ofList]
  have htext : text = String.ofList (before ++ piece ++ after) := by
    rw [List.append_assoc, ← h, String.ofList_toList]
  rw [htext, hbytes, hbytes]
  exact String.extract_of_valid before piece after

theorem body_openPlaceholder {before : List Char} {body : Body}
    (h : text.toList = before ++ (tags.openTag.toList ++ body.chars)) :
    (openPlaceholder tags (byteCount before) body).1.body tags text = String.ofList body.chars := by
  have hcut : text.toList = before ++ tags.openTag.toList ++ (body.chars ++ []) := by
    rw [h, List.append_nil, List.append_assoc]
  have hextract := extract_eq hcut
  rw [byteCount_append, byteCount_toList] at hextract
  exact hextract

theorem body_closedPlaceholder {before rest : List Char} {body : Body}
    (h : text.toList
      = before ++ (tags.openTag.toList ++ (body.chars ++ (tags.closeTag.toList ++ rest)))) :
    (closedPlaceholder tags (byteCount before) body).1.body tags text
      = String.ofList body.chars := by
  have hcut : text.toList
      = before ++ tags.openTag.toList ++ (body.chars ++ (tags.closeTag.toList ++ rest)) := by
    rw [h, List.append_assoc]
  have hextract := extract_eq hcut
  rw [byteCount_append, byteCount_toList] at hextract
  unfold Placeholder.body
  show String.Pos.Raw.extract text _ ⟨byteCount before + tags.openTag.utf8ByteSize
    + byteCount body.chars + tags.closeTag.utf8ByteSize - tags.closeTag.utf8ByteSize⟩ = _
  rw [Nat.add_sub_cancel]
  exact hextract

/-! ## §3. Faults of a scan. -/

/-- The position of an issue inside its placeholder does not depend on where that stands. -/
theorem Issue.toFault_moved (issue : Issue) (entry : String) (start : Nat) :
    (issue.moved (start + tags.openTag.utf8ByteSize)).toFault entry start
      = issue.inPlaceholder tags entry := by
  have hposition : start + tags.openTag.utf8ByteSize + issue.position - start
      = tags.openTag.utf8ByteSize + issue.position := by omega
  show (⟨issue.cause, some entry,
    some (start + tags.openTag.utf8ByteSize + issue.position - start)⟩ : Fault) = _
  rw [hposition]
  rfl

/-- **The faults of a closed placeholder** are those of its body, read on its own. -/
theorem faults_closedPlaceholder {arena : Arena} {before rest : List Char} {body : Body}
    (h : text.toList
      = before ++ (tags.openTag.toList ++ (body.chars ++ (tags.closeTag.toList ++ rest))))
    (read : body.lexer = Lexer.feedAll { arena, escape := tags.escape }
      (byteCount before + tags.openTag.utf8ByteSize) body.chars) :
    (closedPlaceholder tags (byteCount before) body).2
      = (closedPlaceholder tags (byteCount before) body).1.faults tags text := by
  have hfinish : body.lexer.finish
      (byteCount before + tags.openTag.utf8ByteSize + byteCount body.chars)
      = (Expression.read (String.ofList body.chars) tags.escape).2.moved arena.size
          (byteCount before + tags.openTag.utf8ByteSize) := by
    have helse := Lexer.finish_elsewhere arena (byteCount before + tags.openTag.utf8ByteSize)
      tags.escape (String.ofList body.chars)
    rw [String.toList_ofList, ← byteCount_eq_utf8ByteSize, ← read] at helse
    exact helse
  -- the issues of both sides are the same, with offsets into the text on the left
  unfold Placeholder.faults
  rw [body_closedPlaceholder h]
  show (body.lexer.finish _).issues.map _ = _
  rw [hfinish]
  show (List.map _ _).map _ = _
  rw [List.map_map]
  refine List.map_congr_left fun issue _ => ?_
  exact issue.toFault_moved _ _

/-- **The faults of a placeholder that is cut off** are those of what was read of it, and that it
is open. -/
theorem faults_openPlaceholder {arena : Arena} {before : List Char} {body : Body}
    (h : text.toList = before ++ (tags.openTag.toList ++ body.chars))
    (read : body.lexer = Lexer.feedAll { arena, escape := tags.escape }
      (byteCount before + tags.openTag.utf8ByteSize) body.chars) :
    (openPlaceholder tags (byteCount before) body).2
      = (openPlaceholder tags (byteCount before) body).1.faults tags text := by
  have habandon := Lexer.abandon_elsewhere arena (byteCount before + tags.openTag.utf8ByteSize)
    tags.escape body.chars
  rw [← read] at habandon
  unfold Placeholder.faults
  rw [body_openPlaceholder h]
  unfold Expression.cutIssues
  dsimp only
  rw [String.toList_ofList, ← Lexer.issues_abandon]
  show body.lexer.abandon.issues.map _ ++ _ = _
  rw [habandon]
  congr 1
  show (List.map _ _).map _ = _
  rw [List.map_map]
  refine List.map_congr_left fun issue _ => ?_
  exact issue.toFault_moved _ _

theorem placeholders_pushText (arena : Arena) (chars : List Char) (start : Nat) :
    (pushText arena chars start).2.filterMap Segment.placeholder? = [] := by
  unfold pushText
  split <;> rfl

/-- **The faults of a scan are those of its placeholders**, one by one in source order. -/
theorem Scans.faults_eq {position : Nat} {chars : List Char} {arena : Arena} {scanned : Scanned}
    (h : Scans tags position chars arena scanned) :
    ∀ front : List Char, text.toList = front ++ chars → position = byteCount front →
      scanned.faults = scanned.placeholders.flatMap fun p => p.faults tags text := by
  -- on the scan, which is of the rest of the text behind what was read already
  induction h with
  | done plain =>
      intro front htext hposition
      unfold Scanned.placeholders
      rw [placeholders_pushText]
      rfl
  | @cutOff position start before arena body plain start_eq read closing nonempty =>
      rintro front htext rfl
      obtain rfl : start = byteCount (front ++ before) := by rw [start_eq, byteCount_append]
      rw [← List.append_assoc] at htext
      unfold Scanned.placeholders
      rw [List.filterMap_append, placeholders_pushText, List.nil_append]
      show (openPlaceholder tags _ body).2 = List.flatMap _ [(openPlaceholder tags _ body).1]
      rw [List.flatMap_singleton]
      exact faults_openPlaceholder htext read.lexer_eq
  | @closed position start before rest arena body scanned plain start_eq read closing scans ih =>
      rintro front htext rfl
      obtain rfl : start = byteCount (front ++ before) := by rw [start_eq, byteCount_append]
      rw [← List.append_assoc] at htext
      unfold Scanned.placeholders
      rw [List.filterMap_append, placeholders_pushText, List.nil_append]
      show (closedPlaceholder tags _ body).2 ++ scanned.faults
        = List.flatMap _ ((closedPlaceholder tags _ body).1 :: scanned.placeholders)
      rw [List.flatMap_cons, ← faults_closedPlaceholder htext read.lexer_eq]
      congr 1
      -- what was cut off in front of the rest only moves the offset
      refine ih (front ++ before ++ (tags.openTag.toList ++ (body.chars ++ tags.closeTag.toList)))
        ?_ ?_
      · rw [htext]
        simp only [List.append_assoc]
      · show byteCount (front ++ before) + tags.openTag.utf8ByteSize + byteCount body.chars
          + tags.closeTag.utf8ByteSize = _
        simp only [byteCount_append, byteCount_toList]
        omega

theorem scan_faults (hvisible : tags.Visible) (text : String) :
    (scan text tags).faults
      = (scan text tags).placeholders.flatMap fun p => p.faults tags text :=
  (scans_scan hvisible text).faults_eq [] rfl rfl

/-! ## §4. Steps of a scan. -/

/-- **The builder is told of every closed placeholder** and of every stretch of text. -/
theorem foldl_addSegment_classified (a : Arena) (segments : List Segment) :
    ∀ b : TreeBuilder, (segments.map (Segment.classified a)).foldl TreeBuilder.addSegment b
      = (segments.filterMap (Segment.scannedStep? a)).foldl TreeBuilder.addStep b := by
  -- a segment is a step for the builder, or nothing at all
  have hadd : ∀ (b : TreeBuilder) (segment : Segment), b.addSegment (segment.classified a)
      = (segment.scannedStep? a).elim b b.addStep := by
    intro b segment
    cases segment with
    | text id => rfl
    | placeholder p =>
        unfold Segment.classified Segment.scannedStep? TreeBuilder.addSegment
        dsimp only
        cases p.terminated with
        | false => rfl
        | true => cases Directive.classify a p.roots <;> rfl
  induction segments with
  | nil => exact fun b => rfl
  | cons segment segments ih =>
      intro b
      rw [List.map_cons, List.foldl_cons, hadd, ih, List.filterMap_cons]
      cases segment.scannedStep? a <;> rfl

/-- If all placeholders are closed, the steps are those of the classified segments. -/
theorem filterMap_step?_classified {a : Arena} {segments : List Segment}
    (h : ∀ p, .placeholder p ∈ segments → p.terminated = true) :
    (segments.map (Segment.classified a)).filterMap Segment.step?
      = segments.filterMap (Segment.scannedStep? a) := by
  rw [List.filterMap_map]
  refine List.filterMap_congr fun segment hsegment => ?_
  cases segment with
  | text id => rfl
  | placeholder p =>
      unfold Segment.scannedStep?
      dsimp only
      rw [if_pos (h p hsegment)]
      rfl

/-- Steps that are well nested leave no fault. -/
theorem Nested.allFaults {steps : List ControlStep} {items : List Item} (h : Nested steps items) :
    (steps.foldl TreeBuilder.addStep {}).allFaults = [] := by
  have hbuilt := h.built {} Nat.zero_lt_one
  unfold TreeBuilder.allFaults
  rw [hbuilt.opened, hbuilt.faults]
  rfl

/-- Without faults exactly the well-nested steps are left. -/
theorem allFaults_eq_nil_iff (steps : List ControlStep) :
    (steps.foldl TreeBuilder.addStep {}).allFaults = [] ↔ ∃ items, Nested steps items := by
  constructor
  · intro hnone
    exact TreeBuilder.nested_of_allFaults hnone
  · rintro ⟨items, hnested⟩
    exact hnested.allFaults

/-! ## §5. Scans without faults. -/

theorem Directive.classify_of_ne_nil (a : Arena) {roots : List LexemeId} (h : roots ≠ []) :
    ∃ d, Directive.classify a roots = some d := by
  obtain ⟨first, others, rfl⟩ := List.exists_cons_of_ne_nil h
  unfold Directive.classify
  dsimp only
  split <;> exact ⟨_, rfl⟩

/-- **A scan without faults has closed placeholders only**, and an expression in each of them. -/
theorem Scans.closed_of_faults {position : Nat} {chars : List Char} {arena : Arena}
    {scanned : Scanned} (h : Scans tags position chars arena scanned) :
    scanned.faults = [] → ∀ p ∈ scanned.placeholders, p.terminated = true ∧ p.roots ≠ [] := by
  induction h with
  | done plain =>
      intro _ p hp
      unfold Scanned.placeholders at hp
      rw [placeholders_pushText] at hp
      exact absurd hp List.not_mem_nil
  | cutOff plain start_eq read closing nonempty =>
      intro hfaults
      exact absurd (List.append_eq_nil_iff.1 hfaults).2 (by simp)
  | @closed position start before rest arena body scanned plain start_eq read closing scans ih =>
      intro hfaults p hp
      obtain ⟨hbody, hrest⟩ := List.append_eq_nil_iff.1 hfaults
      unfold Scanned.placeholders at hp
      rw [List.filterMap_append, placeholders_pushText, List.nil_append] at hp
      rcases List.mem_cons.1 hp with rfl | hp
      · -- an empty body has an issue, so this one has a root
        have hclean : (body.lexer.finish _).issues = [] := List.map_eq_nil_iff.1 hbody
        have hrooted : body.lexer.Rooted := by
          rw [read.lexer_eq]
          exact Lexer.rooted_feedAll _ _ _ (Lexer.rooted_start _ _)
        exact ⟨rfl, Lexer.roots_ne_nil_of_finish hrooted hclean⟩
      · exact ih hrest p hp

/-- Only the last placeholder can be cut off. -/
theorem Scans.terminated_of_mem_dropLast {position : Nat} {chars : List Char} {arena : Arena}
    {scanned : Scanned} (h : Scans tags position chars arena scanned) :
    ∀ p ∈ scanned.placeholders.dropLast, p.terminated = true := by
  -- on the scan; where a placeholder is cut off the scan ends, so none stands behind it
  induction h with
  | done plain =>
      intro p hp
      unfold Scanned.placeholders at hp
      rw [placeholders_pushText] at hp
      exact absurd hp List.not_mem_nil
  | cutOff plain start_eq read closing nonempty =>
      intro p hp
      unfold Scanned.placeholders at hp
      rw [List.filterMap_append, placeholders_pushText, List.nil_append] at hp
      exact absurd hp List.not_mem_nil
  | @closed position start before rest arena body scanned plain start_eq read closing scans ih =>
      intro p hp
      unfold Scanned.placeholders at hp
      rw [List.filterMap_append, placeholders_pushText, List.nil_append] at hp
      replace hp : p ∈ ((closedPlaceholder tags start body).1
        :: scanned.placeholders).dropLast := hp
      cases hrest : scanned.placeholders with
      | nil =>
          rw [hrest] at hp
          exact absurd hp List.not_mem_nil
      | cons next others =>
          rw [hrest, List.dropLast_cons_cons] at hp
          rcases List.mem_cons.1 hp with rfl | hp
          · rfl
          · exact ih p (by rw [hrest]; exact hp)

/-- A placeholder has no faults if it is closed and its body has no issues. -/
theorem Placeholder.faults_eq_nil_iff (p : Placeholder) (tags : Tags) (text : String) :
    p.faults tags text = []
      ↔ p.terminated = true ∧ (Expression.read (p.body tags text) tags.escape).2.issues = [] := by
  unfold Placeholder.faults
  split
  · next hclosed =>
      rw [List.map_eq_nil_iff]
      exact (and_iff_right hclosed).symm
  · next hopen =>
      refine iff_of_false (fun hnone => ?_) fun hboth => hopen hboth.1
      exact absurd (List.append_eq_nil_iff.1 hnone).2 (by simp)

/-! ## §6. Reports. -/

namespace ParsedLayer

/-- **What is accepted, and what is reported otherwise**: the faults of all placeholders in source
order, and then those of the builder. -/
theorem parse_eq (hvisible : tags.Visible) (name text : String) :
    let scanned := scan text tags
    let builder := scanned.steps.foldl TreeBuilder.addStep {}
    let faults := (scanned.placeholders.flatMap fun p => p.faults tags text) ++ builder.allFaults
    parse name text tags
      = if faults.isEmpty then
          .ok { name, arena := scanned.arena
                segments := scanned.segments.map (Segment.classified scanned.arena)
                tree := builder.tree }
        else .error { layer := name, faults } := by
  intro scanned builder faults
  unfold parse
  dsimp only
  rw [foldl_addSegment_classified, scan_faults hvisible]
  rfl

/-- There is nothing to report if every placeholder is closed, the body of each has no issue, and
the directives are well nested. -/
theorem faults_eq_nil_iff (tags : Tags) (text : String) (scanned : Scanned) :
    (scanned.placeholders.flatMap fun p => p.faults tags text)
        ++ (scanned.steps.foldl TreeBuilder.addStep {}).allFaults = []
      ↔ (∀ p ∈ scanned.placeholders, p.terminated = true
          ∧ (Expression.read (p.body tags text) tags.escape).2.issues = [])
        ∧ ∃ items, Nested scanned.steps items := by
  rw [List.append_eq_nil_iff, List.flatMap_eq_nil_iff, allFaults_eq_nil_iff]
  refine and_congr_left fun _ => forall₂_congr fun p _ => ?_
  exact p.faults_eq_nil_iff tags text

/-- A layer is accepted if there is nothing to report on it. -/
theorem exists_parse_eq_ok_iff (hvisible : tags.Visible) (name text : String) :
    let scanned := scan text tags
    (∃ layer, parse name text tags = .ok layer)
      ↔ (scanned.placeholders.flatMap fun p => p.faults tags text)
          ++ (scanned.steps.foldl TreeBuilder.addStep {}).allFaults = [] := by
  intro scanned
  have hparse := parse_eq hvisible name text
  dsimp only at hparse
  rw [hparse]
  split
  · next hnone => exact iff_of_true ⟨_, rfl⟩ (List.isEmpty_iff.1 hnone)
  · next hsome =>
      refine iff_of_false ?_ fun hnone => hsome (List.isEmpty_iff.2 hnone)
      rintro ⟨layer, hlayer⟩
      exact absurd hlayer (by simp)

/-- What is reported on a layer that is not accepted. -/
theorem eq_report_of_parse (hvisible : tags.Visible) {name text : String} {report : SyntaxReport}
    (h : parse name text tags = .error report) :
    report = { layer := name
               faults := ((scan text tags).placeholders.flatMap fun p => p.faults tags text)
                 ++ ((scan text tags).steps.foldl TreeBuilder.addStep {}).allFaults } := by
  rw [parse_eq hvisible] at h
  split at h
  · exact absurd h (by simp)
  · injection h with h
    exact h.symm

/-- What an accepted layer is made of. -/
theorem eq_layer_of_parse (hvisible : tags.Visible) {name text : String} {layer : ParsedLayer}
    (h : parse name text tags = .ok layer) :
    layer = { name, arena := (scan text tags).arena
              segments := (scan text tags).segments.map (Segment.classified (scan text tags).arena)
              tree := ((scan text tags).steps.foldl TreeBuilder.addStep {}).tree } := by
  rw [parse_eq hvisible] at h
  split at h
  · injection h with h
    exact h.symm
  · exact absurd h (by simp)

/-- **All placeholders of an accepted layer were closed**, with an expression in each of them. -/
theorem closed_of_parse (hvisible : tags.Visible) {name text : String} {layer : ParsedLayer}
    (h : parse name text tags = .ok layer) :
    ∀ p, .placeholder p ∈ (scan text tags).segments → p.terminated = true ∧ p.roots ≠ [] := by
  have hnone := (exists_parse_eq_ok_iff hvisible name text).1 ⟨layer, h⟩
  have hfaults : (scan text tags).faults = [] := by
    rw [scan_faults hvisible]
    exact (List.append_eq_nil_iff.1 hnone).1
  intro p hp
  exact (scans_scan hvisible text).closed_of_faults hfaults p (List.mem_filterMap.2 ⟨_, hp, rfl⟩)

/-- **Every fault is reported and none is made up.**  A layer is accepted exactly if every
placeholder is closed, the body of each, read on its own, has no issue, and the directives are
well nested.  Otherwise the report has the faults of every placeholder, told from its body alone,
one placeholder after the other; after them it has what the builder finds in the stretches of text
and the directives of all closed placeholders, with issues or without.  In an accepted layer every
placeholder has a directive, and the nodes of the tree are, in the order of their indices, the
stretches of text and the placeholders that insert something or open a conditional. -/
theorem parse_reports (hvisible : tags.Visible) (name text : String) :
    let scanned := scan text tags
    ((∃ layer, parse name text tags = .ok layer)
        ↔ (∀ p ∈ scanned.placeholders, p.terminated = true
            ∧ (Expression.read (p.body tags text) tags.escape).2.issues = [])
          ∧ ∃ items, Nested scanned.steps items)
      ∧ (∀ report, parse name text tags = .error report →
          report = { layer := name
                     faults := (scanned.placeholders.flatMap fun p => p.faults tags text)
                       ++ (scanned.steps.foldl TreeBuilder.addStep {}).allFaults })
      ∧ (∀ p ∈ scanned.placeholders.dropLast, p.terminated = true)
      ∧ ∀ layer, parse name text tags = .ok layer →
          layer.segments = scanned.segments.map (Segment.classified scanned.arena)
            ∧ (∀ p ∈ layer.placeholders, p.terminated = true ∧ ∃ d, p.directive = some d)
            ∧ layer.tree.origins = layer.steps.filterMap ControlStep.origin? := by
  intro scanned
  refine ⟨?_, ?_, (scans_scan hvisible text).terminated_of_mem_dropLast, ?_⟩
  · exact (exists_parse_eq_ok_iff hvisible name text).trans (faults_eq_nil_iff tags text scanned)
  · intro report hreport
    exact eq_report_of_parse hvisible hreport
  · intro layer hlayer
    have hclosed := closed_of_parse hvisible hlayer
    obtain rfl := eq_layer_of_parse hvisible hlayer
    refine ⟨rfl, fun p hp => ?_, ?_⟩
    · obtain ⟨q, hq, rfl⟩ := classified_of_mem (mem_placeholders.1 hp)
      exact ⟨(hclosed q hq).1, Directive.classify_of_ne_nil _ (hclosed q hq).2⟩
    · -- no step is dropped, as every placeholder was closed
      unfold steps
      dsimp only
      rw [filterMap_step?_classified fun p hp => (hclosed p hp).1,
        TreeBuilder.origins_foldl_addStep]
      rfl

/-- A text with a fault in a body, an `end` that closes nothing and a literal that is left open. -/
def faultyText : String := "\x7b\x7ba..b\x7d\x7d\x7b\x7bend\x7d\x7d\x7b\x7b'c"

/-- A text without faults. -/
def guardedText : String := "\x7b\x7bif a\x7d\x7dx\x7b\x7bend\x7d\x7d"

theorem parse_reports_faultyText :
    ({} : Tags).Visible
      ∧ (∃ report, parse "start" faultyText {} = .error report
          ∧ report.faults.map Fault.cause
            = [.symbolAfterDelimiter .dot '.', .openLiteral, .openPlaceholder "\x7b\x7b",
              .orphan "\x7b\x7bend\x7d\x7d"]
          ∧ report.faults.map Fault.position = [some 4, some 3, none, none])
      ∧ ∃ layer, parse "start" guardedText {} = .ok layer
          ∧ layer.tree.origins
            = [.placeholder .ifTrue (some 1) "\x7b\x7bif a\x7d\x7d", .text 2] := by
  have hvisible : ({} : Tags).Visible := by decide
  refine ⟨hvisible, ?_, ?_⟩
  · obtain ⟨-, hreport, -⟩ := parse_reports hvisible "start" faultyText
    cases hparse : parse "start" faultyText {} with
    | ok layer =>
        have hrefused : (parse "start" faultyText {}).isOk = false := by decide +kernel
        rw [hparse] at hrefused
        exact absurd hrefused (by simp [Except.isOk, Except.toBool])
    | error report =>
        rw [hreport report hparse]
        exact ⟨_, rfl, by decide +kernel, by decide +kernel⟩
  · obtain ⟨haccepted, -, -, hlayer⟩ := parse_reports hvisible "start" guardedText
    have hbodies : ∀ p ∈ (scan guardedText {}).placeholders, p.terminated = true
        ∧ (Expression.read (p.body {} guardedText) ({} : Tags).escape).2.issues = [] := by
      decide +kernel
    have hnested : ((scan guardedText {}).steps.foldl TreeBuilder.addStep {}).allFaults = [] := by
      decide +kernel
    obtain ⟨layer, hok⟩ := haccepted.2 ⟨hbodies, (allFaults_eq_nil_iff _).1 hnested⟩
    refine ⟨layer, hok, ?_⟩
    obtain ⟨hsegments, -, horigins⟩ := hlayer layer hok
    rw [horigins]
    unfold steps
    rw [hsegments]
    decide +kernel

end ParsedLayer

end LayerTemplates
