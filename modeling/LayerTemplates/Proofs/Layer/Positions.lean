/-
  LayerTemplates.Proofs.Layer.Positions
  ─────────────────────────────────────
  Where in a text the faults of a layer point.

  A fault that has a position counts it from the start of its placeholder, the opening tag
  included, though the lexer notes it at an offset of the whole text.  Every such offset is a
  place in the body, so nothing is cut off when the start is taken away, and the place is found
  again by counting from the start.

  Main statements:
    * `Placeholder.issues_expressionOn` — the issues of a body where it stands and alone.
    * `scan_fault_positions` — the faults of a layer point into their placeholders, in order.
-/
import LayerTemplates.Proofs.Expression.Positions
import LayerTemplates.Proofs.Layer.Alone

namespace LayerTemplates

/-! ## §1. Placeholders. -/

namespace Placeholder

variable (p : Placeholder) (tags : Tags) (text : String)

/-- The issues of the body alone. -/
def issues : List Issue :=
  if p.terminated then (Expression.read (p.body tags text) tags.escape).2.issues
  else Expression.cutIssues (p.body tags text) tags.escape

theorem faults_eq :
    p.faults tags text
      = ((p.issues tags text).map fun issue => issue.inPlaceholder tags p.entry)
        ++ if p.terminated then []
          else [{ cause := .openPlaceholder tags.openTag, placeholder := some p.entry }] := by
  unfold faults issues
  split
  · exact (List.append_nil _).symm
  · rfl

/-- The issues of a body point into it, in order. -/
theorem issues_pointInto :
    (∀ issue ∈ p.issues tags text, issue.PointsInto (p.body tags text).toList)
      ∧ (p.issues tags text).Pairwise fun issue later => issue.position ≤ later.position := by
  unfold issues
  split
  · exact Expression.read_issues _ _
  · have habandon := Lexer.abandon_issues (p.body tags text).toList tags.escape
    rw [Lexer.issues_abandon] at habandon
    exact habandon

/-- **The issues of a body where it stands** are those of the body alone, counted from there. -/
theorem issues_expressionOn (base : Arena) :
    (p.expressionOn tags text base).issues
      = (p.issues tags text).map fun issue => issue.moved (p.bodyStart tags) := by
  by_cases hterminated : p.terminated = true
  · rw [p.expressionOn_of_terminated tags text base hterminated]
    unfold issues
    rw [if_pos hterminated]
    rfl
  · unfold expressionOn issues
    rw [if_neg hterminated, if_neg hterminated]
    unfold lexerOn
    rw [Lexer.abandon_elsewhere]
    show (Lexer.abandon _).issues.map _ = _
    rw [Lexer.issues_abandon]
    rfl

variable {p tags text}

/-- The positions of the faults are those of the issues, behind the opening tag. -/
theorem filterMap_position_faults :
    (p.faults tags text).filterMap Fault.position
      = (p.issues tags text).map fun issue => tags.openTag.utf8ByteSize + issue.position := by
  rw [p.faults_eq tags text, List.filterMap_append, List.filterMap_map]
  have hlast : (if p.terminated then ([] : List Fault)
      else [{ cause := .openPlaceholder tags.openTag, placeholder := some p.entry }]).filterMap
        Fault.position = [] := by
    split <;> rfl
  rw [hlast, List.append_nil]
  exact congrFun List.filterMap_eq_map' _

/-- A fault that has a position is an issue of the body. -/
theorem mem_issues_of_mem_faults {fault : Fault} {position : Nat}
    (hfault : fault ∈ p.faults tags text) (hposition : fault.position = some position) :
    ∃ issue ∈ p.issues tags text, issue.cause = fault.cause
      ∧ position = tags.openTag.utf8ByteSize + issue.position := by
  rw [p.faults_eq tags text] at hfault
  rcases List.mem_append.1 hfault with hfault | hfault
  · obtain ⟨issue, hissue, rfl⟩ := List.mem_map.1 hfault
    exact ⟨issue, hissue, rfl, (Option.some.inj hposition).symm⟩
  · split at hfault
    · exact absurd hfault (by simp)
    · obtain rfl := List.mem_singleton.1 hfault
      exact absurd hposition (by simp)

end Placeholder

/-! ## §2. Whole texts. -/

/-- **Faults point into their placeholders, at the symbol that is wrong.**  The faults of a layer
are those of its placeholders.  The lexer notes an issue behind the opening tag at the earliest,
so nothing is cut off when positions are counted from the start of the placeholder.  Within one
placeholder the positions never decrease.  Each of them is a place between two characters of the
body, and the symbol of the fault, if it has one, is found there. -/
theorem scan_fault_positions {tags : Tags} (hvisible : tags.Visible) (text : String) :
    let scanned := scan text tags
    scanned.faults = Scanned.faultsOf tags text scanned.segments
      ∧ ∀ before p others, scanned.segments = before ++ .placeholder p :: others →
        let reached := scanned.arena.upTo (lexemeCount tags text before)
        let noted := (p.expressionOn tags text reached).issues
        ∃ front after, p.Place tags text front after
          ∧ p.faults tags text = (noted.map fun issue => issue.toFault p.entry p.span.start)
            ++ (if p.terminated then []
              else [{ cause := .openPlaceholder tags.openTag, placeholder := some p.entry }])
          ∧ (∀ issue ∈ noted, p.span.start + tags.openTag.utf8ByteSize ≤ issue.position)
          ∧ ((p.faults tags text).filterMap Fault.position).Pairwise (· ≤ ·)
          ∧ ∀ fault ∈ p.faults tags text, ∀ position, fault.position = some position →
            ∃ part rest, (p.body tags text).toList = part ++ rest
              ∧ p.span.start + position
                = byteCount (front ++ (tags.openTag.toList ++ part))
              ∧ fault.cause.PointsAt part rest := by
  intro scanned
  refine ⟨scan_faults hvisible text, ?_⟩
  intro before p others hsegments reached noted
  have hall := scan_allocates hvisible text
  rw [show (scan text tags).segments = before ++ .placeholder p :: others from hsegments] at hall
  obtain ⟨found, -, -, hread, hfound, -⟩ := hall.reached
  rw [show Arena.size {} = 0 from rfl, Nat.zero_add] at hfound
  obtain rfl : reached = found := hfound
  obtain ⟨front, after, hplace⟩ := hread.place
  -- where issues point is known for the body alone; the place of the placeholder is added
  obtain ⟨hpoints, hsorted⟩ := p.issues_pointInto tags text
  refine ⟨front, after, hplace, hread.faults, fun issue hissue => ?_, ?_,
    fun fault hfault position hposition => ?_⟩
  · rw [show noted = _ from p.issues_expressionOn tags text reached] at hissue
    obtain ⟨alone, -, rfl⟩ := List.mem_map.1 hissue
    exact Nat.le_add_right _ _
  · rw [Placeholder.filterMap_position_faults, List.pairwise_map]
    exact hsorted.imp fun hle => Nat.add_le_add_left hle _
  · obtain ⟨issue, hissue, hcause, rfl⟩ := Placeholder.mem_issues_of_mem_faults hfault hposition
    obtain ⟨part, rest, hbody, hpart, hsymbol⟩ := hpoints issue hissue
    refine ⟨part, rest, hbody, ?_, hcause ▸ hsymbol⟩
    rw [byteCount_append, byteCount_append, byteCount_toList, hplace.start_eq, hpart]

/-- A caret without digits, a second dot, and a dot at the end, behind characters of two bytes. -/
def misplacedText : String := "\u00e9\x7b\x7b^ \u00e9..b.\x7d\x7dx\x7b\x7b\x27q"

theorem scan_fault_positions_misplacedText :
    ({} : Tags).Visible
      ∧ ∃ before p others, (scan misplacedText {}).segments = before ++ .placeholder p :: others
        ∧ p.span = ⟨2, 14⟩
        ∧ (p.faults {} misplacedText).map (fun fault => (fault.position, fault.cause.symbol))
          = [(some 3, some '^'), (some 7, some '.'), (some 10, some '.')]
        ∧ ((p.faults {} misplacedText).filterMap Fault.position).Pairwise (· ≤ ·)
        ∧ ∃ front after, p.Place {} misplacedText front after
          ∧ ∀ fault ∈ p.faults {} misplacedText, ∀ position, fault.position = some position →
            ∃ part rest, (p.body {} misplacedText).toList = part ++ rest
              ∧ p.span.start + position
                = byteCount (front ++ (({} : Tags).openTag.toList ++ part))
              ∧ fault.cause.PointsAt part rest := by
  have hvisible : ({} : Tags).Visible := by decide
  have hsegments : (scan misplacedText {}).segments
      = (scan misplacedText {}).segments.take 1
        ++ .placeholder
          { entry := "\x7b\x7b^ \u00e9..b.\x7d\x7d", span := ⟨2, 14⟩, roots := [1, 2]
            comment := none, terminated := true }
        :: (scan misplacedText {}).segments.drop 2 := by decide +kernel
  obtain ⟨front, after, hplace, -, -, hsorted, hpoints⟩ :=
    (scan_fault_positions hvisible misplacedText).2 _ _ _ hsegments
  exact ⟨hvisible, _, _, _, hsegments, rfl, by decide +kernel, hsorted, front, after, hplace,
    hpoints⟩

end LayerTemplates
