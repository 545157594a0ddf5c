/-
  LayerTemplates.Proofs.Render.Excerpts
  ─────────────────────────────────────
  What an excerpt shows of the text around a placeholder.

  The range of a placeholder is told in bytes, and the margins of an excerpt in characters.  The
  two fit together because a range that was scanned starts and stops between characters: the text
  falls into what stands before the placeholder, its entry and what stands behind it, and of the
  two outer parts the excerpt shows the characters next to the entry.

  Main statements:
    * `takeBytes_append`, `dropBytes_append` — a text is cut between characters.
    * `Window.excerpt_around` — what is written around a piece of a text.
    * `Placeholder.CutFrom.exists_window` — an excerpt is a window on the text.
    * `ParsedLayer.cutFrom_of_parse` — the entry of a placeholder is what stands at its range.
    * `ParsedLayer.pairwise_placeholders` — placeholders follow one another in the text.
-/
import LayerTemplates.Proofs.Expression.Spans
import LayerTemplates.Proofs.Layer.Cuts
import LayerTemplates.Proofs.Layer.Reporting
import LayerTemplates.Render.Walk

namespace LayerTemplates

/-! ## §1. Byte offsets between characters. -/

/-- As many bytes as there are in front of a place lead to that place, which lies between two
characters. -/
theorem takeBytes_append (before rest : List Char) :
    takeBytes (byteCount before) (before ++ rest) = before := by
  induction before with
  | nil => cases rest <;> rfl
  | cons c before ih =>
      have hpos := c.utf8Size_pos
      rw [byteCount_cons, List.cons_append, takeBytes, if_neg (by omega),
        Nat.add_sub_cancel_left, ih]

/-- What is left behind that place is what stands there. -/
theorem dropBytes_append (before rest : List Char) :
    dropBytes (byteCount before) (before ++ rest) = rest := by
  induction before with
  | nil => cases rest <;> rfl
  | cons c before ih =>
      have hpos := c.utf8Size_pos
      rw [byteCount_cons, List.cons_append, dropBytes, if_neg (by omega),
        Nat.add_sub_cancel_left, ih]

/-! ## §2. Windows. -/

/-- A piece of a text between the characters around it, those that are shown and those that are
left out. -/
structure Window where
  leftOutBefore : List Char
  before : List Char
  piece : List Char
  after : List Char
  leftOutAfter : List Char

/-- The mark for characters that are left out, if there are any. -/
def ellipsis (leftOut : List Char) : String := if leftOut.isEmpty then "" else "..."

/-- On one side of a piece no more is shown than the margin, and less only where nothing is left
out. -/
def FillsMargin (shown leftOut : List Char) : Prop :=
  shown.length ≤ excerptMargin ∧ (shown.length < excerptMargin → leftOut = [])

namespace Window

/-- The window that shows the margins of a piece. -/
def around (before piece after : List Char) : Window where
  leftOutBefore := before.take (before.length - excerptMargin)
  before := before.drop (before.length - excerptMargin)
  piece := piece
  after := after.take excerptMargin
  leftOutAfter := after.drop excerptMargin

/-- What is written of a window on a layer: what it shows in one piece, between marks, and what
it is a window on. -/
def excerpt (w : Window) (layer : String) : String :=
  ellipsis w.leftOutBefore ++ String.ofList (w.before ++ (w.piece ++ w.after))
    ++ ellipsis w.leftOutAfter
    ++ " [layer: " ++ inQuotes layer ++ ", placeholder: " ++ inQuotes (String.ofList w.piece) ++ "]"

/-- A window on a placeholder of a text.  Its parts make up the text, so every cut is made between
characters. -/
structure On (w : Window) (text : String) (p : Placeholder) : Prop where
  text_eq : text.toList
    = w.leftOutBefore ++ (w.before ++ (w.piece ++ (w.after ++ w.leftOutAfter)))
  span_eq : p.span = ⟨byteCount (w.leftOutBefore ++ w.before),
    byteCount (w.leftOutBefore ++ w.before) + byteCount w.piece⟩
  entry_eq : p.entry = String.ofList w.piece
  before_fills : FillsMargin w.before w.leftOutBefore
  after_fills : FillsMargin w.after w.leftOutAfter

/-- In front of the entry there are at most as many characters as the margin has room for, with an
ellipsis if there were more. -/
theorem headExcerpt_eq (before : List Char) :
    headExcerpt before
      = ellipsis (before.take (before.length - excerptMargin))
        ++ String.ofList (before.drop (before.length - excerptMargin)) := by
  unfold headExcerpt ellipsis
  congr 1
  by_cases hlong : before.length > excerptMargin
  · rw [if_pos hlong, if_neg]
    intro hempty
    have hlength := congrArg List.length (List.isEmpty_iff.1 hempty)
    rw [List.length_take, List.length_nil] at hlength
    omega
  · rw [if_neg hlong, Nat.sub_eq_zero_of_le (Nat.le_of_not_lt hlong), List.take_zero]
    rfl

/-- So it is behind the entry. -/
theorem tailExcerpt_eq (after : List Char) :
    tailExcerpt after
      = String.ofList (after.take excerptMargin) ++ ellipsis (after.drop excerptMargin) := by
  unfold tailExcerpt ellipsis
  congr 1
  by_cases hlong : after.length > excerptMargin
  · rw [if_pos hlong, if_neg]
    intro hempty
    have hlength := congrArg List.length (List.isEmpty_iff.1 hempty)
    rw [List.length_drop, List.length_nil] at hlength
    omega
  · rw [if_neg hlong, List.drop_eq_nil_of_le (Nat.le_of_not_lt hlong)]
    rfl

/-- **What is written around a piece of a text** is the window on it. -/
theorem excerpt_around (before piece after : List Char) (layer : String) :
    headExcerpt before ++ String.ofList piece ++ tailExcerpt after
        ++ " [layer: " ++ inQuotes layer
        ++ ", placeholder: " ++ inQuotes (String.ofList piece) ++ "]"
      = (around before piece after).excerpt layer := by
  rw [headExcerpt_eq, tailExcerpt_eq]
  unfold excerpt around
  simp only [String.ofList_append, String.append_assoc]

/-- Nothing is left out in front of an excerpt that does not fill its margin. -/
theorem fillsMargin_drop (before : List Char) :
    FillsMargin (before.drop (before.length - excerptMargin))
      (before.take (before.length - excerptMargin)) := by
  unfold FillsMargin
  rw [List.length_drop]
  refine ⟨by omega, fun hshort => ?_⟩
  rw [show before.length - excerptMargin = 0 by omega, List.take_zero]

/-- Nothing is left out behind it either. -/
theorem fillsMargin_take (after : List Char) :
    FillsMargin (after.take excerptMargin) (after.drop excerptMargin) := by
  unfold FillsMargin
  rw [List.length_take]
  exact ⟨Nat.min_le_left _ _, fun hshort => List.drop_eq_nil_of_le (by omega)⟩

end Window

/-- A placeholder was cut from a text: its entry is what stands at its range. -/
def Placeholder.CutFrom (p : Placeholder) (text : String) : Prop :=
  ∃ piece, p.span.Holds text.toList piece ∧ p.entry = String.ofList piece

/-- **An excerpt is a window on the text**, for a placeholder that was cut from it. -/
theorem Placeholder.CutFrom.exists_window {p : Placeholder} {text : String} (h : p.CutFrom text)
    (layer : String) : ∃ w : Window, w.On text p ∧ excerpt text p layer = w.excerpt layer := by
  obtain ⟨piece, ⟨before, after, htext, hspan⟩, hentry⟩ := h
  refine ⟨.around before piece after, ⟨?_, ?_, hentry, Window.fillsMargin_drop before,
    Window.fillsMargin_take after⟩, ?_⟩
  · unfold Window.around
    dsimp only
    rw [List.take_append_drop, ← List.append_assoc (before.take _), List.take_append_drop, htext]
  · unfold Window.around
    dsimp only
    rw [List.take_append_drop, hspan]
  · -- the byte offsets cut the text at the ends of the piece
    have hbefore : takeBytes p.span.start text.toList = before := by
      rw [hspan, htext, takeBytes_append]
    have hafter : dropBytes p.span.stop text.toList = after := by
      rw [hspan, htext, ← List.append_assoc]
      show dropBytes (byteCount before + byteCount piece) _ = after
      rw [← byteCount_append, dropBytes_append]
    rw [← Window.excerpt_around]
    unfold LayerTemplates.excerpt
    rw [hbefore, hafter, hentry]

/-! ## §3. The placeholders of a layer. -/

namespace ParsedLayer

variable {name text : String} {tags : Tags} {layer : ParsedLayer}

/-- **The entry of a placeholder is what stands at its range**, in an accepted layer. -/
theorem cutFrom_of_parse (hvisible : tags.Visible) (h : parse name text tags = .ok layer) :
    ∀ p ∈ layer.placeholders, p.CutFrom text := by
  intro p hp
  have hclosed := closed_of_parse hvisible h
  obtain rfl := eq_layer_of_parse hvisible h
  obtain ⟨q, hq, rfl⟩ := classified_of_mem (mem_placeholders.1 hp)
  obtain ⟨before, piece, after, htext, hspan, hfits⟩ :=
    ((scans_scan hvisible text).cuts [] rfl rfl).fits _ hq
  refine ⟨piece, ⟨before, after, htext, hspan⟩, ?_⟩
  cases hfits with
  | closed _ entry _ _ => exact entry
  | cutOff terminated _ _ =>
      -- an accepted layer has no placeholder that its end cuts off
      rw [(hclosed q hq).1] at terminated
      exact absurd terminated (by simp)

/-- **Placeholders follow one another in the text**, in their order. -/
theorem pairwise_placeholders (hvisible : tags.Visible) (h : parse name text tags = .ok layer) :
    layer.placeholders.Pairwise fun p next => p.span.stop ≤ next.span.start := by
  have hcuts := (scans_scan hvisible text).cuts [] rfl rfl
  obtain rfl := eq_layer_of_parse hvisible h
  have hforward : ∀ span ∈ (scan text tags).segments.map (Segment.span (scan text tags).arena),
      span.start ≤ span.stop := by
    intro span hspan
    obtain ⟨segment, hsegment, rfl⟩ := List.mem_map.1 hspan
    obtain ⟨before, piece, -, -, hcut, -⟩ := hcuts.fits segment hsegment
    rw [hcut]
    exact Nat.le_add_right _ _
  have hsegments := List.pairwise_map.1 (hcuts.consecutive.pairwise hforward).2
  unfold placeholders
  rw [List.filterMap_map]
  refine hsegments.filterMap _ fun segment next hnext p hp q hq => ?_
  -- a placeholder stands where its segment does
  cases segment with
  | text id => exact absurd hp (by simp [Segment.classified, Segment.placeholder?])
  | placeholder p' =>
      cases next with
      | text id => exact absurd hq (by simp [Segment.classified, Segment.placeholder?])
      | placeholder q' =>
          obtain rfl := Option.some.inj hp
          obtain rfl := Option.some.inj hq
          exact hnext

end ParsedLayer

end LayerTemplates
