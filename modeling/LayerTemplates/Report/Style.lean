/-
  LayerTemplates.Report.Style
  ───────────────────────────
  How error reports look.
-/
namespace LayerTemplates

/-- The layout of error reports. -/
structure ReportStyle where
  /-- Columns of a line. -/
  width : Nat := 100
  /-- Stands before the first line of a field. -/
  indent : String := "    "
  /-- Stands before the further lines of a field. -/
  continuation : String := "        "
  /-- Stands between lines. -/
  separator : String := "\n"
  /-- Opens the first line. -/
  header : String := "[layercake render]"
  deriving Repr, DecidableEq, Inhabited

end LayerTemplates
