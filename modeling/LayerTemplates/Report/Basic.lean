/-
  LayerTemplates.Report.Basic
  ───────────────────────────
  Error reports: a heading with the number of errors, the layer they were found in, and
  every error with its fields, each wrapped and indented as the style says.
-/
import LayerTemplates.Fault
import LayerTemplates.Layer.Parsed
import LayerTemplates.Report.Style
import LayerTemplates.Text.Wrap

namespace LayerTemplates

/-- An error with its fields. -/
structure ReportItem where
  name : String
  fields : List (String × String) := []
  deriving Repr, DecidableEq, Inhabited

/-- The errors of a report. -/
structure Report where
  layer : Option String := none
  entries : List ReportItem := []
  deriving Repr, DecidableEq, Inhabited

/-- Wraps a line of a report. -/
def ReportStyle.wrapped (style : ReportStyle) (initial subsequent text : String) : List String :=
  wrap { width := max style.width 1, initialIndent := initial, subsequentIndent := subsequent } text

/-- The lines of an error. -/
def ReportItem.lines (style : ReportStyle) (entry : ReportItem) : List String :=
  style.wrapped "" style.indent ("Error: " ++ entry.name)
    ++ entry.fields.flatMap fun (key, value) =>
      style.wrapped style.indent style.continuation (key ++ ": " ++ value)

/-- The text of a report. -/
def Report.render (report : Report) (style : ReportStyle) : String :=
  let count := report.entries.length
  let heading := style.header ++ ": " ++ toString count ++ " error"
    ++ (if count = 1 then "" else "s") ++ " found"
  let layer := match report.layer with
    | some layer => style.wrapped "" style.indent ("Layer: " ++ inQuotes layer)
    | none => []
  style.separator.intercalate
    (heading :: layer ++ report.entries.flatMap (ReportItem.lines style))

/-- The entry of a fault. -/
def Fault.entry (fault : Fault) : ReportItem :=
  { name := fault.cause.kind.title
    fields := [
      fault.placeholder.map fun entry => ("placeholder", entry),
      fault.cause.symbol.map fun symbol => ("symbol", inQuotes symbol.toString),
      fault.position.map fun position => ("position", toString position),
      fault.cause.detail.map fun detail => ("details", detail)].filterMap id }

/-- The text of everything that is wrong with a layer. -/
def SyntaxReport.render (report : SyntaxReport) (style : ReportStyle) : String :=
  ({ layer := some report.layer, entries := report.faults.map Fault.entry } : Report).render
    style

end LayerTemplates
