/-
  LayerTemplates.Render.Options
  ─────────────────────────────
  The options of a render: entry point, tags, mode, the substitute for missing layers
  and the look of reports; how they are read from documents, and which are refused.
-/
import LayerTemplates.Data.Record
import LayerTemplates.Layer.Segment
import LayerTemplates.Report.Style
import LayerTemplates.Text.Escaped

namespace LayerTemplates

/-! ## §1. Options. -/

/-- The options of a render. -/
structure RenderOptions where
  /-- The layer that is rendered. -/
  entryPoint : String := "start"
  tags : Tags := {}
  /-- Whether a layer is rendered at most once in a render. -/
  fast : Bool := false
  /-- Takes the place of layers that the data does not have. -/
  missing : Option Value := none
  report : ReportStyle := {}
  deriving Repr, Inhabited

/-- Why options are refused. -/
inductive OptionFault where
  | emptyEntryPoint
  | emptyTag (which : String)
  | escapeIsQuote (escape : Char)
  deriving Repr, DecidableEq, Inhabited

/-- The message of a refusal. -/
def OptionFault.message : OptionFault → String
  | .emptyEntryPoint => "Entry point name must not be empty"
  | .emptyTag which => "Placeholder " ++ which ++ " tag must not be empty"
  | .escapeIsQuote escape =>
      "Escape character " ++ singleQuoted escape ++ " must not be a quote character"

/-- Refuses options that no render can work with; the first reason counts. -/
def RenderOptions.validate (o : RenderOptions) : Except OptionFault Unit :=
  if o.entryPoint.isEmpty then .error .emptyEntryPoint
  else if o.tags.openTag.isEmpty then .error (.emptyTag "open")
  else if o.tags.closeTag.isEmpty then .error (.emptyTag "close")
  else if isQuote o.tags.escape then .error (.escapeIsQuote o.tags.escape)
  else .ok ()

/-! ## §2. Reading. -/

variable {ν : Type}

/-- Reads tags with their escape character. -/
def Tags.ofNode? (view : NodeView ν) (node : ν) : Option Tags := do
  let fields ← view.fields? ["open", "close", "escape"] node
  return { openTag := ← fieldOr view.text? ({} : Tags).openTag fields[0]?
           closeTag := ← fieldOr view.text? ({} : Tags).closeTag fields[1]?
           escape := ← fieldOr view.char? ({} : Tags).escape fields[2]? }

/-- Reads the look of reports. -/
def ReportStyle.ofNode? (view : NodeView ν) (node : ν) : Option ReportStyle := do
  let plain : ReportStyle := {}
  let fields ← view.fields? ["width", "indent", "continuation", "separator", "header"] node
  return { width := ← fieldOr view.natural? plain.width fields[0]?
           indent := ← fieldOr view.text? plain.indent fields[1]?
           continuation := ← fieldOr view.text? plain.continuation fields[2]?
           separator := ← fieldOr view.text? plain.separator fields[3]?
           header := ← fieldOr view.text? plain.header fields[4]? }

/-- Reads the opening and the closing tag. -/
def tagPairOfNode? (view : NodeView ν) (node : ν) : Option (String × String) := do
  let fields ← view.fields? ["open", "close"] node
  return (← fieldOr view.text? ({} : Tags).openTag fields[0]?,
          ← fieldOr view.text? ({} : Tags).closeTag fields[1]?)

/-- Reads the mode: whether it is fast. -/
def modeOfNode? (view : NodeView ν) (node : ν) : Option Bool := do
  let fields ← view.fields? ["fast"] node
  fieldOr view.bool? false fields[0]?

/-- Reads options. -/
def RenderOptions.ofNode? (view : NodeView ν) (node : ν) : Option RenderOptions := do
  let plain : RenderOptions := {}
  let fields ←
    view.fields? ["entry_point", "placeholder", "escape", "mode", "missing", "report"] node
  let entryPoint ← fieldOr view.text? plain.entryPoint fields[0]?
  let (openTag, closeTag) ←
    fieldOr (tagPairOfNode? view) (plain.tags.openTag, plain.tags.closeTag) fields[1]?
  let escape ← fieldOr view.char? plain.tags.escape fields[2]?
  let fast ← fieldOr (modeOfNode? view) plain.fast fields[3]?
  let missing ← fieldOr (view.optional? view.value?) plain.missing fields[4]?
  let report ← fieldOr (ReportStyle.ofNode? view) plain.report fields[5]?
  return { entryPoint, tags := { openTag, closeTag, escape }, fast, missing, report }

end LayerTemplates
