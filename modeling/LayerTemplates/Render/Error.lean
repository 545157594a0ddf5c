/-
  LayerTemplates.Render.Error
  ───────────────────────────
  Why a render fails: the causes, their names, their messages and their reports.
-/
import LayerTemplates.Render.Options
import LayerTemplates.Report.Basic

namespace LayerTemplates

/-- Why a render fails. -/
inductive RenderError where
  /-- The data has no layer of the name that the render starts with. -/
  | missingEntryPoint (name : String)
  /-- A layer is needed to render itself; the names lead from the entry point to it. -/
  | cyclicDependence (chain : List String)
  /-- A placeholder has too few parts; the text around it is quoted. -/
  | tooFewParts (layer excerpt : String)
  /-- A placeholder has too many parts; the text around it is quoted. -/
  | tooManyParts (layer excerpt : String)
  /-- An `else` or `end` stands outside a conditional. -/
  | brokenControlSequence (layer placeholder : String)
  /-- A conditional has a second `else`. -/
  | twoElseInRow (layer placeholder : String)
  /-- Conditionals are open at the end of a layer. -/
  | unclosedOperators (layer : String) (placeholders : List String)
  /-- A getter failed; its messages are given from the outermost to the root cause. -/
  | getterFailed (name : String) (messages : List String)
  /-- The text of a layer has faults. -/
  | faultyLayer (report : SyntaxReport)
  /-- The options are refused. -/
  | invalidOptions (reason : OptionFault)
  deriving Repr, DecidableEq, Inhabited

namespace RenderError

/-- The name of an error. -/
def name : RenderError → String
  | .missingEntryPoint _ => "Missing entry point"
  | .cyclicDependence _ => "Cyclic dependence"
  | .tooFewParts _ _ => "Too few parts"
  | .tooManyParts _ _ => "Too many parts"
  | .brokenControlSequence _ _ => "Broken control sequence"
  | .twoElseInRow _ _ => "Two else in a row"
  | .unclosedOperators _ _ => "Unclosed operators"
  | .getterFailed _ _ => "Getter failed"
  | .faultyLayer _ => "Syntax error"
  | .invalidOptions _ => "Invalid options"

/-- Names that lead to one another. -/
def chainText (chain : List String) : String := " -> ".intercalate chain

/-- Placeholders with something between them. -/
def elidedText (placeholders : List String) : String := " ... ".intercalate placeholders

/-- The message of an error; that of a faulty layer is its report. -/
def message (style : ReportStyle) : RenderError → String
  | .missingEntryPoint name => "Missing entry point: no layer named " ++ inQuotes name
  | .cyclicDependence chain => "Cyclic dependence: " ++ chainText chain
  | .tooFewParts _ excerpt => "Too few parts: " ++ excerpt
  | .tooManyParts _ excerpt => "Too many parts: " ++ excerpt
  | .brokenControlSequence layer placeholder =>
      "Broken control sequence in layer " ++ inQuotes layer ++ ": " ++ orphanText placeholder
  | .twoElseInRow layer placeholder =>
      "Two else in a row in layer " ++ inQuotes layer ++ ": " ++ placeholder
  | .unclosedOperators layer placeholders =>
      "Unclosed operators in layer " ++ inQuotes layer ++ ": " ++ elidedText placeholders
  | .getterFailed name messages =>
      "Getter for layer " ++ inQuotes name ++ " failed: " ++ messages.headD ""
  | .faultyLayer report => report.render style
  | .invalidOptions reason => reason.message

/-- The layer that an error is reported for. -/
def layer? : RenderError → Option String
  | .missingEntryPoint _ | .invalidOptions _ => none
  | .cyclicDependence chain => chain.head?
  | .tooFewParts layer _ | .tooManyParts layer _ | .brokenControlSequence layer _
  | .twoElseInRow layer _ | .unclosedOperators layer _ => some layer
  | .getterFailed name _ => some name
  | .faultyLayer report => some report.layer

/-- The fields that an error is reported with. -/
def fields : RenderError → List (String × String)
  | .missingEntryPoint name => [("entry point", name)]
  | .cyclicDependence chain => [("chain", chainText chain)]
  | .tooFewParts _ excerpt | .tooManyParts _ excerpt => [("details", excerpt)]
  | .brokenControlSequence _ placeholder =>
      [("placeholder", placeholder), ("details", orphanText placeholder)]
  | .twoElseInRow _ placeholder => [("placeholder", placeholder)]
  | .unclosedOperators _ placeholders => [("placeholders", elidedText placeholders)]
  | .getterFailed _ messages => [("details", ": ".intercalate messages)]
  | .faultyLayer _ => []
  | .invalidOptions reason => [("details", reason.message)]

/-- The report of an error. -/
def report (style : ReportStyle) (e : RenderError) : String :=
  match e with
  | .faultyLayer report => report.render style
  | _ => ({ layer := e.layer?, entries := [{ name := e.name, fields := e.fields }] } :
      Report).render style

end RenderError

end LayerTemplates
