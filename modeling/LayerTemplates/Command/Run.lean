/-
  LayerTemplates.Command.Run
  ──────────────────────────
  Running commands: what they print and how they end.
-/
import LayerTemplates.Command.Arguments
import LayerTemplates.Command.Settings
import LayerTemplates.Control.Outline
import LayerTemplates.Render.Renderer

namespace LayerTemplates

/-! ## §1. Outcomes. -/

/-- How a command ends and what it has printed. -/
structure Outcome where
  exit : Nat := 0
  out : String := ""
  err : String := ""
  deriving Repr, DecidableEq, Inhabited

/-- The outcome of a failure after something was printed. -/
def Outcome.failure (e : CommandError) (out err : String) : Outcome :=
  { exit := 1, out, err := err ++ "Error: " ++ e.message ++ "\n" }

variable {m : Type → Type} [Monad m]

/-! ## §2. Data files. -/

/-- The layers that the text of a data file gives, by their keys. -/
def layersOfText? (text : String) : Option (List (String × Value)) :=
  (Yaml.Node.ofText? text).bind Yaml.Node.dataFields?

/-- The layers of a data file. -/
def loadData (s : Surroundings m) (path : String) : ExceptT CommandError m PatternSource := do
  match ← s.readFile path with
  | .error fault => throw (.unreadable "data" path fault)
  | .ok text =>
      match layersOfText? text with
      | none => throw (.invalidData path)
      | some layers =>
          match PatternSource.ofFieldsWith? s.compile layers with
          | none => throw (.invalidPattern path)
          | some source => return source

/-! ## §3. Commands. -/

/-- The options of a render with what was chosen for it. -/
def RenderRequest.options (r : RenderRequest) (options : RenderOptions) : RenderOptions :=
  { options with entryPoint := r.entry.getD options.entryPoint
                 tags := r.tags.apply options.tags
                 fast := options.fast || r.fast
                 missing := (r.missing.map Value.string) <|> options.missing }

/-- The text of the chosen template. -/
def loadTemplate (s : Surroundings m) : Option TemplateChoice →
    ExceptT CommandError m (Option String)
  | none => return none
  | some (.inline text) => return some text
  | some (.fromFile path) => do
      match ← s.readFile path with
      | .ok text => return some text
      | .error fault => throw (.unreadable "template" path fault)

/-- What is printed for the result of a render. -/
def resultText : Rendered → String
  | .data value => value.pretty 0
  | other => other.toText

/-- Renders the entry point and prints the result or writes it to a file. -/
def renderLayers (s : Surroundings m) (request : RenderRequest) (settings : Settings) :
    ExceptT CommandError m Outcome := do
  let source ← loadData s request.data
  let options := request.options settings.render
  let template ← loadTemplate s request.template
  match (Renderer.make (.patterns source) options template .none).render.1 with
  | .error .tooDeep => throw .endless
  | .error (.error e) => throw (.reported (e.report options.report))
  | .ok result =>
      let text := resultText result
      match request.output with
      | none => return { out := text ++ "\n" }
      | some path =>
          match ← s.writeFile path text with
          | .ok () => return {}
          | .error fault => throw (.unwritable path fault)

/-- Says of a layer whether its text is free of errors, and reports them. -/
def checkLayer (renderer : Renderer) (name text : String) : Outcome :=
  match renderer.check name text with
  | .ok _ => { out := "✓ " ++ name ++ "\n" }
  | .error e =>
      { exit := 1, out := "✗ " ++ name ++ "\n"
        err := e.report renderer.options.report ++ "\n" }

/-- Checks every layer that is a text. -/
def checkLayers (s : Surroundings m) (data : String) (tags : TagChoice) (settings : Settings) :
    ExceptT CommandError m Outcome := do
  let source ← loadData s data
  let options ← Settings.validated
    { settings.render with tags := tags.apply settings.render.tags }
  let renderer := Renderer.make (.patterns source) options none .none
  let checked := source.entries.filterMap fun entry =>
    match entry.value with
    | .string text => some (checkLayer renderer entry.key text)
    | _ => none
  let out := String.join (checked.map Outcome.out)
  let err := String.join (checked.map Outcome.err)
  let faulty := (checked.filter fun outcome => outcome.exit != 0).length
  if faulty = 0 then
    return { out := out ++ "All " ++ toString checked.length ++ " layer(s) are valid\n", err }
  else return Outcome.failure (.faultyLayers faulty checked.length) out err

/-- Prints the control tree of a layer. -/
def printTree (s : Surroundings m) (data layer : String) (tags : TagChoice)
    (settings : Settings) : ExceptT CommandError m Outcome := do
  let source ← loadData s data
  let options ← Settings.validated
    { settings.render with tags := tags.apply settings.render.tags }
  match source.lookup layer with
  | none => throw (.noLayer layer data)
  | some entry =>
      match entry.value with
      | .string text =>
          match ParsedLayer.parse layer text options.tags with
          | .ok parsed => return { out := parsed.tree.outline parsed.arena }
          | .error report => throw (.reported (report.render options.report))
      | value => return { out := layer ++ " is a data leaf: " ++ value.compact ++ "\n" }

/-- Runs a command. -/
def Command.run (s : Surroundings m) (settings : Settings) :
    Command → ExceptT CommandError m Outcome
  | .render request => renderLayers s request settings
  | .check data tags => checkLayers s data tags settings
  | .tree data layer tags => printTree s data layer tags settings

/-! ## §4. The program. -/

/-- What is printed when no command is run. -/
def Stop.outcome : Stop → Outcome
  | .help => { out := Arguments.usage }
  | .version => { out := "layercake 0.1.0\n" }
  | .misuse => { exit := 2, err := Arguments.usage }

/-- Runs the program on a command line. -/
def runProgram (s : Surroundings m) (arguments : List String) : m Outcome := do
  match Arguments.read arguments with
  | .error stop => return stop.outcome
  | .ok arguments =>
      let run : ExceptT CommandError m Outcome := do
        arguments.command.run s (← Settings.load s arguments.config)
      match ← run.run with
      | .ok outcome => return outcome
      | .error e => return Outcome.failure e "" ""

end LayerTemplates
