/-
  LayerTemplates.Command.Settings
  ───────────────────────────────
  The settings of the program: the options of its renders and how it keeps a log.  They
  come from a file, from the environment, which wins over the file, and are checked.
-/
import LayerTemplates.Command.Files
import LayerTemplates.Render.Options
import LayerTemplates.Yaml.Typed

namespace LayerTemplates

/-! ## §1. Settings. -/

/-- How the program keeps a log. -/
structure LogSettings where
  level : String := "warn"
  format : String := "compact"
  deriving Repr, DecidableEq, Inhabited

/-- The settings of the program. -/
structure Settings where
  render : RenderOptions := {}
  log : LogSettings := {}
  deriving Repr, Inhabited

/-- Why a command fails. -/
inductive CommandError where
  /-- A file cannot be read; `what` says what it is read as. -/
  | unreadable (what path : String) (fault : FileFault)
  | unreadableSettings (fault : FileFault)
  | invalidSettings (path : String)
  /-- A switch of the environment has another value than `true` and `false`. -/
  | invalidSwitch (name value : String)
  | invalidOptions (reason : OptionFault)
  | invalidData (path : String)
  | invalidPattern (path : String)
  | unwritable (path : String) (fault : FileFault)
  /-- A render or a layer fails with a report. -/
  | reported (report : String)
  /-- Layers lead to each other without end. -/
  | endless
  | noLayer (name path : String)
  | faultyLayers (faulty checked : Nat)
  deriving Repr, DecidableEq, Inhabited

/-- The message of a failure. -/
def CommandError.message : CommandError → String
  | .unreadable what path fault =>
      "Failed to read " ++ what ++ " file '" ++ path ++ "': " ++ fault.text
  | .unreadableSettings fault => fault.text
  | .invalidSettings path => "Invalid config file '" ++ path ++ "'"
  | .invalidSwitch name value => name ++ " must be 'true' or 'false', got '" ++ value ++ "'"
  | .invalidOptions reason => reason.message
  | .invalidData path => "Failed to parse data file '" ++ path ++ "'"
  | .invalidPattern path => "Invalid pattern key in '" ++ path ++ "'"
  | .unwritable path fault => "Failed to write output file '" ++ path ++ "': " ++ fault.text
  | .reported report => report
  | .endless => "The layers lead to each other without end"
  | .noLayer name path => "No layer named '" ++ name ++ "' in " ++ path
  | .faultyLayers faulty checked =>
      toString faulty ++ " of " ++ toString checked ++ " layer(s) have errors"

/-! ## §2. Reading. -/

variable {ν : Type}

/-- Reads how to keep a log.  Fields that mean nothing are passed over. -/
def LogSettings.ofNode? (view : NodeView ν) (node : ν) : Option LogSettings := do
  let plain : LogSettings := {}
  let fields ← view.knownFields? ["level", "format"] node
  return { level := ← fieldOr view.text? plain.level fields[0]?
           format := ← fieldOr view.text? plain.format fields[1]? }

/-- Reads settings. -/
def Settings.ofNode? (view : NodeView ν) (node : ν) : Option Settings := do
  let fields ← view.fields? ["render", "logging"] node
  return { render := ← fieldOr (RenderOptions.ofNode? view) {} fields[0]?
           log := ← fieldOr (LogSettings.ofNode? view) {} fields[1]? }

/-- Settings as the text of a file gives them. -/
def Settings.ofText? (text : String) : Option Settings :=
  (Yaml.Node.ofText? text).bind (Settings.ofNode? Yaml.Node.view)

/-! ## §3. Loading. -/

namespace Settings

variable {m : Type → Type} [Monad m]

/-- The file of settings in the directory where the program runs, or else the one in the
home directory. -/
def find (s : Surroundings m) : m (Option String) := do
  match ← firstThere ["layercake.yaml", "layercake.yml", ".layercake.yaml", ".layercake.yml"] with
  | some path => return some path
  | none =>
      match ← s.home with
      | some home => firstThere [home ++ "/.layercake/config.yaml"]
      | none => return none
where
  firstThere : List String → m (Option String)
    | [] => return none
    | path :: rest => do if ← s.isThere path then return some path else firstThere rest

/-- The settings of a file, if it is there. -/
def ofFile (s : Surroundings m) (path : String) : ExceptT CommandError m Settings := do
  match ← s.readFile path with
  | .ok text =>
      match ofText? text with
      | some settings => return settings
      | none => throw (.invalidSettings path)
  | .error .notFound | .error .notDirectory => return {}
  | .error fault => throw (.unreadableSettings fault)

/-- The settings with what the environment says about them. -/
def withEnvironment (s : Surroundings m) (settings : Settings) :
    ExceptT CommandError m Settings := do
  let level := (← s.environment "LAYERCAKE_LOG_LEVEL").getD settings.log.level
  let format := (← s.environment "LAYERCAKE_LOG_FORMAT").getD settings.log.format
  let entryPoint := (← s.environment "LAYERCAKE_ENTRY_POINT").getD settings.render.entryPoint
  let switch := "LAYERCAKE_FAST"
  let fast ←
    match ← s.environment switch with
    | none => pure settings.render.fast
    | some "true" => pure true
    | some "false" => pure false
    | some value => throw (.invalidSwitch switch value)
  return { render := { settings.render with entryPoint, fast }, log := { level, format } }

/-- Refuses options that no render can work with. -/
def validated (options : RenderOptions) : ExceptT CommandError m RenderOptions :=
  match options.validate with
  | .ok () => return options
  | .error reason => throw (.invalidOptions reason)

/-- The settings that hold: those of the given file, or else of the file that is found. -/
def load (s : Surroundings m) (path : Option String) : ExceptT CommandError m Settings := do
  let path ← if path.isSome then pure path else (find s : m (Option String))
  let settings ←
    match path with
    | some path => ofFile s path
    | none => pure {}
  let settings ← settings.withEnvironment s
  return { settings with render := ← validated settings.render }

end Settings

end LayerTemplates
