/-
  LayerTemplates.Command.Arguments
  ────────────────────────────────
  The commands of the program and what can be asked of each.
-/
import LayerTemplates.Command.Grammar
import LayerTemplates.Layer.Segment

namespace LayerTemplates

/-! ## §1. Commands. -/

/-- Tags that take the place of the configured ones. -/
structure TagChoice where
  openTag : Option String := none
  closeTag : Option String := none
  deriving Repr, DecidableEq, Inhabited

/-- The tags with those that were chosen. -/
def TagChoice.apply (choice : TagChoice) (tags : Tags) : Tags :=
  { tags with openTag := choice.openTag.getD tags.openTag
              closeTag := choice.closeTag.getD tags.closeTag }

/-- Where the text of the entry point comes from, if not from the data. -/
inductive TemplateChoice where
  | fromFile (path : String)
  | inline (text : String)
  deriving Repr, DecidableEq, Inhabited

/-- What can be chosen for a single render. -/
structure RenderRequest where
  data : String
  template : Option TemplateChoice := none
  entry : Option String := none
  tags : TagChoice := {}
  fast : Bool := false
  missing : Option String := none
  /-- The file that the result goes to. -/
  output : Option String := none
  deriving Repr, DecidableEq, Inhabited

/-- A command with what it works on. -/
inductive Command where
  | render (request : RenderRequest)
  | check (data : String) (tags : TagChoice)
  | tree (data layer : String) (tags : TagChoice)
  deriving Repr, DecidableEq, Inhabited

/-- A command line. -/
structure Arguments where
  command : Command
  verbose : Bool := false
  noColor : Bool := false
  /-- The file with the settings. -/
  config : Option String := none
  deriving Repr, DecidableEq, Inhabited

/-! ## §2. Grammars. -/

/-- The options that stand before or behind the name of a command. -/
def globalOptions : List OptionSpec :=
  [ { name := "verbose", letter := some 'v' },
    { name := "config", letter := some 'c', kind := .path },
    { name := "no-color" },
    { name := "help", letter := some 'h', kind := .stops .help } ]

/-- The options that choose tags. -/
def tagOptions : List OptionSpec :=
  [{ name := "open", kind := .text }, { name := "close", kind := .text }]

/-- What stands before the name of a command. -/
def Grammar.outer : Grammar :=
  { options := globalOptions
      ++ [{ name := "version", letter := some 'V', kind := .stops .version }] }

/-- What stands behind `render`. -/
def Grammar.render : Grammar :=
  { options := globalOptions ++ tagOptions ++
      [ { name := "template", letter := some 't', kind := .path },
        { name := "inline", letter := some 'i', kind := .text },
        { name := "entry", letter := some 'e', kind := .text },
        { name := "fast" },
        { name := "missing", letter := some 'm', kind := .text },
        { name := "output", letter := some 'o', kind := .path } ]
    words := [.path] }

/-- What stands behind `check`. -/
def Grammar.check : Grammar := { options := globalOptions ++ tagOptions, words := [.path] }

/-- What stands behind `tree`. -/
def Grammar.tree : Grammar := { options := globalOptions ++ tagOptions, words := [.path, .text] }

/-! ## §3. Reading. -/

/-- The tags that a command line chooses. -/
def Given.tagChoice (given : Given) : TagChoice :=
  { openTag := given.value? "open", closeTag := given.value? "close" }

/-- The template that a command line chooses: one at most. -/
def Given.template (given : Given) : Except Stop (Option TemplateChoice) :=
  match given.value? "template", given.value? "inline" with
  | some _, some _ => .error .misuse
  | some path, none => .ok (some (.fromFile path))
  | none, some text => .ok (some (.inline text))
  | none, none => .ok none

/-- The command that `render` asks for. -/
def Given.render (given : Given) : Except Stop Command := do
  let template ← given.template
  match given.words with
  | [data] =>
      return .render
        { data, template, entry := given.value? "entry", tags := given.tagChoice
          fast := given.has "fast", missing := given.value? "missing"
          output := given.value? "output" }
  | _ => .error .misuse

/-- The command that `check` asks for. -/
def Given.check (given : Given) : Except Stop Command :=
  match given.words with
  | [data] => .ok (.check data given.tagChoice)
  | _ => .error .misuse

/-- The command that `tree` asks for. -/
def Given.tree (given : Given) : Except Stop Command :=
  match given.words with
  | [data, layer] => .ok (.tree data layer given.tagChoice)
  | _ => .error .misuse

/-- The names of the commands, with what stands behind them. -/
def Command.known : List (String × Grammar × (Given → Except Stop Command)) :=
  [ ("render", Grammar.render, Given.render),
    ("check", Grammar.check, Given.check),
    ("tree", Grammar.tree, Given.tree) ]

/-- Asks for help about everything or about one command. -/
def Stop.forHelp (names : List String) : Stop :=
  match names with
  | [] => .help
  | [name] => if name = "help" || (Command.known.lookup name).isSome then .help else .misuse
  | _ => .misuse

/-- Reads a command line.  A setting that is chosen both before and behind the name of
the command is taken from behind it. -/
def Arguments.read (arguments : List String) : Except Stop Arguments := do
  let (outer, rest) ← Grammar.outer.read {} arguments
  match rest with
  | [] => .error .misuse
  | name :: rest =>
      if name = "help" then .error (Stop.forHelp rest)
      else
        match Command.known.lookup name with
        | none => .error .misuse
        | some (grammar, command) =>
            let (inner, left) ← grammar.read {} rest
            if left.isEmpty then
              return { command := ← command inner
                       verbose := outer.has "verbose" || inner.has "verbose"
                       noColor := outer.has "no-color" || inner.has "no-color"
                       config := inner.value? "config" <|> outer.value? "config" }
            else .error .misuse

/-- How the program is used. -/
def Arguments.usage : String :=
  "Compose text from named template layers

Usage: layercake [OPTIONS] <COMMAND>

Commands:
  render <DATA>        Render the entry point layer of a data file
  check <DATA>         Report syntax errors in every template layer of a data file
  tree <DATA> <LAYER>  Print the control tree of one layer

Options:
  -v, --verbose        Enable verbose output
  -c, --config <PATH>  Path to configuration file
      --no-color       Disable colored output
      --open <TAG>     Placeholder opening tag
      --close <TAG>    Placeholder closing tag
  -h, --help           Print help
  -V, --version        Print version

Options of render:
  -t, --template <PATH>  Template file installed as the entry point
  -i, --inline <TEXT>    Inline template installed as the entry point
  -e, --entry <NAME>     Entry point layer name
      --fast             Memoize rendered layers
  -m, --missing <TEXT>   Text substituted for missing layers
  -o, --output <PATH>    Write the result to a file
"

end LayerTemplates
