/-
  LayerTemplates.Command.Grammar
  ──────────────────────────────
  Command lines: words, options by name or letter, and the values of options.

  An option has its value behind an equals sign or in the next argument; a letter can
  have it right behind it, and letters without values can share one dash.  No option is
  given twice, and a value in an argument of its own does not look like an option.
  Behind `--` there are words only.
-/
namespace LayerTemplates

/-- Why a command line is not run. -/
inductive Stop where
  | help
  | version
  /-- It does not follow the grammar. -/
  | misuse
  deriving Repr, DecidableEq, Inhabited

/-- What stands behind a name or in a place. -/
inductive ArgumentKind where
  | flag
  | text
  /-- A text that is not empty. -/
  | path
  /-- A flag that ends everything. -/
  | stops (reason : Stop)
  deriving Repr, DecidableEq, Inhabited

/-- An option of a command. -/
structure OptionSpec where
  name : String
  letter : Option Char := none
  kind : ArgumentKind := .flag
  deriving Repr, DecidableEq, Inhabited

/-- The options and the words of a command. -/
structure Grammar where
  options : List OptionSpec
  words : List ArgumentKind := []
  deriving Repr, DecidableEq, Inhabited

/-- What a command line gives. -/
structure Given where
  /-- Options by name with their values; flags have empty ones. -/
  options : List (String × String) := []
  words : List String := []
  deriving Repr, DecidableEq, Inhabited

namespace Given

/-- The value of an option. -/
def value? (given : Given) (name : String) : Option String := given.options.lookup name

/-- Whether an option is given. -/
def has (given : Given) (name : String) : Bool := (given.value? name).isSome

/-- Adds an option with its value. -/
def addOption (given : Given) (spec : OptionSpec) (value : String) : Except Stop Given :=
  if given.has spec.name || (spec.kind = .path && value.isEmpty) then .error .misuse
  else .ok { given with options := given.options ++ [(spec.name, value)] }

end Given

/-- Whether an argument looks like an option.  A dash alone is a word. -/
def looksLikeOption (argument : String) : Bool :=
  match argument.toList with
  | '-' :: _ :: _ => true
  | _ => false

/-- The name before the first equals sign, and what stands behind it. -/
def splitAtEquals (cs : List Char) : String × Option String :=
  let name := cs.takeWhile (· != '=')
  match cs.drop name.length with
  | _ :: value => (String.ofList name, some (String.ofList value))
  | [] => (String.ofList name, none)

namespace Grammar

/-- Adds a word in the next place for one. -/
def addWord (g : Grammar) (given : Given) (word : String) : Except Stop Given :=
  match g.words[given.words.length]? with
  | none => .error .misuse
  | some kind =>
      if kind = .path && word.isEmpty then .error .misuse
      else .ok { given with words := given.words ++ [word] }

/-- Reads the letters behind a dash; the last one can be an option that waits for its
value. -/
def readLetters (g : Grammar) (given : Given) : List Char → Except Stop (Given × Option OptionSpec)
  | [] => .ok (given, none)
  | letter :: rest =>
      match g.options.find? fun spec => spec.letter == some letter with
      | none => .error .misuse
      | some spec =>
          match spec.kind with
          | .stops reason => .error reason
          | .flag => do g.readLetters (← given.addOption spec "") rest
          | _ =>
              match rest with
              | [] => .ok (given, some spec)
              | '=' :: value => do return (← given.addOption spec (String.ofList value), none)
              | value => do return (← given.addOption spec (String.ofList value), none)

/-- Reads an option by its name; it may wait for its value. -/
def readName (g : Grammar) (given : Given) (cs : List Char) :
    Except Stop (Given × Option OptionSpec) :=
  let (name, value) := splitAtEquals cs
  match g.options.find? fun spec => spec.name == name with
  | none => .error .misuse
  | some spec =>
      match spec.kind, value with
      | .stops reason, none => .error reason
      | .flag, none => do return (← given.addOption spec "", none)
      | .stops _, some _ | .flag, some _ => .error .misuse
      | _, some value => do return (← given.addOption spec value, none)
      | _, none => .ok (given, some spec)

/-- Reads a command line up to the first word that has no place. -/
def read (g : Grammar) (given : Given) : List String → Except Stop (Given × List String)
  | [] => .ok (given, [])
  | argument :: rest =>
      if argument = "--" then do return (← rest.foldlM g.addWord given, [])
      else if looksLikeOption argument then do
        let (given, waiting) ←
          match argument.toList with
          | '-' :: '-' :: name => g.readName given name
          | cs => g.readLetters given (cs.drop 1)
        match waiting, rest with
        | none, rest => g.read given rest
        | some spec, value :: rest =>
            if looksLikeOption value then .error .misuse
            else g.read (← given.addOption spec value) rest
        | some _, [] => .error .misuse
      else if given.words.length < g.words.length then do
        g.read (← g.addWord given argument) rest
      else .ok (given, argument :: rest)

end Grammar

end LayerTemplates
