/-
  LayerTemplates.Command.Files
  ────────────────────────────
  What a command finds around it: files, variables of the environment and a home
  directory.  Commands reach them only through `Surroundings`, so a command runs on
  files held in memory as it does on those of a disk.
-/
import LayerTemplates.Data.Value
import LayerTemplates.Render.Key

namespace LayerTemplates

/-! ## §1. Surroundings. -/

/-- Why a file cannot be read or written. -/
inductive FileFault where
  | notFound
  | notDirectory
  | isDirectory
  | other (text : String)
  deriving Repr, DecidableEq, Inhabited

/-- How the system words a fault. -/
def FileFault.text : FileFault → String
  | .notFound => "No such file or directory (os error 2)"
  | .notDirectory => "Not a directory (os error 20)"
  | .isDirectory => "Is a directory (os error 21)"
  | .other text => text

/-- What a command can do with the world around it. -/
structure Surroundings (m : Type → Type) where
  readFile : String → m (Except FileFault String)
  writeFile : String → String → m (Except FileFault Unit)
  /-- The value of a variable of the environment. -/
  environment : String → m (Option String)
  /-- The home directory. -/
  home : m (Option String)
  /-- The engine that reads the expressions of keys. -/
  compile : String → Option NamePattern := NamePattern.compile?

/-- Whether there is something at a path: a file, or something that cannot be read. -/
def Surroundings.isThere {m : Type → Type} [Monad m] (s : Surroundings m) (path : String) :
    m Bool := do
  match ← s.readFile path with
  | .error .notFound | .error .notDirectory => return false
  | _ => return true

/-! ## §2. Files in memory. -/

/-- Text files by the names that lead to them, and the directory where paths begin.
Whatever lies on the way to a file is a directory. -/
structure FileStore where
  files : List (List String × String) := []
  directory : List String := []
  deriving Repr, Inhabited

namespace FileStore

/-- Whether names lead to a directory. -/
def isDirectory (s : FileStore) (place : List String) : Bool :=
  place.isPrefixOf s.directory
    || s.files.any fun (file, _) => place.isPrefixOf file && place.length < file.length

/-- Goes on from a directory by one part of a path. -/
def enter (s : FileStore) (place : List String) (part : String) :
    Except FileFault (List String) :=
  if s.isDirectory place then
    if part = "" ∨ part = "." then .ok place
    else if part = ".." then .ok place.dropLast
    else .ok (place ++ [part])
  else if (s.files.lookup place).isSome then .error .notDirectory
  else .error .notFound

/-- Where a path leads. -/
def locate (s : FileStore) (path : String) : Except FileFault (List String) :=
  if path.isEmpty then .error .notFound
  else
    let start := if path.startsWith "/" then [] else s.directory
    (path.splitOn "/").foldlM s.enter start

/-- The text of a file. -/
def read (s : FileStore) (path : String) : Except FileFault String := do
  let place ← s.locate path
  if s.isDirectory place then .error .isDirectory
  else
    match s.files.lookup place with
    | some text => .ok text
    | none => .error .notFound

/-- Writes a file in a directory that is there. -/
def write (s : FileStore) (path text : String) : Except FileFault FileStore := do
  let place ← s.locate path
  if s.isDirectory place then .error .isDirectory
  else .ok { s with files := setKey s.files place text }

/-- Files in memory as the surroundings of a command. -/
def surroundings (environment : List (String × String)) (home : Option String) :
    Surroundings (StateM FileStore) where
  readFile path := do return (← get).read path
  writeFile path text := do
    match (← get).write path text with
    | .ok s => do
        set s
        return .ok ()
    | .error fault => return .error fault
  environment name := return environment.lookup name
  home := return home

end FileStore

end LayerTemplates
