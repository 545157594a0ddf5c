/-
  LayerTemplates.Main
  ───────────────────
  The program on the files and the environment of the system.
-/
import LayerTemplates.Command.Run

namespace LayerTemplates

/-- A fault that the system reports. -/
def FileFault.ofSystem : IO.Error → FileFault
  | .noFileOrDirectory .. => .notFound
  | .inappropriateType .. => .isDirectory
  | e => .other e.toString

/-- The system as the surroundings of a command. -/
def systemSurroundings : Surroundings IO where
  readFile path := do
    match ← (IO.FS.readFile path).toBaseIO with
    | .ok text => return .ok text
    | .error e => return .error (FileFault.ofSystem e)
  writeFile path text := do
    match ← (IO.FS.writeFile path text).toBaseIO with
    | .ok () => return .ok ()
    | .error e => return .error (FileFault.ofSystem e)
  environment name := IO.getEnv name
  home := IO.getEnv "HOME"

end LayerTemplates

/-- Runs the program. -/
def main (arguments : List String) : IO UInt32 := do
  let outcome ← LayerTemplates.runProgram LayerTemplates.systemSurroundings arguments
  (← IO.getStdout).putStr outcome.out
  (← IO.getStderr).putStr outcome.err
  return outcome.exit.toUInt32
