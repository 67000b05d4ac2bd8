import Custody.CommandLine.Run

/-!
# The program

The command line on files and standard streams.
-/

namespace Custody.CommandLine

/-- The content of a file, if it can be read. -/
def readText (path : String) : IO (Option String) := do
  try
    return some (← IO.FS.readFile path)
  catch _ => return none

/-- Write a file, and tell whether that was possible. -/
def writeText (path content : String) : IO Bool := do
  try
    IO.FS.writeFile path content
    return true
  catch _ => return false

/-- The directory of the user's settings. -/
def settingsDirectory : IO (Option String) := do
  match ← IO.getEnv "XDG_CONFIG_HOME" with
  | some directory => if directory.startsWith "/" then return some directory
  | none => pure ()
  return (← IO.getEnv "HOME").map (· ++ "/.config")

/-- The path of the file with the console's history. -/
def historyPath : IO String := do
  let home := (← IO.getEnv "HOME").map (· ++ "/")
  return home.getD "" ++ historyFile

/-- Feed the lines of standard input to a step. -/
partial def feed {σ : Type} (input : IO.FS.Stream) (step : σ → String → IO (Bool × σ))
    (state : σ) : IO (Bool × σ) := do
  let line ← input.getLine
  if line.isEmpty then return (true, state)
  let (goesOn, next) ← step state line
  if goesOn then feed input step next else return (false, next)

/-- The world of the running program. -/
def standardHost : Host IO where
  fetch := readText
  store := writeText
  userSettings := do
    match ← settingsDirectory with
    | some directory => readText (directory ++ "/" ++ userFile)
    | none => return none
  history := do readText (← historyPath)
  keepHistory := fun text => do writeText (← historyPath) text
  eachLine := fun step state => do feed (← IO.getStdin) step state
  say := fun text => do
    let output ← IO.getStdout
    output.putStr text
    output.flush
  complain := IO.eprint

end Custody.CommandLine

/-- The program. -/
def main (arguments : List String) : IO UInt32 :=
  Custody.CommandLine.standardHost.run arguments
