import Custody.CommandLine.Console
import Custody.CommandLine.Help

/-!
# Commands

The commands of the command line, and the exit codes they end with: zero for success, one for a
failure or fatal findings, two for arguments that make no command, 101 for a console that is stuck.
-/

namespace Custody.CommandLine

/-- The project's settings file, in the working directory. -/
def projectFile : String := "stackcheck.json"

/-- The user's settings file, in the directory of the user's settings. -/
def userFile : String := "stackcheck/config.json"

/-- The file of the console's history, in the home directory. -/
def historyFile : String := ".stackcheck_history"

variable {m : Type → Type} [Monad m]

namespace Host

/-- The source that a path names. -/
def source (host : Host m) (path : String) : m (Except Failure Source) := do
  match ← host.fetch path with
  | some content => return .ok (.ofFile path content)
  | none => return .error .inaccessible

/-- End with a failure. -/
def fail (host : Host m) (failure : Failure) : m UInt32 := do
  host.complain (renderFailure failure)
  return 1

/-- Verify a file, and tell whether that fails. -/
def checkFile (host : Host m) (settings : Settings) (path : String) : m Bool := do
  let source ← host.source path
  match source, source.bind (·.check settings) with
  | .ok source, .ok program =>
    let report := program.report settings source.name
    match settings.format with
    | .human => host.complain report
    | .json => host.say report
    return program.hasFatal
  | _, .error failure =>
    host.complain (renderFailure failure)
    return true
  | .error _, .ok _ => return true

/-- Verify files, all of them before the exit code is decided. -/
def check (host : Host m) (settings : Settings) (paths : List String) : m UInt32 := do
  let failed ← paths.mapM (host.checkFile settings)
  return if failed.any id then 1 else 0

/-- Write a verified file with its verdicts. -/
def annotate (host : Host m) (settings : Settings) (path : String) (output : Option String) :
    m UInt32 := do
  match ← host.source path with
  | .error failure => host.fail failure
  | .ok source =>
    match source.check settings with
    | .error failure => host.fail failure
    | .ok program =>
      if program.hasFatal then host.complain (program.report settings source.name)
      match program.emit .pretty with
      | .error failure => host.fail failure
      | .ok text =>
        match output with
        | none =>
          host.say text
          return 0
        | some file => if ← host.store file text then return 0 else host.fail .inaccessible

/-- Write a file in canonical form. -/
def fmt (host : Host m) (settings : Settings) (path : String) : m UInt32 := do
  let source ← host.source path
  match source.bind (·.format? settings) with
  | .error failure => host.fail failure
  | .ok text =>
    host.say text
    return 0

/-- Carry out a command. -/
def perform (host : Host m) (settings : Settings) : Command → m UInt32
  | .check paths => host.check settings paths
  | .annotate path output => host.annotate settings path output
  | .fmt path => host.fmt settings path
  | .repl => do
    match ← host.console settings with
    | .finished => return 0
    | .historyLost => host.fail .inaccessible
    | .stuck => return 101

/-- The settings of an invocation. -/
def settings (host : Host m) (invocation : Invocation) : m (Except Failure Settings) := do
  let user ← host.userSettings
  let project ← host.fetch projectFile
  let named ← match invocation.config with
    | some path => some <$> host.fetch path
    | none => pure none
  return (Settings.load user project named).map (·.apply invocation.layer)

/-- Run the command line: the exit code. -/
def run (host : Host m) (arguments : List String) : m UInt32 := do
  match read arguments with
  | .error (.help topic) =>
    host.say (helpText topic)
    return 0
  | .error .version =>
    host.say versionText
    return 0
  | .error .misuse =>
    host.complain "Usage: stackc [OPTIONS] [COMMAND]\n"
    return 2
  | .ok invocation =>
    match ← host.settings invocation with
    | .error failure => host.fail failure
    | .ok settings => host.perform settings invocation.command

end Host

end Custody.CommandLine
