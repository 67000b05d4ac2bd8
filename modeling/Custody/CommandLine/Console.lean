import Custody.CommandLine.History
import Custody.CommandLine.TypedLine
import Custody.Session
import Custody.Text.Blank

/-!
# The console

What a line means that is entered at the console, and what is answered to it.
-/

namespace Custody.CommandLine

/-- The world that a command runs in. -/
structure Host (m : Type → Type) where
  /-- The content of a file, if it can be read. -/
  fetch : String → m (Option String)
  /-- Write a file, and tell whether that was possible. -/
  store : String → String → m Bool
  /-- The content of the user's settings file. -/
  userSettings : m (Option String)
  /-- The content of the file with the history of earlier sessions. -/
  history : m (Option String)
  /-- Write the history, and tell whether that was possible. -/
  keepHistory : String → m Bool
  /-- Feed the lines of the input, with their line breaks, to a step until it says no; tell whether
  the input ended. -/
  eachLine : {σ : Type} → (σ → String → m (Bool × σ)) → σ → m (Bool × σ)
  /-- Write to the output. -/
  say : String → m Unit
  /-- Write to the error output. -/
  complain : String → m Unit

/-- A line without its line break. -/
def chomp (line : String) : String :=
  match line.toList.reverse with
  | '\n' :: '\r' :: rest => String.ofList rest.reverse
  | '\n' :: rest => String.ofList rest.reverse
  | _ => line

/-- What a line means. -/
inductive Entry
  | blank
  | help
  | quit
  | load (path : String)
  | incompleteLoad
  | state
  | reset
  | statement (line : String)
  deriving DecidableEq, Repr

/-- The meaning of a line. -/
def Entry.ofLine (line : String) : Entry :=
  match (Text.words line.toList).map String.ofList with
  | [] => .blank
  | first :: rest =>
    match first with
    | "help" => .help
    | "q" | "quit" => .quit
    | "load" =>
      match rest with
      | [path] => .load path
      | _ => .incompleteLoad
    | "state" => .state
    | "reset" => .reset
    | _ => .statement line

/-- What can be entered. -/
def consoleHelp : String :=
  "help            show this help\n" ++
  "quit            leave the session\n" ++
  "load <file>     verify a stream file into the session\n" ++
  "state           dump live containers, bindings and borrows\n" ++
  "reset           start over with an empty session\n" ++
  "<statement>     verify one statement, e.g. `declare X: int owned`\n"

/-- A failure as readers see it. -/
def renderFailure (failure : Failure) : String :=
  let details := match failure with
    | .syntaxErrors name errors => errors.map fun error =>
      s!"  {name}:{error.span.render}: {error.message}: {error.label}\n"
    | _ => []
  s!"{failure.message}\n" ++ "".intercalate details

/-- The answer to a step of a session. -/
def renderReply (reply : Session.Reply) : String :=
  reply.report.render Session.entered ++
    "".intercalate (reply.loaded.toList.map fun (count, name) =>
      s!"loaded {count} operation(s) from {name}\n")

variable {m : Type → Type} [Monad m]

/-- Answer to a step. -/
def Host.answer (host : Host m) : Except Failure Session.Reply → m Unit
  | .ok reply => host.say (renderReply reply)
  | .error failure => host.complain (renderFailure failure)

/-- Carry out a line; none is left of a session that was quit. -/
def Host.respond (host : Host m) (session : Session) (line : String) : m (Option Session) := do
  match Entry.ofLine line with
  | .blank => return some session
  | .help =>
    host.say consoleHelp
    return some session
  | .quit => return none
  | .load path =>
    let (reply, session) := session.loadFile path (← host.fetch path)
    host.answer reply
    return some session
  | .incompleteLoad =>
    host.complain "Usage: load <filename>\n"
    return some session
  | .state =>
    host.say session.verification.state.listing
    return some session
  | .reset => return some session.reset
  | .statement line =>
    let (reply, session) := session.eval line
    host.answer reply
    return some session

/-- A console in use. -/
structure Console where
  session : Session
  history : History := {}
  /-- Whether the last line could not be read. -/
  stuck : Bool := false
  deriving DecidableEq, Repr

/-- Note a line, which may have its line break, and carry it out; tell whether the console goes
on. -/
def Host.enter (host : Host m) (console : Console) (line : String) : m (Bool × Console) := do
  match TypedLine.settle? (chomp line).toList with
  | none => return (false, { console with stuck := true })
  | some characters =>
    let line := String.ofList characters
    let history := console.history.add line
    match ← host.respond console.session line with
    | some session => return (true, { session, history })
    | none => return (false, { console with history })

/-- How a console ends. -/
inductive Ending
  | finished
  | historyLost
  | stuck
  deriving DecidableEq, Repr

/-- Run the console until it is quit or the input ends, and keep its history. -/
def Host.console (host : Host m) (settings : Settings) : m Ending := do
  let earlier ← if settings.fileHistory then host.history else pure none
  if settings.fileHistory && earlier.isNone then host.say "No previous history\n"
  let start : Console := { session := { settings }, history := (earlier.map History.ofText).getD {} }
  let (ended, last) ← host.eachLine host.enter start
  if last.stuck then return .stuck
  if ended then host.say "CTRL-D\n"
  match last.history.unsaved? with
  | none => return .finished
  | some text =>
    if settings.fileHistory then
      if ← host.keepHistory text then return .finished else return .historyLost
    else return .finished

end Custody.CommandLine
