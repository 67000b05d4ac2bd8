import Custody.Source
import Custody.Verifier.Listing

/-!
# Sessions

A session verifies statements as they are entered.  All text that was entered is kept, so that a
finding can point back at an earlier statement.
-/

namespace Custody

/-- A session under way. -/
structure Session where
  settings : Settings
  verification : Verification := {}
  /-- Everything entered so far. -/
  buffer : String := ""
  /-- The number of lines entered so far. -/
  lines : Nat := 0
  deriving DecidableEq, Repr

/-- The answer to a successful step. -/
structure Session.Reply where
  report : Report
  /-- The number of operations loaded, and the name of the file. -/
  loaded : Option (Nat × String) := none
  deriving DecidableEq, Repr

namespace Session

/-- The name under which entered text is reported. -/
def entered : String := "<repl>"

/-- The notes of a reply. -/
def Reply.notes (reply : Reply) : List String :=
  reply.report.notes ++ reply.loaded.toList.map fun (count, name) =>
    s!"loaded {count} operation(s) from {name}"

/-- Start over. -/
def reset (session : Session) : Session :=
  { settings := session.settings }

/-- Verify operations, and collect what is found. -/
def advance (session : Session) (nodes : List Node) : List Diagnostic × Session :=
  let verification := session.verification.run nodes
  (verification.diagnostics.drop session.verification.diagnostics.length,
    { session with verification })

/-- A line without the line breaks at its end. -/
def trimBreaks (line : List Char) : List Char :=
  (line.reverse.dropWhile fun c => c = '\r' || c = '\n').reverse

/-- The number of lines of a text; the last one may lack its line break. -/
def countLines (text : List Char) : Nat :=
  text.count '\n' + if text.isEmpty || text.getLast? = some '\n' then 0 else 1

/-- A text that ends with a line break. -/
def closeLine (text : String) : String :=
  if text.toList.getLast? = some '\n' then text else text ++ "\n"

/-- Enter one line.  A line that does not parse stays in the buffer. -/
def eval (session : Session) (line : String) : Except Failure Reply × Session :=
  let line := String.ofList (trimBreaks line.toList)
  let lines := session.lines + 1
  let cursor := Cursor.startingAt line lines session.buffer.utf8ByteSize
  let session := { session with lines, buffer := session.buffer ++ line ++ "\n" }
  match cursor.parse session.settings.errorLimit with
  | .error errors => (.error (.syntaxErrors entered errors), session)
  | .ok nodes =>
    let (diagnostics, session) := session.advance nodes
    (.ok { report := .limited 0 diagnostics }, session)

/-- Verify operations of a file. -/
def loadNodes (session : Session) (nodes : List Node) (name : String) : Reply × Session :=
  let (diagnostics, session) := session.advance nodes
  ({ report := .limited session.settings.errorLimit diagnostics
     loaded := some (nodes.length, name) }, session)

/-- Load a file.  Text joins the buffer if it parses; a document keeps its own places. -/
def load (session : Session) (source : Source) : Except Failure Reply × Session :=
  match source.format with
  | .text =>
    let cursor :=
      Cursor.startingAt source.code (session.lines + 1) session.buffer.utf8ByteSize
    match cursor.parse session.settings.errorLimit with
    | .error errors => (.error (.syntaxErrors source.name errors), session)
    | .ok nodes =>
      let (reply, session) := { session with
        lines := session.lines + countLines source.code.toList
        buffer := closeLine (session.buffer ++ source.code) }.loadNodes nodes source.name
      (.ok reply, session)
  | .json =>
    match source.parse session.settings.errorLimit with
    | .error failure => (.error failure, session)
    | .ok nodes =>
      let (reply, session) := session.loadNodes nodes source.name
      (.ok reply, session)

/-- Load the file of a path, if it can be read. -/
def loadFile (session : Session) (path : String) (content : Option String) :
    Except Failure Reply × Session :=
  match content with
  | some content => session.load (.ofFile path content)
  | none => (.error .inaccessible, session)

end Session

end Custody
