import Custody.Operation.Interchange
import Custody.Operation.Parser
import Custody.Path
import Custody.Program
import Custody.Report
import Custody.Settings

/-!
# Sources

A stream with a name, and the commands on it: verify it, write it out with its verdicts, or write
it in canonical form.  A stream in interchange form is read by the codec of the program, or by
another one.
-/

namespace Custody

/-- How a stream is written. -/
inductive StreamFormat
  | text
  | json
  deriving DecidableEq, Repr

namespace StreamFormat

/-- The printed form. -/
def name : StreamFormat → String
  | .text => "text"
  | .json => "json"

/-- The format that a path tells. -/
def ofPath (path : String) : StreamFormat :=
  if Path.extension? path = some "json" then .json else .text

end StreamFormat

/-- A named stream and its text. -/
structure Source where
  name : String
  code : String
  format : StreamFormat
  deriving DecidableEq, Repr

namespace Source

/-- The source that a file holds. -/
def ofFile (path content : String) : Source :=
  ⟨Path.normalize path, content, .ofPath path⟩

/-- The operations of a source. -/
def parse (source : Source) (limit : Nat) (codec : Json.Codec := .standard) :
    Except Failure (List Node) :=
  match source.format with
  | .text => (Custody.parse source.code limit).mapError (.syntaxErrors source.name)
  | .json =>
    match Node.streamOfText? source.code codec with
    | some nodes => .ok nodes
    | none => .error .malformed

/-- Verify a source. -/
def check (source : Source) (settings : Settings) (codec : Json.Codec := .standard) :
    Except Failure Program := do
  let nodes ← source.parse settings.errorLimit codec
  return verify nodes settings.strict

/-- A source in canonical form, without verifying it. -/
def format? (source : Source) (settings : Settings) : Except Failure String := do
  let nodes ← source.parse settings.errorLimit
  return formatStream nodes

end Source

/-- The findings of a program in the format of the settings. -/
def Program.report (program : Program) (settings : Settings) (name : String) : String :=
  match settings.format with
  | .human => (Report.limited settings.errorLimit program.diagnostics).render name
  | .json => renderRecords program.diagnostics name

end Custody
