import Custody.Failure
import Custody.Json.Reader
import Custody.Json.Shape

/-!
# Settings

Settings come in layers, and a later layer wins: the defaults, the user's file, the project's file,
a file named on the command line, and then the command line itself.
-/

namespace Custody

/-- How findings are written. -/
inductive ReportFormat
  | human
  | json
  deriving DecidableEq, Repr

namespace ReportFormat

/-- The printed form. -/
def name : ReportFormat → String
  | .human => "human"
  | .json => "json"

/-- Read a spelling. -/
def ofWord? : String → Option ReportFormat
  | "human" => some .human
  | "json" => some .json
  | _ => none

/-- Read a word of a settings file. -/
def ofJson? : Json → Option ReportFormat
  | .string (some word) => ofWord? word
  | .object [(some word, .null)] => ofWord? word
  | _ => none

end ReportFormat

/-- What a command is run with. -/
structure Settings where
  /-- How many findings are shown for a file; zero stands for all. -/
  errorLimit : Nat := 20
  /-- Whether warnings count as errors. -/
  strict : Bool := false
  format : ReportFormat := .human
  color : Bool := true
  /-- Whether the console keeps its history between sessions. -/
  fileHistory : Bool := true
  deriving DecidableEq, Repr

/-- One file of settings.  What it does not mention is left as it is. -/
structure Settings.Layer where
  errorLimit : Option Nat := none
  strict : Option Bool := none
  format : Option ReportFormat := none
  color : Option Bool := none
  fileHistory : Option Bool := none
  deriving DecidableEq, Repr

namespace Settings

/-- Read a file of settings. -/
def Layer.ofText? (text : String) : Option Layer := do
  let json ← Json.read? text
  let [errorLimit, strict, format, color, fileHistory] ←
    json.record? ["error_limit", "warnings_as_errors", "format", "color", "file_history"] | none
  return {
    errorLimit := ← Json.optional? Json.size? errorLimit
    strict := ← Json.optional? Json.bool? strict
    format := ← Json.optional? ReportFormat.ofJson? format
    color := ← Json.optional? Json.bool? color
    fileHistory := ← Json.optional? Json.bool? fileHistory }

/-- The settings under one more layer. -/
def apply (settings : Settings) (layer : Layer) : Settings where
  errorLimit := layer.errorLimit.getD settings.errorLimit
  strict := layer.strict.getD settings.strict
  format := layer.format.getD settings.format
  color := layer.color.getD settings.color
  fileHistory := layer.fileHistory.getD settings.fileHistory

/-- The settings under the layer that a file holds. -/
def applyText (settings : Settings) (text : String) : Except Failure Settings :=
  match Layer.ofText? text with
  | some layer => .ok (settings.apply layer)
  | none => .error .malformed

/-- The settings under files in their order. -/
def ofFiles (texts : List String) : Except Failure Settings :=
  texts.foldlM applyText {}

/-- The settings under the files that exist.  A file named on the command line must exist. -/
def load (user project : Option String) (named : Option (Option String)) :
    Except Failure Settings := do
  let settings ← ofFiles (user.toList ++ project.toList)
  match named with
  | none => return settings
  | some none => throw .inaccessible
  | some (some text) => settings.applyText text

end Settings

end Custody
