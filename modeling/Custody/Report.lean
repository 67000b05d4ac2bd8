import Custody.Diagnostic.Basic
import Custody.Json.Numeral
import Custody.Json.Writer

/-!
# Reports

Findings as they are shown: for readers, at most a given number of them with a note on how many are
left out; for other programs, one record to a line.
-/

namespace Custody

namespace Diagnostic

/-- The record of a finding in a file. -/
def toRecord (diagnostic : Diagnostic) (file : String) : Json :=
  let related := diagnostic.related.map fun related =>
    Json.object [Json.member "line" (.ofNat related.span.line),
      Json.member "column" (.ofNat related.span.shownColumn),
      Json.member "note" (.text related.relation.note)]
  .object ([Json.member "severity" (.text diagnostic.severity),
    Json.member "kind" (.text diagnostic.kind.name),
    Json.member "code" (.text diagnostic.code),
    Json.member "file" (.text file),
    Json.member "line" (.ofNat diagnostic.span.line),
    Json.member "column" (.ofNat diagnostic.span.shownColumn),
    Json.member "message" (.text diagnostic.message)] ++
    Json.member? "related" related)

/-- A finding as readers see it. -/
def render (diagnostic : Diagnostic) (file : String) : String :=
  let related := (diagnostic.related.map fun related =>
    s!"  {file}:{related.span.render}: {related.relation.note}\n").getD ""
  let help := (diagnostic.help?.map fun help => s!"  help: {help}\n").getD ""
  s!"{diagnostic.severity}[{diagnostic.code}]: {diagnostic.message}\n" ++
    s!"  {file}:{diagnostic.span.render}: {diagnostic.primaryNote}\n" ++ related ++ help

end Diagnostic

/-- Findings as one record to a line. -/
def renderRecords (diagnostics : List Diagnostic) (file : String) : String :=
  "".intercalate (diagnostics.map fun diagnostic => (diagnostic.toRecord file).render ++ "\n")

/-- The findings that are shown, and the number of those left out. -/
structure Report where
  shown : List Diagnostic := []
  omitted : Nat := 0
  deriving DecidableEq, Repr

namespace Report

/-- At most a number of findings; zero stands for all of them. -/
def limited (limit : Nat) (diagnostics : List Diagnostic) : Report :=
  if limit = 0 then ⟨diagnostics, 0⟩
  else ⟨diagnostics.take limit, diagnostics.length - limit⟩

/-- The codes of the findings shown. -/
def codes (report : Report) : List String :=
  report.shown.map (·.code)

/-- The note on what is left out. -/
def notes (report : Report) : List String :=
  if report.omitted = 0 then []
  else [s!"... and {report.omitted} more diagnostic(s) not shown"]

/-- The report as readers see it. -/
def render (report : Report) (file : String) : String :=
  "".intercalate (report.shown.map fun diagnostic => diagnostic.render file) ++
    "".intercalate (report.notes.map fun note => note ++ "\n")

end Report

end Custody
