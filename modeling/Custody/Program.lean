import Custody.Failure
import Custody.Json.Writer
import Custody.Operation.Printer
import Custody.Verifier.Step

/-!
# Output of verified programs

A program without fatal findings can be written out: as a document that holds each operation with
the verdict on it, or as canonical text.
-/

namespace Custody

/-- A form that programs are written in. -/
inductive Emitter
  /-- A document with line breaks and indentation. -/
  | pretty
  /-- A document on one line. -/
  | compact
  /-- Canonical text. -/
  | text
  deriving DecidableEq, Repr

/-- The document of an annotated operation. -/
def AnnotatedNode.toJson (annotated : AnnotatedNode) : Json :=
  .object (annotated.node.toMembers ++ [Json.member "annotation" annotated.verdict.toJson])

namespace Program

/-- The document of a program. -/
def toJson (program : Program) : Json :=
  .array (program.nodes.map AnnotatedNode.toJson)

/-- Write a program, whatever was found. -/
def render (program : Program) : Emitter → String
  | .pretty => program.toJson.renderPretty ++ "\n"
  | .compact => program.toJson.render ++ "\n"
  | .text => formatStream (program.nodes.map (·.node))

/-- Write a program that has no fatal findings. -/
def emit (program : Program) (emitter : Emitter) : Except Failure String :=
  if program.hasFatal then .error (.blocked program.fatalCount)
  else .ok (program.render emitter)

end Program

end Custody
