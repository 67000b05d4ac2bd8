import Custody.SyntaxError

/-!
# Failures

What stops a command outright.  Findings of the verifier are no failures: they are collected and
reported.
-/

namespace Custody

/-- What stops a command. -/
inductive Failure
  /-- The text of a stream does not parse. -/
  | syntaxErrors (name : String) (errors : List SyntaxError)
  /-- Findings forbid the use of a program. -/
  | blocked (count : Nat)
  /-- A file cannot be read or written. -/
  | inaccessible
  /-- A document does not have the form that is expected of it. -/
  | malformed
  deriving DecidableEq, Repr

namespace Failure

/-- The wording. -/
def message : Failure → String
  | .syntaxErrors name errors => s!"failed to parse {name}: {errors.length} error(s)"
  | .blocked count => s!"code generation blocked by {count} fatal diagnostic(s)"
  | .inaccessible => "file cannot be accessed"
  | .malformed => "malformed document"

/-- The stable code. -/
def code? : Failure → Option String
  | .syntaxErrors .. => some "stack_syntax_E0000"
  | .blocked _ => some "stack_codegen_E0701"
  | _ => none

/-- What to do about it. -/
def help? : Failure → Option String
  | .blocked _ => some "fix the reported errors and run again"
  | _ => none

end Failure

end Custody
