import Custody.Diagnostic.Violation
import Custody.Span

/-!
# Findings of the verifier

A finding names the rule that an operation breaks, the operation it was found at and, where there
is one, the earlier operation it is about.
-/

namespace Custody

/-- Stable kind of a finding. -/
inductive DiagnosticKind
  | duplicateDeclaration
  | unknownContainer
  | typeMismatch
  | unsupportedConversion
  | ownershipViolation
  | borrowConflict
  | lifetimeViolation
  | range
  | invalidPerspectiveTransition
  | malformedStream
  | exhaustiveness
  deriving DecidableEq, Repr

namespace DiagnosticKind

/-- The name of a kind, which listings rely on. -/
def name : DiagnosticKind → String
  | .duplicateDeclaration => "DuplicateDeclarationError"
  | .unknownContainer => "UnknownContainerError"
  | .typeMismatch => "TypeMismatchError"
  | .unsupportedConversion => "UnsupportedConversionError"
  | .ownershipViolation => "OwnershipViolationError"
  | .borrowConflict => "BorrowConflictError"
  | .lifetimeViolation => "LifetimeViolationError"
  | .range => "RangeError"
  | .invalidPerspectiveTransition => "InvalidPerspectiveTransitionError"
  | .malformedStream => "MalformedStreamError"
  | .exhaustiveness => "ExhaustivenessWarning"

/-- Every kind, in declaration order. -/
def all : List DiagnosticKind :=
  [.duplicateDeclaration, .unknownContainer, .typeMismatch, .unsupportedConversion,
    .ownershipViolation, .borrowConflict, .lifetimeViolation, .range,
    .invalidPerspectiveTransition, .malformedStream, .exhaustiveness]

/-- The kind of a name. -/
def ofName? (name : String) : Option DiagnosticKind :=
  all.find? fun kind => kind.name = name

/-- The stable code of a kind. -/
def code : DiagnosticKind → String
  | .duplicateDeclaration => "stack_decl_E0101"
  | .unknownContainer => "stack_decl_E0102"
  | .typeMismatch => "stack_type_E0201"
  | .unsupportedConversion => "stack_type_E0202"
  | .ownershipViolation => "stack_own_E0301"
  | .borrowConflict => "stack_borrow_E0401"
  | .lifetimeViolation => "stack_borrow_E0402"
  | .range => "stack_borrow_E0403"
  | .invalidPerspectiveTransition => "stack_persp_E0501"
  | .malformedStream => "stack_stream_E0601"
  | .exhaustiveness => "stack_persp_W0502"

/-- Whether findings of the kind are warnings. -/
def isWarning : DiagnosticKind → Bool
  | .exhaustiveness => true
  | _ => false

end DiagnosticKind

/-- The kind of a violation. -/
def Violation.kind : Violation → DiagnosticKind
  | .duplicate _ => .duplicateDeclaration
  | .unknown _ => .unknownContainer
  | .typeMismatch _ => .typeMismatch
  | .unsupported _ => .unsupportedConversion
  | .ownership _ => .ownershipViolation
  | .conflict _ => .borrowConflict
  | .lifetime _ => .lifetimeViolation
  | .range _ => .range
  | .perspective _ => .invalidPerspectiveTransition
  | .unmatchedExit => .malformedStream
  | .nonExhaustive .. => .exhaustiveness

/-- The check of a transfer that rejected it. -/
inductive TransferStep
  | source
  | conversion
  | target
  deriving DecidableEq, Repr

/-- The words in front of a message that name the check. -/
def TransferStep.words : TransferStep → String
  | .source => "transfer rejected at source check: "
  | .conversion => "transfer rejected at conversion check: "
  | .target => "transfer rejected at target check: "

/-- How an earlier operation is related to a finding. -/
inductive Relation
  | firstDeclared
  | moved
  | destroyed
  | released
  | borrowedReadOnly
  | borrowed
  | conflictingBorrow
  | declared
  | captured
  deriving DecidableEq, Repr

/-- The note at the earlier operation. -/
def Relation.note : Relation → String
  | .firstDeclared => "first declared here"
  | .moved => "moved here"
  | .destroyed => "destroyed here"
  | .released => "released here"
  | .borrowedReadOnly => "borrowed read-only here"
  | .borrowed => "borrowed here"
  | .conflictingBorrow => "conflicting borrow created here"
  | .declared => "declared here"
  | .captured => "captured here"

/-- An earlier operation that a finding is about. -/
structure Related where
  span : Span
  relation : Relation
  deriving DecidableEq, Repr

/-- A finding of the verifier. -/
structure Diagnostic where
  violation : Violation
  span : Span
  related : Option Related := none
  step : Option TransferStep := none
  deriving DecidableEq, Repr

/-- A marked place of a finding. -/
structure Label where
  text : String
  offset : Nat
  length : Nat
  deriving DecidableEq, Repr

namespace Diagnostic

/-- Name the check of a transfer that rejected the operation. -/
def inStep (step : TransferStep) (diagnostic : Diagnostic) : Diagnostic :=
  { diagnostic with step := some step }

/-- The stable kind. -/
def kind (diagnostic : Diagnostic) : DiagnosticKind :=
  diagnostic.violation.kind

/-- The stable code. -/
def code (diagnostic : Diagnostic) : String :=
  diagnostic.kind.code

/-- Whether the finding is a warning. -/
def isWarning (diagnostic : Diagnostic) : Bool :=
  diagnostic.kind.isWarning

/-- The word for how severe the finding is. -/
def severity (diagnostic : Diagnostic) : String :=
  if diagnostic.isWarning then "warning" else "error"

/-- Whether the finding blocks the use of the program. -/
def isFatal (strict : Bool) (diagnostic : Diagnostic) : Bool :=
  !diagnostic.isWarning || strict

/-- The words that name the rejecting check, empty outside transfers. -/
def stepWords (diagnostic : Diagnostic) : String :=
  (diagnostic.step.map TransferStep.words).getD ""

/-- What is wrong, without the words for the kind. -/
def detail (diagnostic : Diagnostic) : String :=
  match diagnostic.violation with
  | .duplicate name => s!"duplicate declaration of '{name}'"
  | .unknown name => diagnostic.stepWords ++ s!"unknown container or binding '{name}'"
  | .typeMismatch cause => diagnostic.stepWords ++ cause.message
  | .unsupported cause => diagnostic.stepWords ++ cause.message
  | .ownership cause => diagnostic.stepWords ++ cause.message
  | .conflict cause => diagnostic.stepWords ++ cause.message
  | .lifetime cause => diagnostic.stepWords ++ cause.message
  | .range cause => diagnostic.stepWords ++ cause.message
  | .perspective cause => diagnostic.stepWords ++ cause.message
  | .unmatchedExit => "scope exit without a matching scope enter"
  | .nonExhaustive binding missing =>
    s!"match on '{binding}' does not cover " ++ ", ".intercalate (missing.map Perspective.name)

/-- What is wrong. -/
def message (diagnostic : Diagnostic) : String :=
  match diagnostic.kind with
  | .typeMismatch => "type mismatch: " ++ diagnostic.detail
  | .ownershipViolation => "ownership violation: " ++ diagnostic.detail
  | .borrowConflict => "borrow conflict: " ++ diagnostic.detail
  | .lifetimeViolation => "lifetime violation: " ++ diagnostic.detail
  | .range => "range error: " ++ diagnostic.detail
  | .invalidPerspectiveTransition => "invalid perspective transition: " ++ diagnostic.detail
  | .malformedStream => "malformed operation stream: " ++ diagnostic.detail
  | _ => diagnostic.detail

/-- What to do about it. -/
def help? (diagnostic : Diagnostic) : Option String :=
  match diagnostic.violation with
  | .duplicate name =>
    some s!"'{name}' is already declared in this scope; use a nested scope to shadow it"
  | .unknown name => some s!"'{name}' is not declared in any enclosing scope"
  | .typeMismatch cause => some s!"Expected type '{cause.expected}', but found '{cause.found}'"
  | .unsupported cause =>
    let targets := (Conversion.targets cause.source).map Element.name
    let reachable := if targets.isEmpty then "nothing" else ", ".intercalate targets
    some s!"{cause.source.name} converts only to: {reachable}"
  | .conflict _ =>
    some "A mutable borrow must not overlap any other borrow of the same container"
  | .lifetime _ =>
    some "A reference must not outlive the scope of the container it points into"
  | .nonExhaustive .. => some "add the missing perspectives or a default arm '_'"
  | _ => none

/-- The note at the operation itself. -/
def primaryNote (diagnostic : Diagnostic) : String :=
  match diagnostic.violation with
  | .duplicate _ => "declared again here"
  | .unknown name => s!"'{name}' not found"
  | .typeMismatch cause => s!"this has type '{cause.found}'"
  | .unsupported cause => s!"cannot convert {cause.source.name} to {cause.target.name}"
  | .nonExhaustive .. => "non-exhaustive match"
  | _ => diagnostic.detail

/-- The note at the related operation, for the kinds that mark it. -/
def relatedNote? (diagnostic : Diagnostic) : Option String :=
  match diagnostic.kind with
  | .duplicateDeclaration => some "first declared here"
  | .ownershipViolation => some "ownership changed here"
  | .borrowConflict => some "conflicting borrow created here"
  | .lifetimeViolation => some "borrowed here"
  | _ => none

/-- The marked places. -/
def labels (diagnostic : Diagnostic) : List Label :=
  let primary : Label :=
    ⟨diagnostic.primaryNote, diagnostic.span.offset, diagnostic.span.length⟩
  match diagnostic.related, diagnostic.relatedNote? with
  | some related, some note => [primary, ⟨note, related.span.offset, related.span.length⟩]
  | _, _ => [primary]

/-- A finding about an earlier operation. -/
def about (violation : Violation) (span earlier : Span) (relation : Relation) : Diagnostic :=
  ⟨violation, span, some ⟨earlier, relation⟩, none⟩

/-- A finding about one operation only. -/
def plain (violation : Violation) (span : Span) : Diagnostic :=
  ⟨violation, span, none, none⟩

end Diagnostic

end Custody
