import Custody.Span
import Custody.Value

/-!
# Operations

A stream is a flat list of operations, each with the span it came from.  Scopes are delimited by
operations of their own rather than by nesting.
-/

namespace Custody

/-- What a push puts onto its target. -/
inductive Operand
  | value (literal : Value)
  | transfer (source : String) (effect : Effect)
  deriving DecidableEq, Repr

/-- One binding handed to a spawned task. -/
structure Capture where
  binding : String
  take : Bool
  deriving DecidableEq, Repr

/-- One step of a stream. -/
inductive Operation
  | declare (container : String) (element : Element) (key : Option Element) (mode : Mode)
  | bind (binding container : String) (perspective : Option Perspective)
  | push (binding : String) (operand : Operand) (key : Option Value)
      (conversion : Option Conversion)
  | pop (binding : String) (extent : Option Extent)
  | peek (binding : String) (extent : Option Extent)
  | borrow (binding source : String) (extent : Extent) (mode : BorrowMode)
  | setPerspective (binding : String) (perspective : Perspective)
  | flip (binding : String)
  /-- Re-points a binding at whatever the source refers to. -/
  | capture (target source : String)
  | release (binding : String)
  | choose (binding : String) (arms : List Perspective) (fallback : Bool)
  | enterScope (kind : ScopeKind)
  | exitScope
  | spawn (captures : List Capture)
  deriving DecidableEq, Repr

/-- The name of an operation in annotations. -/
def Operation.name : Operation → String
  | .declare .. => "declare"
  | .bind .. => "bind"
  | .push .. => "push"
  | .pop .. => "pop"
  | .peek .. => "peek"
  | .borrow .. => "borrow"
  | .setPerspective .. => "perspective"
  | .flip .. => "flip"
  | .capture .. => "capture"
  | .release .. => "release"
  | .choose .. => "match"
  | .enterScope .. => "scope_enter"
  | .exitScope => "scope_exit"
  | .spawn .. => "spawn"

/-- An operation with its place in the source. -/
structure Node where
  operation : Operation
  span : Span := {}
  deriving DecidableEq, Repr

end Custody
