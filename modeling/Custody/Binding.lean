import Custody.Diagnostic.Basic
import Custody.Identity

/-!
# Bindings

A binding is a name for a container, or for a borrowed region of one, together with the
perspective it is used under.  A perspective decides where a push inserts and how slots are
addressed, and changing it touches neither content nor borrows.
-/

namespace Custody

/-- A change of perspective. -/
structure Transition where
  source : Perspective
  target : Perspective
  span : Span
  deriving DecidableEq, Repr

/-- The perspective of a binding and the changes that led to it. -/
structure Stance where
  current : Perspective := .lifo
  history : List Transition := []
  deriving DecidableEq, Repr

namespace Stance

/-- The stance after a change. -/
def change (stance : Stance) (target : Perspective) (span : Span) : Stance :=
  ⟨target, stance.history ++ [⟨stance.current, target, span⟩]⟩

/-- Set the perspective, and tell whether that changes it.  The current one can always be set; the
hashed one needs a keyed container. -/
def set (stance : Stance) (target : Perspective) (keyed : Bool) (span : Span) :
    Except Diagnostic (Bool × Stance) :=
  if target = stance.current then .ok (false, stance)
  else if target = .hashed && !keyed then .error (.plain (.perspective .needsKeyType) span)
  else .ok (true, stance.change target span)

/-- Toggle between the two orders of access. -/
def flip (stance : Stance) (span : Span) : Except Diagnostic Stance :=
  match stance.current.flipped? with
  | some target => .ok (stance.change target span)
  | none => .error (.plain (.perspective .flipHashed) span)

end Stance

/-- What a binding refers to. -/
inductive Referent
  | direct (container : ContainerId)
  | view (record : RecordId)
  /-- Nothing: the declaration failed, and uses of the name are skipped. -/
  | poisoned
  deriving DecidableEq, Repr

/-- A declared binding. -/
structure Binding where
  id : BindingId
  name : String
  scope : ScopeId
  referent : Referent
  stance : Stance
  span : Span
  /-- The operation that last pointed the binding elsewhere. -/
  capturedAt : Option Span := none
  deriving DecidableEq, Repr

namespace Binding

/-- The current perspective. -/
def perspective (binding : Binding) : Perspective :=
  binding.stance.current

/-- The binding without a referent. -/
def poison (binding : Binding) : Binding :=
  { binding with referent := .poisoned }

/-- The operation that gave the binding its referent. -/
def origin (binding : Binding) : Span :=
  binding.capturedAt.getD binding.span

end Binding

end Custody
