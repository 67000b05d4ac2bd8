import Custody.Content
import Custody.Diagnostic.Basic
import Custody.Identity

/-!
# Containers

A declared container: what may be stored in it, who may change it, what it holds and whether it can
still be used.
-/

namespace Custody

/-- Where a container is in its life.  The spans name the operation that ended it. -/
inductive Liveness
  | live
  /-- Destroyed when its scope exited, or at the end of the stream. -/
  | destroyed (span : Span)
  /-- A borrowed container whose scope exited: the data lives on elsewhere. -/
  | forgotten (span : Span)
  /-- A shared container that was released. -/
  | released (span : Span)
  deriving DecidableEq, Repr

/-- A declared container. -/
structure Container where
  id : ContainerId
  name : String
  element : Element
  key : Option Element
  mode : Mode
  scope : ScopeId
  span : Span
  /-- The operation that moved the content away. -/
  movedAt : Option Span := none
  liveness : Liveness := .live
  content : Content := []
  deriving DecidableEq, Repr

namespace Container

/-- Whether the content was moved away. -/
def isMoved (container : Container) : Bool :=
  container.movedAt.isSome

/-- The state that moving the container tracks. -/
def moveState (container : Container) : MoveState :=
  if container.isMoved then .moved else .available

/-- Whether slots are addressed by key. -/
def isKeyed (container : Container) : Bool :=
  container.key.isSome

/-- The number of slots. -/
def length (container : Container) : Nat :=
  container.content.length

/-- The container after its content was moved away. -/
def markMoved (container : Container) (span : Span) : Container :=
  { container with movedAt := some span, content := [] }

/-- Reject any use of a moved, destroyed or released container. -/
def ensureUsable (container : Container) (span : Span) : Except Diagnostic Unit :=
  match container.movedAt with
  | some earlier => .error (.about (.ownership (.movedAway container.name)) span earlier .moved)
  | none =>
    match container.liveness with
    | .live | .forgotten _ => .ok ()
    | .destroyed earlier =>
      .error (.about (.ownership (.destroyed container.name)) span earlier .destroyed)
    | .released earlier =>
      .error (.about (.ownership (.released container.name)) span earlier .released)

end Container

end Custody
