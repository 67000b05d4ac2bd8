import Custody.Json.Writer
import Custody.Operation.Interchange
import Custody.Verifier.State

/-!
# Verdicts

What the verifier found out about one operation: the scope it ran in, whether it was accepted and,
if so, the container and the binding it acted on and the values it yielded.
-/

namespace Custody

/-- The container that an operation acted on, as it is afterwards. -/
structure Subject where
  container : ContainerId
  name : String
  element : Element
  key : Option Element
  mode : Mode
  length : Nat
  deriving DecidableEq, Repr

/-- The binding that an operation acted through. -/
structure Handle where
  binding : BindingId
  perspective : Perspective
  deriving DecidableEq, Repr

/-- What was found out about one operation. -/
structure Verdict where
  scope : ScopeId
  depth : Nat
  /-- Whether the operation was accepted. -/
  ok : Bool := false
  subject : Option Subject := none
  handle : Option Handle := none
  /-- The values yielded or moved; those that only the running program knows are missing. -/
  values : List (Option Value) := []
  /-- The borrow that the operation created or acted through. -/
  record : Option RecordId := none
  deriving DecidableEq, Repr

/-- The description of a container. -/
def Container.subject (container : Container) : Subject :=
  ⟨container.id, container.name, container.element, container.key, container.mode,
    container.length⟩

/-- The description of a binding. -/
def Binding.handle (binding : Binding) : Handle :=
  ⟨binding.id, binding.perspective⟩

namespace State

/-- The verdict on a rejected or skipped operation. -/
def bare (state : State) : Verdict :=
  { scope := state.scopes.current, depth := state.scopes.depth }

/-- The verdict on an accepted operation on a container. -/
def describe (state : State) (container : Container) (binding : Option Binding)
    (record : Option RecordId) (values : List (Option Value)) : Verdict :=
  { state.bare with
    ok := true
    subject := some container.subject
    handle := binding.map Binding.handle
    values
    record }

end State

namespace Verdict

/-- An identity as a number. -/
def index (number : Nat) : Json :=
  Json.ofNat number

/-- The members of the interchange form. -/
def toMembers (verdict : Verdict) : List (Option String × Json) :=
  let given (name : String) (value : Option Json) : List (Option String × Json) :=
    value.toList.map fun json => Json.member name json
  let subject := verdict.subject
  let handle := verdict.handle
  [Json.member "scope" (index verdict.scope.index),
    Json.member "depth" (index verdict.depth)] ++
  given "binding" (handle.map fun handle => index handle.binding.index) ++
  given "container" (subject.map fun subject => Json.text subject.name) ++
  given "container_id" (subject.map fun subject => index subject.container.index) ++
  given "element" (subject.map fun subject => Json.text subject.element.name) ++
  given "key" ((subject.bind (·.key)).map fun key => Json.text key.name) ++
  given "mode" (subject.map fun subject => Json.text subject.mode.name) ++
  given "perspective" (handle.map fun handle => Json.text handle.perspective.name) ++
  given "len" (subject.map fun subject => index subject.length) ++
  (if verdict.values.isEmpty then []
   else [Json.member "values" (.array (verdict.values.map fun value =>
      (value.map Value.toJson).getD .null))]) ++
  given "record" (verdict.record.map fun record => index record.index) ++
  [Json.member "ok" (.bool verdict.ok)]

/-- The interchange form. -/
def toJson (verdict : Verdict) : Json :=
  .object verdict.toMembers

end Verdict

end Custody
