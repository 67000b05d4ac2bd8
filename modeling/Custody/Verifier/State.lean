import Custody.Binding
import Custody.Container
import Custody.Ledger
import Custody.Scope

/-!
# The state of a verification

Everything that earlier operations left behind: the scopes, the declared containers and bindings,
the active borrows, and the shared containers that wait for the end of the stream.
-/

namespace Custody

/-- What is known after some operations. -/
structure State where
  scopes : ScopeTree := .initial
  containers : List Container := []
  bindings : List Binding := []
  ledger : Ledger := {}
  /-- Shared containers whose scope has exited, in the order of the exits. -/
  deferred : List ContainerId := []
  deriving DecidableEq, Repr

namespace State

/-- The container of an identity. -/
def container? (state : State) (id : ContainerId) : Option Container :=
  state.containers[id.index]?

/-- The binding of an identity. -/
def binding? (state : State) (id : BindingId) : Option Binding :=
  state.bindings[id.index]?

/-- Change a container. -/
def modifyContainer (state : State) (id : ContainerId) (change : Container → Container) : State :=
  { state with containers := state.containers.modify id.index change }

/-- Change a binding. -/
def modifyBinding (state : State) (id : BindingId) (change : Binding → Binding) : State :=
  { state with bindings := state.bindings.modify id.index change }

/-- The content of a container. -/
def content (state : State) (id : ContainerId) : Content :=
  ((state.container? id).map (·.content)).getD []

/-- Store the content of a container. -/
def setContent (state : State) (id : ContainerId) (content : Content) : State :=
  state.modifyContainer id fun container => { container with content }

/-- Mark a container as moved away. -/
def markMoved (state : State) (id : ContainerId) (span : Span) : State :=
  state.modifyContainer id (·.markMoved span)

/-- Remove the referent of a binding. -/
def poison (state : State) (id : BindingId) : State :=
  state.modifyBinding id (·.poison)

/-- The bindings whose scope is open. -/
def liveBindings (state : State) : List Binding :=
  state.bindings.filter fun binding => state.scopes.isOpen binding.scope

/-- The container that a name means. -/
def lookupContainer (state : State) (name : String) (span : Span) : Except Diagnostic Container :=
  match (state.scopes.findContainer? name).bind state.container? with
  | some container => .ok container
  | none => .error (.plain (.unknown name) span)

/-- The binding that a name means. -/
def lookupBinding (state : State) (name : String) (span : Span) : Except Diagnostic Binding :=
  match (state.scopes.findBinding? name).bind state.binding? with
  | some binding => .ok binding
  | none => .error (.plain (.unknown name) span)

/-- The container that the current scope declares under a name. -/
def declaredHere? (state : State) (name : String) : Option Container :=
  (state.scopes.currentScope?.bind (·.containers.get? name)).bind state.container?

/-- The binding that the current scope declares under a name. -/
def boundHere? (state : State) (name : String) : Option Binding :=
  (state.scopes.currentScope?.bind (·.bindings.get? name)).bind state.binding?

/-- Declare a container in the current scope.  A name of the same scope is taken unless its
container was moved away; names of enclosing scopes are shadowed. -/
def register (state : State) (name : String) (element : Element) (key : Option Element)
    (mode : Mode) (span : Span) : Except Diagnostic (Container × State) :=
  let add : Container × State :=
    let id : ContainerId := ⟨state.containers.length⟩
    let container : Container :=
      { id, name, element, key, mode, scope := state.scopes.current, span }
    let scopes := state.scopes.modify state.scopes.current fun scope =>
      { scope with
        containers := scope.containers.insert name id
        declared := scope.declared ++ [id] }
    (container, { state with scopes, containers := state.containers ++ [container] })
  match state.declaredHere? name with
  | some earlier =>
    if earlier.isMoved then .ok add
    else .error (.about (.duplicate name) span earlier.span .firstDeclared)
  | none => .ok add

/-- Check that the current scope has no binding of a name. -/
def ensureFree (state : State) (name : String) (span : Span) : Except Diagnostic Unit :=
  match state.boundHere? name with
  | some earlier => .error (.about (.duplicate name) span earlier.span .firstDeclared)
  | none => .ok ()

/-- Add a binding to the current scope. -/
def addBinding (state : State) (name : String) (referent : Referent) (perspective : Perspective)
    (span : Span) : Binding × State :=
  let id : BindingId := ⟨state.bindings.length⟩
  let binding : Binding :=
    { id, name, scope := state.scopes.current, referent, stance := { current := perspective }, span }
  let scopes := state.scopes.modify state.scopes.current fun scope =>
    { scope with bindings := scope.bindings.insert name id }
  (binding, { state with scopes, bindings := state.bindings ++ [binding] })

/-- Declare a binding in the current scope, where its name must be free. -/
def declareBinding (state : State) (name : String) (referent : Referent)
    (perspective : Perspective) (span : Span) : Except Diagnostic (Binding × State) := do
  state.ensureFree name span
  return state.addBinding name referent perspective span

end State

end Custody
