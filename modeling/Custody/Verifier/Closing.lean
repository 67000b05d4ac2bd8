import Custody.Verifier.State

/-!
# The end of scopes

When a scope exits, its borrows end and each container declared in it meets the end that its mode
prescribes: owned and mutable ones are destroyed, borrowed ones forgotten, shared ones kept until
the end of the stream.  A binding of a surviving scope that would be left dangling is reported
and loses its referent.
-/

namespace Custody

/-- A state, and what was reported on the way to it. -/
structure Closing where
  state : State
  reports : List Diagnostic := []
  deriving DecidableEq, Repr

namespace State

/-- Report bindings, and remove their referents. -/
def poisonAll (state : State) (bindings : List Binding) (cause : Binding → LifetimeBreach)
    (span : Span) : Closing where
  state := bindings.foldl (fun state binding => state.poison binding.id) state
  reports := bindings.map fun binding =>
    .about (.lifetime (cause binding)) span binding.origin .captured

/-- Destroy a container, and report the bindings that still refer to it. -/
def destroy (state : State) (container : Container) (span : Span) : Closing :=
  let after := state.modifyContainer container.id fun container =>
    { container with liveness := .destroyed span }
  let dangling := after.liveBindings.filter (·.referent = .direct container.id)
  after.poisonAll dangling (fun binding => .dangling binding.name container.name) span

/-- End a container's life as its mode prescribes. -/
def endContainer (state : State) (id : ContainerId) (span : Span) : Closing :=
  match state.container? id with
  | none => ⟨state, []⟩
  | some container =>
    if container.isMoved || container.liveness ≠ .live then ⟨state, []⟩
    else
      match container.mode.onExit with
      | .destroy => state.destroy container span
      | .forget =>
        ⟨state.modifyContainer id fun container =>
          { container with liveness := .forgotten span }, []⟩
      | .defer => ⟨{ state with deferred := state.deferred ++ [id] }, []⟩

/-- End several containers' lives, in their order. -/
def endContainers (state : State) (ids : List ContainerId) (span : Span) : Closing :=
  ids.foldl (fun closing id =>
    let next := closing.state.endContainer id span
    ⟨next.state, closing.reports ++ next.reports⟩) ⟨state, []⟩

/-- The bindings of open scopes that are views on one of some records. -/
def viewsOn (state : State) (records : List BorrowRecord) : List Binding :=
  state.liveBindings.filter fun binding =>
    records.any fun record => binding.referent = .view record.id

/-- Carry out the exit of a scope that has just left the path of open scopes. -/
def closeScope (state : State) (scope : ScopeId) (span : Span) : Closing :=
  let (released, ledger) := state.ledger.releaseScope scope
  let declared := ((state.scopes.get? scope).map (·.declared)).getD []
  let ended := { state with ledger }.endContainers declared span
  let stale := ended.state.viewsOn released
  let last := ended.state.poisonAll stale (fun binding => .staleView binding.name) span
  ⟨last.state, ended.reports ++ last.reports⟩

/-- Exit the innermost scope; the global scope cannot be exited. -/
def exitScope? (state : State) (span : Span) : Option Closing :=
  state.scopes.exit?.map fun (scope, scopes) => { state with scopes }.closeScope scope span

/-- Exit scopes while there are inner ones, for at most a number of times. -/
def exitAll : Nat → State → Span → Closing
  | 0, state, _ => ⟨state, []⟩
  | count + 1, state, span =>
    match state.exitScope? span with
    | none => ⟨state, []⟩
    | some closing =>
      let rest := exitAll count closing.state span
      ⟨rest.state, closing.reports ++ rest.reports⟩

/-- Exit the global scope. -/
def closeRoot (state : State) (span : Span) : Closing :=
  match state.scopes.closeRoot? with
  | none => ⟨state, []⟩
  | some (scope, scopes) => { state with scopes }.closeScope scope span

/-- Destroy the shared containers that are still alive. -/
def tearDown (state : State) (span : Span) : State :=
  let after := state.deferred.foldl (fun state id =>
    state.modifyContainer id fun container =>
      if container.liveness = .live then { container with liveness := .destroyed span }
      else container) state
  { after with deferred := [] }

/-- Close every scope left open, then the global one, then destroy what was kept for the end. -/
def closeAll (state : State) (span : Span) : Closing :=
  let inner := exitAll state.scopes.path.length state span
  let root := inner.state.closeRoot span
  ⟨root.state.tearDown span, inner.reports ++ root.reports⟩

end State

end Custody
