import Custody.Verifier.State

/-!
# Listing of a state

The open scopes with their containers and bindings, innermost first, and the active borrows, one to
a line.
-/

namespace Custody

/-- A slot as it is listed. -/
def Slot.render (slot : Slot) : String :=
  let value := (slot.value.map Value.render).getD "?"
  match slot.key with
  | some key => s!"{key.render}: {value}"
  | none => value

/-- The line of a container. -/
def Container.listing (container : Container) (scope : ScopeId) (name : String) : String :=
  let key := (container.key.map fun key => s!"[{key.name}]").getD ""
  let values := ", ".intercalate (container.content.map Slot.render)
  let moved := if container.isMoved then " (moved)" else ""
  s!"  {scope.render} {name}: {container.element.name}{key} {container.mode.name} [{values}]{moved}\n"

namespace State

/-- The printed form of a referent. -/
def renderReferent (state : State) : Referent → String
  | .direct id => ((state.container? id).map (·.name)).getD ""
  | .view id => id.render
  | .poisoned => "<invalid>"

/-- The lines of a scope. -/
def scopeListing (state : State) (scope : Scope) : String :=
  let containers := scope.containers.map fun (name, id) =>
    ((state.container? id).map fun container => container.listing scope.id name).getD ""
  let bindings := scope.bindings.map fun (name, id) =>
    ((state.binding? id).map fun binding =>
      let target := state.renderReferent binding.referent
      s!"  {scope.id.render} {name} -> {target} ({binding.perspective.name})\n").getD ""
  "".intercalate (containers ++ bindings)

/-- The line of a borrow. -/
def recordListing (state : State) (record : BorrowRecord) : String :=
  let name := ((state.container? record.container).map (·.name)).getD ""
  s!"  {record.id.render} {record.mode.name} {record.extent.render} of '{name}' in {record.scope.render}\n"

/-- Everything that is live. -/
def listing (state : State) : String :=
  s!"scope depth {state.scopes.depth}\n" ++
    "".intercalate (state.scopes.visible.map state.scopeListing) ++
    "".intercalate (state.ledger.records.map state.recordListing)

end State

end Custody
