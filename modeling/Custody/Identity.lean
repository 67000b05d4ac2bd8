/-!
# Identities

Scopes, containers, bindings and borrow records are numbered in the order of their creation.
-/

namespace Custody

/-- A scope. -/
structure ScopeId where
  index : Nat
  deriving DecidableEq, Repr, Inhabited

/-- A container. -/
structure ContainerId where
  index : Nat
  deriving DecidableEq, Repr, Inhabited

/-- A binding. -/
structure BindingId where
  index : Nat
  deriving DecidableEq, Repr, Inhabited

/-- A borrow record. -/
structure RecordId where
  index : Nat
  deriving DecidableEq, Repr, Inhabited

/-- The scope that encloses all others. -/
def ScopeId.global : ScopeId := ⟨0⟩

/-- The printed form of a scope. -/
def ScopeId.render (id : ScopeId) : String := s!"scope#{id.index}"

/-- The printed form of a container. -/
def ContainerId.render (id : ContainerId) : String := s!"container#{id.index}"

/-- The printed form of a binding. -/
def BindingId.render (id : BindingId) : String := s!"binding#{id.index}"

/-- The printed form of a borrow record. -/
def RecordId.render (id : RecordId) : String := s!"borrow#{id.index}"

end Custody
