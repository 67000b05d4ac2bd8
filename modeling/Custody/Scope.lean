import Custody.Identity
import Custody.Span
import Custody.Table
import Custody.Vocabulary

/-!
# Scopes

Scopes open and close in strict nesting, so the open ones form a path from the global scope.
Closed scopes stay in the tree, and what was recorded about them keeps its meaning.
-/

namespace Custody

/-- One lexical scope. -/
structure Scope where
  id : ScopeId
  parent : Option ScopeId
  kind : ScopeKind
  depth : Nat
  span : Span
  isOpen : Bool
  /-- The visible container names.  Declaring a name again replaces its entry. -/
  containers : Table String ContainerId
  bindings : Table String BindingId
  /-- Every container declared here, also those whose name was declared again. -/
  declared : List ContainerId
  deriving DecidableEq, Repr, Inhabited

/-- All scopes, and the path of the open ones from the innermost outwards. -/
structure ScopeTree where
  scopes : List Scope
  path : List ScopeId
  deriving DecidableEq, Repr

namespace ScopeTree

/-- The global scope alone. -/
def initial : ScopeTree :=
  ⟨[⟨.global, none, .global, 0, {}, true, [], [], []⟩], [.global]⟩

instance : Inhabited ScopeTree := ⟨initial⟩

/-- The innermost open scope. -/
def current (tree : ScopeTree) : ScopeId :=
  tree.path.head?.getD .global

/-- The number of open scopes inside the global one. -/
def depth (tree : ScopeTree) : Nat :=
  tree.path.length - 1

/-- The scope of an identity. -/
def get? (tree : ScopeTree) (id : ScopeId) : Option Scope :=
  tree.scopes[id.index]?

/-- Change a scope. -/
def modify (tree : ScopeTree) (id : ScopeId) (change : Scope → Scope) : ScopeTree :=
  { tree with scopes := tree.scopes.modify id.index change }

/-- Open a scope inside the current one. -/
def enter (tree : ScopeTree) (kind : ScopeKind) (span : Span) : ScopeId × ScopeTree :=
  let id : ScopeId := ⟨tree.scopes.length⟩
  let depth := ((tree.get? tree.current).map (·.depth)).getD 0 + 1
  let scope : Scope := ⟨id, some tree.current, kind, depth, span, true, [], [], []⟩
  (id, ⟨tree.scopes ++ [scope], id :: tree.path⟩)

/-- Mark a scope as closed. -/
def close (tree : ScopeTree) (id : ScopeId) : ScopeTree :=
  tree.modify id fun scope => { scope with isOpen := false }

/-- Close the innermost scope; the global one stays open. -/
def exit? (tree : ScopeTree) : Option (ScopeId × ScopeTree) :=
  match tree.path with
  | id :: outer :: path => some (id, { tree.close id with path := outer :: path })
  | _ => none

/-- Close the global scope once it is the only open one. -/
def closeRoot? (tree : ScopeTree) : Option (ScopeId × ScopeTree) :=
  match tree.path with
  | [id] => some (id, { tree.close id with path := [] })
  | _ => none

/-- Whether a scope is open. -/
def isOpen (tree : ScopeTree) (id : ScopeId) : Bool :=
  (tree.get? id).any (·.isOpen)

/-- Whether a scope is reached from another in a number of steps outwards. -/
def reaches (tree : ScopeTree) (outer : ScopeId) : Nat → ScopeId → Bool
  | 0, _ => false
  | steps + 1, inner =>
    inner = outer ||
      ((tree.get? inner).bind (·.parent)).any fun parent => reaches tree outer steps parent

/-- Whether a scope lives at least as long as another: it is that scope, or encloses it. -/
def outlives (tree : ScopeTree) (outer inner : ScopeId) : Bool :=
  tree.reaches outer (tree.scopes.length + 1) inner

/-- The open scopes from the innermost outwards. -/
def visible (tree : ScopeTree) : List Scope :=
  tree.path.filterMap tree.get?

/-- The container that a name means here. -/
def findContainer? (tree : ScopeTree) (name : String) : Option ContainerId :=
  tree.visible.findSome? fun scope => scope.containers.get? name

/-- The binding that a name means here. -/
def findBinding? (tree : ScopeTree) (name : String) : Option BindingId :=
  tree.visible.findSome? fun scope => scope.bindings.get? name

/-- The current scope. -/
def currentScope? (tree : ScopeTree) : Option Scope :=
  tree.get? tree.current

end ScopeTree

end Custody
