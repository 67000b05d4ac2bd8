import Custody.Proofs.Nesting

/-!
# Depths of scopes

Whatever scopes are opened and closed, the depth of a scope counts its ancestors.  So the path of
open scopes is one branch of the tree, an open scope stands on it at its depth, and of two open
scopes the one that is less deep outlives the other.
-/

namespace Custody.ScopeTree

/-! ## Histories -/

/-- A change of the path. -/
inductive Move
  | enter (kind : ScopeKind) (span : Span)
  | exit
  deriving DecidableEq, Repr

/-- The tree after a move.  The global scope is not exited, and then nothing changes. -/
def move (tree : ScopeTree) : Move → ScopeTree
  | .enter kind span => (tree.enter kind span).2
  | .exit => (tree.exit?.map Prod.snd).getD tree

/-- The tree after some moves. -/
def after (moves : List Move) : ScopeTree :=
  moves.foldl move initial

/-- The open scopes from the global one inwards. -/
def stack (tree : ScopeTree) : List ScopeId :=
  tree.path.reverse

/-- What no move breaks holds after all moves. -/
@[elab_as_elim]
theorem after_induction {motive : ScopeTree → Prop} (moves : List Move) (start : motive initial)
    (step : ∀ tree move, motive tree → motive (tree.move move)) : motive (after moves) :=
  List.foldlRecOn moves move start fun tree held move _ => step tree move held

theorem move_wellFormed {tree : ScopeTree} (wf : tree.WellFormed) (move : Move) :
    (tree.move move).WellFormed := by
  cases move with
  | enter kind span => exact enter_wellFormed wf kind span
  | exit =>
      cases exits : tree.exit? with
      | none => simpa [ScopeTree.move, exits] using wf
      | some left => simpa [ScopeTree.move, exits] using exit?_wellFormed wf exits

/-! ## Depths -/

/-- The depth of a scope. -/
def depth? (tree : ScopeTree) (id : ScopeId) : Option Nat :=
  (tree.get? id).map (·.depth)

/-- The global scope has depth zero, and every other scope is one deeper than its parent. -/
structure Graded (tree : ScopeTree) : Prop where
  root : tree.depth? .global = some 0
  link : ∀ {id parent}, tree.parent? id = some parent →
    tree.depth? id = (tree.depth? parent).map (· + 1)

theorem initial_graded : initial.Graded where
  root := rfl
  link := by
    intro id parent found
    rcases id with ⟨_ | index⟩ <;> simp [parent?, get?, initial] at found

theorem depth?_enter {tree : ScopeTree} {kind : ScopeKind} {span : Span} {id : ScopeId}
    (old : id.index < tree.scopes.length) :
    (tree.enter kind span).2.depth? id = tree.depth? id := by
  rw [depth?, get?_enter, if_neg (Nat.ne_of_lt old), depth?]

theorem depth?_exit {tree after : ScopeTree} {id : ScopeId}
    (exits : tree.exit? = some (id, after)) (other : ScopeId) :
    after.depth? other = tree.depth? other := by
  rw [depth?, get?_exit exits, depth?]
  split
  · cases tree.get? other <;> rfl
  · rfl

theorem isSome_get?_of_lt {tree : ScopeTree} {id : ScopeId} (old : id.index < tree.scopes.length) :
    ∃ scope, tree.get? id = some scope :=
  ⟨_, List.getElem?_eq_getElem old⟩

theorem enter_graded {tree : ScopeTree} (wf : tree.WellFormed) (graded : tree.Graded)
    (kind : ScopeKind) (span : Span) : (tree.enter kind span).2.Graded where
  root := by
    rw [depth?_enter (lt_of_mem_path wf (List.mem_of_getLast? wf.root))]
    exact graded.root
  link := by
    intro id parent link
    by_cases new : id.index = tree.scopes.length
    · -- The new scope lies inside the current one, which is an older scope.
      have old := lt_of_mem_path wf wf.current_mem
      obtain ⟨scope, found⟩ := isSome_get?_of_lt old
      have inside : tree.current = parent := by simpa [parent?, get?_enter, new] using link
      rw [← inside, depth?_enter old, depth?, get?_enter, if_pos new, depth?, found]
      rfl
    · have before : tree.parent? id = some parent := by simpa [parent?, get?_enter, new] using link
      have known : id.index < tree.scopes.length := by
        by_contra outside
        rw [parent?_of_not_lt outside] at before
        contradiction
      rw [depth?_enter known, depth?_enter (Nat.lt_trans (wf.parent_lt before) known)]
      exact graded.link before

theorem exit?_graded {tree after : ScopeTree} {id : ScopeId} (graded : tree.Graded)
    (exits : tree.exit? = some (id, after)) : after.Graded where
  root := by
    rw [depth?_exit exits]
    exact graded.root
  link := by
    intro child parent link
    rw [depth?_exit exits, depth?_exit exits]
    exact graded.link ((parent?_exit exits child).symm.trans link)

theorem move_graded {tree : ScopeTree} (wf : tree.WellFormed) (graded : tree.Graded)
    (move : Move) : (tree.move move).Graded := by
  cases move with
  | enter kind span => exact enter_graded wf graded kind span
  | exit =>
      cases exits : tree.exit? with
      | none => simpa [ScopeTree.move, exits] using graded
      | some left => simpa [ScopeTree.move, exits] using exit?_graded graded exits

theorem after_graded (moves : List Move) : (after moves).WellFormed ∧ (after moves).Graded := by
  refine after_induction moves ⟨initial_wellFormed, initial_graded⟩ ?_
  rintro tree move ⟨wf, graded⟩
  exact ⟨move_wellFormed wf move, move_graded wf graded move⟩

/-! ## The stack of open scopes -/

variable {tree : ScopeTree}

/-- On a chain of parents that ends at the global scope, depths count what is left of it. -/
theorem Graded.depth?_of_chain (graded : tree.Graded) {id : ScopeId} {outer : List ScopeId}
    (chain : (id :: outer).IsChain fun child parent => tree.parent? child = some parent)
    (root : (id :: outer).getLast? = some .global) : tree.depth? id = some outer.length := by
  induction outer generalizing id with
  | nil =>
      obtain rfl : id = .global := by simpa using root
      exact graded.root
  | cons parent outer ih =>
      rw [List.isChain_cons_cons] at chain
      rw [List.getLast?_cons_cons] at root
      rw [graded.link chain.1, ih chain.2 root]
      rfl

/-- An open scope stands on the stack at its depth. -/
theorem Graded.depth?_of_stack (graded : tree.Graded) (wf : tree.WellFormed) {index : Nat}
    {id : ScopeId} (there : tree.stack[index]? = some id) : tree.depth? id = some index := by
  obtain ⟨front, back, split, length⟩ : ∃ front back, tree.stack = front ++ id :: back ∧
      front.length = index := by
    obtain ⟨inside, rfl⟩ := List.getElem?_eq_some_iff.mp there
    refine ⟨tree.stack.take index, tree.stack.drop (index + 1), ?_, by simp; omega⟩
    rw [← List.drop_eq_getElem_cons inside, List.take_append_drop]
  have path : tree.path = back.reverse ++ id :: front.reverse := by
    rw [← List.reverse_reverse tree.path, ← stack, split]
    simp
  have chain := wf.chain
  have root := wf.root
  rw [path, List.isChain_append] at chain
  rw [path, List.getLast?_append_of_ne_nil _ (List.cons_ne_nil _ _)] at root
  rw [graded.depth?_of_chain chain.2.1 root, List.length_reverse, length]

theorem mem_stack {id : ScopeId} : id ∈ tree.stack ↔ id ∈ tree.path :=
  List.mem_reverse

/-- On the stack, scopes stand in the order in which they were opened. -/
theorem WellFormed.stack_ascends (wf : tree.WellFormed) :
    tree.stack.Pairwise fun outer inner => outer.index < inner.index :=
  List.pairwise_reverse.mpr wf.path_descends

/-- Of two open scopes the one that is not deeper encloses the other. -/
theorem Graded.encloses_iff_depth_le (graded : tree.Graded) (wf : tree.WellFormed)
    {outer inner : ScopeId} (outerOpen : outer ∈ tree.path) (innerOpen : inner ∈ tree.path)
    {outerDepth innerDepth : Nat} (outerAt : tree.depth? outer = some outerDepth)
    (innerAt : tree.depth? inner = some innerDepth) :
    tree.Encloses outer inner ↔ outerDepth ≤ innerDepth := by
  obtain ⟨low, lowInside, rfl⟩ := List.mem_iff_getElem.mp (mem_stack.mpr outerOpen)
  obtain ⟨high, highInside, rfl⟩ := List.mem_iff_getElem.mp (mem_stack.mpr innerOpen)
  have lowDepth := graded.depth?_of_stack wf (List.getElem?_eq_getElem lowInside)
  have highDepth := graded.depth?_of_stack wf (List.getElem?_eq_getElem highInside)
  obtain rfl : low = outerDepth := Option.some.inj (lowDepth.symm.trans outerAt)
  obtain rfl : high = innerDepth := Option.some.inj (highDepth.symm.trans innerAt)
  have ascends := List.pairwise_iff_getElem.mp wf.stack_ascends
  rw [wf.encloses_iff_index_le outerOpen innerOpen]
  constructor
  · intro earlier
    by_contra deeper
    have := ascends high low highInside lowInside (by omega)
    omega
  · intro shallower
    rcases Nat.lt_or_eq_of_le shallower with above | rfl
    · exact Nat.le_of_lt (ascends low high lowInside highInside above)
    · exact Nat.le_refl _

/-! ## Lifetimes -/

/-- A tree whose open scopes are one branch of it, and in which a scope outlives another exactly
when it is that scope or an ancestor. -/
structure Nested (tree : ScopeTree) : Prop where
  /-- The open scopes are those of the stack. -/
  isOpen_iff : ∀ id, tree.isOpen id = true ↔ id ∈ tree.stack
  /-- The stack begins at the global scope, which has no parent. -/
  root : tree.stack.head? = some .global ∧ tree.parent? .global = none
  /-- Each scope of the stack is the parent of the next one. -/
  chain : tree.stack.IsChain fun outer inner => tree.parent? inner = some outer
  /-- The depth of an open scope is its place on the stack. -/
  depth : ∀ index id, tree.stack[index]? = some id →
    ∃ scope, tree.get? id = some scope ∧ scope.depth = index
  /-- A parent is older than its children. -/
  parent_lt : ∀ id parent, tree.parent? id = some parent → parent.index < id.index
  /-- The walk outwards from a scope ends: more steps than the number of older scopes change
  nothing. -/
  ends : ∀ outer inner steps, inner.index < steps →
    tree.reaches outer steps inner = tree.outlives outer inner
  /-- A scope outlives itself and what has it for an ancestor. -/
  outlives_iff : ∀ outer inner, tree.outlives outer inner = true ↔ tree.Encloses outer inner
  refl : ∀ id, tree.outlives id id = true
  trans : ∀ outer middle inner, tree.outlives outer middle = true →
    tree.outlives middle inner = true → tree.outlives outer inner = true
  antisymm : ∀ one other, tree.outlives one other = true → tree.outlives other one = true →
    one = other
  /-- What outlives an open scope is open. -/
  isOpen_of_outlives : ∀ outer inner, tree.outlives outer inner = true →
    tree.isOpen inner = true → tree.isOpen outer = true
  /-- Of two open scopes the one that is not deeper outlives the other. -/
  outlives_iff_depth_le : ∀ outer inner outerScope innerScope,
    tree.get? outer = some outerScope → tree.get? inner = some innerScope →
    tree.isOpen outer = true → tree.isOpen inner = true →
    (tree.outlives outer inner = true ↔ outerScope.depth ≤ innerScope.depth)

/-- Whatever scopes have been opened and closed, the open ones are one branch of the tree, and a
scope outlives another when it is at least as long open. -/
theorem scopes_nested (moves : List Move) : (after moves).Nested := by
  obtain ⟨wf, graded⟩ := after_graded moves
  have decides {outer inner} : (after moves).outlives outer inner = true ↔
      (after moves).Encloses outer inner := outlives_iff wf
  exact {
    isOpen_iff := fun id => wf.isOpen_iff.trans mem_stack.symm
    root := ⟨List.head?_reverse.trans wf.root, wf.root_parent⟩
    chain := List.isChain_reverse.mpr wf.chain
    depth := fun index id there => by
      simpa [depth?] using graded.depth?_of_stack wf there
    parent_lt := fun _ _ => wf.parent_lt
    ends := fun outer inner steps enough => by
      rw [Bool.eq_iff_iff, decides]
      exact reaches_iff_of_lt wf.parent_lt enough
    outlives_iff := fun _ _ => decides
    refl := fun id => decides.mpr (.refl _ id)
    trans := fun _ _ _ upper lower => decides.mpr ((decides.mp upper).trans (decides.mp lower))
    antisymm := fun one other forth back => by
      have older := (decides.mp forth).index_le wf
      have younger := (decides.mp back).index_le wf
      rcases one with ⟨index⟩
      rcases other with ⟨place⟩
      exact congrArg ScopeId.mk (Nat.le_antisymm older younger)
    isOpen_of_outlives := fun outer inner outlives opened =>
      wf.isOpen_iff.mpr ((decides.mp outlives).mem_path wf (wf.isOpen_iff.mp opened))
    outlives_iff_depth_le := fun outer inner _ _ outerFound innerFound outerOpen innerOpen => by
      rw [decides]
      exact graded.encloses_iff_depth_le wf (wf.isOpen_iff.mp outerOpen)
        (wf.isOpen_iff.mp innerOpen) (by rw [depth?, outerFound]; rfl)
        (by rw [depth?, innerFound]; rfl) }

/-- A closed scope does not outlive the one that is opened next to it. -/
example :
    let tree := after [.enter .block {}, .enter .block {}, .exit, .enter .block {}]
    tree.stack = [⟨0⟩, ⟨1⟩, ⟨3⟩] ∧ tree.outlives ⟨1⟩ ⟨3⟩ = true ∧
      tree.outlives ⟨2⟩ ⟨3⟩ = false := by
  decide

end Custody.ScopeTree
