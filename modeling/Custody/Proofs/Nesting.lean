import Mathlib.Data.List.Chain
import Mathlib.Logic.Relation
import Custody.Scope

/-!
# Nesting of scopes

The open scopes are the path from the innermost one to the global one, each the parent of the one
before it.  Enclosure is the reflexive and transitive closure of the parent link, `outlives`
decides it, and whatever encloses an open scope is open.
-/

namespace Custody.ScopeTree

/-- The parent of a scope. -/
def parent? (tree : ScopeTree) (id : ScopeId) : Option ScopeId :=
  (tree.get? id).bind (·.parent)

/-- A scope is another, or one of its ancestors. -/
def Encloses (tree : ScopeTree) (outer inner : ScopeId) : Prop :=
  Relation.ReflTransGen (fun child parent => tree.parent? child = some parent) inner outer

/-- The open scopes form a path of parent links that ends at the global scope. -/
structure WellFormed (tree : ScopeTree) : Prop where
  parent_lt : ∀ {id parent}, tree.parent? id = some parent → parent.index < id.index
  chain : tree.path.IsChain fun child parent => tree.parent? child = some parent
  root : tree.path.getLast? = some .global
  root_parent : tree.parent? .global = none
  isOpen_iff : ∀ {id}, tree.isOpen id = true ↔ id ∈ tree.path

theorem Encloses.refl (tree : ScopeTree) (id : ScopeId) : tree.Encloses id id :=
  Relation.ReflTransGen.refl

theorem Encloses.trans {tree : ScopeTree} {outer middle inner : ScopeId}
    (upper : tree.Encloses outer middle) (lower : tree.Encloses middle inner) :
    tree.Encloses outer inner :=
  Relation.ReflTransGen.trans lower upper

theorem initial_wellFormed : initial.WellFormed where
  parent_lt := by
    intro id parent found
    rcases id with ⟨_ | index⟩ <;> simp [parent?, get?, initial] at found
  chain := List.isChain_singleton _
  root := rfl
  root_parent := rfl
  isOpen_iff := by
    intro id
    rcases id with ⟨_ | index⟩ <;> simp [isOpen, get?, initial, ScopeId.global]

/-! ## Enclosure -/

/-- A walk outwards that has steps enough ends at the global scope, and has met every ancestor. -/
theorem reaches_iff_of_lt {tree : ScopeTree}
    (parent_lt : ∀ {id parent}, tree.parent? id = some parent → parent.index < id.index)
    {outer : ScopeId} {steps : Nat} {inner : ScopeId} (enough : inner.index < steps) :
    tree.reaches outer steps inner = true ↔ tree.Encloses outer inner := by
  induction steps generalizing inner with
  | zero => omega
  | succ steps ih =>
      have unfolded : tree.reaches outer (steps + 1) inner = true ↔
          inner = outer ∨ ∃ parent, tree.parent? inner = some parent ∧
            tree.reaches outer steps parent = true := by
        simp [reaches, parent?, Option.any_eq_true]
      rw [unfolded, Encloses, Relation.ReflTransGen.cases_head_iff]
      apply or_congr_right
      apply exists_congr
      intro parent
      apply and_congr_right
      intro link
      have := parent_lt link
      exact ih (by omega)

theorem parent?_of_not_lt {tree : ScopeTree} {id : ScopeId}
    (outside : ¬ id.index < tree.scopes.length) : tree.parent? id = none := by
  simp [parent?, get?, List.getElem?_eq_none (Nat.not_lt.mp outside)]

/-- The executable test decides enclosure. -/
theorem outlives_iff {tree : ScopeTree} (wf : tree.WellFormed) {outer inner : ScopeId} :
    tree.outlives outer inner = true ↔ tree.Encloses outer inner := by
  by_cases inside : inner.index < tree.scopes.length
  · exact reaches_iff_of_lt wf.parent_lt (by omega)
  · have none := parent?_of_not_lt inside
    rw [Encloses, Relation.ReflTransGen.cases_head_iff]
    have noParent : (tree.get? inner).bind (·.parent) = Option.none := none
    simp [outlives, reaches, noParent, none]

/-- Enclosure depends on the parent links of the inner scope and its ancestors only. -/
theorem Encloses.congr {tree other : ScopeTree} {outer inner : ScopeId} {bound : Nat}
    (parent_lt : ∀ {id parent}, tree.parent? id = some parent → parent.index < id.index)
    (same : ∀ id : ScopeId, id.index < bound → other.parent? id = tree.parent? id)
    (small : inner.index < bound) (encloses : tree.Encloses outer inner) :
    other.Encloses outer inner := by
  induction encloses using Relation.ReflTransGen.head_induction_on with
  | refl => exact .refl ..
  | head link _ ih =>
      have := parent_lt link
      exact Relation.ReflTransGen.head ((same _ small).trans link) (ih (by omega))

/-! ## The path of open scopes -/

theorem WellFormed.path_ne_nil {tree : ScopeTree} (wf : tree.WellFormed) : tree.path ≠ [] := by
  intro empty
  have := wf.root
  simp [empty] at this

theorem WellFormed.path_eq {tree : ScopeTree} (wf : tree.WellFormed) :
    ∃ rest, tree.path = tree.current :: rest := by
  cases path : tree.path with
  | nil => exact (wf.path_ne_nil path).elim
  | cons first rest => exact ⟨rest, by simp [current, path]⟩

theorem WellFormed.current_mem {tree : ScopeTree} (wf : tree.WellFormed) :
    tree.current ∈ tree.path := by
  obtain ⟨rest, path⟩ := wf.path_eq
  simp [path]

private theorem parent_mem_of_chain {path : List ScopeId} {link : ScopeId → Option ScopeId}
    (chain : path.IsChain fun child parent => link child = some parent)
    (root : path.getLast?.bind link = none) {id parent : ScopeId} (member : id ∈ path)
    (found : link id = some parent) : parent ∈ path := by
  induction path with
  | nil => simp at member
  | cons first rest ih =>
      cases rest with
      | nil =>
          simp only [List.mem_singleton] at member
          subst member
          simp [found] at root
      | cons second rest =>
          rw [List.isChain_cons_cons] at chain
          rcases List.mem_cons.mp member with rfl | later
          · have equal : second = parent := Option.some.inj (chain.1.symm.trans found)
            simp [equal]
          · exact List.mem_cons_of_mem _ (ih chain.2 (by simpa using root) later)

/-- What encloses an open scope is open. -/
theorem Encloses.mem_path {tree : ScopeTree} (wf : tree.WellFormed) {outer inner : ScopeId}
    (encloses : tree.Encloses outer inner) (opened : inner ∈ tree.path) : outer ∈ tree.path := by
  induction encloses with
  | refl => exact opened
  | tail _ link ih =>
      apply parent_mem_of_chain wf.chain _ ih link
      simp [wf.root, wf.root_parent]

private theorem chain_reaches {path : List ScopeId} {first : ScopeId}
    {link : ScopeId → ScopeId → Prop} (chain : (first :: path).IsChain link) {id : ScopeId}
    (member : id ∈ first :: path) : Relation.ReflTransGen link first id := by
  induction path generalizing first with
  | nil =>
      simp only [List.mem_singleton] at member
      subst member
      exact .refl
  | cons second rest ih =>
      rw [List.isChain_cons_cons] at chain
      rcases List.mem_cons.mp member with rfl | later
      · exact .refl
      · exact .head chain.1 (ih chain.2 later)

/-- Every open scope encloses the current one. -/
theorem WellFormed.encloses_current {tree : ScopeTree} (wf : tree.WellFormed) {id : ScopeId}
    (opened : id ∈ tree.path) : tree.Encloses id tree.current := by
  obtain ⟨rest, path⟩ := wf.path_eq
  have chain := wf.chain
  rw [path] at chain opened
  exact chain_reaches chain opened

theorem lt_of_mem_path {tree : ScopeTree} (wf : tree.WellFormed) {id : ScopeId}
    (opened : id ∈ tree.path) : id.index < tree.scopes.length := by
  have isOpen := wf.isOpen_iff.mpr opened
  by_contra outside
  simp [ScopeTree.isOpen, get?, List.getElem?_eq_none (Nat.not_lt.mp outside)] at isOpen

/-- On the path, a scope stands before all that were opened before it. -/
theorem WellFormed.path_descends {tree : ScopeTree} (wf : tree.WellFormed) :
    tree.path.Pairwise fun inner outer => outer.index < inner.index := by
  have descending : tree.path.IsChain fun inner outer => outer.index < inner.index :=
    wf.chain.imp fun _ _ link => wf.parent_lt link
  exact @List.IsChain.pairwise _ _ _ ⟨fun upper lower => Nat.lt_trans lower upper⟩ descending

theorem WellFormed.path_nodup {tree : ScopeTree} (wf : tree.WellFormed) : tree.path.Nodup := by
  apply wf.path_descends.imp
  intro inner outer lower equal
  rw [equal] at lower
  exact Nat.lt_irrefl _ lower

theorem Encloses.index_le {tree : ScopeTree} (wf : tree.WellFormed) {outer inner : ScopeId}
    (encloses : tree.Encloses outer inner) : outer.index ≤ inner.index := by
  induction encloses with
  | refl => exact Nat.le_refl _
  | tail _ link ih => exact Nat.le_trans (Nat.le_of_lt (wf.parent_lt link)) ih

/-- Of two open scopes the one that was opened first encloses the other. -/
theorem WellFormed.encloses_iff_index_le {tree : ScopeTree} (wf : tree.WellFormed)
    {outer inner : ScopeId} (outerOpen : outer ∈ tree.path) (innerOpen : inner ∈ tree.path) :
    tree.Encloses outer inner ↔ outer.index ≤ inner.index := by
  refine ⟨fun encloses => encloses.index_le wf, ?_⟩
  intro earlier
  obtain ⟨before, after, path⟩ := List.append_of_mem innerOpen
  have chain := wf.chain
  have descends := wf.path_descends
  rw [path, List.isChain_append] at chain
  rw [path, List.pairwise_append] at descends
  rw [path, List.mem_append] at outerOpen
  rcases outerOpen with later | reached
  · have := descends.2.2 outer later inner (List.mem_cons_self ..)
    omega
  · exact chain_reaches chain.2.1 reached

/-! ## Changes of scopes -/

theorem get?_modify (tree : ScopeTree) (id other : ScopeId) (change : Scope → Scope) :
    (tree.modify id change).get? other =
      if other = id then (tree.get? other).map change else tree.get? other := by
  rcases id with ⟨index⟩
  rcases other with ⟨place⟩
  simp only [get?, modify, List.getElem?_modify, ScopeId.mk.injEq]
  by_cases same : index = place
  · simp [same]
  · simp [same, Ne.symm same]

theorem parent?_modify {tree : ScopeTree} {id : ScopeId} {change : Scope → Scope}
    (keeps : ∀ scope, (change scope).parent = scope.parent) (other : ScopeId) :
    (tree.modify id change).parent? other = tree.parent? other := by
  simp only [parent?, get?_modify]
  split
  · cases tree.get? other <;> simp [keeps]
  · rfl

theorem isOpen_modify {tree : ScopeTree} {id : ScopeId} {change : Scope → Scope}
    (keeps : ∀ scope, (change scope).isOpen = scope.isOpen) (other : ScopeId) :
    (tree.modify id change).isOpen other = tree.isOpen other := by
  simp only [isOpen, get?_modify]
  split
  · cases tree.get? other <;> simp [keeps]
  · rfl

/-- Trees with the same path and the same parent links are alike as far as nesting goes. -/
theorem WellFormed.congr {tree other : ScopeTree} (wf : tree.WellFormed)
    (samePath : other.path = tree.path) (sameParent : ∀ id, other.parent? id = tree.parent? id)
    (sameOpen : ∀ id, other.isOpen id = tree.isOpen id) : other.WellFormed where
  parent_lt := by
    intro id parent link
    exact wf.parent_lt ((sameParent id).symm.trans link)
  chain := by
    rw [samePath]
    exact wf.chain.imp fun child parent link => (sameParent child).trans link
  root := by rw [samePath]; exact wf.root
  root_parent := by rw [sameParent]; exact wf.root_parent
  isOpen_iff := by
    intro id
    rw [sameOpen, samePath]
    exact wf.isOpen_iff

theorem encloses_congr {tree other : ScopeTree}
    (sameParent : ∀ id, other.parent? id = tree.parent? id) (outer inner : ScopeId) :
    other.Encloses outer inner ↔ tree.Encloses outer inner := by
  have same : other.parent? = tree.parent? := funext sameParent
  simp only [Encloses, same]

/-- The innermost scope that `enter` opens. -/
theorem get?_enter (tree : ScopeTree) (kind : ScopeKind) (span : Span) (other : ScopeId) :
    (tree.enter kind span).2.get? other =
      if other.index = tree.scopes.length then
        some ⟨⟨tree.scopes.length⟩, some tree.current, kind,
          ((tree.get? tree.current).map (·.depth)).getD 0 + 1, span, true, [], [], []⟩
      else tree.get? other := by
  simp only [enter, get?, List.getElem?_append]
  split
  · rename_i small
    rw [if_neg (by omega)]
  · rename_i large
    split
    · rename_i last
      simp [last]
    · rw [List.getElem?_eq_none (by simp; omega), List.getElem?_eq_none (by omega)]

theorem parent?_enter {tree : ScopeTree} {kind : ScopeKind} {span : Span} {id : ScopeId}
    (old : id.index < tree.scopes.length) :
    (tree.enter kind span).2.parent? id = tree.parent? id := by
  simp only [parent?, get?_enter]
  rw [if_neg (by omega)]

@[simp] theorem path_enter (tree : ScopeTree) (kind : ScopeKind) (span : Span) :
    (tree.enter kind span).2.path = ⟨tree.scopes.length⟩ :: tree.path := rfl

theorem enter_wellFormed {tree : ScopeTree} (wf : tree.WellFormed) (kind : ScopeKind)
    (span : Span) : (tree.enter kind span).2.WellFormed where
  parent_lt := by
    intro id parent link
    by_cases new : id.index = tree.scopes.length
    · simp only [parent?, get?_enter, new, ↓reduceIte, Option.bind_some, Option.some.injEq] at link
      rw [← link, new]
      exact lt_of_mem_path wf wf.current_mem
    · simp only [parent?, get?_enter, new, ↓reduceIte] at link
      exact wf.parent_lt link
  chain := by
    obtain ⟨rest, path⟩ := wf.path_eq
    have chain : tree.path.IsChain fun child parent =>
        (tree.enter kind span).2.parent? child = some parent := by
      apply wf.chain.imp_of_mem_imp
      intro child parent childMember _ link
      rw [parent?_enter (lt_of_mem_path wf childMember)]
      exact link
    rw [path_enter, path]
    rw [path] at chain
    refine List.isChain_cons_cons.mpr ⟨?_, chain⟩
    simp [parent?, get?_enter]
  root := by
    obtain ⟨rest, path⟩ := wf.path_eq
    have root := wf.root
    rw [path] at root
    rw [path_enter, path, List.getLast?_cons_cons]
    exact root
  root_parent := by
    have := lt_of_mem_path wf (List.mem_of_getLast? wf.root)
    rw [parent?_enter this]
    exact wf.root_parent
  isOpen_iff := by
    intro id
    rcases id with ⟨index⟩
    simp only [isOpen, get?_enter, path_enter, List.mem_cons, ScopeId.mk.injEq]
    split
    · rename_i new
      simp [new]
    · rename_i old
      have same : (tree.get? ⟨index⟩).any (·.isOpen) = true ↔ ⟨index⟩ ∈ tree.path := wf.isOpen_iff
      simp [same, old]

/-- What an exit does: the innermost scope leaves the path and is no longer open, and all else
stays as it was. -/
theorem exit?_eq_some {tree after : ScopeTree} {id : ScopeId}
    (exits : tree.exit? = some (id, after)) :
    tree.path = id :: after.path ∧ after.path ≠ [] ∧
      after.scopes = (tree.close id).scopes := by
  unfold exit? at exits
  split at exits
  · rename_i first second rest path
    simp only [Option.some.injEq, Prod.mk.injEq] at exits
    obtain ⟨rfl, rfl⟩ := exits
    exact ⟨path, by simp, rfl⟩
  · simp at exits

/-- Only the global scope cannot be exited. -/
theorem path_of_exit?_eq_none {tree : ScopeTree} (wf : tree.WellFormed)
    (stays : tree.exit? = none) : ∃ root, tree.path = [root] := by
  cases path : tree.path with
  | nil => exact (wf.path_ne_nil path).elim
  | cons first rest =>
      cases rest with
      | nil => exact ⟨first, rfl⟩
      | cons second others => simp [exit?, path] at stays

/-- The innermost scope leaves the path and is no longer open, and all else stays as it was. -/
structure Leaves (tree : ScopeTree) (id : ScopeId) (after : ScopeTree) : Prop where
  path : tree.path = id :: after.path
  scopes : after.scopes = (tree.close id).scopes

theorem exit?_leaves {tree after : ScopeTree} {id : ScopeId}
    (exits : tree.exit? = some (id, after)) : tree.Leaves id after := by
  obtain ⟨path, -, scopes⟩ := exit?_eq_some exits
  exact ⟨path, scopes⟩

theorem closeRoot?_leaves {tree after : ScopeTree} {id : ScopeId}
    (closes : tree.closeRoot? = some (id, after)) : tree.Leaves id after ∧ after.path = [] := by
  unfold closeRoot? at closes
  split at closes
  · rename_i only path
    simp only [Option.some.injEq, Prod.mk.injEq] at closes
    obtain ⟨rfl, rfl⟩ := closes
    exact ⟨⟨path, rfl⟩, rfl⟩
  · contradiction

theorem Leaves.get? {tree after : ScopeTree} {id : ScopeId} (leaves : tree.Leaves id after)
    (other : ScopeId) :
    after.get? other =
      if other = id then (tree.get? other).map fun scope => { scope with isOpen := false }
      else tree.get? other := by
  have closed := get?_modify tree id other fun scope => { scope with isOpen := false }
  rw [← closed, ScopeTree.get?, leaves.scopes]
  rfl

theorem get?_exit {tree after : ScopeTree} {id : ScopeId} (exits : tree.exit? = some (id, after))
    (other : ScopeId) :
    after.get? other =
      if other = id then (tree.get? other).map fun scope => { scope with isOpen := false }
      else tree.get? other :=
  (exit?_leaves exits).get? other

theorem parent?_exit {tree after : ScopeTree} {id : ScopeId}
    (exits : tree.exit? = some (id, after)) (other : ScopeId) :
    after.parent? other = tree.parent? other := by
  rw [parent?, get?_exit exits]
  split
  · cases found : tree.get? other <;> simp [parent?, found]
  · rfl

theorem exit?_wellFormed {tree after : ScopeTree} {id : ScopeId} (wf : tree.WellFormed)
    (exits : tree.exit? = some (id, after)) : after.WellFormed := by
  obtain ⟨path, nonempty, -⟩ := exit?_eq_some exits
  have nodup := wf.path_nodup
  have chain := wf.chain
  have root := wf.root
  rw [path] at nodup chain root
  constructor
  case parent_lt =>
    intro child parent link
    exact wf.parent_lt ((parent?_exit exits child).symm.trans link)
  case chain =>
    exact chain.tail.imp fun child parent link => (parent?_exit exits child).trans link
  case root =>
    cases rest : after.path with
    | nil => exact (nonempty rest).elim
    | cons second others =>
        rw [rest, List.getLast?_cons_cons] at root
        exact root
  case root_parent =>
    rw [parent?_exit exits]
    exact wf.root_parent
  case isOpen_iff =>
    intro other
    have before : tree.isOpen other = true ↔ other = id ∨ other ∈ after.path := by
      rw [wf.isOpen_iff, path, List.mem_cons]
    rw [isOpen, get?_exit exits]
    split
    · rename_i same
      subst same
      have left : other ∉ after.path := (List.nodup_cons.mp nodup).1
      cases tree.get? other <;> simp [left]
    · rename_i different
      rw [← isOpen, before]
      simp [different]

/-- Once the global scope is closed no scope is open. -/
theorem isOpen_closeRoot {tree after : ScopeTree} {id : ScopeId} (wf : tree.WellFormed)
    (closes : tree.closeRoot? = some (id, after)) (other : ScopeId) :
    after.isOpen other = false := by
  obtain ⟨leaves, path⟩ := closeRoot?_leaves closes
  have before : tree.isOpen other = true ↔ other = id := by
    rw [wf.isOpen_iff, leaves.path, path, List.mem_singleton]
  rw [isOpen, leaves.get?]
  split
  · cases tree.get? other <;> rfl
  · rename_i different
    rw [← isOpen, Bool.eq_false_iff, ne_eq, before]
    exact different

end Custody.ScopeTree
