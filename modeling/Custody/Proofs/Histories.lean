import Custody.Proofs.Moves

/-!
# Histories of one container

A container that nobody has borrowed, reached directly through a name, refuses nothing for the sake
of others: what a use of it comes to depends on its content and on the binding alone.  So a history
of such uses is one of the content, and the rest of the state stays as it was.
-/

namespace Custody

/-! ## Removed slots -/

namespace Content

/-- A removal of one slot yields it and leaves the others. -/
theorem remove_one (content : Content) (position : Nat) :
    content.remove (SlotSet.singleton position).toList =
      (content[position]?.toList, content.eraseIdx position) := by
  refine Prod.ext ?_ (remove_singleton content position)
  by_cases inside : position < content.length
  · rw [removed_eq_slotsAt (by simpa using inside), SlotSet.toList_singleton,
      List.getElem?_eq_getElem inside]
    exact slotsAt_cons (List.getElem?_eq_getElem inside) []
  · have none : (List.range content.length).filter
        (· ∈ (SlotSet.singleton position).toList) = [] := by
      rw [SlotSet.toList_singleton, List.filter_eq_nil_iff]
      intro other member
      have small := List.mem_range.mp member
      simp only [List.mem_singleton, decide_eq_true_eq]
      omega
    rw [remove_eq_slotsAt, none, List.getElem?_eq_none (Nat.not_lt.mp inside)]
    rfl

end Content

/-! ## Uses of a content -/

/-- Pushes of literals, pops and peeks through a name. -/
inductive Operation.Uses (name : String) : Operation → Prop
  | push (value : Value) (key : Option Value) (conversion : Option Conversion) :
      Uses name (.push name (.value value) key conversion)
  | pop (extent : Option Extent) : Uses name (.pop name extent)
  | peek (extent : Option Extent) : Uses name (.peek name extent)

namespace Access

/-- An access whose container holds other slots. -/
def holding (access : Access) (content : Content) : Access :=
  { access with container := { access.container with content } }

/-- What a use comes to when nothing but the content and the binding is looked at: the content
after it and the values that it yields, unless it is rejected. -/
def answer (access : Access) (operation : Operation) (span : Span) :
    Except Diagnostic (Content × List (Option Value)) :=
  let content := access.container.content
  match operation with
  | .push _ (.value value) key conversion => do
    let converted ← value.convertFor conversion access.container.element span
    let placement ← access.placement key span
    return (content.insert placement ⟨converted, key⟩, [converted])
  | .pop _ extent => do
    let removed ← access.removal extent span
    let parts := content.remove removed.toList
    return (parts.2, parts.1.map (·.value))
  | .peek _ extent => do
    let slots ← access.reading extent span
    return (content, slots.toList.map fun position => content[position]?.bind (·.value))
  | _ => return (content, [])

theorem answer_pop {access : Access} {extent : Option Extent} {span : Span} {removed : SlotSet}
    (passed : access.removal extent span = .ok removed) {name : String} :
    access.answer (.pop name extent) span =
      .ok ((access.container.content.remove removed.toList).2,
        (access.container.content.remove removed.toList).1.map (·.value)) := by
  simp only [answer, passed]
  rfl

end Access

namespace State

variable {state : State} {name : String} {access : Access} {span : Span}

/-- A name that reaches its container directly, with nothing in the way of a use. -/
structure Unhindered (state : State) (name : String) (access : Access) : Prop where
  found : state.reach? name = some access
  direct : access.view = none
  usable : access.container.isUsable = true
  writable : access.container.mode ≠ .borrowed
  unborrowed : ∀ record ∈ state.ledger.records, record.container ≠ access.container.id

theorem insert_of_direct (direct : access.view = none) (placement : Placement) (slot : Slot) :
    state.insert access placement slot = state.setContent access.container.id
      ((state.content access.container.id).insert placement slot) := by
  simp only [insert, Access.record?, direct, Option.map_none, Option.bind_none]

theorem remove_of_direct (direct : access.view = none) (removed : SlotSet) :
    state.remove access removed = (((state.content access.container.id).remove removed.toList).1,
      state.setContent access.container.id
        ((state.content access.container.id).remove removed.toList).2) := by
  simp only [remove, Access.record?, direct, Option.map_none, Option.bind_none]

/-- A container stays as it is when it is given its own content. -/
theorem setContent_self {container : Container}
    (found : state.container? container.id = some container) :
    state.setContent container.id container.content = state := by
  have same : state.containers.modify container.id.index
      (fun other => { other with content := container.content }) = state.containers := by
    apply List.ext_getElem?
    intro index
    rw [List.getElem?_modify]
    split
    · rename_i here
      subst here
      rw [show state.containers[container.id.index]? = some container from found]
      rfl
    · exact id_map _
  exact congrArg (fun containers => { state with containers }) same

theorem setContent_setContent (id : ContainerId) (first second : Content) :
    (state.setContent id first).setContent id second = state.setContent id second := by
  simp only [setContent, modifyContainer, List.modify_modify_eq]
  rfl

namespace Unhindered

theorem reaches (free : state.Unhindered name access) (sound : state.Sound) :
    state.Reaches access :=
  (sound.reach free.found {}).1

theorem ensureWritable_eq (free : state.Unhindered name access) (action : WriteAction) :
    access.ensureWritable action span = .ok () := by
  refine Access.ensureWritable_eq_ok_iff.mpr ⟨free.usable, ?_, by simp [free.direct]⟩
  have writable := free.writable
  cases mode : access.container.mode <;> simp_all [Mode.canMutate]

/-- Nobody else has borrowed anything. -/
theorem not_rival (free : state.Unhindered name access) {actor : Option RecordId}
    {record : BorrowRecord} : ¬ state.ledger.Rival access.container.id actor record :=
  fun rival => free.unborrowed record rival.member rival.onContainer

theorem ensureUnborrowed_eq (free : state.Unhindered name access) (sound : state.Sound)
    (footprint : SlotSet) (attempt : Attempt) :
    access.ensureUnborrowed state.ledger footprint attempt span = .ok () :=
  (Access.ensureUnborrowed_eq_ok_iff sound (free.reaches sound).container).mpr
    fun _ rival => (free.not_rival rival).elim

theorem ensureReadable_eq (free : state.Unhindered name access) (sound : state.Sound)
    (footprint : SlotSet) (attempt : Attempt) :
    access.ensureReadable state.ledger footprint attempt span = .ok () := by
  rw [Access.ensureReadable]
  split
  · rw [Check.mapError_eq_ok, sound.ledger.checkRead_eq_ok]
    exact fun _ rival => (free.not_rival rival).elim
  · rfl

theorem pushValue_eq (free : state.Unhindered name access) (sound : state.Sound) (value : Value)
    (key : Option Value) (conversion : Option Conversion) :
    state.pushValue name value key conversion span = do
      let converted ← value.convertFor conversion access.container.element span
      let placement ← access.placement key span
      return state.pushed access placement ⟨converted, key⟩ := by
  have inserts (placement : Placement) :
      access.checkInsertions state.ledger [placement] span = .ok () := by
    simp only [Access.checkInsertions, free.direct, free.ensureUnborrowed_eq sound]
  rw [pushValue, withAccess_eq_of_reach free.found, free.ensureWritable_eq]
  simp only [inserts]
  rfl

theorem pop_eq (free : state.Unhindered name access) (sound : state.Sound)
    (extent : Option Extent) :
    state.pop name extent span = do
      let removed ← access.removal extent span
      let parts := state.remove access removed
      return ⟨parts.2, parts.2.describeAccess access (parts.1.map (·.value)), []⟩ := by
  have checked : access.checkPop state.ledger extent span = access.removal extent span := by
    simp only [Access.checkPop, free.ensureWritable_eq, free.direct, free.ensureUnborrowed_eq sound]
    cases access.removal extent span <;> rfl
  rw [pop, withAccess_eq_of_reach free.found, checked]

theorem peek_eq (free : state.Unhindered name access) (sound : state.Sound)
    (extent : Option Extent) :
    state.peek name extent span = do
      let slots ← access.reading extent span
      let values := slots.toList.map fun position =>
        (access.container.content[position]?).bind (·.value)
      return ⟨state, state.describeAccess access values, []⟩ := by
  have checked : access.checkPeek state.ledger extent span = access.reading extent span := by
    simp only [Access.checkPeek, Container.ensureUsable_eq_ok_iff.mpr free.usable, free.direct,
      free.ensureReadable_eq sound]
    cases access.reading extent span <;> rfl
  rw [peek, withAccess_eq_of_reach free.found, checked]

/-- The container may hold other slots. -/
theorem holding (free : state.Unhindered name access) (sound : state.Sound) (content : Content) :
    (state.setContent access.container.id content).Unhindered name (access.holding content) where
  found := by
    obtain ⟨reaches, lookup, -⟩ := sound.reach free.found {}
    have named := lookupBinding_eq_ok_iff.mp lookup
    have stored : (state.setContent access.container.id content).container? access.container.id =
        some { access.container with content } := by
      rw [setContent, container?_modifyContainer_of_eq_some reaches.container, if_pos rfl]
    change ((state.scopes.findBinding? name).bind state.binding?).bind
      (state.setContent access.container.id content).accessOf? = _
    rw [named, Option.bind_some, accessOf?, reaches.direct free.direct]
    dsimp only
    rw [stored, Option.map_some, Access.holding, free.direct]
  direct := free.direct
  usable := free.usable
  writable := free.writable
  unborrowed := free.unborrowed

end Unhindered

end State

/-- The outcome of a use that is answered: the new content is stored and the values are reported,
or nothing changes. -/
def Outcome.Settles (outcome : Outcome) (state : State) (id : ContainerId) :
    Except Diagnostic (Content × List (Option Value)) → Prop
  | .ok (content, values) => outcome.state = state.setContent id content ∧
      outcome.verdict.ok = true ∧ outcome.verdict.values = values
  | .error _ => outcome.state = state ∧ outcome.verdict.ok = false

namespace Outcome.Settles

variable {outcome : Outcome} {state : State} {id : ContainerId}
  {answer : Except Diagnostic (Content × List (Option Value))}

theorem ok_iff (settled : outcome.Settles state id answer) :
    outcome.verdict.ok = true ↔ ∃ result, answer = .ok result := by
  cases answer with
  | error diagnostic => simp [settled.2]
  | ok result => simp [settled.2.1]

theorem state_of_rejected (settled : outcome.Settles state id answer)
    (rejected : outcome.verdict.ok = false) : outcome.state = state := by
  cases answer with
  | error diagnostic => exact settled.1
  | ok result => simp [settled.2.1] at rejected

end Outcome.Settles

namespace State

variable {state : State} {name : String} {access : Access} {span : Span}

/-- A use with nothing in its way comes to what its content and its binding say. -/
theorem Unhindered.settles (free : state.Unhindered name access) (sound : state.Sound)
    {operation : Operation} (uses : operation.Uses name) (span : Span) :
    (state.perform operation span).Settles state access.container.id
      (access.answer operation span) := by
  have reaches := free.reaches sound
  cases uses with
  | push value key conversion =>
    rw [perform, free.pushValue_eq sound, Access.answer]
    cases value.convertFor conversion access.container.element span with
    | error diagnostic => exact ⟨rfl, rfl⟩
    | ok converted =>
      cases access.placement key span with
      | error diagnostic => exact ⟨rfl, rfl⟩
      | ok placement =>
        refine ⟨?_, rfl, rfl⟩
        rw [← reaches.content]
        exact insert_of_direct free.direct placement ⟨converted, key⟩
  | pop extent =>
    rw [perform, free.pop_eq sound, Access.answer]
    cases access.removal extent span with
    | error diagnostic => exact ⟨rfl, rfl⟩
    | ok removed =>
      have parts := @remove_of_direct state access free.direct removed
      rw [reaches.content] at parts
      refine ⟨congrArg Prod.snd parts, rfl, ?_⟩
      exact congrArg (fun parts => parts.1.map (·.value)) parts
  | peek extent =>
    rw [perform, free.peek_eq sound, Access.answer]
    cases access.reading extent span with
    | error diagnostic => exact ⟨rfl, rfl⟩
    | ok slots => exact ⟨(setContent_self reaches.container).symm, rfl, rfl⟩

/-- A value of the element type is pushed as it is, wherever it lands. -/
theorem Unhindered.accepts_push (free : state.Unhindered name access) (sound : state.Sound)
    {value : Value} {key : Option Value} {placement : Placement}
    (placed : access.placement key span = .ok placement)
    (typed : value.element = access.container.element) :
    (state.perform (.push name (.value value) key none) span).verdict.ok = true ∧
      (state.perform (.push name (.value value) key none) span).verdict.values = [some value] := by
  have converted : value.convertFor none access.container.element span = .ok (some value) :=
    if_pos typed
  have answered : access.answer (.push name (.value value) key none) span =
      .ok (access.container.content.insert placement ⟨some value, key⟩, [some value]) := by
    simp only [Access.answer, converted, placed]
    rfl
  have settled := free.settles sound (.push value key none) span
  rw [answered] at settled
  exact settled.2

end State

/-! ## Histories -/

/-- What an invariant of a content and its history must stand for a use through an access to keep
it.  A use that is rejected must leave no trace. -/
structure Access.Keeps (access : Access) (holds : Content → List AnnotatedNode → Prop)
    (node : Node) : Prop where
  accepted : ∀ {content after : Content} {history : List AnnotatedNode} {verdict : Verdict},
    holds content history →
    (access.holding content).answer node.operation node.span = .ok (after, verdict.values) →
    verdict.ok = true → holds after (history ++ [⟨node, verdict⟩])
  rejected : ∀ {content : Content} {history : List AnnotatedNode} {verdict : Verdict},
    holds content history → verdict.ok = false → holds content (history ++ [⟨node, verdict⟩])

namespace Verification

variable {nodes turns : List Node} {container : Container}

/-- What was found out about the operations behind the first ones of a stream. -/
def later (nodes turns : List Node) : List AnnotatedNode :=
  (run {} (nodes ++ turns)).nodes.drop nodes.length

theorem later_nil (nodes : List Node) : later nodes [] = [] := by
  rw [later, List.append_nil, List.drop_eq_nil_iff, length_nodes_run]

theorem later_concat (nodes turns : List Node) (node : Node) :
    later nodes (turns ++ [node]) = later nodes turns ++
      [⟨node, ((run {} (nodes ++ turns)).state.perform node.operation node.span).verdict⟩] := by
  have long : nodes.length ≤ (run {} (nodes ++ turns)).nodes.length := by
    rw [length_nodes_run, List.length_append]
    exact Nat.le_add_right ..
  rw [later, ← List.append_assoc, run_concat]
  exact List.drop_append_of_le_length long

/-- Uses of a container change its content alone, and keep what each of them keeps. -/
theorem run_history {holds : Content → List AnnotatedNode → Prop}
    (held : (run {} nodes).state.container? container.id = some container)
    (start : holds container.content [])
    (each : ∀ node ∈ turns, ∃ name access, (run {} nodes).state.Unhindered name access ∧
      access.container = container ∧ node.operation.Uses name ∧ access.Keeps holds node) :
    ∃ content, (run {} (nodes ++ turns)).state =
        (run {} nodes).state.setContent container.id content ∧
      holds content (later nodes turns) := by
  induction turns using List.reverseRecOn with
  | nil =>
    refine ⟨container.content, ?_, by rw [later_nil]; exact start⟩
    rw [List.append_nil, State.setContent_self held]
  | append_singleton turns node ih =>
    obtain ⟨content, same, now⟩ := ih fun earlier member => each earlier (by simp [member])
    obtain ⟨name, access, free, rfl, uses, keeps⟩ := each node (by simp)
    have sound := run_sound (nodes ++ turns)
    rw [same] at sound
    have settled := (free.holding (run_sound nodes) content).settles sound uses node.span
    rw [later_concat, ← List.append_assoc, run_concat, step, same]
    cases answered : (access.holding content).answer node.operation node.span with
    | error diagnostic =>
      rw [answered] at settled
      exact ⟨content, settled.1, keeps.rejected now settled.2⟩
    | ok result =>
      rw [answered] at settled
      obtain ⟨state, ok, values⟩ := settled
      refine ⟨result.1, state.trans (State.setContent_setContent ..), keeps.accepted now ?_ ok⟩
      rw [answered, values]

end Verification

end Custody
