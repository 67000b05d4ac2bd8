import Custody.Proofs.Histories

/-!
# Queues and stacks

A push lands at the tail under the fifo perspective and at the head under the lifo one, and a pop
always removes the head.  So a container that pushes and pops have to themselves is a queue under
the one perspective and a stack under the other, whatever the order of pushes and pops.
-/

namespace Custody

/-- Pushes of literals and pops of the head through a name. -/
inductive Operation.Turns (name : String) : Operation → Prop
  | push (value : Value) (key : Option Value) (conversion : Option Conversion) :
      Turns name (.push name (.value value) key conversion)
  | pop : Turns name (.pop name none)

theorem Operation.Turns.uses {name : String} {operation : Operation}
    (turns : operation.Turns name) : operation.Uses name := by
  cases turns with
  | push value key conversion => exact .push value key conversion
  | pop => exact .pop none

/-! ## What a history pushed and popped -/

namespace AnnotatedNode

/-- The values of an accepted push. -/
def pushed (turn : AnnotatedNode) : List (Option Value) :=
  match turn.node.operation with
  | .push .. => if turn.verdict.ok then turn.verdict.values else []
  | _ => []

/-- The values of an accepted pop. -/
def popped (turn : AnnotatedNode) : List (Option Value) :=
  match turn.node.operation with
  | .pop .. => if turn.verdict.ok then turn.verdict.values else []
  | _ => []

variable {turn : AnnotatedNode}

theorem pushed_of_rejected (rejected : turn.verdict.ok = false) : turn.pushed = [] := by
  unfold pushed
  split
  · exact if_neg (by simp [rejected])
  · rfl

theorem popped_of_rejected (rejected : turn.verdict.ok = false) : turn.popped = [] := by
  unfold popped
  split
  · exact if_neg (by simp [rejected])
  · rfl

end AnnotatedNode

/-- The values that a history pushed, in their order. -/
def pushedValues (history : List AnnotatedNode) : List (Option Value) :=
  history.flatMap AnnotatedNode.pushed

/-- The values that a history popped, in their order. -/
def poppedValues (history : List AnnotatedNode) : List (Option Value) :=
  history.flatMap AnnotatedNode.popped

/-- The values that a history pushed and has not popped yet, the latest first.  A pop takes out the
values that it reports, the latest ones where there are several. -/
def unpopped (history : List AnnotatedNode) : List (Option Value) :=
  history.foldl (fun left turn => turn.pushed ++ left.diff turn.popped) []

section

variable (history : List AnnotatedNode) (turn : AnnotatedNode)

theorem pushedValues_concat :
    pushedValues (history ++ [turn]) = pushedValues history ++ turn.pushed := by
  simp [pushedValues]

theorem poppedValues_concat :
    poppedValues (history ++ [turn]) = poppedValues history ++ turn.popped := by
  simp [poppedValues]

theorem unpopped_concat :
    unpopped (history ++ [turn]) = turn.pushed ++ (unpopped history).diff turn.popped := by
  simp [unpopped]

end

/-! ## Turns of a content -/

/-- A content with the history that it comes from.  Under the fifo perspective what was pushed is
what was popped and what is left, from the head to the tail; under the lifo perspective what is
left, from the head to the tail, is what was not popped yet. -/
structure Lined (perspective : Perspective) (content : Content) (history : List AnnotatedNode) :
    Prop where
  fifo : perspective = .fifo →
    pushedValues history = poppedValues history ++ (content.map (·.value)).reverse
  lifo : perspective = .lifo → unpopped history = (content.map (·.value)).reverse
  count : (pushedValues history).length = (poppedValues history).length + content.length

/-- A turn keeps content and history lined up when what it pushes and pops accounts for the
difference of the contents. -/
theorem Lined.concat {perspective : Perspective} {content after : Content}
    {history : List AnnotatedNode} (lined : Lined perspective content history)
    {turn : AnnotatedNode}
    (fifo : perspective = .fifo → (content.map (·.value)).reverse ++ turn.pushed =
      turn.popped ++ (after.map (·.value)).reverse)
    (lifo : perspective = .lifo → turn.pushed ++ (content.map (·.value)).reverse.diff turn.popped =
      (after.map (·.value)).reverse)
    (count : content.length + turn.pushed.length = turn.popped.length + after.length) :
    Lined perspective after (history ++ [turn]) where
  fifo := by
    intro queue
    rw [pushedValues_concat, poppedValues_concat, lined.fifo queue, List.append_assoc,
      List.append_assoc, fifo queue]
  lifo := by
    intro stack
    rw [unpopped_concat, lined.lifo stack, lifo stack]
  count := by
    have before := lined.count
    rw [pushedValues_concat, poppedValues_concat, List.length_append, List.length_append]
    omega

namespace Access

variable {access : Access} {span : Span}

/-- Without the hashed perspective a push has no key and lands at the end of its perspective. -/
theorem placement_unhashed {key : Option Value} {placement : Placement}
    (unhashed : access.binding.perspective ≠ .hashed)
    (placed : access.placement key span = .ok placement) :
    access.binding.perspective = .fifo ∧ placement = .tail ∨
      access.binding.perspective = .lifo ∧ placement = .head := by
  cases perspective : access.binding.perspective with
  | hashed => contradiction
  | fifo =>
    cases key with
    | none =>
      simp only [Access.placement, perspective] at placed
      exact .inl ⟨rfl, (Except.ok.inj placed).symm⟩
    | some key =>
      simp only [Access.placement, perspective] at placed
      split at placed <;> contradiction
  | lifo =>
    cases key with
    | none =>
      simp only [Access.placement, perspective] at placed
      exact .inr ⟨rfl, (Except.ok.inj placed).symm⟩
    | some key =>
      simp only [Access.placement, perspective] at placed
      split at placed <;> contradiction

theorem answer_pop_nil (empty : access.container.content = []) (name : String) :
    ∃ diagnostic, access.answer (.pop name none) span = .error diagnostic := by
  simp only [answer, removal]
  split
  · exact ⟨_, rfl⟩
  · simp only [empty]
    exact ⟨_, rfl⟩

/-- A pop yields the head. -/
theorem answer_pop_concat (unhashed : access.binding.perspective ≠ .hashed) {content : Content}
    {slot : Slot} (filled : access.container.content = content ++ [slot]) (name : String) :
    access.answer (.pop name none) span = .ok (content, [slot.value]) := by
  have removed : access.removal none span = .ok (.singleton content.length) := by
    simp [removal, unhashed, Container.length, filled]
  have parts : Content.remove (content ++ [slot]) (SlotSet.singleton content.length).toList =
      ([slot], content) := by
    rw [Content.remove_one]
    simp [List.eraseIdx_append_of_length_le]
  rw [answer_pop removed, filled, parts]
  rfl

variable {content after : Content} {history : List AnnotatedNode} {verdict : Verdict}
  {name : String}

theorem lined_push (unhashed : access.binding.perspective ≠ .hashed) {value : Value}
    {key : Option Value} {conversion : Option Conversion}
    (lined : Lined access.binding.perspective content history)
    (answered : (access.holding content).answer (.push name (.value value) key conversion) span =
      .ok (after, verdict.values)) (accepted : verdict.ok = true) :
    Lined access.binding.perspective after
      (history ++ [⟨⟨.push name (.value value) key conversion, span⟩, verdict⟩]) := by
  simp only [answer, Check.bind_eq_ok, Check.pure_eq_ok, Prod.mk.injEq] at answered
  obtain ⟨converted, -, placement, placed, rfl, values⟩ := answered
  have pushed : (⟨⟨.push name (.value value) key conversion, span⟩, verdict⟩ :
      AnnotatedNode).pushed = [converted] := (if_pos accepted).trans values.symm
  have popped : (⟨⟨.push name (.value value) key conversion, span⟩, verdict⟩ :
      AnnotatedNode).popped = [] := rfl
  have ends : access.binding.perspective = .fifo ∧ placement = .tail ∨
      access.binding.perspective = .lifo ∧ placement = .head :=
    @placement_unhashed (access.holding content) span key placement unhashed placed
  rcases ends with ⟨fifo, rfl⟩ | ⟨lifo, rfl⟩
  · change Lined _ (⟨converted, key⟩ :: content) _
    apply lined.concat <;> simp [pushed, popped, fifo]
  · change Lined _ (content ++ [⟨converted, key⟩]) _
    apply lined.concat <;> simp [pushed, popped, lifo]

theorem lined_pop (unhashed : access.binding.perspective ≠ .hashed)
    (lined : Lined access.binding.perspective content history)
    (answered : (access.holding content).answer (.pop name none) span =
      .ok (after, verdict.values)) (accepted : verdict.ok = true) :
    Lined access.binding.perspective after
      (history ++ [⟨⟨.pop name none, span⟩, verdict⟩]) := by
  rcases List.eq_nil_or_concat content with rfl | ⟨kept, slot, rfl⟩
  · obtain ⟨diagnostic, refused⟩ := @answer_pop_nil (access.holding []) span rfl name
    cases answered.symm.trans refused
  · rw [List.concat_eq_append] at lined answered
    rw [@answer_pop_concat (access.holding (kept ++ [slot])) span unhashed kept slot rfl,
      Except.ok.injEq, Prod.mk.injEq] at answered
    obtain ⟨rfl, values⟩ := answered
    have pushed : (⟨⟨.pop name none, span⟩, verdict⟩ : AnnotatedNode).pushed = [] := rfl
    have popped : (⟨⟨.pop name none, span⟩, verdict⟩ : AnnotatedNode).popped = [slot.value] :=
      (if_pos accepted).trans values.symm
    apply lined.concat <;> simp [pushed, popped, Nat.add_comm]

/-- Turns keep a content lined up with its history. -/
theorem keeps_lined (unhashed : access.binding.perspective ≠ .hashed) {node : Node}
    (turns : node.operation.Turns name) : access.Keeps (Lined access.binding.perspective) node where
  rejected := by
    intro content history verdict lined rejected
    have pushed : (⟨node, verdict⟩ : AnnotatedNode).pushed = [] :=
      AnnotatedNode.pushed_of_rejected rejected
    have popped : (⟨node, verdict⟩ : AnnotatedNode).popped = [] :=
      AnnotatedNode.popped_of_rejected rejected
    apply lined.concat <;> simp [pushed, popped]
  accepted := by
    intro content after history verdict lined answered accepted
    obtain ⟨operation, span⟩ := node
    cases turns with
    | push value key conversion => exact lined_push unhashed lined answered accepted
    | pop => exact lined_pop unhashed lined answered accepted

/-- Without the hashed perspective a push needs no key. -/
theorem exists_placement (unhashed : access.binding.perspective ≠ .hashed) :
    ∃ placement, access.placement none span = .ok placement := by
  cases perspective : access.binding.perspective with
  | hashed => contradiction
  | fifo => exact ⟨.tail, by simp only [Access.placement, perspective]⟩
  | lifo => exact ⟨.head, by simp only [Access.placement, perspective]⟩

end Access

/-- The next pop reports the head, or finds none. -/
theorem State.Unhindered.cases_pop {state : State} {name : String} {access : Access}
    (free : state.Unhindered name access) (sound : state.Sound)
    (unhashed : access.binding.perspective ≠ .hashed) (span : Span) :
    (access.container.content = [] ∧
        (state.perform (.pop name none) span).verdict.ok = false) ∨
      ∃ kept slot, access.container.content = kept ++ [slot] ∧
        (state.perform (.pop name none) span).verdict.ok = true ∧
        (state.perform (.pop name none) span).verdict.values = [slot.value] := by
  have settled := free.settles sound (.pop none) span
  rcases List.eq_nil_or_concat access.container.content with empty | ⟨kept, slot, filled⟩
  · obtain ⟨diagnostic, refused⟩ := Access.answer_pop_nil empty name
    rw [refused] at settled
    exact .inl ⟨empty, settled.2⟩
  · rw [List.concat_eq_append] at filled
    rw [Access.answer_pop_concat unhashed filled] at settled
    exact .inr ⟨kept, slot, filled, settled.2⟩

/-! ## Runs -/

/-- Turns through a name that go in order. -/
structure Orderly (access : Access) (name : String) (history : List AnnotatedNode) (state : State) :
    Prop where
  /-- Under the fifo perspective values are popped in the order in which they were pushed. -/
  queue : access.binding.perspective = .fifo → poppedValues history <+: pushedValues history
  /-- Under the lifo perspective a pop reports the latest value that was not popped yet. -/
  stack : access.binding.perspective = .lifo → ∀ span,
    (state.perform (.pop name none) span).verdict.ok = true →
    ∃ value earlier, unpopped history = value :: earlier ∧
      (state.perform (.pop name none) span).verdict.values = [value]
  /-- A pop is rejected exactly when as many values were popped as pushed. -/
  exhausted : ∀ span, (state.perform (.pop name none) span).verdict.ok = false ↔
    (poppedValues history).length = (pushedValues history).length
  /-- A value of the element type is pushed as it is. -/
  pushes : ∀ value span, value.element = access.container.element →
    (state.perform (.push name (.value value) none none) span).verdict.ok = true ∧
      (state.perform (.push name (.value value) none none) span).verdict.values = [some value]

/-- Turns have gone in order when the content is lined up with them. -/
theorem Lined.orderly {state : State} {name : String} {access : Access} {content : Content}
    {history : List AnnotatedNode} (lined : Lined access.binding.perspective content history)
    (held : state.Unhindered name (access.holding content)) (sound : state.Sound)
    (unhashed : access.binding.perspective ≠ .hashed) : Orderly access name history state where
  queue := by
    intro fifo
    rw [lined.fifo fifo]
    exact List.prefix_append ..
  stack := by
    intro lifo span accepted
    rcases held.cases_pop sound unhashed span with ⟨-, refused⟩ | ⟨kept, slot, filled, -, reported⟩
    · rw [refused] at accepted
      contradiction
    · have filled : content = kept ++ [slot] := filled
      refine ⟨slot.value, (kept.map (·.value)).reverse, ?_, reported⟩
      rw [lined.lifo lifo, filled]
      simp
  exhausted := by
    intro span
    have length := lined.count
    rcases held.cases_pop sound unhashed span with
      ⟨empty, refused⟩ | ⟨kept, slot, filled, accepted, -⟩
    · have empty : content = [] := empty
      rw [empty] at length
      exact iff_of_true refused length.symm
    · have filled : content = kept ++ [slot] := filled
      rw [filled, List.length_append, List.length_singleton] at length
      exact iff_of_false (by simp [accepted]) (by omega)
  pushes := by
    intro value span typed
    obtain ⟨placement, placed⟩ := @Access.exists_placement (access.holding content) span unhashed
    exact held.accepts_push sound placed typed

namespace Verification

/-- An empty container that only the turns through one name use is a queue or a stack, by the
perspective of the name, whatever the order of pushes and pops. -/
theorem turns_in_order (nodes : List Node) {name : String} {access : Access}
    (free : (run {} nodes).state.Unhindered name access)
    (unhashed : access.binding.perspective ≠ .hashed) (empty : access.container.content = [])
    {turns : List Node} (each : ∀ node ∈ turns, node.operation.Turns name) :
    Orderly access name (later nodes turns) (run {} (nodes ++ turns)).state := by
  have start : Lined access.binding.perspective access.container.content [] := by
    rw [empty]
    exact ⟨fun _ => rfl, fun _ => rfl, rfl⟩
  obtain ⟨content, same, lined⟩ :=
    run_history (free.reaches (run_sound nodes)).container start fun node member =>
      have turn := each node member
      ⟨name, access, free, rfl, turn.uses, Access.keeps_lined unhashed turn⟩
  have sound := run_sound (nodes ++ turns)
  rw [same] at sound ⊢
  exact lined.orderly (free.holding (run_sound nodes) content) sound unhashed

/-- A run that binds a queue and a stack, next to a container that is lent. -/
def queueAndStack : List Node :=
  [⟨.declare "jobs" .integer none .owned, {}⟩, ⟨.bind "queue" "jobs" (some .fifo), {}⟩,
    ⟨.declare "undo" .integer none .shared, {}⟩, ⟨.bind "stack" "undo" none, {}⟩,
    ⟨.declare "log" .string none .owned, {}⟩, ⟨.bind "l" "log" none, {}⟩,
    ⟨.push "l" (.value (.string "start")) none none, {}⟩,
    ⟨.borrow "view" "l" (.range 0 0) .mutable, {}⟩]

/-- Turns of which one brings a value of another type and one comes too late. -/
def eightTurns (name : String) : List Node :=
  [⟨.push name (.value (.integer 1)) none none, {}⟩,
    ⟨.push name (.value (.integer 2)) none none, {}⟩, ⟨.pop name none, {}⟩,
    ⟨.push name (.value (.bool true)) none none, {}⟩,
    ⟨.push name (.value (.integer 3)) none none, {}⟩, ⟨.pop name none, {}⟩, ⟨.pop name none, {}⟩,
    ⟨.pop name none, {}⟩]

/-- The same turns through the queue and through the stack. -/
theorem turns_in_order_eight :
    ∃ queue stack, (run {} queueAndStack).state.Unhindered "queue" queue ∧
      (run {} queueAndStack).state.Unhindered "stack" stack ∧
      queue.binding.perspective = .fifo ∧ stack.binding.perspective = .lifo ∧
      queue.container.content = [] ∧ stack.container.content = [] ∧
      poppedValues (later queueAndStack (eightTurns "queue")) =
        [some (.integer 1), some (.integer 2), some (.integer 3)] ∧
      poppedValues (later queueAndStack (eightTurns "stack")) =
        [some (.integer 2), some (.integer 3), some (.integer 1)] ∧
      Orderly queue "queue" (later queueAndStack (eightTurns "queue"))
        (run {} (queueAndStack ++ eightTurns "queue")).state ∧
      Orderly stack "stack" (later queueAndStack (eightTurns "stack"))
        (run {} (queueAndStack ++ eightTurns "stack")).state := by
  have queue : (run {} queueAndStack).state.reach? "queue" = some _ := rfl
  have stack : (run {} queueAndStack).state.reach? "stack" = some _ := rfl
  have turns : ∀ name, ∀ node ∈ eightTurns name, node.operation.Turns name := by
    intro name node member
    simp only [eightTurns, List.mem_cons, List.not_mem_nil, or_false] at member
    rcases member with rfl | rfl | rfl | rfl | rfl | rfl | rfl | rfl <;> constructor
  have ownQueue := State.Unhindered.mk queue rfl rfl (by decide) (by decide)
  have ownStack := State.Unhindered.mk stack rfl rfl (by decide) (by decide)
  exact ⟨_, _, ownQueue, ownStack, rfl, rfl, rfl, rfl, by decide, by decide,
    turns_in_order queueAndStack ownQueue (by decide) rfl (turns _),
    turns_in_order queueAndStack ownStack (by decide) rfl (turns _)⟩

end Verification

end Custody
