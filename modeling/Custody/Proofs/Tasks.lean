import Custody.Proofs.Runs

/-!
# Tasks and their captures

The captures of a task are all checked before the first of them takes effect.  So a task is spawned
exactly where one task for each capture could be spawned, one after another, and leaves the same
behind, as long as its captures take different containers.  A container that two of them take passes
both checks, while the second of two tasks finds it moved away.
-/

namespace Custody

namespace State

variable {state : State} {capture : Capture} {captures : List Capture} {id : ContainerId}
  {span : Span}

/-! ## One capture -/

/-- The container that a capture takes, if its name reaches one. -/
def takenBy? (state : State) (capture : Capture) : Option ContainerId :=
  if capture.take then (state.reach? capture.binding).map (·.container.id) else none

/-- The containers that captures take, in their order. -/
def taken (state : State) (captures : List Capture) : List ContainerId :=
  captures.filterMap state.takenBy?

/-- What a task may do with what a capture reaches: share it, or take it whole. -/
inductive Hands (state : State) (capture : Capture) : Option ContainerId → Prop
  | nothing (reached : state.reach? capture.binding = none) : state.Hands capture none
  | shared {access : Access} (reached : state.reach? capture.binding = some access)
      (shared : access.container.mode = .shared) (kept : capture.take = false) :
      state.Hands capture none
  | moved {access : Access} (reached : state.reach? capture.binding = some access)
      (direct : access.view = none) (taken : capture.take = true)
      (owned : access.container.mode.canTake = true) :
      state.Hands capture (some access.container.id)

theorem checkTaskCapture_hands {result : Option ContainerId}
    (passed : state.checkTaskCapture capture span = .ok result) : state.Hands capture result := by
  simp only [checkTaskCapture, Check.bind_eq_ok] at passed
  obtain ⟨binding, lookup, passed⟩ := passed
  have reached : state.reach? capture.binding = state.accessOf? binding := by
    rw [reach?, lookupBinding_eq_ok_iff.mp lookup, Option.bind_some]
  split at passed
  · rename_i nothing
    rw [← Check.pure_eq_ok.mp passed]
    exact .nothing (reached.trans nothing)
  · rename_i found
    split at passed
    · rename_i free
      rw [Bool.and_eq_true, decide_eq_true_eq, Bool.not_eq_true'] at free
      rw [← Check.pure_eq_ok.mp passed]
      exact .shared (reached.trans found) free.1 free.2
    · contradiction
  · rename_i found
    rw [Check.bind_eq_ok] at passed
    obtain ⟨_, -, passed⟩ := passed
    split at passed
    · rename_i shared
      rw [Check.throw_eq_error, Check.reject_eq_ok, Check.pure_eq_ok, Bool.not_eq_true] at passed
      obtain ⟨kept, rfl⟩ := passed
      exact .shared (reached.trans found) shared kept
    · simp only [Check.throw_eq_error, Check.reject_eq_ok] at passed
      obtain ⟨taken, owned, passed⟩ := passed
      split at passed
      · contradiction
      · rw [← Check.pure_eq_ok.mp passed]
        exact .moved (reached.trans found) rfl (by simpa using taken) (by simpa using owned)

theorem takenBy?_of_checked {result : Option ContainerId}
    (passed : state.checkTaskCapture capture span = .ok result) :
    state.takenBy? capture = result := by
  rw [takenBy?]
  cases checkTaskCapture_hands passed with
  | nothing reached => rw [reached, Option.map_none, ite_self]
  | shared reached shared kept => rw [if_neg (by simp [kept])]
  | moved reached direct taken => rw [if_pos taken, reached, Option.map_some]

/-- A container that may be taken is captured by a task only if it is taken. -/
theorem takenBy?_of_owned {result : Option ContainerId} {access : Access}
    (passed : state.checkTaskCapture capture span = .ok result)
    (reached : state.reach? capture.binding = some access)
    (owned : access.container.mode.canTake = true) :
    access.view = none ∧ state.takenBy? capture = some access.container.id := by
  rw [takenBy?_of_checked passed]
  cases checkTaskCapture_hands passed with
  | nothing nowhere => cases reached.symm.trans nowhere
  | shared other shared =>
      cases reached.symm.trans other
      rw [shared] at owned
      contradiction
  | moved other direct =>
      cases reached.symm.trans other
      exact ⟨direct, rfl⟩

/-! ## A capture after another -/

/-- What a binding reaches once a container was changed. -/
theorem Sound.accessOf?_modifyContainer (sound : state.Sound) (change : Container → Container)
    (binding : Binding) :
    (state.modifyContainer id change).accessOf? binding =
      (state.accessOf? binding).map fun access =>
        if access.container.id = id then { access with container := change access.container }
        else access := by
  have changed : ∀ (other : ContainerId) (view : Option BorrowRecord),
      ((state.modifyContainer id change).container? other).map (Access.mk binding · view) =
        ((state.container? other).map (Access.mk binding · view)).map fun access =>
          if access.container.id = id then { access with container := change access.container }
          else access := by
    intro other view
    rw [container?_modifyContainer]
    cases found : state.container? other with
    | none => simp
    | some container =>
        have sameId := sound.container_id found
        by_cases same : other = id
        · simp [same, sameId]
        · simp [same, sameId]
  unfold accessOf?
  split
  · exact changed _ none
  · rename_i record _
    change (state.ledger.get? record).bind _ = _
    cases state.ledger.get? record with
    | none => rfl
    | some record => exact changed _ (some record)
  · rfl

theorem Sound.reach?_markMoved (sound : state.Sound) (moved : Span) (name : String) :
    (state.markMoved id moved).reach? name =
      (state.reach? name).map fun access =>
        if access.container.id = id then
          { access with container := access.container.markMoved moved }
        else access := by
  change ((state.scopes.findBinding? name).bind state.binding?).bind
    (state.markMoved id moved).accessOf? = _
  rw [reach?]
  cases (state.scopes.findBinding? name).bind state.binding? with
  | none => rfl
  | some binding => exact sound.accessOf?_modifyContainer _ binding

theorem Sound.takenBy?_markMoved (sound : state.Sound) (moved : Span) (capture : Capture) :
    (state.markMoved id moved).takenBy? capture = state.takenBy? capture := by
  rw [takenBy?, takenBy?, sound.reach?_markMoved, Option.map_map]
  congr 2
  funext access
  simp only [Function.comp_apply]
  split <;> rfl

/-- A capture of something else does not notice that a container was moved away. -/
theorem Sound.checkTaskCapture_markMoved (sound : state.Sound) {moved : Span}
    (apart : ∀ access, state.reach? capture.binding = some access → access.container.id ≠ id) :
    (state.markMoved id moved).checkTaskCapture capture span =
      state.checkTaskCapture capture span := by
  have same : (state.markMoved id moved).lookupBinding capture.binding span =
      state.lookupBinding capture.binding span := rfl
  simp only [checkTaskCapture, same]
  cases lookup : state.lookupBinding capture.binding span with
  | error diagnostic => rfl
  | ok binding =>
      have reached : (state.markMoved id moved).accessOf? binding = state.accessOf? binding := by
        rw [markMoved, sound.accessOf?_modifyContainer]
        cases found : state.accessOf? binding with
        | none => rfl
        | some access =>
            rw [reach?, lookupBinding_eq_ok_iff.mp lookup, Option.bind_some] at apart
            rw [Option.map_some, if_neg (apart access found)]
      simp only [Bind.bind, Except.bind, reached]
      rfl

/-- A capture of a container that was moved away fails. -/
theorem Sound.checkTaskCapture_of_moved (sound : state.Sound) {moved : Span} {access : Access}
    (reached : state.reach? capture.binding = some access) (direct : access.view = none)
    {result : Option ContainerId} :
    (state.markMoved access.container.id moved).checkTaskCapture capture span ≠ .ok result := by
  intro passed
  obtain ⟨-, lookup, found⟩ := sound.reach reached span
  have later : (state.markMoved access.container.id moved).accessOf? access.binding =
      some ⟨access.binding, access.container.markMoved moved, none⟩ := by
    rw [markMoved, sound.accessOf?_modifyContainer, found, Option.map_some, if_pos rfl, ← direct]
  have same : (state.markMoved access.container.id moved).lookupBinding capture.binding span =
      .ok access.binding := lookup
  simp only [checkTaskCapture, same, Check.bind_eq_ok, Except.ok.injEq] at passed
  obtain ⟨_, rfl, passed⟩ := passed
  simp only [later, Check.bind_eq_ok] at passed
  obtain ⟨_, usable, -⟩ := passed
  contradiction

/-! ## One task -/

/-- A task finds nothing wrong with a capture. -/
def Admits (state : State) (span : Span) (capture : Capture) : Prop :=
  ∃ result, state.checkTaskCapture capture span = .ok result

theorem failures_eq_nil_iff {α : Type} {results : List (Except Diagnostic α)} :
    failures results = [] ↔ ∀ result ∈ results, ∃ value, result = .ok value := by
  rw [failures, List.filterMap_eq_nil_iff]
  refine forall₂_congr fun result _ => ?_
  cases result <;> simp

theorem spawn_accepted_iff :
    (state.spawn captures span).verdict.ok = true ↔
      ∀ capture ∈ captures, state.Admits span capture := by
  have admitted : failures (captures.map (state.checkTaskCapture · span)) = [] ↔
      ∀ capture ∈ captures, state.Admits span capture := by
    rw [failures_eq_nil_iff, List.forall_mem_map]
    rfl
  rw [← admitted, ← List.isEmpty_iff, spawn]
  dsimp only
  split
  · rename_i silent
    exact ⟨fun _ => silent, fun _ => rfl⟩
  · rename_i reported
    constructor
    · intro accepted
      cases accepted
    · intro silent
      exact absurd silent reported

/-- A task that is spawned moves what its captures take. -/
theorem state_spawn (admits : ∀ capture ∈ captures, state.Admits span capture) :
    (state.spawn captures span).state =
      (state.taken captures).foldl (fun state id => state.markMoved id span) state := by
  have accepted := spawn_accepted_iff.mpr admits
  have moved : (captures.map (state.checkTaskCapture · span)).filterMap
      (fun result => result.toOption.bind id) = state.taken captures := by
    rw [List.filterMap_map, taken]
    apply List.filterMap_congr
    intro capture member
    obtain ⟨result, checked⟩ := admits capture member
    rw [takenBy?_of_checked checked, Function.comp_apply, checked]
    rfl
  rw [spawn] at accepted ⊢
  dsimp only at accepted ⊢
  split at accepted
  · rename_i silent
    rw [if_pos silent, moved]
  · contradiction

/-- A capture is admitted after a container has moved into a task exactly if it was admitted before
and does not take that container as well. -/
theorem Movable.admits_markMoved_iff (movable : state.Movable id span) (sound : state.Sound) :
    (state.markMoved id span).Admits span capture ↔
      state.Admits span capture ∧ state.takenBy? capture ≠ some id := by
  by_cases reaches : ∃ access, state.reach? capture.binding = some access ∧ access.container.id = id
  · obtain ⟨access, reached, rfl⟩ := reaches
    obtain ⟨current, -, -⟩ := sound.reach reached span
    have direct : access.view = none := by
      cases viewed : access.view with
      | none => rfl
      | some record =>
          obtain ⟨-, member, onContainer⟩ := current.view viewed
          exact (movable.unborrowed record member onContainer).elim
    have owned : access.container.mode.canTake = true := by
      obtain ⟨declared, found, owned⟩ := movable.owned
      cases current.declaration.symm.trans found
      exact owned
    constructor
    · rintro ⟨result, passed⟩
      exact (sound.checkTaskCapture_of_moved reached direct passed).elim
    · rintro ⟨⟨result, passed⟩, another⟩
      exact (another (takenBy?_of_owned passed reached owned).2).elim
  · have apart : ∀ access, state.reach? capture.binding = some access →
        access.container.id ≠ id := fun access reached same => reaches ⟨access, reached, same⟩
    have another : state.takenBy? capture ≠ some id := by
      intro taken
      rw [takenBy?] at taken
      split at taken
      · obtain ⟨access, reached, same⟩ := Option.map_eq_some_iff.mp taken
        exact apart access reached same
      · contradiction
    rw [Admits, Admits, sound.checkTaskCapture_markMoved apart, and_iff_left another]

/-! ## A task and those that follow -/

/-- What a task of one capture leaves behind. -/
theorem Admits.state_spawn (admits : state.Admits span capture) :
    (state.spawn [capture] span).state =
      match state.takenBy? capture with
      | some id => state.markMoved id span
      | none => state := by
  rw [State.state_spawn (by simpa using admits), taken]
  cases taken : state.takenBy? capture <;> simp [taken]

theorem Sound.taken_markMoved (sound : state.Sound) (id : ContainerId) (span : Span)
    (captures : List Capture) :
    (state.markMoved id span).taken captures = state.taken captures := by
  rw [taken, taken]
  apply List.filterMap_congr
  intro capture _
  exact sound.takenBy?_markMoved span capture

/-- The first of several captures is admitted, and the others after it, exactly if all are admitted
and take different containers. -/
theorem Admits.forall_admits_iff (admits : state.Admits span capture) (sound : state.Sound)
    (rest : List Capture) :
    ((∀ other ∈ rest, (state.spawn [capture] span).state.Admits span other) ∧
        ((state.spawn [capture] span).state.taken rest).Nodup) ↔
      (∀ other ∈ rest, state.Admits span other) ∧ (state.taken (capture :: rest)).Nodup := by
  rw [admits.state_spawn]
  cases takes : state.takenBy? capture with
  | none => rw [taken, taken, List.filterMap_cons_none takes]
  | some id =>
      obtain ⟨result, passed⟩ := admits
      obtain rfl : some id = result := takes.symm.trans (takenBy?_of_checked passed)
      have movable := checkTaskCapture_eq_ok sound passed
      have others : (∀ other ∈ rest, state.takenBy? other ≠ some id) ↔ id ∉ state.taken rest := by
        rw [taken, List.mem_filterMap]
        simp
      simp only [movable.admits_markMoved_iff sound, sound.taken_markMoved, forall₂_and]
      rw [others, taken, taken, List.filterMap_cons_some takes, List.nodup_cons, and_assoc]

/-- What several captures move is moved by the first one, and then by the others. -/
theorem Admits.foldl_taken (admits : state.Admits span capture) (sound : state.Sound)
    (rest : List Capture) :
    ((state.spawn [capture] span).state.taken rest).foldl
        (fun state id => state.markMoved id span) (state.spawn [capture] span).state =
      (state.taken (capture :: rest)).foldl (fun state id => state.markMoved id span) state := by
  rw [admits.state_spawn]
  cases takes : state.takenBy? capture with
  | none => rw [taken, taken, List.filterMap_cons_none takes]
  | some id =>
      dsimp only
      rw [sound.taken_markMoved, taken, taken, List.filterMap_cons_some takes, List.foldl_cons]

end State

namespace Verification

variable {verification : Verification} {span : Span}

/-- Tasks of one capture each. -/
def tasks (captures : List Capture) (span : Span) : List Node :=
  captures.map fun capture => ⟨.spawn [capture], span⟩

/-- Tasks of one capture each are all spawned exactly if every capture is admitted and they take
different containers, which they move one after another. -/
theorem run_tasks (sound : verification.state.Sound) (captures : List Capture) :
    ∃ spawned : List AnnotatedNode,
      (verification.run (tasks captures span)).nodes = verification.nodes ++ spawned ∧
      ((∀ annotated ∈ spawned, annotated.verdict.ok = true) ↔
        (∀ capture ∈ captures, verification.state.Admits span capture) ∧
          (verification.state.taken captures).Nodup) ∧
      ((∀ annotated ∈ spawned, annotated.verdict.ok = true) →
        (verification.run (tasks captures span)).state =
          (verification.state.taken captures).foldl (fun state id => state.markMoved id span)
            verification.state) := by
  induction captures generalizing verification with
  | nil => exact ⟨[], (List.append_nil _).symm, by simp [State.taken], fun _ => rfl⟩
  | cons capture rest ih =>
      let node : Node := ⟨.spawn [capture], span⟩
      have later : (verification.step node).state.Sound :=
        (State.perform_changes sound node.operation node.span).sound sound
      obtain ⟨spawned, nodes, accepted, moved⟩ := ih later
      refine ⟨⟨node, (verification.state.spawn [capture] span).verdict⟩ :: spawned, ?_, ?_, ?_⟩
      · exact nodes.trans (List.append_assoc ..)
      · rw [List.forall_mem_cons, accepted, State.spawn_accepted_iff, List.forall_mem_singleton,
          List.forall_mem_cons, and_assoc]
        exact and_congr_right fun admits => admits.forall_admits_iff sound rest
      · intro all
        rw [List.forall_mem_cons, State.spawn_accepted_iff, List.forall_mem_singleton] at all
        exact (moved all.2).trans (all.1.foldl_taken sound rest)

/-- A task is the sequence of its captures as long as these take different containers: tasks of one
capture each, one after another at the same place, are all accepted exactly if the task is accepted
and its captures take no container twice, and then they leave the same behind. -/
theorem spawn_as_sequence (nodes : List Node) (captures : List Capture) (span : Span) :
    let state := (run {} nodes).state
    let together := state.perform (.spawn captures) span
    let apart := run {} (nodes ++ tasks captures span)
    ((∀ annotated ∈ apart.nodes.drop nodes.length, annotated.verdict.ok = true) ↔
        together.verdict.ok = true ∧ (state.taken captures).Nodup) ∧
      (together.verdict.ok = true → (state.taken captures).Nodup →
        apart.state = together.state) := by
  obtain ⟨spawned, added, accepted, moved⟩ := @run_tasks _ span (run_sound nodes) captures
  have whole : run {} (nodes ++ tasks captures span) = (run {} nodes).run (tasks captures span) :=
    List.foldl_append
  dsimp only
  rw [whole, added, List.drop_left' (length_nodes_run nodes), accepted, State.perform,
    State.spawn_accepted_iff]
  refine ⟨Iff.rfl, fun admits distinct => ?_⟩
  rw [moved (accepted.mpr ⟨admits, distinct⟩), State.state_spawn admits]

/-- A run with two names for one container. -/
def aliased : List Node :=
  [⟨.declare "A" .integer none .owned, {}⟩,
    ⟨.bind "x" "A" none, {}⟩,
    ⟨.bind "y" "A" none, {}⟩]

/-- A task may take a container under both of its names, which two tasks may not. -/
theorem spawn_takes_twice :
    let captures : List Capture := [⟨"x", true⟩, ⟨"y", true⟩]
    let state := (run {} aliased).state
    (state.perform (.spawn captures) {}).verdict.ok = true ∧
      state.taken captures = [⟨0⟩, ⟨0⟩] ∧
      ((run {} (aliased ++ tasks captures {})).nodes.drop aliased.length).map (·.verdict.ok) =
        [true, false] := by
  decide

end Verification

end Custody
