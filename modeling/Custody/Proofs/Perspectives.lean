import Custody.Proofs.Lifetimes
import Custody.Proofs.Refusals
import Custody.Proofs.Reports

/-!
# The hashed perspective and key types

A binding takes the hashed perspective only where it reaches a container with a key type, and a
capture hands over a container of the same key type, as long as the binding reached one before.  A
binding that lost its referent at the exit of a scope keeps its perspective, and nothing is asked of
what it is pointed at next.  Such captures are the only way to a hashed binding without keys.
-/

namespace Custody

namespace State

variable {state after : State} {binding : Binding} {referent : Referent} {span : Span}
  {name : String}

/-! ## What a referent leads to -/

/-- The declaration of the container that a referent leads to. -/
def referred? (state : State) : Referent → Option Container
  | .direct id => state.declaration? id
  | .view id => (state.ledger.get? id).bind fun record => state.declaration? record.container
  | .poisoned => none

theorem accessOf?_declaration (state : State) (binding : Binding) :
    (state.accessOf? binding).map (·.container.declaration) =
      state.referred? binding.referent := by
  unfold accessOf? referred?
  cases binding.referent with
  | direct id =>
      rw [Option.map_map]
      rfl
  | view id =>
      dsimp only
      cases state.ledger.get? id with
      | none => rfl
      | some record =>
          rw [Option.bind_some, Option.bind_some, Option.map_map]
          rfl
  | poisoned => rfl

/-- What holds from a state to a later one: old scopes are not opened again, and a borrow that is
still active is of its old container. -/
structure Continues (state after : State) : Prop extends Persists state after where
  opened : ∀ id : ScopeId, id.index < state.scopes.scopes.length → id ∈ after.scopes.path →
    id ∈ state.scopes.path
  fresh : state.ledger.nextId ≤ after.ledger.nextId
  borrowed : ∀ kept ∈ after.ledger.records, kept.id.index < state.ledger.nextId →
    ∃ record ∈ state.ledger.records, record.id = kept.id ∧ record.container = kept.container

theorem Continues.refl (state : State) : state.Continues state where
  toPersists := .refl state
  opened := fun _ _ => id
  fresh := Nat.le_refl _
  borrowed := fun kept active _ => ⟨kept, active, rfl, rfl⟩

theorem Continues.trans {middle : State} (first : state.Continues middle)
    (second : middle.Continues after) : state.Continues after where
  toPersists := first.toPersists.trans second.toPersists
  opened := by
    intro id old opened
    exact first.opened id old (second.opened id (Nat.lt_of_lt_of_le old first.size) opened)
  fresh := Nat.le_trans first.fresh second.fresh
  borrowed := by
    intro kept active older
    obtain ⟨between, member, sameId, sameContainer⟩ := second.borrowed kept active
      (Nat.lt_of_lt_of_le older first.fresh)
    obtain ⟨record, recordMember, recordId, recordContainer⟩ := first.borrowed between member
      (sameId ▸ older)
    exact ⟨record, recordMember, recordId.trans sameId, recordContainer.trans sameContainer⟩

/-- A referent that leads somewhere later leads to where it led before. -/
theorem Continues.referred (continues : state.Continues after) (sound : state.Sound)
    {declared other : Container}
    (before : state.referred? referent = some declared)
    (now : after.referred? referent = some other) : other = declared := by
  cases referent with
  | direct id => exact Option.some.inj (now.symm.trans (continues.declaration before))
  | view id =>
      obtain ⟨record, found, declaredBefore⟩ := Option.bind_eq_some_iff.mp before
      obtain ⟨kept, active, declaredNow⟩ := Option.bind_eq_some_iff.mp now
      obtain ⟨member, sameId⟩ := Ledger.mem_of_get? found
      obtain ⟨keptMember, keptId⟩ := Ledger.mem_of_get? active
      have older : kept.id.index < state.ledger.nextId := by
        rw [keptId, ← sameId]
        exact sound.ledger.fresh record member
      obtain ⟨old, oldMember, oldId, sameContainer⟩ := continues.borrowed kept keptMember older
      rw [sound.ledger.eq_of_id_eq oldMember member (oldId.trans (keptId.trans sameId.symm))]
        at sameContainer
      rw [← sameContainer, continues.declaration declaredBefore] at declaredNow
      exact (Option.some.inj declaredNow).symm
  | poisoned => contradiction

end State

/-- Every change continues a state. -/
theorem Change.continues {act : Act} {state after : State} (change : Change act state after)
    (sound : state.Sound) : state.Continues after := by
  refine { change.persists sound with
    opened := ?_, fresh := change.nextId_le sound, borrowed := ?_ }
  · intro id old opened
    cases change with
    | declare declared => exact (State.register_grows declared).path ▸ opened
    | bind | stand | capture | lend | hold | move | release => exact opened
    | insert => exact State.scopes_insert ▸ opened
    | remove => exact State.scopes_remove ▸ opened
    | enter =>
        rcases List.mem_cons.mp (ScopeTree.path_enter .. ▸ opened) with rfl | earlier
        · exact (Nat.lt_irrefl _ old).elim
        · exact earlier
    | exit exits =>
        obtain ⟨-, -, scope, scopes, leaves, ends⟩ := sound.exitScope? exits
        rw [ends.scopes] at opened
        rw [(ScopeTree.exit?_eq_some leaves).1]
        exact List.mem_cons_of_mem _ opened
  · intro kept active older
    cases change with
    | declare declared => exact ⟨kept, (State.register_grows declared).ledger ▸ active, rfl, rfl⟩
    | bind | stand | capture | move | release | enter => exact ⟨kept, active, rfl, rfl⟩
    | insert =>
        rw [State.records_insert sound] at active
        obtain ⟨record, member, rfl⟩ := List.mem_map.mp active
        exact ⟨record, member, by split <;> rfl, by split <;> rfl⟩
    | remove =>
        rw [State.records_remove sound] at active
        obtain ⟨record, member, rfl⟩ := List.mem_map.mp active
        exact ⟨record, member, by split <;> rfl, by split <;> rfl⟩
    | lend =>
        rw [Ledger.records_insert, List.mem_append, List.mem_singleton] at active
        rcases active with member | rfl
        · exact ⟨kept, member, rfl, rfl⟩
        · exact (Nat.lt_irrefl _ older).elim
    | hold =>
        obtain ⟨record, member, rfl⟩ := Ledger.mem_records_modify active
        exact ⟨record, member, by split <;> rfl, by split <;> rfl⟩
    | exit exits => exact ⟨kept, (State.records_exit sound exits).2 kept active, rfl, rfl⟩

theorem Changes.continues {act : Act} {state after : State} (changes : Changes act state after)
    (sound : state.Sound) : state.Continues after := by
  induction changes with
  | refl => exact .refl state
  | tail earlier change ih => exact ih.trans (change.continues (Changes.sound earlier sound))

namespace State

variable {state after : State} {binding : Binding} {referent : Referent} {span : Span}
  {name : String}

/-! ## Hashed bindings -/

/-- Every binding of an open scope that is used under the hashed perspective reaches a container
with a key type, unless it lost its referent. -/
def HashedKeyed (state : State) : Prop :=
  ∀ binding ∈ state.liveBindings, binding.perspective = .hashed → binding.referent ≠ .poisoned →
    (state.accessOf? binding).any (·.container.isKeyed) = true

instance (state : State) : Decidable state.HashedKeyed :=
  inferInstanceAs (Decidable (∀ binding ∈ state.liveBindings, binding.perspective = .hashed →
    binding.referent ≠ .poisoned → (state.accessOf? binding).any (·.container.isKeyed) = true))

/-- A capture that points a binding which lost its referent, but is still hashed, at a container
without a key type. -/
def RevivesUnkeyed (state : State) (node : Node) : Prop :=
  ∃ target source binding access, node.operation = .capture target source ∧
    (state.perform node.operation node.span).verdict.ok = true ∧
    (state.scopes.findBinding? target).bind state.binding? = some binding ∧
    binding.referent = .poisoned ∧ binding.perspective = .hashed ∧
    state.reach? source = some access ∧ access.container.isKeyed = false

/-- A referent that leads to a container with a key type. -/
def LeadsToKeyed (state : State) (referent : Referent) : Prop :=
  ∃ declared, state.referred? referent = some declared ∧ declared.isKeyed = true

theorem leadsToKeyed_iff : state.LeadsToKeyed binding.referent ↔
    (state.accessOf? binding).any (·.container.isKeyed) = true := by
  rw [LeadsToKeyed, ← accessOf?_declaration]
  cases state.accessOf? binding with
  | none => simp
  | some access =>
      rw [Option.map_some, Option.any_some]
      constructor
      · rintro ⟨declared, same, keyed⟩
        rw [← Option.some.inj same] at keyed
        exact keyed
      · intro keyed
        exact ⟨_, rfl, keyed⟩

theorem leadsToKeyed_of_accessOf? {access : Access}
    (reached : state.accessOf? binding = some access)
    (keyed : access.container.isKeyed = true) : state.LeadsToKeyed binding.referent := by
  rw [leadsToKeyed_iff, reached]
  exact keyed

/-- What bindings keep in an operation: one that is hashed afterwards and has a referent was hashed
and had it before, or leads to keys now. -/
def KeepsHashed (state after : State) : Prop :=
  ∀ binding ∈ after.bindings, binding.perspective = .hashed → binding.referent ≠ .poisoned →
    (∃ old ∈ state.bindings, old.scope = binding.scope ∧ old.referent = binding.referent ∧
      old.perspective = .hashed) ∨ after.LeadsToKeyed binding.referent

/-- Where hashed bindings keep what they refer to, they keep reaching keys. -/
theorem HashedKeyed.kept (keyed : state.HashedKeyed) (sound : state.Sound) (later : after.Sound)
    (continues : state.Continues after) (keeps : state.KeepsHashed after) : after.HashedKeyed := by
  intro binding live hashed refers
  rw [liveBindings, List.mem_filter] at live
  rcases keeps binding live.1 hashed refers with ⟨old, member, scope, referent, wasHashed⟩ | leads
  · obtain ⟨index, found⟩ := List.mem_iff_getElem?.mp member
    have inTree := @Indexed.binding_scope _ sound.toIndexed ⟨index⟩ old found
    have opened := later.scopes.isOpen_iff.mp live.2
    rw [← scope] at opened
    have wasOpen := sound.scopes.isOpen_iff.mpr (continues.opened old.scope inTree opened)
    obtain ⟨declared, led, hasKey⟩ := leadsToKeyed_iff.mpr
      (keyed old (List.mem_filter.mpr ⟨member, wasOpen⟩) wasHashed (referent ▸ refers))
    -- What the binding reaches now is what it reached before.
    obtain ⟨place, there⟩ := List.mem_iff_getElem?.mp live.1
    have number := @Indexed.binding_id _ later.toIndexed ⟨place⟩ binding there
    have reached := later.accessOf?_ne_none (number ▸ there) (scope ▸ opened) refers
    obtain ⟨access, found⟩ := Option.ne_none_iff_exists'.mp reached
    have leads := accessOf?_declaration after binding
    rw [found, Option.map_some] at leads
    have same := continues.referred sound led (referent ▸ leads.symm)
    rw [found, Option.any_some]
    rw [← same] at hasKey
    exact hasKey
  · exact leadsToKeyed_iff.mp leads

/-! ## Operations -/

theorem keepsHashed_of_bindings (same : after.bindings = state.bindings) :
    state.KeepsHashed after := by
  intro binding member hashed _
  exact .inl ⟨binding, same ▸ member, rfl, rfl, hashed⟩

theorem settle_keepsHashed {result : Except Diagnostic Outcome}
    (accepted : ∀ outcome, result = .ok outcome → state.KeepsHashed outcome.state) :
    state.KeepsHashed (state.settle result).state := by
  cases result with
  | ok outcome => exact accepted outcome rfl
  | error diagnostic => exact keepsHashed_of_bindings rfl

theorem withAccess_keepsHashed {operate : Access → Except Diagnostic Outcome}
    (operates : ∀ access outcome, state.reach? name = some access →
      operate access = .ok outcome → state.KeepsHashed outcome.state) :
    state.KeepsHashed (state.settle (state.withAccess name span operate)).state := by
  apply settle_keepsHashed
  intro outcome passed
  simp only [withAccess, Check.bind_eq_ok] at passed
  obtain ⟨reached, found, passed⟩ := passed
  cases reached with
  | none =>
      rw [← Check.pure_eq_ok.mp passed]
      exact keepsHashed_of_bindings rfl
  | some access => exact operates access outcome (access_eq_ok_iff.mp found) passed

/-- A new binding without a referent, or with another perspective, or that leads to keys. -/
theorem keepsHashed_addBinding {perspective : Perspective}
    (leads : perspective = .hashed → referent ≠ .poisoned → state.LeadsToKeyed referent) :
    state.KeepsHashed (state.addBinding name referent perspective span).2 := by
  intro binding member hashed refers
  rcases List.mem_append.mp member with old | new
  · exact .inl ⟨binding, old, rfl, rfl, hashed⟩
  · rw [List.mem_singleton] at new
    rw [new] at hashed refers ⊢
    exact .inr (leads hashed refers)

/-- A binding that is changed where it is hashed afterwards and leads to keys. -/
theorem keepsHashed_modifyBinding {id : BindingId} {change : Binding → Binding}
    (changed : ∀ old, state.binding? id = some old → (change old).perspective = .hashed →
      (change old).referent ≠ .poisoned →
      ((change old).scope = old.scope ∧ (change old).referent = old.referent ∧
        old.perspective = .hashed) ∨ state.LeadsToKeyed (change old).referent) :
    state.KeepsHashed (state.modifyBinding id change) := by
  intro binding member hashed refers
  obtain ⟨index, found⟩ := List.mem_iff_getElem?.mp member
  have found : (state.modifyBinding id change).binding? ⟨index⟩ = some binding := found
  rw [binding?_modifyBinding] at found
  split at found
  · rename_i same
    obtain ⟨old, lookup, rfl⟩ := Option.map_eq_some_iff.mp found
    rcases changed old (same ▸ lookup) hashed refers with ⟨scope, referent, was⟩ | leads
    · exact .inl ⟨old, List.mem_of_getElem? lookup, scope.symm, referent.symm, was⟩
    · exact .inr leads
  · exact .inl ⟨binding, List.mem_of_getElem? found, rfl, rfl, hashed⟩

theorem declarePoisoned_keepsHashed {reports : List Diagnostic} {outcome : Outcome}
    (passed : state.declarePoisoned name reports span = .ok outcome) :
    state.KeepsHashed outcome.state := by
  simp only [declarePoisoned, Check.bind_eq_ok, Check.pure_eq_ok] at passed
  obtain ⟨⟨binding, after⟩, declared, rfl⟩ := passed
  obtain rfl : _ = after := congrArg (·.2) (declareBinding_eq_ok declared)
  exact keepsHashed_addBinding fun _ refers => (refers rfl).elim

/-- A container that is bound under the hashed perspective has keys. -/
theorem bind_keepsHashed (sound : state.Sound) {container : String}
    {perspective : Option Perspective} :
    state.KeepsHashed (state.settle (state.bind name container perspective span)).state := by
  apply settle_keepsHashed
  intro outcome passed
  simp only [State.bind, Check.bind_eq_ok] at passed
  obtain ⟨_, -, passed⟩ := passed
  split at passed
  · rename_i checked
    simp only [Check.bind_eq_ok, Check.pure_eq_ok] at passed
    obtain ⟨⟨binding, after⟩, declared, rfl⟩ := passed
    obtain rfl : _ = after := congrArg (·.2) (declareBinding_eq_ok declared)
    simp only [checkBind, Check.throw_eq_error, Check.error_bind, Check.reject_eq_ok,
      Check.bind_eq_ok, Check.pure_eq_ok] at checked
    obtain ⟨found, lookup, _, -, keyed, rfl⟩ := checked
    apply keepsHashed_addBinding
    intro hashed _
    have asked : perspective = some .hashed := by
      cases perspective with
      | none => contradiction
      | some perspective => exact congrArg some hashed
    have hasKey : found.isKeyed = true := by simpa [asked] using keyed
    refine ⟨found.declaration, ?_, hasKey⟩
    rw [referred?, declaration?, (lookupContainer_eq_ok sound lookup).1, Option.map_some]
  · exact declarePoisoned_keepsHashed passed

/-- A view starts under the lifo perspective. -/
theorem borrow_keepsHashed {source : String} {extent : Extent} {mode : BorrowMode} :
    state.KeepsHashed (state.settle (state.borrow name source extent mode span)).state := by
  apply settle_keepsHashed
  intro outcome passed
  simp only [State.borrow, Check.bind_eq_ok] at passed
  obtain ⟨_, -, passed⟩ := passed
  split at passed
  · rename_i id container borrowed tried
    simp only [Check.bind_eq_ok, Check.pure_eq_ok] at passed
    obtain ⟨⟨binding, after⟩, declared, rfl⟩ := passed
    obtain rfl : _ = after := congrArg (·.2) (declareBinding_eq_ok declared)
    have bindings : borrowed.bindings = state.bindings := by
      simp only [tryBorrow, Check.bind_eq_ok] at tried
      obtain ⟨reached, -, tried⟩ := tried
      split at tried
      · simp at tried
      · simp only [Check.bind_eq_ok, Check.pure_eq_ok, Option.some.injEq] at tried
        obtain ⟨region, -, lent, added, same⟩ := tried
        cases same
        exact bindings_addBorrow added
    intro binding member hashed _
    rcases List.mem_append.mp member with old | new
    · exact .inl ⟨binding, bindings ▸ old, rfl, rfl, hashed⟩
    · rw [List.mem_singleton.mp new] at hashed
      contradiction
  · exact declarePoisoned_keepsHashed passed
  · exact declarePoisoned_keepsHashed passed

/-- The hashed perspective is set where there are keys. -/
theorem setPerspective_keepsHashed (sound : state.Sound) {perspective : Perspective} :
    state.KeepsHashed (state.settle (state.setPerspective name perspective span)).state := by
  apply withAccess_keepsHashed
  intro access outcome reached passed
  obtain ⟨reaches, -, found⟩ := sound.reach reached span
  simp only [Check.bind_eq_ok, Check.pure_eq_ok] at passed
  obtain ⟨⟨_, stance⟩, set, rfl⟩ := passed
  apply keepsHashed_modifyBinding
  intro old lookup hashed _
  rw [Option.some.inj (lookup.symm.trans reaches.binding)] at hashed ⊢
  change stance.current = .hashed at hashed
  simp only [Stance.set] at set
  split at set
  · cases set
    exact .inl ⟨rfl, rfl, hashed⟩
  · rw [Check.reject_eq_ok] at set
    obtain ⟨keyed, same⟩ := set
    cases same
    have asked : perspective = .hashed := hashed
    have leads : state.LeadsToKeyed access.binding.referent :=
      leadsToKeyed_of_accessOf? found (by simpa [asked] using keyed)
    exact .inr leads

/-- A flip never leads to the hashed perspective. -/
theorem flip_keepsHashed :
    state.KeepsHashed (state.settle (state.flip name span)).state := by
  apply withAccess_keepsHashed
  intro access outcome _ passed
  simp only [Check.bind_eq_ok, Check.pure_eq_ok] at passed
  obtain ⟨stance, flipped, rfl⟩ := passed
  apply keepsHashed_modifyBinding
  intro old _ hashed _
  change stance.current = .hashed at hashed
  unfold Stance.flip at flipped
  split at flipped
  · rename_i target found
    cases flipped
    rw [show target = .hashed from hashed] at found
    cases current : access.binding.stance.current <;> simp [current, Perspective.flipped?] at found
  · contradiction

/-- Tasks move containers and leave bindings alone. -/
theorem bindings_spawn {captures : List Capture} :
    (state.spawn captures span).state.bindings = state.bindings := by
  have moved : ∀ (ids : List ContainerId) (state : State),
      (ids.foldl (fun state id => state.markMoved id span) state).bindings = state.bindings := by
    intro ids
    induction ids with
    | nil => exact fun _ => rfl
    | cons first rest ih => exact fun state => ih (state.markMoved first span)
  simp only [spawn]
  split
  · exact moved _ state
  · rfl

/-! ## Captures -/

/-- A capture that is let through hands over what its source reaches. -/
theorem accessOf?_of_captured {target source : Binding} {container : Container}
    (checked : state.checkCapture target source span = .ok (some container)) :
    ∃ access, state.accessOf? source = some access ∧ access.container = container := by
  unfold checkCapture at checked
  unfold accessOf?
  split at checked
  · simp at checked
  · rename_i id referent
    split at checked
    · simp at checked
    · rename_i record found
      split at checked
      · have there : state.container? record.container = some container := Except.ok.inj checked
        exact ⟨⟨source, container, some record⟩, by simp [referent, found, there], rfl⟩
      · contradiction
  · rename_i id referent
    split at checked
    · simp at checked
    · rename_i there found
      simp only [Check.bind_eq_ok, Check.pure_eq_ok, Option.some.injEq] at checked
      obtain ⟨_, -, rfl⟩ := checked
      exact ⟨⟨source, there, none⟩, by simp [referent, found], rfl⟩

/-- An accepted capture: what it points a binding at has the key type of what the binding reached
before, if it reached anything. -/
structure Captures (state after : State) (target source : Binding) (access : Access)
    (span : Span) : Prop where
  reached : state.accessOf? source = some access
  typed : ∀ current, state.accessOf? target = some current →
    current.container.key = access.container.key
  after : after = state.modifyBinding target.id fun _ =>
    { target with
      referent := source.referent
      capturedAt := some span }

theorem capture_accepted {source : String}
    (accepted : (state.settle (state.capture name source span)).verdict.ok = true) :
    ∃ target origin access, state.lookupBinding name span = .ok target ∧
      state.lookupBinding source span = .ok origin ∧
      state.Captures (state.settle (state.capture name source span)).state target origin access
        span := by
  obtain ⟨outcome, passed, accepted⟩ := settle_accepted accepted
  rw [passed]
  simp only [capture, Check.bind_eq_ok] at passed
  obtain ⟨target, targetFound, origin, originFound, passed⟩ := passed
  refine ⟨target, origin, ?_⟩
  split at passed
  · rw [← Check.pure_eq_ok.mp passed] at accepted
    contradiction
  · rw [Check.bind_eq_ok] at passed
    obtain ⟨captured, checked, passed⟩ := passed
    split at passed
    · rw [← Check.pure_eq_ok.mp passed] at accepted
      contradiction
    · rename_i container
      rw [Check.bind_eq_ok] at passed
      obtain ⟨_, typed, passed⟩ := passed
      obtain ⟨access, reached, rfl⟩ := accessOf?_of_captured checked
      refine ⟨access, targetFound, originFound, reached, ?_, ?_⟩
      · intro current found
        simp only [checkCaptureTypes, found, Check.reject_eq_ok, Bool.or_eq_true,
          decide_eq_true_eq, not_or, not_not] at typed
        exact typed.1.2
      · split at passed <;> rw [Check.pure_eq_ok] at passed <;> rw [settle, ← passed]

theorem capture_keepsHashed (keyed : state.HashedKeyed) (sound : state.Sound) {source : String}
    (unrevived : ¬state.RevivesUnkeyed ⟨.capture name source, span⟩) :
    state.KeepsHashed (state.settle (state.capture name source span)).state := by
  cases accepted : (state.settle (state.capture name source span)).verdict.ok with
  | false =>
      have same : (state.perform (.capture name source) span).state = state :=
        perform_refused sound accepted nofun
      exact keepsHashed_of_bindings (congrArg (·.bindings) same)
  | true =>
      obtain ⟨target, origin, access, targetFound, originFound, captures⟩ :=
        capture_accepted accepted
      rw [captures.after]
      apply keepsHashed_modifyBinding
      intro _ _ hashed _
      have hashed : target.perspective = .hashed := hashed
      have leads : access.container.isKeyed = true → state.LeadsToKeyed origin.referent :=
        leadsToKeyed_of_accessOf? captures.reached
      refine .inr (leads ?_)
      obtain ⟨stored, opened⟩ := lookupBinding_eq_ok sound targetFound
      cases current : state.accessOf? target with
      | some reached =>
          have live : target ∈ state.liveBindings := List.mem_filter.mpr
            ⟨List.mem_of_getElem? stored, sound.scopes.isOpen_iff.mpr opened⟩
          have refers : target.referent ≠ .poisoned := by
            intro poisoned
            simp [accessOf?, poisoned] at current
          have hasKey := keyed target live hashed refers
          rw [current, Option.any_some, Container.isKeyed, captures.typed reached current] at hasKey
          exact hasKey
      | none =>
          by_contra unkeyed
          apply unrevived
          refine ⟨name, source, target, access, rfl, accepted,
            lookupBinding_eq_ok_iff.mp targetFound, ?_, hashed, ?_, by simpa using unkeyed⟩
          · by_contra refers
            exact sound.accessOf?_ne_none stored opened refers current
          · rw [reach?, lookupBinding_eq_ok_iff.mp originFound, Option.bind_some]
            exact captures.reached

/-- A binding that was pointed at a container without a key type reaches one. -/
theorem RevivesUnkeyed.not_hashedKeyed (sound : state.Sound) {node : Node}
    (revives : state.RevivesUnkeyed node) :
    ¬(state.perform node.operation node.span).state.HashedKeyed := by
  obtain ⟨name, source, binding, access, operation, accepted, lookup, -, hashed, reached,
    unkeyed⟩ := revives
  rw [operation] at accepted ⊢
  obtain ⟨target, origin, other, targetFound, originFound, captures⟩ := capture_accepted accepted
  obtain rfl : target = binding :=
    Option.some.inj ((lookupBinding_eq_ok_iff.mp targetFound).symm.trans lookup)
  rw [reach?, lookupBinding_eq_ok_iff.mp originFound, Option.bind_some, captures.reached] at reached
  obtain rfl : other = access := Option.some.inj reached
  obtain ⟨stored, opened⟩ := lookupBinding_eq_ok sound targetFound
  intro keyed
  change (state.settle (state.capture name source node.span)).state.HashedKeyed at keyed
  rw [captures.after] at keyed
  have captured : (state.modifyBinding target.id fun _ =>
      { target with
        referent := origin.referent
        capturedAt := some node.span }).binding? target.id =
      some { target with
        referent := origin.referent
        capturedAt := some node.span } := by
    rw [binding?_modifyBinding, if_pos rfl, stored, Option.map_some]
  have refers : origin.referent ≠ .poisoned := by
    intro poisoned
    have nothing := captures.reached
    simp [accessOf?, poisoned] at nothing
  have hasKey := keyed _ (List.mem_filter.mpr
    ⟨List.mem_of_getElem? captured, sound.scopes.isOpen_iff.mpr opened⟩) hashed refers
  rw [← leadsToKeyed_iff] at hasKey
  have leads : state.LeadsToKeyed origin.referent := hasKey
  rw [leadsToKeyed_iff, captures.reached, Option.any_some, unkeyed] at leads
  contradiction

/-! ## Exits -/

/-- No binding got a referent. -/
def Deprives (state after : State) : Prop :=
  ∀ binding ∈ after.bindings, binding.referent ≠ .poisoned → binding ∈ state.bindings

theorem Deprives.refl (state : State) : state.Deprives state :=
  fun _ member _ => member

theorem Deprives.trans {middle : State} (first : state.Deprives middle)
    (second : middle.Deprives after) : state.Deprives after :=
  fun binding member refers => first binding (second binding member refers) refers

theorem poisonAll_deprives {bindings : List Binding} {cause : Binding → LifetimeBreach} :
    state.Deprives (state.poisonAll bindings cause span).state := by
  intro binding member refers
  obtain ⟨index, found⟩ := List.mem_iff_getElem?.mp member
  exact List.mem_of_getElem? (@binding?_poisonAll _ _ _ _ ⟨index⟩ _ found refers).1

theorem endContainer_deprives (id : ContainerId) (span : Span) :
    state.Deprives (state.endContainer id span).state := by
  unfold endContainer
  split
  · exact .refl state
  · split
    · exact .refl state
    · split
      · exact poisonAll_deprives
      · exact .refl state
      · exact .refl state

theorem endContainers_deprives (ids : List ContainerId) (span : Span) :
    state.Deprives (state.endContainers ids span).state := by
  induction ids generalizing state with
  | nil => exact .refl state
  | cons id rest ih =>
      rw [endContainers_cons]
      exact (endContainer_deprives id span).trans ih

theorem closeScope_deprives (scope : ScopeId) :
    state.Deprives (state.closeScope scope span).state := by
  have ended : state.Deprives
      ({ state with ledger := (state.ledger.releaseScope scope).2 }.endContainers
        (state.scopes.declaredIn scope) span).state := endContainers_deprives _ span
  simp only [closeScope]
  exact ended.trans poisonAll_deprives

theorem exitScope_deprives : state.Deprives (state.exitScope span).state := by
  unfold exitScope
  split
  · rename_i closing exits
    obtain ⟨⟨scope, scopes⟩, -, rfl⟩ := Option.map_eq_some_iff.mp exits
    exact @closeScope_deprives { state with scopes } span scope
  · exact .refl state

theorem Deprives.keepsHashed (deprives : state.Deprives after) : state.KeepsHashed after :=
  fun binding member hashed refers =>
    .inl ⟨binding, deprives binding member refers, rfl, rfl, hashed⟩

/-! ## All operations -/

theorem perform_keepsHashed (keyed : state.HashedKeyed) (sound : state.Sound) (node : Node)
    (unrevived : ¬state.RevivesUnkeyed node) :
    state.KeepsHashed (state.perform node.operation node.span).state := by
  obtain ⟨operation, span⟩ := node
  cases operation with
  | declare container element key mode =>
      apply settle_keepsHashed
      intro outcome passed
      simp only [declare, Check.bind_eq_ok, Check.pure_eq_ok] at passed
      obtain ⟨⟨container, after⟩, declared, rfl⟩ := passed
      obtain ⟨-, rfl⟩ := register_eq_ok declared
      exact keepsHashed_of_bindings rfl
  | bind binding container perspective => exact bind_keepsHashed sound
  | push binding operand key conversion =>
      cases operand with
      | value literal =>
          apply withAccess_keepsHashed
          intro access outcome _ passed
          simp only [Check.bind_eq_ok, Check.pure_eq_ok] at passed
          obtain ⟨_, -, _, -, _, -, _, -, rfl⟩ := passed
          exact keepsHashed_of_bindings bindings_insert
      | transfer source effect =>
          apply withAccess_keepsHashed
          intro target outcome _ passed
          rw [Check.bind_eq_ok] at passed
          obtain ⟨reached, -, passed⟩ := passed
          cases reached with
          | none =>
              rw [← Check.pure_eq_ok.mp passed]
              exact keepsHashed_of_bindings rfl
          | some origin =>
              simp only [Check.bind_eq_ok, Check.pure_eq_ok] at passed
              obtain ⟨_, -, _, carriedOut, rfl⟩ := passed
              exact keepsHashed_of_bindings (bindings_commitTransfer carriedOut)
  | pop binding extent =>
      apply withAccess_keepsHashed
      intro access outcome _ passed
      simp only [Check.bind_eq_ok, Check.pure_eq_ok] at passed
      obtain ⟨_, -, rfl⟩ := passed
      exact keepsHashed_of_bindings bindings_remove
  | peek binding extent =>
      apply withAccess_keepsHashed
      intro access outcome _ passed
      simp only [Check.bind_eq_ok, Check.pure_eq_ok] at passed
      obtain ⟨_, -, rfl⟩ := passed
      exact keepsHashed_of_bindings rfl
  | borrow binding source extent mode => exact borrow_keepsHashed
  | setPerspective binding perspective => exact setPerspective_keepsHashed sound
  | flip binding => exact flip_keepsHashed
  | capture target source => exact capture_keepsHashed keyed sound unrevived
  | release binding =>
      apply withAccess_keepsHashed
      intro access outcome _ passed
      simp only [Check.throw_eq_error, Check.error_bind, Check.reject_eq_ok, Check.bind_eq_ok,
        Check.pure_eq_ok] at passed
      obtain ⟨_, -, -, -, rfl⟩ := passed
      exact keepsHashed_of_bindings rfl
  | choose binding arms fallback =>
      apply withAccess_keepsHashed
      intro access outcome _ passed
      rw [← Except.ok.inj passed]
      exact keepsHashed_of_bindings rfl
  | enterScope kind => exact keepsHashed_of_bindings rfl
  | exitScope => exact exitScope_deprives.keepsHashed
  | spawn captures => exact keepsHashed_of_bindings bindings_spawn

/-- Only captures that point a hashed binding without a referent at a container without a key type
leave a hashed binding without keys. -/
theorem HashedKeyed.perform_iff (keyed : state.HashedKeyed) (sound : state.Sound) (node : Node) :
    (state.perform node.operation node.span).state.HashedKeyed ↔ ¬state.RevivesUnkeyed node := by
  constructor
  · intro after revives
    exact revives.not_hashedKeyed sound after
  · intro unrevived
    have changes := perform_changes sound node.operation node.span
    exact keyed.kept sound (changes.sound sound) (changes.continues sound)
      (perform_keepsHashed keyed sound node unrevived)

end State

namespace Verification

/-- In all states of a run the hashed bindings that have a referent reach containers with a key
type exactly if no capture pointed a hashed binding without a referent at a container without
one. -/
theorem hashed_keyed_iff (nodes : List Node) :
    (∀ before, before <+: nodes → (run {} before).state.HashedKeyed) ↔
      ∀ before node, before ++ [node] <+: nodes → ¬(run {} before).state.RevivesUnkeyed node := by
  apply run_all_iff
  · intro binding unbound
    contradiction
  · intro state node sound keyed
    exact keyed.perform_iff sound node

/-- A run in which a hashed binding is pointed at a container of an inner scope, loses its referent
when that scope exits, and is pointed at a container without a key type. -/
def revival : List Node :=
  [⟨.declare "K" .integer (some .string) .owned, {}⟩,
    ⟨.bind "x" "K" (some .hashed), {}⟩,
    ⟨.enterScope .block, {}⟩,
    ⟨.declare "L" .integer (some .string) .owned, {}⟩,
    ⟨.bind "l" "L" none, {}⟩,
    ⟨.capture "x" "l", {}⟩,
    ⟨.exitScope, {}⟩,
    ⟨.declare "U" .integer none .owned, {}⟩,
    ⟨.bind "u" "U" none, {}⟩,
    ⟨.capture "x" "u", {}⟩]

/-- The capture is accepted, and the binding is hashed without keys. -/
theorem capture_unkeys_hashed :
    ((run {} revival).nodes.getLast?.any (·.verdict.ok)) = true ∧
      ¬(run {} revival).state.HashedKeyed := by
  decide

end Verification

end Custody
