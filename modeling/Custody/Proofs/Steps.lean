import Custody.Proofs.Changes

/-!
# Operations as changes

Every operation, accepted or rejected, takes a sound state through checked changes only.  There is
one lemma for each operation; the pushes from one container to another, which consist of several
changes, have a module of their own.
-/

namespace Custody

namespace State

variable {state : State} {span : Span} {name : String} {outcome : Outcome}

/-! ## Accesses -/

theorem Reaches.acts {access : Access} (sound : state.Sound) (reaches : state.Reaches access) :
    state.ledger.Acts access.record? access.container.id := by
  intro record member named
  rw [Access.record?] at named
  cases viewed : access.view with
  | none => simp [viewed] at named
  | some own =>
      obtain ⟨-, ownMember, onContainer⟩ := reaches.view viewed
      rw [viewed, Option.map_some, Option.some.injEq] at named
      rw [sound.ledger.eq_of_id_eq member ownMember named]
      exact onContainer

theorem Reaches.content {access : Access} (reaches : state.Reaches access) :
    state.content access.container.id = access.container.content :=
  content_eq reaches.container

theorem Reaches.declaration {access : Access} (reaches : state.Reaches access) :
    state.declaration? access.container.id = some access.container.declaration := by
  rw [declaration?, reaches.container]
  rfl

theorem Reaches.unmoved {access : Access} (reaches : state.Reaches access)
    (usable : access.container.ensureUsable span = .ok ()) :
    state.Unmoved access.container.id := by
  intro container found
  rw [Option.some.inj (found.symm.trans reaches.container)]
  exact (Container.ensureUsable_eq_ok usable).1

/-- An operation on what a name reaches is carried out on an access that is up to date, or left
out. -/
theorem withAccess_changes {act : Act} (sound : state.Sound)
    {operate : Access → Except Diagnostic Outcome}
    (passed : state.withAccess name span operate = .ok outcome)
    (operates : ∀ access, state.Reaches access → access.record? = state.viewOf? name →
      operate access = .ok outcome → Changes act state outcome.state) :
    Changes act state outcome.state := by
  simp only [withAccess, Check.bind_eq_ok] at passed
  obtain ⟨reached, found, rest⟩ := passed
  split at rest
  · rename_i access
    obtain ⟨reaches, lookup⟩ := access_eq_ok sound found
    exact operates access reaches (reaches.record?_eq lookup) rest
  · rw [Check.pure_eq_ok] at rest
    exact rest ▸ .refl

theorem settle_accepted {result : Except Diagnostic Outcome}
    (accepted : (state.settle result).verdict.ok = true) :
    ∃ outcome, result = .ok outcome ∧ outcome.verdict.ok = true := by
  cases result with
  | ok outcome => exact ⟨outcome, rfl, accepted⟩
  | error diagnostic => contradiction

/-- An operation on what a name reaches is accepted only if the name reaches something. -/
theorem withAccess_accepted {operate : Access → Except Diagnostic Outcome}
    (accepted : (state.settle (state.withAccess name span operate)).verdict.ok = true) :
    ∃ access, state.access name span = .ok (some access) ∧
      operate access = .ok (state.settle (state.withAccess name span operate)) := by
  cases result : state.withAccess name span operate with
  | error diagnostic =>
      rw [result] at accepted
      contradiction
  | ok outcome =>
      rw [result] at accepted
      simp only [withAccess, Check.bind_eq_ok] at result
      obtain ⟨reached, found, result⟩ := result
      cases reached with
      | none =>
          rw [Check.pure_eq_ok] at result
          rw [← result] at accepted
          contradiction
      | some access => exact ⟨access, found, result⟩

/-- A rejected operation changes nothing. -/
theorem settle_changes {act : Act} {result : Except Diagnostic Outcome}
    (accepted : ∀ {outcome}, result = .ok outcome → Changes act state outcome.state) :
    Changes act state (state.settle result).state := by
  cases result with
  | ok outcome => exact accepted rfl
  | error diagnostic => exact .refl

/-! ## Declarations -/

theorem declare_changes {act : Act} {element : Element} {key : Option Element} {mode : Mode}
    (passed : state.declare name element key mode span = .ok outcome) :
    Changes act state outcome.state := by
  simp only [declare, Check.bind_eq_ok, Check.pure_eq_ok] at passed
  obtain ⟨⟨container, after⟩, declared, rfl⟩ := passed
  exact .single (.declare declared)

theorem declarePoisoned_changes {act : Act} {reports : List Diagnostic}
    (passed : state.declarePoisoned name reports span = .ok outcome) :
    Changes act state outcome.state := by
  simp only [declarePoisoned, Check.bind_eq_ok, Check.pure_eq_ok] at passed
  obtain ⟨⟨binding, after⟩, declared, rfl⟩ := passed
  have added := congrArg (·.2) (declareBinding_eq_ok declared)
  exact .single (added ▸ .bind trivial)

theorem bind_changes {act : Act} (sound : state.Sound) {container : String}
    {perspective : Option Perspective}
    (passed : state.bind name container perspective span = .ok outcome) :
    Changes act state outcome.state := by
  simp only [State.bind, Check.bind_eq_ok] at passed
  obtain ⟨_, -, passed⟩ := passed
  split at passed
  · rename_i found checked
    simp only [Check.bind_eq_ok, Check.pure_eq_ok] at passed
    obtain ⟨⟨binding, after⟩, declared, rfl⟩ := passed
    have added := congrArg (·.2) (declareBinding_eq_ok declared)
    simp only [checkBind, Check.throw_eq_error, Check.error_bind, Check.reject_eq_ok,
      Check.bind_eq_ok, Check.pure_eq_ok] at checked
    obtain ⟨_, lookup, _, usable, -, rfl⟩ := checked
    obtain ⟨stored, -⟩ := lookupContainer_eq_ok sound lookup
    exact .single (added ▸ .bind ⟨_, stored, (Container.ensureUsable_eq_ok usable).2⟩)
  · exact declarePoisoned_changes passed

theorem setPerspective_changes {act : Act} (sound : state.Sound) {perspective : Perspective}
    (passed : state.setPerspective name perspective span = .ok outcome) :
    Changes act state outcome.state := by
  apply withAccess_changes sound passed
  intro access _ _ passed
  simp only [Check.bind_eq_ok, Check.pure_eq_ok] at passed
  obtain ⟨⟨_, stance⟩, -, rfl⟩ := passed
  exact .single .stand

theorem flip_changes {act : Act} (sound : state.Sound)
    (passed : state.flip name span = .ok outcome) : Changes act state outcome.state := by
  apply withAccess_changes sound passed
  intro access _ _ passed
  simp only [Check.bind_eq_ok, Check.pure_eq_ok] at passed
  obtain ⟨stance, -, rfl⟩ := passed
  exact .single .stand

theorem choose_changes {act : Act} (sound : state.Sound) {arms : List Perspective} {fallback : Bool}
    (passed : state.choose name arms fallback span = .ok outcome) :
    Changes act state outcome.state := by
  apply withAccess_changes sound passed
  intro access _ _ passed
  simp only [Except.ok.injEq] at passed
  subst passed
  exact .refl

theorem peek_changes {act : Act} (sound : state.Sound) {extent : Option Extent}
    (passed : state.peek name extent span = .ok outcome) : Changes act state outcome.state := by
  apply withAccess_changes sound passed
  intro access _ _ passed
  simp only [Check.bind_eq_ok, Check.pure_eq_ok] at passed
  obtain ⟨slots, -, rfl⟩ := passed
  exact .refl

theorem exitScope_changes {act : Act} : Changes act state (state.exitScope span).state := by
  unfold exitScope
  split
  · rename_i closing exits
    exact .single (.exit exits)
  · exact .refl

/-! ## Captures, tasks and releases -/

/-- What may be captured is there for the scope of the one that captures it. -/
theorem checkCapture_eq_ok (sound : state.Sound) {target source : Binding} {container : Container}
    (passed : state.checkCapture target source span = .ok (some container)) :
    state.Grounds target.scope source.referent := by
  unfold checkCapture at passed
  split at passed
  · simp at passed
  · rename_i id referent
    rw [referent]
    split at passed
    · simp at passed
    · rename_i record found
      split at passed
      · rename_i outlives
        obtain ⟨member, sameId⟩ := Ledger.mem_of_get? found
        exact ⟨record, member, sameId, (ScopeTree.outlives_iff sound.scopes).mp outlives⟩
      · contradiction
  · rename_i id referent
    rw [referent]
    split at passed
    · simp at passed
    · rename_i there found
      simp only [Check.bind_eq_ok] at passed
      obtain ⟨_, usable, -⟩ := passed
      exact ⟨there, found, (Container.ensureUsable_eq_ok usable).2⟩

/-- What a capture hands over is reached by every binding that refers to it. -/
theorem accessOf?_of_checkCapture {target source captured : Binding} {container : Container}
    (checked : state.checkCapture target source span = .ok (some container))
    (same : captured.referent = source.referent) :
    ∃ access, state.accessOf? captured = some access := by
  unfold checkCapture at checked
  unfold accessOf?
  rw [same]
  split at checked
  · simp at checked
  · rename_i id referent
    split at checked
    · simp at checked
    · rename_i record found
      split at checked
      · have there : state.container? record.container = some container := Except.ok.inj checked
        exact ⟨⟨captured, container, some record⟩, by simp [referent, found, there]⟩
      · contradiction
  · rename_i id referent
    split at checked
    · simp at checked
    · rename_i there found
      exact ⟨⟨captured, there, none⟩, by simp [referent, found]⟩

theorem capture_changes {act : Act} (sound : state.Sound) {source : String}
    (passed : state.capture name source span = .ok outcome) :
    Changes act state outcome.state := by
  simp only [capture, Check.bind_eq_ok] at passed
  obtain ⟨target, targetFound, origin, -, passed⟩ := passed
  split at passed
  · rw [Check.pure_eq_ok] at passed
    exact passed ▸ .refl
  · rw [Check.bind_eq_ok] at passed
    obtain ⟨captured, checked, passed⟩ := passed
    split at passed
    · rw [Check.pure_eq_ok] at passed
      exact passed ▸ .refl
    · rw [Check.bind_eq_ok] at passed
      obtain ⟨_, -, passed⟩ := passed
      have changed : outcome.state = state.modifyBinding target.id fun _ =>
          { target with
            referent := origin.referent
            capturedAt := some span } := by
        split at passed <;> rw [Check.pure_eq_ok] at passed <;> rw [← passed]
      rw [changed]
      exact .single (.capture (lookupBinding_eq_ok sound targetFound).1
        (checkCapture_eq_ok sound checked))

/-- A container that may be taken and has no checked borrow has no borrow at all. -/
theorem unborrowed_of_firstOn? (sound : state.Sound) {container : Container}
    (found : state.container? container.id = some container)
    (owned : container.mode.canTake = true)
    (free : state.ledger.firstOn? container.id none = none) :
    ∀ record ∈ state.ledger.records, record.container ≠ container.id := by
  intro record member onContainer
  have ledgered : record.ledgered = true := by
    rw [(sound.backs member (onContainer ▸ found)).ledgered]
    cases mode : container.mode <;> simp_all [Mode.canTake, Mode.isLedgered]
  have listed := sound.ledger.mem_recordsOn.mpr ⟨member, onContainer⟩
  have passes := List.find?_eq_none.mp free record listed
  simp [ledgered] at passes

/-- What may be taken, is in use and has no checked borrow can be moved. -/
theorem Reaches.movable {access : Access} (sound : state.Sound) (reaches : state.Reaches access)
    (usable : access.container.ensureUsable span = .ok ())
    (owned : access.container.mode.canTake = true)
    (free : state.ledger.firstOn? access.container.id none = none) :
    state.Movable access.container.id span where
  unborrowed := unborrowed_of_firstOn? sound reaches.container owned free
  owned := ⟨_, reaches.declaration, owned⟩
  once := fun container found => .inl (reaches.unmoved usable container found)

/-- What may be moved still may once the operation has moved something. -/
theorem Movable.markMoved {id : ContainerId} (movable : state.Movable id span)
    (other : ContainerId) : (state.markMoved other span).Movable id span where
  unborrowed := movable.unborrowed
  owned := by
    obtain ⟨declared, found, owned⟩ := movable.owned
    exact ⟨declared, (declaration?_modifyContainer (by intro; rfl) _).trans found, owned⟩
  once := by
    intro container found
    obtain ⟨old, lookup, rfl⟩ := container?_modifyContainer_eq_some found
    split
    · exact .inr rfl
    · exact movable.once old lookup

/-- A container that moves into a task can be moved. -/
theorem checkTaskCapture_eq_ok (sound : state.Sound) {capture : Capture} {id : ContainerId}
    (passed : state.checkTaskCapture capture span = .ok (some id)) : state.Movable id span := by
  simp only [checkTaskCapture, Check.bind_eq_ok] at passed
  obtain ⟨binding, lookup, passed⟩ := passed
  split at passed
  · simp at passed
  · split at passed <;> simp at passed
  · rename_i container reached
    obtain ⟨stored, opened⟩ := lookupBinding_eq_ok sound lookup
    obtain ⟨-, reaches⟩ := accessOf?_eq_some sound stored opened reached
    rw [Check.bind_eq_ok] at passed
    obtain ⟨_, usable, passed⟩ := passed
    split at passed
    · split at passed <;> simp at passed
    · simp only [Check.throw_eq_error, Check.reject_eq_ok] at passed
      obtain ⟨-, takeable, passed⟩ := passed
      split at passed
      · contradiction
      · rename_i free
        rw [Check.pure_eq_ok, Option.some.injEq] at passed
        exact passed ▸ reaches.movable sound usable (by simpa using takeable) free

theorem markMoved_changes {act : Act} {moved : List ContainerId}
    (movable : ∀ id ∈ moved, state.Movable id span) :
    Changes act state (moved.foldl (fun state id => state.markMoved id span) state) := by
  induction moved generalizing state with
  | nil => exact .refl
  | cons id rest ih =>
      refine .head (.move (movable id (by simp))) (@ih (state.markMoved id span) ?_)
      intro other member
      exact (movable other (List.mem_cons_of_mem id member)).markMoved id

theorem spawn_changes {act : Act} (sound : state.Sound) (captures : List Capture) :
    Changes act state (state.spawn captures span).state := by
  simp only [spawn]
  split
  · apply markMoved_changes
    intro id member
    simp only [List.mem_filterMap, List.mem_map] at member
    obtain ⟨_, ⟨capture, -, rfl⟩, taken⟩ := member
    cases checked : state.checkTaskCapture capture span with
    | error diagnostic => simp [checked, Except.toOption] at taken
    | ok result =>
        simp only [checked, Except.toOption, Option.bind_some, id_eq] at taken
        exact checkTaskCapture_eq_ok sound (taken ▸ checked)
  · exact .refl

theorem release_changes {act : Act} (sound : state.Sound)
    (passed : state.release name span = .ok outcome) : Changes act state outcome.state := by
  apply withAccess_changes sound passed
  intro access reaches _ passed
  simp only [Check.throw_eq_error, Check.error_bind, Check.reject_eq_ok, Check.bind_eq_ok,
    Check.pure_eq_ok] at passed
  obtain ⟨_, usable, shared, -, rfl⟩ := passed
  refine .single (.release ⟨_, reaches.declaration, not_not.mp shared⟩ ?_)
  intro container found
  rw [Option.some.inj (found.symm.trans reaches.container)]
  exact usable

/-! ## Pushes of literals, pops and borrows -/

theorem pushValue_changes (sound : state.Sound) {value : Value} {key : Option Value}
    {conversion : Option Conversion}
    (passed : state.pushValue name value key conversion span = .ok outcome) :
    Changes (state.act (.push name (.value value) key conversion)) state outcome.state := by
  apply withAccess_changes sound passed
  intro access reaches actor passed
  change _ = (state.act (.push name (.value value) key conversion)).target at actor
  simp only [Check.bind_eq_ok, Check.pure_eq_ok] at passed
  obtain ⟨_, writable, converted, -, placement, -, _, checked, rfl⟩ := passed
  obtain ⟨usable, mutates⟩ := Access.ensureWritable_eq_ok writable
  refine .single (.insert actor (actor ▸ reaches.acts sound) ?_
    ⟨_, reaches.declaration, mutates⟩ rfl (reaches.unmoved usable))
  intro record rival
  exact .inl (Access.checkInsertions_eq_ok sound reaches.container checked record
    (actor ▸ rival) placement (List.mem_singleton_self placement))

theorem pop_changes (sound : state.Sound) {extent : Option Extent}
    (passed : state.pop name extent span = .ok outcome) :
    Changes (state.act (.pop name extent)) state outcome.state := by
  apply withAccess_changes sound passed
  intro access reaches actor passed
  change _ = (state.act (.pop name extent)).source at actor
  simp only [Check.bind_eq_ok, Check.pure_eq_ok] at passed
  obtain ⟨removed, checked, rfl⟩ := passed
  refine .single (.remove actor (actor ▸ reaches.acts sound) ?_
    (reaches.unmoved (Access.checkPop_writable checked).1))
  intro record rival
  exact Access.checkPop_eq_ok sound reaches.container checked record (actor ▸ rival)

/-- A new borrow of a container whose scope encloses the current one. -/
theorem rooted_lend (sound : state.Sound) {region : Region} {container : Container}
    (ledgered : Bool) (found : state.container? region.container = some container)
    (encloses : state.scopes.Encloses container.scope state.scopes.current) :
    ∀ record ∈ (state.ledger.insert region ledgered).2.records,
      record.id = ⟨state.ledger.nextId⟩ → state.Rooted record := by
  intro record member named
  rw [Ledger.records_insert, List.mem_append, List.mem_singleton] at member
  rcases member with old | rfl
  · have fresh := sound.ledger.fresh record old
    rw [named] at fresh
    exact (Nat.lt_irrefl _ fresh).elim
  · exact ⟨container.declaration, by rw [declaration?, found]; rfl,
      encloses.mem_path sound.scopes sound.scopes.current_mem⟩

theorem borrow_changes (sound : state.Sound) {source : String} {extent : Extent}
    {mode : BorrowMode} (passed : state.borrow name source extent mode span = .ok outcome) :
    Changes (state.act (.borrow name source extent mode)) state outcome.state := by
  simp only [State.borrow, Check.bind_eq_ok] at passed
  obtain ⟨_, -, passed⟩ := passed
  split at passed
  · rename_i id container borrowed tried
    simp only [tryBorrow, Check.bind_eq_ok] at tried
    obtain ⟨reached, found, tried⟩ := tried
    split at tried
    · simp at tried
    · rename_i access
      obtain ⟨reaches, lookup⟩ := access_eq_ok sound found
      have actor : _ = (state.act (.borrow name source extent mode)).source :=
        reaches.record?_eq lookup
      simp only [Check.bind_eq_ok, Check.pure_eq_ok, Option.some.injEq, Prod.mk.injEq] at tried
      obtain ⟨region, checked, ⟨_, _⟩, added, rfl, rfl, rfl⟩ := tried
      obtain ⟨usable, onContainer, here, inside, filled, unheld, outlives⟩ :=
        checkBorrow_eq_ok checked
      have stored : state.container? region.container = some access.container :=
        onContainer ▸ reaches.container
      obtain ⟨rfl, rfl, apart⟩ := addBorrow_eq_ok sound stored added
      simp only [Check.bind_eq_ok, Check.pure_eq_ok] at passed
      obtain ⟨⟨binding, declared⟩, bound, rfl⟩ := passed
      obtain rfl : _ = declared := congrArg (·.2) (declareBinding_eq_ok bound)
      have lent : Change (state.act (.borrow name source extent mode)) state _ :=
        .lend rfl stored (Container.ensureUsable_eq_ok usable) inside here (actor ▸ apart) filled
          unheld
      have grounds : State.Grounds
          { state with
            ledger := (state.ledger.insert region access.container.mode.isLedgered).2 }
          state.scopes.current (.view ⟨state.ledger.nextId⟩) :=
        ⟨_, List.mem_append_right _ (List.mem_singleton_self _), rfl, here ▸ .refl ..⟩
      have rooted := rooted_lend sound access.container.mode.isLedgered stored
        ((ScopeTree.outlives_iff sound.scopes).mp outlives)
      exact .tail (.tail (.single lent) (.bind grounds)) (.hold rooted)
  · exact declarePoisoned_changes passed
  · exact declarePoisoned_changes passed

end State

end Custody
