import Custody.Proofs.Slots
import Custody.Proofs.Soundness
import Custody.Verifier.Borrowing

/-!
# Checks that passed

What is known once a sequence of checks has let an operation through.  A sequence passes exactly
when every check in it does, and each check of the verifier is read off by one lemma.
-/

namespace Custody

namespace Check

variable {ε α β : Type}

@[simp] theorem bind_eq_ok {check : Except ε α} {next : α → Except ε β} {result : β} :
    (check >>= next) = .ok result ↔ ∃ value, check = .ok value ∧ next value = .ok result := by
  cases check <;> simp [bind, Except.bind]

@[simp] theorem pure_eq_ok {value result : α} :
    (pure value : Except ε α) = .ok result ↔ value = result := by
  simp [pure, Except.pure]

@[simp] theorem throw_eq_error (fault : ε) : (throw fault : Except ε α) = .error fault := rfl

@[simp] theorem error_bind (fault : ε) (next : α → Except ε β) :
    (Except.error fault >>= next) = .error fault := rfl

@[simp] theorem reject_eq_ok {condition : Prop} [Decidable condition] {fault : ε}
    {check : Except ε α} {result : α} :
    (if condition then .error fault else check) = .ok result ↔
      ¬condition ∧ check = .ok result := by
  split <;> simp_all

@[simp] theorem mapError_eq_ok {φ : Type} {check : Except ε α} {rename : ε → φ} {result : α} :
    check.mapError rename = .ok result ↔ check = .ok result := by
  cases check with
  | ok value => simp only [Except.mapError, Except.ok.injEq]
  | error fault => exact ⟨nofun, nofun⟩

/-- What a check of every member yields is yielded by a member. -/
theorem mem_of_mapM_eq_ok {check : α → Except ε β} {members : List α} {results : List β}
    (passed : members.mapM check = .ok results) {result : β} (listed : result ∈ results) :
    ∃ member ∈ members, check member = .ok result := by
  induction members generalizing results with
  | nil =>
      simp only [List.mapM_nil, pure_eq_ok] at passed
      simp [← passed] at listed
  | cons first rest ih =>
      simp only [List.mapM_cons, bind_eq_ok, pure_eq_ok] at passed
      obtain ⟨head, headPassed, tail, tailPassed, rfl⟩ := passed
      rcases List.mem_cons.mp listed with rfl | later
      · exact ⟨first, by simp, headPassed⟩
      · obtain ⟨member, inRest, memberPassed⟩ := ih tailPassed later
        exact ⟨member, List.mem_cons_of_mem _ inRest, memberPassed⟩

/-- A check of every member yields its results in the order of the members. -/
theorem map_of_mapM_eq_ok {γ : Type} {check : α → Except ε β} {members : List α}
    {results : List β} (passed : members.mapM check = .ok results) {before : α → γ} {after : β → γ}
    (kept : ∀ {member result}, check member = .ok result → after result = before member) :
    results.map after = members.map before := by
  induction members generalizing results with
  | nil =>
      simp only [List.mapM_nil, pure_eq_ok] at passed
      rw [← passed]
      rfl
  | cons first rest ih =>
      simp only [List.mapM_cons, bind_eq_ok, pure_eq_ok] at passed
      obtain ⟨head, headPassed, tail, tailPassed, rfl⟩ := passed
      rw [List.map_cons, List.map_cons, kept headPassed, ih tailPassed]

theorem mapM_zip_eq_ok {check : α → Except ε β} {members : List α} {results : List β}
    (passed : members.mapM check = .ok results) :
    ∀ pair ∈ results.zip members, check pair.2 = .ok pair.1 := by
  induction members generalizing results with
  | nil => simp
  | cons first rest ih =>
      simp only [List.mapM_cons, bind_eq_ok, pure_eq_ok] at passed
      obtain ⟨head, headPassed, tail, tailPassed, rfl⟩ := passed
      intro pair member
      rcases List.mem_cons.mp member with rfl | later
      · exact headPassed
      · exact ih tailPassed pair later

end Check

/-! ## Names -/

namespace State

variable {state : State} {name : String} {span : Span}

/-- The binding of a name stands under its own number, in an open scope. -/
theorem lookupBinding_eq_ok (sound : state.Sound) {binding : Binding}
    (found : state.lookupBinding name span = .ok binding) :
    state.binding? binding.id = some binding ∧ binding.scope ∈ state.scopes.path := by
  unfold lookupBinding at found
  split at found
  · rename_i there lookup
    simp only [Except.ok.injEq] at found
    subst found
    obtain ⟨id, named, bound⟩ := Option.bind_eq_some_iff.mp lookup
    obtain ⟨scope, visible, inScope⟩ := List.exists_of_findSome?_eq_some named
    obtain ⟨scopeId, opened, scopeFound⟩ := List.mem_filterMap.mp visible
    obtain ⟨other, otherFound, otherScope⟩ := sound.binding_named scopeFound inScope
    have same : other = there := Option.some.inj (otherFound.symm.trans bound)
    subst same
    exact ⟨by rw [sound.binding_id bound]; exact bound, otherScope ▸ opened⟩
  · simp at found

/-- The container of a name stands under its own number, in an open scope. -/
theorem lookupContainer_eq_ok (sound : state.Sound) {container : Container}
    (found : state.lookupContainer name span = .ok container) :
    state.container? container.id = some container ∧ container.scope ∈ state.scopes.path := by
  unfold lookupContainer at found
  split at found
  · rename_i there lookup
    simp only [Except.ok.injEq] at found
    subst found
    obtain ⟨id, named, bound⟩ := Option.bind_eq_some_iff.mp lookup
    obtain ⟨scope, visible, inScope⟩ := List.exists_of_findSome?_eq_some named
    obtain ⟨scopeId, opened, scopeFound⟩ := List.mem_filterMap.mp visible
    obtain ⟨other, otherFound, otherScope⟩ := sound.container_named scopeFound inScope
    have same : other = there := Option.some.inj (otherFound.symm.trans bound)
    subst same
    exact ⟨by rw [sound.container_id bound]; exact bound, otherScope ▸ opened⟩
  · simp at found

/-- The borrow that a name is a view on. -/
def viewOf? (state : State) (name : String) : Option RecordId :=
  ((state.scopes.findBinding? name).bind state.binding?).bind fun binding =>
    match binding.referent with
    | .view id => some id
    | _ => none

/-- An access that is up to date with a state. -/
structure Reaches (state : State) (access : Access) : Prop where
  binding : state.binding? access.binding.id = some access.binding
  opened : access.binding.scope ∈ state.scopes.path
  container : state.container? access.container.id = some access.container
  direct : access.view = none → access.binding.referent = .direct access.container.id
  view : ∀ {record}, access.view = some record → access.binding.referent = .view record.id ∧
    record ∈ state.ledger.records ∧ record.container = access.container.id

theorem accessOf?_eq_some (sound : state.Sound) {binding : Binding} {access : Access}
    (stored : state.binding? binding.id = some binding)
    (opened : binding.scope ∈ state.scopes.path)
    (found : state.accessOf? binding = some access) :
    access.binding = binding ∧ state.Reaches access := by
  unfold accessOf? at found
  split at found
  · rename_i id referent
    obtain ⟨container, lookup, rfl⟩ := Option.map_eq_some_iff.mp found
    have sameId := sound.container_id lookup
    refine ⟨rfl, stored, opened, by rw [sameId]; exact lookup, ?_, ?_⟩
    · intro _
      rw [sameId]
      exact referent
    · intro record viewed
      simp at viewed
  · rename_i id referent
    obtain ⟨record, recordFound, rest⟩ := Option.bind_eq_some_iff.mp found
    obtain ⟨container, lookup, rfl⟩ := Option.map_eq_some_iff.mp rest
    have sameId := sound.container_id lookup
    obtain ⟨member, sameRecord⟩ := Ledger.mem_of_get? recordFound
    refine ⟨rfl, stored, opened, by rw [sameId]; exact lookup, ?_, ?_⟩
    · intro viewed
      simp at viewed
    · intro other viewed
      simp only [Option.some.injEq] at viewed
      subst viewed
      exact ⟨by rw [sameRecord]; exact referent, member, sameId.symm⟩
  · simp at found

/-- What a name reaches is up to date, and reached through the binding of that name. -/
theorem access_eq_ok (sound : state.Sound) {access : Access}
    (found : state.access name span = .ok (some access)) :
    state.Reaches access ∧ state.lookupBinding name span = .ok access.binding := by
  simp only [State.access, Check.bind_eq_ok, Check.pure_eq_ok] at found
  obtain ⟨binding, lookup, reached⟩ := found
  obtain ⟨stored, opened⟩ := lookupBinding_eq_ok sound lookup
  obtain ⟨same, reaches⟩ := accessOf?_eq_some sound stored opened reached
  exact ⟨reaches, by rw [same]; exact lookup⟩

/-- What a name reaches, if anything. -/
def reach? (state : State) (name : String) : Option Access :=
  ((state.scopes.findBinding? name).bind state.binding?).bind state.accessOf?

theorem lookupBinding_eq_ok_iff {binding : Binding} :
    state.lookupBinding name span = .ok binding ↔
      (state.scopes.findBinding? name).bind state.binding? = some binding := by
  rw [lookupBinding]
  cases (state.scopes.findBinding? name).bind state.binding? with
  | none => exact ⟨nofun, nofun⟩
  | some found => exact ⟨fun same => congrArg some (Except.ok.inj same),
      fun same => congrArg Except.ok (Option.some.inj same)⟩

theorem access_eq_ok_iff {access : Access} :
    state.access name span = .ok (some access) ↔ state.reach? name = some access := by
  rw [State.access, lookupBinding, reach?]
  cases (state.scopes.findBinding? name).bind state.binding? with
  | none => exact ⟨nofun, nofun⟩
  | some binding => exact ⟨Except.ok.inj, congrArg Except.ok⟩

/-- A name that reaches something leads to a binding that reaches it. -/
theorem Sound.reach (sound : state.Sound) {access : Access}
    (reached : state.reach? name = some access) (span : Span) :
    state.Reaches access ∧ state.lookupBinding name span = .ok access.binding ∧
      state.accessOf? access.binding = some access := by
  have found : state.access name span = .ok (some access) := access_eq_ok_iff.mpr reached
  obtain ⟨reaches, lookup⟩ := access_eq_ok sound found
  refine ⟨reaches, lookup, ?_⟩
  simp only [State.access, lookup] at found
  exact Except.ok.inj found

theorem viewOf?_eq {binding : Binding} (found : state.lookupBinding name span = .ok binding) :
    state.viewOf? name = match binding.referent with
      | .view id => some id
      | _ => none := by
  unfold lookupBinding at found
  split at found
  · rename_i there lookup
    simp only [Except.ok.injEq] at found
    subst found
    simp only [viewOf?, lookup, Option.bind_some]
  · simp at found

/-- An access acts through the borrow that its name is a view on. -/
theorem Reaches.record?_eq {access : Access} (reaches : state.Reaches access)
    (found : state.lookupBinding name span = .ok access.binding) :
    access.record? = state.viewOf? name := by
  rw [viewOf?_eq found, Access.record?]
  cases viewed : access.view with
  | none => rw [reaches.direct viewed]; rfl
  | some record => rw [(reaches.view viewed).1]; rfl

/-- A record of the ledger that an access is not made through lies inside its container. -/
theorem Sound.rival_inside (sound : state.Sound) {container : Container} {actor : Option RecordId}
    {record : BorrowRecord} {id : ContainerId} (found : state.container? id = some container)
    (rival : state.ledger.Rival id actor record) :
    container.mode.isLedgered = true ∧ ∀ position ∈ record.slots, position < container.length := by
  have backs := sound.backs rival.member (rival.onContainer ▸ found)
  exact ⟨backs.ledgered.symm.trans rival.ledgered, backs.inside rival.ledgered⟩

end State

/-! ## Uses of a container -/

/-- Whether a container may be used. -/
def Container.isUsable (container : Container) : Bool :=
  match container.movedAt, container.liveness with
  | none, .live | none, .forgotten _ => true
  | _, _ => false

theorem Container.ensureUsable_eq_ok_iff {container : Container} {span : Span} :
    container.ensureUsable span = .ok () ↔ container.isUsable = true := by
  rw [ensureUsable, isUsable]
  cases container.movedAt with
  | some earlier => simp
  | none => cases container.liveness <;> simp

theorem Container.ensureUsable_eq_ok {container : Container} {span : Span}
    (passed : container.ensureUsable span = .ok ()) :
    container.movedAt = none ∧ container.isDestroyed = false := by
  unfold ensureUsable at passed
  unfold isDestroyed
  split at passed
  · contradiction
  · rename_i unmoved
    refine ⟨unmoved, ?_⟩
    split at passed <;> simp_all

theorem Access.ensureWritable_eq_ok {access : Access} {action : WriteAction} {span : Span}
    (passed : access.ensureWritable action span = .ok ()) :
    access.container.ensureUsable span = .ok () ∧ access.container.mode.canMutate = true := by
  simp only [Access.ensureWritable, Check.throw_eq_error, Check.error_bind, Check.reject_eq_ok,
    Check.bind_eq_ok] at passed
  obtain ⟨_, usable, writable, -⟩ := passed
  exact ⟨usable, by simpa using writable⟩

theorem Content.positionOf?_lt {content : Content} {key : Value} {position : Nat}
    (found : content.positionOf? key = some position) : position < content.length :=
  (List.findIdx?_eq_some_iff_getElem.mp found).1

theorem Container.positionOfKey_lt {container : Container} {keyType : Element} {key : Value}
    {span : Span} {position : Nat}
    (passed : container.positionOfKey keyType key span = .ok position) :
    position < container.length := by
  simp only [positionOfKey, Check.reject_eq_ok] at passed
  obtain ⟨-, found⟩ := passed
  split at found
  · rename_i there lookup
    exact Content.positionOf?_lt (Except.ok.inj found ▸ lookup)
  · contradiction

/-- Extents are resolved to positions of the container. -/
theorem Container.resolve_inside {container : Container} {extent : Extent} {span : Span}
    {slots : SlotSet} (passed : container.resolve extent span = .ok slots) :
    ∀ position ∈ slots, position < container.length := by
  intro position member
  cases extent with
  | range low high =>
      simp only [resolve, Check.reject_eq_ok, Except.ok.injEq] at passed
      obtain ⟨-, -, inside, rfl⟩ := passed
      exact Nat.lt_of_le_of_lt (SlotSet.mem_range.mp member).2 (Nat.not_le.mp inside)
  | keys members =>
      simp only [resolve] at passed
      split at passed
      · contradiction
      · simp only [Check.reject_eq_ok, Check.bind_eq_ok, Check.pure_eq_ok] at passed
        obtain ⟨-, positions, resolved, rfl⟩ := passed
        obtain ⟨key, -, found⟩ := Check.mem_of_mapM_eq_ok resolved (SlotSet.mem_ofList.mp member)
        exact positionOfKey_lt found

/-- No extent is resolved in an empty container. -/
theorem Container.resolve_filled {container : Container} {extent : Extent} {span : Span}
    {slots : SlotSet} (passed : container.resolve extent span = .ok slots) :
    container.content ≠ [] := by
  have positive : 0 < container.length := by
    cases extent with
    | range low high =>
        simp only [resolve, Check.reject_eq_ok, Except.ok.injEq] at passed
        obtain ⟨-, -, inside, -⟩ := passed
        omega
    | keys members =>
        simp only [resolve] at passed
        split at passed
        · contradiction
        · simp only [Check.reject_eq_ok, Check.bind_eq_ok, Check.pure_eq_ok] at passed
          obtain ⟨nonempty, positions, resolved, -⟩ := passed
          cases members with
          | nil => simp at nonempty
          | cons key rest =>
              simp only [List.mapM_cons, Check.bind_eq_ok] at resolved
              obtain ⟨position, found, -⟩ := resolved
              exact Nat.zero_lt_of_lt (positionOfKey_lt found)
  exact List.length_pos_iff.mp positive

namespace Access

variable {access : Access} {state : State} {span : Span}

/-- A write that is let through touches no rival. -/
theorem ensureUnborrowed_eq_ok (sound : state.Sound) {footprint : SlotSet} {attempt : Attempt}
    (found : state.container? access.container.id = some access.container)
    (passed : access.ensureUnborrowed state.ledger footprint attempt span = .ok ()) :
    ∀ record, state.ledger.Rival access.container.id access.record? record →
      ∀ position ∈ record.slots, position ∉ footprint := by
  intro record rival
  obtain ⟨ledgered, -⟩ := sound.rival_inside found rival
  rw [ensureUnborrowed, if_pos ledgered, Check.mapError_eq_ok, sound.ledger.checkWrite_eq_ok]
    at passed
  exact passed record rival

/-- A pop that is let through is of a container that is in use and may be changed. -/
theorem checkPop_writable {ledger : Ledger} {extent : Option Extent} {removed : SlotSet}
    (passed : access.checkPop ledger extent span = .ok removed) :
    access.container.ensureUsable span = .ok () ∧ access.container.mode.canMutate = true := by
  simp only [checkPop, Check.bind_eq_ok] at passed
  obtain ⟨_, writable, -⟩ := passed
  exact ensureWritable_eq_ok writable

/-- Every rival lies below all that a pop which is let through removes. -/
theorem checkPop_eq_ok (sound : state.Sound) {extent : Option Extent} {removed : SlotSet}
    (found : state.container? access.container.id = some access.container)
    (passed : access.checkPop state.ledger extent span = .ok removed) :
    ∀ record, state.ledger.Rival access.container.id access.record? record →
      ∀ position ∈ record.slots, ∀ gone ∈ removed, position < gone := by
  have unborrowed : access.ensureUnborrowed state.ledger
      (.range (removed.min?.getD 0) (access.container.length - 1))
      (.pop access.container.name) span = .ok () := by
    simp only [checkPop, Check.throw_eq_error, Check.error_bind, Check.bind_eq_ok] at passed
    obtain ⟨-, -, positions, -, rest⟩ := passed
    split at rest
    · simp only [Check.reject_eq_ok, Check.bind_eq_ok, Check.pure_eq_ok] at rest
      obtain ⟨-, _, unborrowed, rfl⟩ := rest
      exact unborrowed
    · simp only [Check.bind_eq_ok, Check.pure_eq_ok] at rest
      obtain ⟨_, unborrowed, rfl⟩ := rest
      exact unborrowed
  intro record rival position inSlots gone isGone
  have inside := (sound.rival_inside found rival).2 position inSlots
  have outside := ensureUnborrowed_eq_ok sound found unborrowed record rival position inSlots
  obtain ⟨least, isLeast⟩ : ∃ least, removed.min? = some least := by
    cases lowest : removed.min? with
    | some least => exact ⟨least, rfl⟩
    | none =>
        have none := List.head?_eq_none_iff.mp lowest
        have listed := (SlotSet.mem_toList removed gone).mpr isGone
        simp [none] at listed
  have lower := (SlotSet.min?_eq_some isLeast).2 gone isGone
  rw [isLeast, Option.getD_some, SlotSet.mem_range] at outside
  omega

end Access

/-! ## Insertions -/

namespace Placement

/-- An insertion that neither shifts nor overwrites any of some positions. -/
def Spares (slots : SlotSet) : Placement → Prop
  | .head => True
  | .tail => ∀ position, position ∉ slots
  | .replace position => position ∉ slots

theorem mem_footprints {placements : List Placement} {length position : Nat} :
    position ∈ footprints placements length ↔
      ∃ placement ∈ placements, position ∈ placement.footprint length := by
  have from_any : ∀ all : SlotSet,
      position ∈ placements.foldl
          (fun all placement => all.union (placement.footprint length)) all ↔
        position ∈ all ∨ ∃ placement ∈ placements, position ∈ placement.footprint length := by
    induction placements with
    | nil => simp
    | cons first rest ih =>
        intro all
        rw [List.foldl_cons, ih, SlotSet.mem_union]
        simp only [List.mem_cons, exists_eq_or_imp, or_assoc]
  rw [footprints, from_any]
  simp

theorem spares_of_footprint {placement : Placement} {slots : SlotSet} {length : Nat}
    (inside : ∀ position ∈ slots, position < length)
    (clear : ∀ position ∈ slots, position ∉ placement.footprint length) :
    placement.Spares slots := by
  cases placement with
  | head => trivial
  | tail =>
      intro position member
      have below := inside position member
      obtain ⟨last, rfl⟩ : ∃ last, length = last + 1 := ⟨length - 1, by omega⟩
      apply clear position member
      exact SlotSet.mem_range.mpr ⟨Nat.zero_le position, Nat.le_of_lt_succ below⟩
  | replace position =>
      intro member
      exact clear position member (SlotSet.mem_singleton.mpr rfl)

end Placement

namespace Access

variable {access : Access} {state : State} {span : Span}

/-- A push lands at an end, or where its key stands. -/
theorem placement_eq_ok {key : Option Value} {placement : Placement}
    (passed : access.placement key span = .ok placement) :
    key = none ∧ (placement = .head ∨ placement = .tail) ∨
      ∃ value, key = some value ∧ placement = access.container.content.placementOf value := by
  simp only [Access.placement] at passed
  split at passed
  · contradiction
  · rename_i value _
    split at passed
    · contradiction
    · split at passed
      · contradiction
      · simp only [Except.ok.injEq] at passed
        exact .inr ⟨value, rfl, passed.symm⟩
  · split at passed <;> contradiction
  · simp only [Except.ok.injEq] at passed
    exact .inl ⟨rfl, .inr passed.symm⟩
  · simp only [Except.ok.injEq] at passed
    exact .inl ⟨rfl, .inl passed.symm⟩

/-- Planned insertions that are let through spare every rival. -/
theorem checkInsertions_eq_ok (sound : state.Sound) {placements : List Placement}
    (found : state.container? access.container.id = some access.container)
    (passed : access.checkInsertions state.ledger placements span = .ok ()) :
    ∀ record, state.ledger.Rival access.container.id access.record? record →
      ∀ placement ∈ placements, placement.Spares record.slots := by
  have unborrowed : access.ensureUnborrowed state.ledger
      (Placement.footprints placements access.container.length) (.push access.container.name)
      span = .ok () := by
    simp only [checkInsertions] at passed
    split at passed
    · split at passed
      · simp at passed
      · exact passed
    · exact passed
  intro record rival placement member
  apply Placement.spares_of_footprint (sound.rival_inside found rival).2
  intro position inSlots touched
  exact ensureUnborrowed_eq_ok sound found unborrowed record rival position inSlots
    (Placement.mem_footprints.mpr ⟨placement, member, touched⟩)

end Access

/-! ## New borrows and bindings -/

theorem Ledger.borrow_eq_ok {ledger : Ledger} {region : Region} {except : Option RecordId}
    {result : RecordId × Ledger} (accepted : ledger.borrow region except = .ok result) :
    result = ledger.insert region true ∧
      (region.mode.isMutable = true →
        ledger.checkWrite region.container region.slots except = .ok ()) ∧
      (region.mode.isMutable = false →
        ledger.checkRead region.container region.slots except = .ok ()) := by
  unfold borrow at accepted
  split at accepted
  · rename_i mutable
    rw [Check.bind_eq_ok] at accepted
    obtain ⟨_, checked, inserted⟩ := accepted
    exact ⟨(Check.pure_eq_ok.mp inserted).symm, fun _ => checked, by simp [mutable]⟩
  · rename_i readOnly
    rw [Check.bind_eq_ok] at accepted
    obtain ⟨_, checked, inserted⟩ := accepted
    exact ⟨(Check.pure_eq_ok.mp inserted).symm, by simp [readOnly], fun _ => checked⟩

namespace State

variable {state after : State} {span : Span}

/-- A borrow that is let through becomes a record, and the rivals that it meets are, like itself,
read-only. -/
theorem addBorrow_eq_ok (sound : state.Sound) {container : Container} {region : Region}
    {except : Option RecordId} {attempt : Attempt} {id : RecordId}
    (found : state.container? region.container = some container)
    (passed : state.addBorrow container region except attempt span = .ok (id, after)) :
    id = ⟨state.ledger.nextId⟩ ∧
      after = { state with ledger := (state.ledger.insert region container.mode.isLedgered).2 } ∧
      ∀ record, state.ledger.Rival region.container except record →
        region.mode.isMutable = true ∨ record.mode.isMutable = true →
        ∀ position ∈ record.slots, position ∉ region.slots := by
  unfold addBorrow at passed
  split at passed
  · rename_i ledgered
    simp only [Check.bind_eq_ok, Check.mapError_eq_ok, Check.pure_eq_ok, Prod.mk.injEq] at passed
    obtain ⟨⟨_, _⟩, borrowed, rfl, rfl⟩ := passed
    obtain ⟨inserted, writes, reads⟩ := Ledger.borrow_eq_ok borrowed
    rw [ledgered, ← inserted]
    refine ⟨congrArg (·.1) inserted, rfl, ?_⟩
    intro record rival conflicts
    cases mode : region.mode.isMutable with
    | true => exact sound.ledger.checkWrite_eq_ok.mp (writes mode) record rival
    | false =>
        have mutable := conflicts.resolve_left (by simp [mode])
        exact sound.ledger.checkRead_eq_ok.mp (reads mode) record rival mutable
  · rename_i unledgered
    simp only [Except.ok.injEq, Prod.mk.injEq] at passed
    obtain ⟨rfl, rfl⟩ := passed
    refine ⟨rfl, by rw [Bool.not_eq_true] at unledgered; rw [unledgered]; rfl, ?_⟩
    intro record rival
    exact absurd (sound.rival_inside found rival).1 unledgered

/-- A borrow that is let through covers positions of a usable container, for the current scope,
which the scope of the container encloses.  It has no holder yet. -/
theorem checkBorrow_eq_ok {access : Access} {extent : Extent} {mode : BorrowMode} {region : Region}
    (passed : state.checkBorrow access extent mode span = .ok region) :
    access.container.ensureUsable span = .ok () ∧ region.container = access.container.id ∧
      region.scope = state.scopes.current ∧
      (∀ position ∈ region.slots, position < access.container.length) ∧
      access.container.content ≠ [] ∧ region.holder = none ∧
      state.scopes.outlives access.container.scope state.scopes.current = true := by
  simp only [checkBorrow, Check.throw_eq_error, Check.error_bind, Check.reject_eq_ok,
    Check.bind_eq_ok] at passed
  obtain ⟨_, usable, -, slots, resolved, rest⟩ := passed
  refine ⟨usable, ?_⟩
  split at rest
  · simp only [Check.reject_eq_ok, Check.pure_eq_ok] at rest
    obtain ⟨-, -, outlives, rfl⟩ := rest
    exact ⟨rfl, rfl, Container.resolve_inside resolved, Container.resolve_filled resolved, rfl,
      by simpa using outlives⟩
  · simp only [Check.reject_eq_ok, Check.pure_eq_ok] at rest
    obtain ⟨outlives, rfl⟩ := rest
    exact ⟨rfl, rfl, Container.resolve_inside resolved, Container.resolve_filled resolved, rfl,
      by simpa using outlives⟩

theorem declareBinding_eq_ok {name : String} {referent : Referent} {perspective : Perspective}
    {binding : Binding}
    (passed : state.declareBinding name referent perspective span = .ok (binding, after)) :
    state.addBinding name referent perspective span = (binding, after) := by
  simp only [declareBinding, Check.bind_eq_ok, Check.pure_eq_ok] at passed
  obtain ⟨-, -, added⟩ := passed
  exact added

end State

end Custody
