import Custody.Proofs.Contents

/-!
# Values of the declared type

A conversion gives values of the element type it leads to, and without one a push is let through
only where the element types agree.  So known values have the element type of the container that
holds them, in every state of a run.
-/

namespace Custody

/-! ## Conversions -/

namespace Value

/-- A value that a conversion can read has the element type that the conversion leads to. -/
theorem element_convert {value converted : Value} {kind : Conversion} {target : Element}
    (passed : value.convert kind target = .ok (some converted)) : converted.element = target := by
  simp only [convert, Check.bind_eq_ok] at passed
  obtain ⟨resolved, -, passed⟩ := passed
  split at passed
  all_goals grind [element, Check.pure_eq_ok, Check.throw_eq_error, Option.map_eq_some_iff]

theorem element_convertFor {value converted : Value} {conversion : Option Conversion}
    {target : Element} {span : Span}
    (passed : value.convertFor conversion target span = .ok (some converted)) :
    converted.element = target := by
  cases conversion with
  | none =>
      simp only [convertFor] at passed
      split at passed
      · rename_i same
        rw [← Option.some.inj (Except.ok.inj passed)]
        exact same
      · contradiction
  | some kind => exact element_convert (Check.mapError_eq_ok.mp passed)

end Value

/-- A slot whose value, if known, has an element type. -/
def Slot.Holds (element : Element) (slot : Slot) : Prop :=
  ∀ value, slot.value = some value → value.element = element

namespace Access

variable {source target : Access} {span : Span} {slots : List Slot}

/-- A slot is converted to the element type of its target, unless the types agree. -/
theorem holds_convertSlot {kind : Option Conversion} {found wanted : Element} {slot after : Slot}
    (agree : kind = none → found = wanted) (holds : slot.Holds found)
    (passed : convertSlot kind found wanted span slot = .ok after) : after.Holds wanted := by
  intro value known
  cases kind with
  | none =>
      have same : slot = after := by
        cases unknown : slot.value <;> simpa [convertSlot, unknown] using passed
      rw [← agree rfl]
      exact holds value (same ▸ known)
  | some kind =>
      cases stored : slot.value with
      | none =>
          have same : slot = after := by simpa [convertSlot, stored] using passed
          rw [← same, stored] at known
          contradiction
      | some old =>
          simp only [convertSlot, stored, Check.bind_eq_ok, Check.mapError_eq_ok,
            Check.pure_eq_ok] at passed
          obtain ⟨converted, converts, rfl⟩ := passed
          dsimp only at known
          exact Value.element_convert (known ▸ converts)

/-- Slots that are transferred become slots of the element type of the target. -/
theorem holds_convertSlots {effect : Effect} {conversion : Option Conversion} {head : Nat}
    (holds : ∀ slot ∈ source.container.content, slot.Holds source.container.element)
    (passed : source.convertSlots target effect conversion head span = .ok slots) :
    ∀ slot ∈ slots, slot.Holds target.container.element := by
  obtain ⟨kind, -, agree, converted⟩ := convertSlots_eq_ok passed
  intro slot member
  obtain ⟨original, picked, converts⟩ := Check.mem_of_mapM_eq_ok converted member
  refine holds_convertSlot agree (holds original ?_) converts
  split at picked
  · exact picked
  · exact List.mem_of_getElem? (Option.mem_toList.mp picked)

end Access

/-! ## States -/

namespace State

variable {state : State} {source target : Access} {span : Span}

/-- Known values have the element type of the container that holds them. -/
def ValuesTyped (state : State) : Prop :=
  ∀ container ∈ state.containers, ∀ slot ∈ container.content, slot.Holds container.element

theorem valuesTyped_iff : state.ValuesTyped ↔
    state.Upholds fun declared content => ∀ slot ∈ content, slot.Holds declared.element := by
  rw [upholds_iff]
  rfl

theorem ValuesTyped.slots (typed : state.ValuesTyped) {effect : Effect} {key : Option Value}
    {conversion : Option Conversion} {transfer : Transfer} (fromSource : state.Reaches source)
    (passed : state.checkTransfer target source effect key conversion span = .ok transfer) :
    ∀ slot ∈ transfer.slots, slot.Holds target.container.element := by
  obtain ⟨-, -, -, -, ⟨converted, converts, slots⟩, -⟩ := checkTransfer_eq_ok passed
  have holds := Access.holds_convertSlots (fromSource.upholds (valuesTyped_iff.mp typed)) converts
  rw [slots]
  split
  · exact holds
  · -- Another key does not change the value.
    intro slot member
    obtain ⟨original, inConverted, rfl⟩ := List.mem_map.mp member
    exact holds original inConverted

/-- What a push lets land has the element type of its target. -/
theorem ValuesTyped.pushed (typed : state.ValuesTyped) (sound : state.Sound)
    {operation : Operation} {base : Content} {planned : List (Placement × Slot)}
    (plans : state.Plans span operation target base planned) :
    ∀ pair ∈ planned, pair.2.Holds target.container.element := by
  intro pair member
  cases plans with
  | literal found converts placed =>
      rw [List.mem_singleton.mp member]
      intro value known
      dsimp only at known
      exact Value.element_convertFor (known ▸ converts)
  | transfer found originFound passed | within found originFound passed =>
      have fromSource := (access_eq_ok sound originFound).1
      exact typed.slots fromSource passed pair.2 (List.of_mem_zip member).2

theorem ValuesTyped.perform (typed : state.ValuesTyped) (sound : state.Sound)
    (operation : Operation) (span : Span) :
    (state.perform operation span).state.ValuesTyped := by
  rw [valuesTyped_iff]
  apply (valuesTyped_iff.mp typed).perform_forall (fun _ fits => fits) sound
  intro target base planned _ plans
  exact typed.pushed sound plans

end State

/-- In every state of a run, a slot whose value is known holds a value of exactly the element type
that its container was declared with. -/
theorem Verification.values_typed (nodes : List Node) : (run {} nodes).state.ValuesTyped := by
  apply run_preserves
  · intro container undeclared
    contradiction
  · intro state node sound typed
    exact typed.perform sound node.operation node.span

/-- Literals, moves, takes and references, some of them converted, all leave known values. -/
example :
    (Verification.run {}
      [⟨.declare "B" .bool none .owned, {}⟩,
        ⟨.bind "b" "B" none, {}⟩,
        ⟨.push "b" (.value (.bool true)) none none, {}⟩,
        ⟨.push "b" (.value (.integer 0)) none (some .truthy), {}⟩,
        ⟨.declare "N" .integer none .owned, {}⟩,
        ⟨.bind "n" "N" none, {}⟩,
        ⟨.push "n" (.transfer "b" .move) none (some .widen), {}⟩,
        ⟨.push "n" (.transfer "b" .take) none (some .auto), {}⟩,
        ⟨.declare "R" .integer none .owned, {}⟩,
        ⟨.bind "r" "R" none, {}⟩,
        ⟨.push "r" (.transfer "n" .borrow) none none, {}⟩]).state.containers.map
          (fun container => (container.element, container.content.map (·.value))) =
      [(.bool, []), (.integer, [some (.integer 0), some (.integer 1)]),
        (.integer, [some (.integer 1)])] := by
  decide

end Custody
