import Mathlib.Data.List.Forall2

set_option autoImplicit false

/-!
Stages that may fail, one after the other: a run succeeds when every stage does, and fails with the
fault of the first stage that fails.
-/

namespace ResourceRouter.Stage

variable {ε δ α β : Type}

theorem bind_eq_ok {first : Except ε α} {next : α → Except ε β} {result : β} :
    (first >>= next) = .ok result ↔ ∃ value, first = .ok value ∧ next value = .ok result := by
  cases first <;> simp [bind, Except.bind]

theorem bind_eq_error {first : Except ε α} {next : α → Except ε β} {fault : ε} :
    (first >>= next) = .error fault ↔
      first = .error fault ∨ ∃ value, first = .ok value ∧ next value = .error fault := by
  cases first <;> simp [bind, Except.bind]

theorem pure_eq_ok {value result : α} :
    (pure value : Except ε α) = .ok result ↔ value = result := by
  simp [pure, Except.pure]

theorem pure_ne_error {value : α} {fault : ε} : (pure value : Except ε α) ≠ .error fault := by
  simp [pure, Except.pure]

theorem map_eq_ok {change : α → β} {stage : Except ε α} {result : β} :
    stage.map change = .ok result ↔ ∃ value, stage = .ok value ∧ change value = result := by
  cases stage <;> simp [Except.map]

theorem map_eq_error {change : α → β} {stage : Except ε α} {fault : ε} :
    stage.map change = .error fault ↔ stage = .error fault := by
  cases stage <;> simp [Except.map]

theorem map_inj {change : α → β} (injective : Function.Injective change) {first second : Except ε α} :
    first.map change = second.map change ↔ first = second := by
  cases first <;> cases second <;> simp [Except.map, injective.eq_iff]

theorem mapError_eq_ok {change : ε → δ} {stage : Except ε α} {result : α} :
    stage.mapError change = .ok result ↔ stage = .ok result := by
  cases stage <;> simp [Except.mapError]

theorem mapError_eq_error {change : ε → δ} {stage : Except ε α} {fault : δ} :
    stage.mapError change = .error fault ↔ ∃ cause, stage = .error cause ∧ change cause = fault := by
  cases stage <;> simp [Except.mapError]

theorem toOption_eq_some {stage : Except ε α} {result : α} :
    stage.toOption = some result ↔ stage = .ok result := by
  cases stage <;> simp [Except.toOption]

theorem exists_ok_of_isSome {stage : Except ε α} (succeeds : stage.toOption.isSome = true) :
    ∃ value, stage = .ok value := by
  obtain ⟨value, found⟩ := Option.isSome_iff_exists.mp succeeds
  exact ⟨value, toOption_eq_some.mp found⟩

theorem exists_ok_iff {stage : Except ε α} :
    (∃ value, stage = .ok value) ↔ ∀ fault, stage ≠ .error fault := by
  cases stage <;> simp

/-- A stage for every element of a list succeeds when it does on each of them. -/
theorem mapM_eq_ok {stage : α → Except ε β} {inputs : List α} {results : List β} :
    inputs.mapM stage = .ok results ↔
      List.Forall₂ (fun input result => stage input = .ok result) inputs results := by
  induction inputs generalizing results with
  | nil =>
      rw [List.mapM_nil, pure_eq_ok, List.forall₂_nil_left_iff]
      exact eq_comm
  | cons input rest ih =>
      rw [List.mapM_cons, List.forall₂_cons_left_iff]
      simp only [bind_eq_ok, pure_eq_ok, ih]
      constructor
      · rintro ⟨result, done, others, rested, rfl⟩
        exact ⟨result, others, done, rested, rfl⟩
      · rintro ⟨result, others, done, rested, rfl⟩
        exact ⟨result, done, others, rested, rfl⟩

theorem exists_mapM_iff {stage : α → Except ε β} {inputs : List α} :
    (∃ results, inputs.mapM stage = .ok results) ↔
      ∀ input ∈ inputs, ∃ result, stage input = .ok result := by
  induction inputs with
  | nil => simp [pure_eq_ok]
  | cons input rest ih =>
      rw [List.forall_mem_cons, ← ih, List.mapM_cons]
      simp only [bind_eq_ok, pure_eq_ok]
      constructor
      · rintro ⟨_, result, done, others, rested, rfl⟩
        exact ⟨⟨result, done⟩, others, rested⟩
      · rintro ⟨⟨result, done⟩, others, rested⟩
        exact ⟨_, result, done, others, rested, rfl⟩

/-- A stage for every element of a list fails with the fault of the first element that fails. -/
theorem mapM_eq_error {stage : α → Except ε β} {inputs : List α} {fault : ε} :
    inputs.mapM stage = .error fault ↔
      ∃ before input after, inputs = before ++ input :: after ∧
        (∀ earlier ∈ before, ∃ result, stage earlier = .ok result) ∧
          stage input = .error fault := by
  induction inputs with
  | nil => simp [pure_ne_error]
  | cons first rest ih =>
      rw [List.mapM_cons, bind_eq_error]
      simp only [bind_eq_error, pure_ne_error, and_false, exists_false, or_false, ih]
      constructor
      · rintro (failed | ⟨result, done, before, input, after, rfl, earlier, failed⟩)
        · exact ⟨[], first, rest, rfl, by simp, failed⟩
        · exact ⟨first :: before, input, after, rfl,
            List.forall_mem_cons.mpr ⟨⟨result, done⟩, earlier⟩, failed⟩
      · rintro ⟨before, input, after, same, earlier, failed⟩
        cases before with
        | nil =>
            obtain ⟨rfl, -⟩ := List.cons.inj same
            exact .inl failed
        | cons head before =>
            obtain ⟨rfl, rfl⟩ := List.cons.inj same
            obtain ⟨⟨result, done⟩, others⟩ := List.forall_mem_cons.mp earlier
            exact .inr ⟨result, done, before, input, after, rfl, others, failed⟩

theorem exists_of_mem_right {related : α → β → Prop} {inputs : List α} {results : List β}
    (each : List.Forall₂ related inputs results) {result : β} (listed : result ∈ results) :
    ∃ input ∈ inputs, related input result := by
  induction each with
  | nil => cases listed
  | cons first others ih =>
      rcases List.mem_cons.mp listed with rfl | later
      · exact ⟨_, List.mem_cons_self, first⟩
      · obtain ⟨input, given, holds⟩ := ih later
        exact ⟨input, List.mem_cons_of_mem _ given, holds⟩

end ResourceRouter.Stage
