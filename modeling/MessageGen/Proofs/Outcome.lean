import Mathlib.Tactic.Common

/-!
# Results of steps that can fail

A chain of steps succeeds if each of them does; these laws take such a chain apart.
-/

namespace Except

variable {ε α β : Type}

theorem bind_eq_ok_iff {first : Except ε α} {next : α → Except ε β} {result : β} :
    (first >>= next) = .ok result ↔ ∃ value, first = .ok value ∧ next value = .ok result := by
  cases first with
  | error error => simp [bind, Except.bind]
  | ok value => simp [bind, Except.bind]

theorem bind_eq_error_iff {first : Except ε α} {next : α → Except ε β} {failure : ε} :
    (first >>= next) = .error failure ↔
      first = .error failure ∨ ∃ value, first = .ok value ∧ next value = .error failure := by
  cases first with
  | error error => simp [bind, Except.bind]
  | ok value => simp [bind, Except.bind]

theorem pure_eq_ok_iff {value result : α} :
    (pure value : Except ε α) = .ok result ↔ value = result := by
  simp [pure, Except.pure]

theorem ite_error_eq_ok_iff {condition : Prop} [Decidable condition] {failure : ε}
    {outcome : Except ε α} {result : α} :
    (if condition then .error failure else outcome) = .ok result ↔
      ¬condition ∧ outcome = .ok result := by
  split <;> simp [*]

theorem map_eq_ok_iff {function : α → β} {outcome : Except ε α} {result : β} :
    outcome.map function = .ok result ↔ ∃ value, outcome = .ok value ∧ function value = result := by
  cases outcome <;> simp [Except.map]

theorem map_eq_error_iff {function : α → β} {outcome : Except ε α} {failure : ε} :
    outcome.map function = .error failure ↔ outcome = .error failure := by
  cases outcome <;> simp [Except.map]

theorem mapError_eq_ok_iff {ε' : Type} {function : ε → ε'} {outcome : Except ε α} {result : α} :
    outcome.mapError function = .ok result ↔ outcome = .ok result := by
  cases outcome <;> simp [Except.mapError]

theorem mapError_eq_error_iff {ε' : Type} {function : ε → ε'} {outcome : Except ε α}
    {failure : ε'} : outcome.mapError function = .error failure ↔
      ∃ error, outcome = .error error ∧ function error = failure := by
  cases outcome <;> simp [Except.mapError]

theorem exists_error_iff {outcome : Except ε α} :
    (∃ error, outcome = .error error) ↔ ¬∃ value, outcome = .ok value := by
  cases outcome <;> simp

theorem exists_ok_of_isOk {outcome : Except ε α} (succeeds : outcome.isOk = true) :
    ∃ value, outcome = .ok value := by
  cases outcome with
  | error error => cases succeeds
  | ok value => exact ⟨value, rfl⟩

theorem exists_error_of_isOk {outcome : Except ε α} (fails : outcome.isOk = false) :
    ∃ error, outcome = .error error := by
  cases outcome with
  | error error => exact ⟨error, rfl⟩
  | ok value => cases fails

theorem exists_ok_of_map_toOption {function : α → β} {outcome : Except ε α} {result : β}
    (computed : outcome.toOption.map function = some result) :
    ∃ value, outcome = .ok value ∧ function value = result := by
  cases outcome with
  | error error => cases computed
  | ok value => exact ⟨value, rfl, Option.some.inj computed⟩

/-- Two steps both fail with one error, or both succeed with results that are related. -/
inductive Agree (related : α → β → Prop) : Except ε α → Except ε β → Prop where
  | ok {first : α} {second : β} (holds : related first second) :
    Agree related (.ok first) (.ok second)
  | error (failure : ε) : Agree related (.error failure) (.error failure)

namespace Agree

variable {γ δ : Type} {related : α → β → Prop} {relatedNext : γ → δ → Prop}
  {first : Except ε α} {second : Except ε β}

theorem refl (outcome : Except ε α) : Agree Eq outcome outcome := by
  cases outcome with
  | error failure => exact .error failure
  | ok result => exact .ok rfl

theorem bind {firstNext : α → Except ε γ} {secondNext : β → Except ε δ}
    (agree : Agree related first second)
    (next : ∀ firstResult secondResult, related firstResult secondResult →
      Agree relatedNext (firstNext firstResult) (secondNext secondResult)) :
    Agree relatedNext (first >>= firstNext) (second >>= secondNext) := by
  cases agree with
  | ok holds => exact next _ _ holds
  | error failure => exact .error failure

theorem mono {weaker : α → β → Prop} (agree : Agree related first second)
    (implies : ∀ firstResult secondResult, related firstResult secondResult →
      weaker firstResult secondResult) : Agree weaker first second := by
  cases agree with
  | ok holds => exact .ok (implies _ _ holds)
  | error failure => exact .error failure

theorem eq_error {failure : ε} (agree : Agree related (.error failure) second) :
    second = .error failure := by
  generalize second = outcome at agree
  cases agree
  rfl

theorem exists_eq_ok {result : α} (agree : Agree related (.ok result) second) :
    ∃ other, second = .ok other ∧ related result other := by
  generalize second = outcome at agree
  cases agree with
  | ok holds => exact ⟨_, rfl, holds⟩

end Agree

section Lists

variable {γ : Type} {step : α → Except ε β} {inputs : List α} {results : List β}

/-- What the results of a step share with its inputs, the lists of them share. -/
theorem map_eq_of_mapM {ofResult : β → γ} {ofInput : α → γ}
    (shared : ∀ {input result}, step input = .ok result → ofResult result = ofInput input)
    (made : inputs.mapM step = .ok results) : results.map ofResult = inputs.map ofInput := by
  induction inputs generalizing results with
  | nil =>
      cases made
      rfl
  | cons input inputs ih =>
      simp only [List.mapM_cons, bind_eq_ok_iff, pure_eq_ok_iff] at made
      rcases made with ⟨result, firstMade, rest, restMade, rfl⟩
      rw [List.map_cons, List.map_cons, ih restMade, shared firstMade]

theorem exists_mapM_iff : (∃ results, inputs.mapM step = .ok results) ↔
    ∀ input ∈ inputs, ∃ result, step input = .ok result := by
  induction inputs with
  | nil => simp [pure_eq_ok_iff]
  | cons input inputs ih =>
      rw [List.forall_mem_cons, ← ih]
      simp only [List.mapM_cons, bind_eq_ok_iff, pure_eq_ok_iff]
      constructor
      · rintro ⟨_, result, firstMade, rest, restMade, -⟩
        exact ⟨⟨result, firstMade⟩, rest, restMade⟩
      · rintro ⟨⟨result, firstMade⟩, rest, restMade⟩
        exact ⟨result :: rest, result, firstMade, rest, restMade, rfl⟩

theorem eq_filterMap_of_mapM (made : inputs.mapM step = .ok results) :
    results = inputs.filterMap fun input => (step input).toOption := by
  induction inputs generalizing results with
  | nil =>
      cases made
      rfl
  | cons input inputs ih =>
      simp only [List.mapM_cons, bind_eq_ok_iff, pure_eq_ok_iff] at made
      rcases made with ⟨first, firstMade, rest, restMade, rfl⟩
      rw [List.filterMap_cons, firstMade, ih restMade]
      rfl

/-- Inputs in another order have their results in another order. -/
theorem perm_of_mapM {others : List α} {otherResults : List β} (perm : inputs.Perm others)
    (made : inputs.mapM step = .ok results) (otherMade : others.mapM step = .ok otherResults) :
    results.Perm otherResults := by
  rw [eq_filterMap_of_mapM made, eq_filterMap_of_mapM otherMade]
  exact perm.filterMap _

theorem exists_input_of_mapM (made : inputs.mapM step = .ok results) :
    ∀ {result}, result ∈ results → ∃ input ∈ inputs, step input = .ok result := by
  induction inputs generalizing results with
  | nil =>
      cases made
      simp
  | cons input inputs ih =>
      simp only [List.mapM_cons, bind_eq_ok_iff, pure_eq_ok_iff] at made
      rcases made with ⟨first, firstMade, rest, restMade, rfl⟩
      intro result result_mem
      rcases List.mem_cons.mp result_mem with rfl | result_mem
      · exact ⟨input, List.mem_cons_self, firstMade⟩
      · rcases ih restMade result_mem with ⟨other, other_mem, otherMade⟩
        exact ⟨other, List.mem_cons_of_mem input other_mem, otherMade⟩

theorem exists_result_of_mapM (made : inputs.mapM step = .ok results) {input : α}
    (input_mem : input ∈ inputs) : ∃ result ∈ results, step input = .ok result := by
  rcases exists_mapM_iff.mp ⟨results, made⟩ input input_mem with ⟨result, isResult⟩
  refine ⟨result, ?_, isResult⟩
  rw [eq_filterMap_of_mapM made, List.mem_filterMap]
  exact ⟨input, input_mem, by rw [isResult]; rfl⟩

/-- A result has an input at its place. -/
theorem exists_split_of_mapM {before after : List β} {result : β}
    (made : inputs.mapM step = .ok (before ++ result :: after)) :
    ∃ first input rest, inputs = first ++ input :: rest ∧ first.mapM step = .ok before ∧
      step input = .ok result := by
  induction before generalizing inputs with
  | nil =>
      cases inputs with
      | nil => cases made
      | cons input inputs =>
          simp only [List.mapM_cons, bind_eq_ok_iff, pure_eq_ok_iff] at made
          rcases made with ⟨_, firstMade, _, -, same⟩
          cases same
          exact ⟨[], input, inputs, rfl, rfl, firstMade⟩
  | cons head before ih =>
      cases inputs with
      | nil => cases made
      | cons input inputs =>
          simp only [List.mapM_cons, bind_eq_ok_iff, pure_eq_ok_iff] at made
          rcases made with ⟨_, firstMade, _, restMade, same⟩
          cases same
          rcases ih restMade with ⟨first, other, rest, rfl, firstsMade, otherMade⟩
          refine ⟨input :: first, other, rest, rfl, ?_, otherMade⟩
          rw [List.mapM_cons, firstMade, firstsMade]
          rfl

/-- What every step preserves holds of the result of a chain of steps. -/
theorem holds_of_foldlM {folded : β → α → Except ε β} {start final : β} (holds : β → Prop)
    (atStart : holds start) (kept : ∀ input ∈ inputs, ∀ before after, holds before →
      folded before input = .ok after → holds after)
    (made : inputs.foldlM folded start = .ok final) : holds final := by
  induction inputs generalizing start with
  | nil =>
      cases made
      exact atStart
  | cons input inputs ih =>
      simp only [List.foldlM_cons, bind_eq_ok_iff] at made
      rcases made with ⟨next, firstMade, restMade⟩
      have nextHolds := kept input List.mem_cons_self start next atStart firstMade
      exact ih nextHolds (fun other mem => kept other (List.mem_cons_of_mem input mem)) restMade

end Lists

end Except
