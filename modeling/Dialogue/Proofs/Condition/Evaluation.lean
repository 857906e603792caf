/-
# What holds of every evaluation

A condition is evaluated call by call. What each call does to the state around the evaluation, and
how it may fail, carries over to the whole condition, whichever of its calls are evaluated. So does
it that two states cannot be told apart: if no call tells them apart, no condition does.
-/

import Dialogue.Condition.Basic

namespace Dialogue

variable {ε σ τ α β : Type}

/-- An action leads from a state only to related ones, and fails only with admitted errors. -/
structure Meets (related : σ → σ → Prop) (admitted : ε → Prop) (action : EStateM ε σ α) :
    Prop where
  /-- What a success leads to. -/
  reaches : ∀ {before value after}, action before = .ok value after → related before after
  /-- What a failure leads to. -/
  fails : ∀ {before error after}, action before = .error error after →
    related before after ∧ admitted error

namespace Meets

variable {related : σ → σ → Prop} {admitted : ε → Prop} {action : EStateM ε σ α}

theorem weaken {allowed : ε → Prop} (hmeets : Meets related admitted action)
    (hallows : ∀ error, admitted error → allowed error) : Meets related allowed action where
  reaches hrun := hmeets.reaches hrun
  fails hrun := ⟨(hmeets.fails hrun).1, hallows _ (hmeets.fails hrun).2⟩

theorem pure (hrefl : ∀ state, related state state) (value : α) :
    Meets related admitted (EStateM.pure value) where
  reaches hrun := by
    cases hrun
    exact hrefl _
  fails hrun := by cases hrun

theorem bind {next : α → EStateM ε σ β}
    (htrans : ∀ {first second third}, related first second → related second third →
      related first third)
    (hmeets : Meets related admitted action)
    (honward : ∀ value, Meets related admitted (next value)) :
    Meets related admitted (EStateM.bind action next) where
  reaches hrun := by
    rw [EStateM.bind] at hrun
    split at hrun
    · rename_i value between hfirst
      exact htrans (hmeets.reaches hfirst) ((honward value).reaches hrun)
    · cases hrun
  fails hrun := by
    rw [EStateM.bind] at hrun
    split at hrun
    · rename_i value between hfirst
      have hfailed := (honward value).fails hrun
      exact ⟨htrans (hmeets.reaches hfirst) hfailed.1, hfailed.2⟩
    · rename_i hfailed
      cases hrun
      exact hmeets.fails hfailed

end Meets

/-- What every call meets, a condition meets as well. -/
theorem Condition.meets_eval {related : σ → σ → Prop} {admitted : ε → Prop}
    {verdict : Call → EStateM ε σ Bool} (hrefl : ∀ state, related state state)
    (htrans : ∀ {first second third}, related first second → related second third →
      related first third)
    (hmeets : ∀ call, Meets related admitted (verdict call)) (condition : Condition) :
    Meets related admitted (condition.eval verdict) := by
  induction condition with
  | call call => exact hmeets call
  | group left join right honLeft honRight =>
      rw [eval]
      refine Meets.bind htrans honLeft fun value => ?_
      cases join.settled? value with
      | some decided => exact Meets.pure hrefl decided
      | none => exact honRight

/-- Two actions have come to the same and have left related states. -/
inductive SameResult (alike : σ → τ → Prop) :
    EStateM.Result ε σ α → EStateM.Result ε τ α → Prop where
  | ok {value : α} {first : σ} {second : τ} (hstill : alike first second) :
      SameResult alike (.ok value first) (.ok value second)
  | error {error : ε} {first : σ} {second : τ} (hstill : alike first second) :
      SameResult alike (.error error first) (.error error second)

/-- Two actions come to the same from related states. -/
def Agree (alike : σ → τ → Prop) (left : EStateM ε σ α) (right : EStateM ε τ α) : Prop :=
  ∀ {first second}, alike first second → SameResult alike (left first) (right second)

namespace Agree

variable {alike : σ → τ → Prop} {left : EStateM ε σ α} {right : EStateM ε τ α}

theorem pure (value : α) :
    Agree alike (EStateM.pure value : EStateM ε σ α) (EStateM.pure value) :=
  fun hrelated => .ok hrelated

theorem bind {next : α → EStateM ε σ β} {other : α → EStateM ε τ β}
    (hagree : Agree alike left right)
    (honward : ∀ value, Agree alike (next value) (other value)) :
    Agree alike (EStateM.bind left next) (EStateM.bind right other) := by
  intro first second hrelated
  have hruns := hagree hrelated
  rw [EStateM.bind, EStateM.bind]
  generalize left first = result, right second = answer at hruns ⊢
  cases hruns with
  | ok hstill => exact honward _ hstill
  | error hstill => exact .error hstill

end Agree

/-- If every call comes to the same from related states, then so does a condition. -/
theorem Condition.agree_eval {alike : σ → τ → Prop} {left : Call → EStateM ε σ Bool}
    {right : Call → EStateM ε τ Bool} (hagree : ∀ call, Agree alike (left call) (right call))
    (condition : Condition) : Agree alike (condition.eval left) (condition.eval right) := by
  induction condition with
  | call call => exact hagree call
  | group first join second honFirst honSecond =>
      rw [eval, eval]
      refine Agree.bind honFirst fun value => ?_
      cases join.settled? value with
      | some decided => exact Agree.pure decided
      | none => exact honSecond

end Dialogue
