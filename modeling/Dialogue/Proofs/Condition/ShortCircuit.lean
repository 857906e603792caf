/-
# Which calls an evaluation makes

An evaluation makes calls of its condition from left to right, and not all of them. A call is left
out if the left operand of a group around it has decided the group, or if a call in front of it has
failed. What comes of the condition is then its value under the verdicts that were returned,
whatever the calls that were left out would have given, or else the error of the last call made.

Which calls are made is seen through a callback that keeps a record of them. A call may stand in a
condition more than once, so the theory speaks of places: the place of a call is the number of calls
in front of it. Evaluation is told by rules first, one for each way it may go, and every property is
proved by induction on the rules.
-/

import Dialogue.Condition.Basic

namespace Dialogue

variable {ε σ : Type}

/-- A call that was made: its place among the calls of the condition, and what came of it. -/
structure Inquiry (ε : Type) where
  /-- How many calls of the condition stand in front of it. -/
  place : Nat
  /-- The call. -/
  call : Call
  /-- The verdict, or the error. -/
  answer : Except ε Bool

/-- What a record holds of an inquiry: it does not know the place. -/
def Inquiry.entry (inquiry : Inquiry ε) : Call × Except ε Bool :=
  (inquiry.call, inquiry.answer)

/-- The verdict that an action comes to, or its error. -/
def answerOf : EStateM.Result ε σ Bool → Except ε Bool
  | .ok value _ => .ok value
  | .error error _ => .error error

/-- The same result, with a record kept beside the state. -/
def withRecord {ρ : Type} (record : ρ) : EStateM.Result ε σ Bool → EStateM.Result ε (σ × ρ) Bool
  | .ok value after => .ok value (after, record)
  | .error error after => .error error (after, record)

/-- A callback that also keeps a record of the calls it gets and of its answers, in order. -/
def recording (verdict : Call → EStateM ε σ Bool) (call : Call) :
    EStateM ε (σ × List (Call × Except ε Bool)) Bool :=
  fun (state, made) =>
    withRecord (made ++ [(call, answerOf (verdict call state))]) (verdict call state)

/-- The value of a group, by the values of its operands. -/
def Join.combine : Join → Bool → Bool → Bool
  | and, left, right => left && right
  | or, left, right => left || right

/-- The value of a left operand that decides a group. -/
def Join.decisive : Join → Bool
  | and => false
  | or => true

namespace Condition

/-- The value of a condition when every call of it has a value, by its place. -/
def truth : Condition → (Nat → Bool) → Bool
  | call _, value => value 0
  | group left join right, value =>
    join.combine (left.truth value) (right.truth fun place => value (left.calls.length + place))

/-- A part stands in a condition behind a number of calls. -/
inductive HasPart : Condition → Nat → Condition → Prop where
  | whole {condition : Condition} : HasPart condition 0 condition
  | left {left part right : Condition} {join : Join} {before : Nat}
      (hinside : HasPart left before part) : HasPart (group left join right) before part
  | right {left part right : Condition} {join : Join} {before : Nat}
      (hinside : HasPart right before part) :
      HasPart (group left join right) (left.calls.length + before) part

end Condition

/-- Values of the calls of a condition that are the verdicts of those that were made. -/
def Fits (value : Nat → Bool) (made : List (Inquiry ε)) : Prop :=
  ∀ inquiry ∈ made, ∀ verdict, inquiry.answer = .ok verdict → value inquiry.place = verdict

/-- By the verdicts returned, a part behind a number of calls has a value, whatever the calls that
were not made would have given. -/
def ComesTo (made : List (Inquiry ε)) (before : Nat) (part : Condition) (decided : Bool) : Prop :=
  ∀ value, Fits value made → part.truth (fun place => value (before + place)) = decided

/-- A place lies in the right operand of a group whose left operand came to the value that decides
the group. -/
def Condition.Spares (condition : Condition) (made : List (Inquiry ε)) (place : Nat) : Prop :=
  ∃ before left join right, condition.HasPart before (group left join right) ∧
    before + left.calls.length ≤ place ∧
    place < before + left.calls.length + right.calls.length ∧
    ComesTo made before left join.decisive

/-- A call in front of a place has failed. -/
def FailsBefore (made : List (Inquiry ε)) (place : Nat) : Prop :=
  ∃ inquiry ∈ made, inquiry.place < place ∧ ∃ error, inquiry.answer = .error error

/-- What short-circuit evaluation makes of a condition: the calls made, in order, and what comes of
the whole. -/
structure Condition.ShortCircuits (condition : Condition) (made : List (Inquiry ε))
    (result : Except ε Bool) : Prop where
  /-- The calls made are calls of the condition. -/
  placed : ∀ inquiry ∈ made, condition.calls[inquiry.place]? = some inquiry.call
  /-- They are made from left to right, each at most once. -/
  ordered : (made.map Inquiry.place).Pairwise (· < ·)
  /-- The leftmost call is made first. -/
  leftmost : (made.map Inquiry.place).head? = some 0
  /-- A call is left out exactly if a group around it is decided without it, or a call in front of
  it has failed. -/
  leftOut : ∀ place < condition.calls.length,
    place ∉ made.map Inquiry.place ↔ condition.Spares made place ∨ FailsBefore made place
  /-- If no call fails, then the result is the value of the condition, whatever the calls that were
  left out would have given. -/
  decided : (∀ inquiry ∈ made, ∃ verdict, inquiry.answer = .ok verdict) →
    ∀ value, Fits value made → result = .ok (condition.truth value)
  /-- A call that fails is the last one made, and its error is the result. -/
  failed : ∀ inquiry ∈ made, ∀ error, inquiry.answer = .error error →
    made.getLast? = some inquiry ∧ result = .error error

/-- The inquiry in a right operand, by its place in the group. -/
def Inquiry.behind (calls : Nat) (inquiry : Inquiry ε) : Inquiry ε :=
  { inquiry with place := calls + inquiry.place }

@[simp]
theorem Inquiry.place_behind (calls : Nat) (inquiry : Inquiry ε) :
    (inquiry.behind calls).place = calls + inquiry.place := rfl

theorem map_entry_behind (calls : Nat) (made : List (Inquiry ε)) :
    (made.map (Inquiry.behind calls)).map Inquiry.entry = made.map Inquiry.entry :=
  List.map_map

/-- An evaluation from a state makes these calls and has this result. -/
inductive Asks (verdict : Call → EStateM ε σ Bool) :
    Condition → σ → List (Inquiry ε) → EStateM.Result ε σ Bool → Prop where
  | call {call : Call} {state : σ} :
      Asks verdict (.call call) state [⟨0, call, answerOf (verdict call state)⟩]
        (verdict call state)
  | fails {left right : Condition} {join : Join} {state after : σ} {made : List (Inquiry ε)}
      {error : ε} (hasks : Asks verdict left state made (.error error after)) :
      Asks verdict (.group left join right) state made (.error error after)
  | decides {left right : Condition} {join : Join} {state after : σ} {made : List (Inquiry ε)}
      (hasks : Asks verdict left state made (.ok join.decisive after)) :
      Asks verdict (.group left join right) state made (.ok join.decisive after)
  | goesOn {left right : Condition} {join : Join} {state between : σ}
      {made later : List (Inquiry ε)} {value : Bool} {result : EStateM.Result ε σ Bool}
      (hasks : Asks verdict left state made (.ok value between))
      (hundecided : value ≠ join.decisive)
      (hothers : Asks verdict right between later result) :
      Asks verdict (.group left join right) state
        (made ++ later.map (Inquiry.behind left.calls.length)) result

theorem Join.combine_decisive (join : Join) (right : Bool) :
    join.combine join.decisive right = join.decisive := by
  cases join <;> rfl

theorem Join.combine_of_ne (join : Join) {left : Bool} (hundecided : left ≠ join.decisive)
    (right : Bool) : join.combine left right = right := by
  cases join with
  | and =>
      cases left with
      | false => exact absurd rfl hundecided
      | true => rfl
  | or =>
      cases left with
      | false => rfl
      | true => exact absurd rfl hundecided

variable {verdict : Call → EStateM ε σ Bool} {condition : Condition} {state : σ}
  {made : List (Inquiry ε)} {result : EStateM.Result ε σ Bool}

/-- The left operand of a group is evaluated first, and the right one unless it decides. -/
theorem Condition.eval_group (verdict : Call → EStateM ε σ Bool) (left right : Condition)
    (join : Join) (state : σ) :
    (group left join right).eval verdict state =
      match left.eval verdict state with
      | .ok value between =>
        if value = join.decisive then .ok value between else right.eval verdict between
      | .error error after => .error error after := by
  rw [eval]
  show EStateM.bind _ _ state = _
  rw [EStateM.bind]
  cases left.eval verdict state with
  | error error after => rfl
  | ok value between => cases join <;> cases value <;> rfl

/-- The rules cover every evaluation. -/
theorem exists_asks (verdict : Call → EStateM ε σ Bool) (condition : Condition) (state : σ) :
    ∃ made, Asks verdict condition state made (condition.eval verdict state) := by
  induction condition generalizing state with
  | call call => exact ⟨_, .call⟩
  | group left join right honLeft honRight =>
      obtain ⟨made, hasks⟩ := honLeft state
      rw [Condition.eval_group]
      cases hfirst : left.eval verdict state with
      | error error after =>
          rw [hfirst] at hasks
          exact ⟨made, .fails hasks⟩
      | ok value between =>
          rw [hfirst] at hasks
          dsimp only
          by_cases hdecides : value = join.decisive
          · subst hdecides
            rw [if_pos rfl]
            exact ⟨made, .decides hasks⟩
          · rw [if_neg hdecides]
            obtain ⟨later, hothers⟩ := honRight between
            exact ⟨_, .goesOn hasks hdecides hothers⟩

/-- The calls of an evaluation are those that its callback gets. -/
theorem Asks.eval_recording (hasks : Asks verdict condition state made result)
    (before : List (Call × Except ε Bool)) :
    condition.eval (recording verdict) (state, before) =
      withRecord (before ++ made.map Inquiry.entry) result := by
  induction hasks generalizing before with
  | call => rfl
  | fails hasks ih =>
      rw [Condition.eval_group, ih]
      rfl
  | decides hasks ih =>
      rw [Condition.eval_group, ih]
      exact if_pos rfl
  | goesOn hasks hundecided hothers ih ih' =>
      rw [Condition.eval_group, ih, List.map_append, map_entry_behind, ← List.append_assoc]
      exact (if_neg hundecided).trans (ih' _)

/-- A call of a left operand has the same place in the group. -/
theorem Condition.getElem?_calls_left {left right : Condition} {join : Join} {place : Nat}
    {call : Call} (hfound : left.calls[place]? = some call) :
    (group left join right).calls[place]? = some call := by
  rw [calls, List.getElem?_append_left (List.getElem?_eq_some_iff.mp hfound).1, hfound]

theorem Asks.placed (hasks : Asks verdict condition state made result) :
    ∀ inquiry ∈ made, condition.calls[inquiry.place]? = some inquiry.call := by
  induction hasks with
  | call =>
      intro inquiry hmem
      rw [List.mem_singleton.mp hmem]
      rfl
  | fails hasks ih | decides hasks ih =>
      intro inquiry hmem
      exact Condition.getElem?_calls_left (ih inquiry hmem)
  | goesOn hasks hundecided hothers ih ih' =>
      intro inquiry hmem
      rcases List.mem_append.mp hmem with hfirst | hsecond
      · exact Condition.getElem?_calls_left (ih inquiry hfirst)
      · obtain ⟨inquiry, hown, rfl⟩ := List.mem_map.mp hsecond
        rw [Condition.calls, Inquiry.place_behind,
          List.getElem?_append_right (Nat.le_add_right _ _), Nat.add_sub_cancel_left]
        exact ih' inquiry hown

theorem Asks.place_lt (hasks : Asks verdict condition state made result) :
    ∀ inquiry ∈ made, inquiry.place < condition.calls.length := by
  intro inquiry hmem
  exact (List.getElem?_eq_some_iff.mp (hasks.placed inquiry hmem)).1

theorem Asks.not_mem_of_le (hasks : Asks verdict condition state made result) {place : Nat}
    (hbeyond : condition.calls.length ≤ place) : place ∉ made.map Inquiry.place := by
  intro hmem
  obtain ⟨inquiry, hown, rfl⟩ := List.mem_map.mp hmem
  have hlower := hasks.place_lt inquiry hown
  omega

theorem Asks.ordered (hasks : Asks verdict condition state made result) :
    (made.map Inquiry.place).Pairwise (· < ·) := by
  induction hasks with
  | call => exact List.pairwise_singleton _ _
  | fails hasks ih | decides hasks ih => exact ih
  | goesOn hasks hundecided hothers ih ih' =>
      rw [List.map_append, List.map_map, List.pairwise_append]
      refine ⟨ih, ?_, ?_⟩
      · rw [List.pairwise_map] at ih' ⊢
        exact ih'.imp (Nat.add_lt_add_left · _)
      · intro place hfirst place' hsecond
        obtain ⟨inquiry, hmem, rfl⟩ := List.mem_map.mp hfirst
        obtain ⟨inquiry', hmem', rfl⟩ := List.mem_map.mp hsecond
        exact Nat.lt_of_lt_of_le (hasks.place_lt inquiry hmem) (Nat.le_add_right _ _)

theorem Asks.leftmost (hasks : Asks verdict condition state made result) :
    (made.map Inquiry.place).head? = some 0 := by
  induction hasks with
  | call => rfl
  | fails hasks ih | decides hasks ih => exact ih
  | goesOn hasks hundecided hothers ih ih' =>
      rw [List.map_append, List.head?_append, ih, Option.some_or]

/-- A call that fails ends the evaluation. -/
theorem Asks.failed (hasks : Asks verdict condition state made result) :
    ∀ inquiry ∈ made, ∀ error, inquiry.answer = .error error →
      made.getLast? = some inquiry ∧ answerOf result = .error error := by
  induction hasks with
  | call =>
      intro inquiry hmem error hfailed
      rw [List.mem_singleton.mp hmem] at hfailed ⊢
      exact ⟨rfl, hfailed⟩
  | fails hasks ih | decides hasks ih => exact ih
  | goesOn hasks hundecided hothers ih ih' =>
      intro inquiry hmem error hfailed
      rcases List.mem_append.mp hmem with hfirst | hsecond
      · cases (ih inquiry hfirst error hfailed).2
      · obtain ⟨inquiry, hown, rfl⟩ := List.mem_map.mp hsecond
        obtain ⟨hlast, hfails⟩ := ih' inquiry hown error hfailed
        rw [List.getLast?_append, List.getLast?_map, hlast]
        exact ⟨rfl, hfails⟩

/-- No call fails in an evaluation that succeeds. -/
theorem Asks.succeeds (hasks : Asks verdict condition state made result) {value : Bool}
    (hsuccess : answerOf result = .ok value) :
    ∀ inquiry ∈ made, ∀ error, inquiry.answer ≠ .error error := by
  intro inquiry hmem error hanswer
  have hfailure := (hasks.failed inquiry hmem error hanswer).2
  rw [hsuccess] at hfailure
  cases hfailure

/-- An evaluation fails only through a call that fails. -/
theorem Asks.exists_failed (hasks : Asks verdict condition state made result) {error : ε}
    (hfails : answerOf result = .error error) :
    ∃ inquiry ∈ made, inquiry.answer = .error error := by
  induction hasks with
  | call => exact ⟨_, List.mem_singleton.mpr rfl, hfails⟩
  | fails hasks ih => exact ih hfails
  | decides hasks ih => cases hfails
  | goesOn hasks hundecided hothers ih ih' =>
      obtain ⟨inquiry, hown, hfailed⟩ := ih' hfails
      exact ⟨_, List.mem_append.mpr (.inr (List.mem_map_of_mem hown)), hfailed⟩

/-- The value of a condition depends on nothing but its calls. -/
theorem Condition.truth_congr {value other : Nat → Bool} (condition : Condition)
    (hsame : ∀ place < condition.calls.length, value place = other place) :
    condition.truth value = condition.truth other := by
  induction condition generalizing value other with
  | call call => exact hsame 0 (Nat.zero_lt_succ 0)
  | group left join right ih ih' =>
      rw [calls, List.length_append] at hsame
      rw [truth, truth, ih fun place hwithin => hsame place (by omega),
        ih' fun place hwithin => hsame (left.calls.length + place) (by omega)]

theorem Condition.HasPart.le {part : Condition} {before : Nat}
    (hinside : condition.HasPart before part) :
    before + part.calls.length ≤ condition.calls.length := by
  induction hinside with
  | whole => omega
  | left hinside ih | right hinside ih =>
      rw [Condition.calls, List.length_append]
      omega

theorem Condition.HasPart.group_le {first second : Condition} {join : Join} {before : Nat}
    (hinside : condition.HasPart before (group first join second)) :
    before + first.calls.length + second.calls.length ≤ condition.calls.length := by
  have hwithin := hinside.le
  rwa [calls, List.length_append, ← Nat.add_assoc] at hwithin

section

variable {calls before : Nat} {later : List (Inquiry ε)} {value other : Nat → Bool}

theorem fits_append :
    Fits value (made ++ later.map (Inquiry.behind calls)) ↔
      Fits value made ∧ Fits (fun place => value (calls + place)) later := by
  rw [Fits, List.forall_mem_append, List.forall_mem_map]
  exact Iff.rfl

/-- Values for two operands are values for both together, for they have different places. -/
theorem exists_fits_append (hwithin : ∀ inquiry ∈ made, inquiry.place < calls)
    (hfirst : Fits value made) (hsecond : Fits other later) :
    ∃ both, Fits both (made ++ later.map (Inquiry.behind calls)) ∧
      (∀ place < calls, both place = value place) ∧
      ∀ place, both (calls + place) = other place := by
  refine ⟨fun place => if place < calls then value place else other (place - calls), ?_, ?_, ?_⟩
  · rw [fits_append]
    constructor
    · intro inquiry hmem verdict hanswer
      dsimp only
      rw [if_pos (hwithin inquiry hmem)]
      exact hfirst inquiry hmem verdict hanswer
    · intro inquiry hmem verdict hanswer
      dsimp only
      rw [if_neg (by omega), Nat.add_sub_cancel_left]
      exact hsecond inquiry hmem verdict hanswer
  · intro place hlower
    exact if_pos hlower
  · intro place
    dsimp only
    rw [if_neg (by omega), Nat.add_sub_cancel_left]

/-- There are values that fit the calls that were made. -/
theorem Asks.exists_fits (hasks : Asks verdict condition state made result) :
    ∃ value, Fits value made := by
  induction hasks with
  | @call call state =>
      cases hanswer : answerOf (verdict call state) with
      | error error =>
          refine ⟨fun _ => false, fun inquiry hmem value hsucceeds => ?_⟩
          rw [List.mem_singleton.mp hmem] at hsucceeds
          cases hsucceeds
      | ok value =>
          refine ⟨fun _ => value, fun inquiry hmem value hsucceeds => ?_⟩
          rw [List.mem_singleton.mp hmem] at hsucceeds ⊢
          exact Except.ok.inj hsucceeds
  | fails hasks ih | decides hasks ih => exact ih
  | goesOn hasks hundecided hothers ih ih' =>
      obtain ⟨value, hfirst⟩ := ih
      obtain ⟨other, hsecond⟩ := ih'
      obtain ⟨both, hfits, -⟩ := exists_fits_append hasks.place_lt hfirst hsecond
      exact ⟨both, hfits⟩

/-- The result is the value of the condition, whatever the calls left out would have given. -/
theorem Asks.comesTo (hasks : Asks verdict condition state made result) {decided : Bool}
    (hsucceeds : answerOf result = .ok decided) : ComesTo made 0 condition decided := by
  intro value hfits
  simp only [Nat.zero_add]
  induction hasks generalizing value decided with
  | call => exact hfits _ (List.mem_singleton.mpr rfl) decided hsucceeds
  | fails hasks ih => cases hsucceeds
  | decides hasks ih =>
      cases hsucceeds
      rw [Condition.truth, ih rfl value hfits, Join.combine_decisive]
  | goesOn hasks hundecided hothers ih ih' =>
      obtain ⟨hfirst, hsecond⟩ := fits_append.mp hfits
      rw [Condition.truth, ih rfl value hfirst, Join.combine_of_ne _ hundecided,
        ih' hsucceeds _ hsecond]

/-- Calls in the right operand make no difference to a part of the left one. -/
theorem comesTo_append_left {part : Condition} {decided : Bool}
    (hwithin : ∀ inquiry ∈ made, inquiry.place < calls)
    (hinside : before + part.calls.length ≤ calls) (hfits : ∃ value, Fits value later) :
    ComesTo (made ++ later.map (Inquiry.behind calls)) before part decided ↔
      ComesTo made before part decided := by
  constructor
  · intro hcomes value hfirst
    obtain ⟨other, hsecond⟩ := hfits
    obtain ⟨both, hjoint, hsame, -⟩ := exists_fits_append hwithin hfirst hsecond
    rw [← hcomes both hjoint]
    exact part.truth_congr fun place hlower => (hsame _ (by omega)).symm
  · intro hcomes value hjoint
    exact hcomes value (fits_append.mp hjoint).1

/-- Calls in the left operand make no difference to a part of the right one. -/
theorem comesTo_append_right {part : Condition} {decided : Bool}
    (hwithin : ∀ inquiry ∈ made, inquiry.place < calls) (hfits : ∃ value, Fits value made) :
    ComesTo (made ++ later.map (Inquiry.behind calls)) (calls + before) part decided ↔
      ComesTo later before part decided := by
  constructor
  · intro hcomes other hsecond
    obtain ⟨value, hfirst⟩ := hfits
    obtain ⟨both, hjoint, -, hsame⟩ := exists_fits_append hwithin hfirst hsecond
    rw [← hcomes both hjoint]
    refine part.truth_congr fun place _ => ?_
    rw [Nat.add_assoc, hsame]
  · intro hcomes value hjoint
    have hown := hcomes _ (fits_append.mp hjoint).2
    simpa only [Nat.add_assoc] using hown

end

section

variable {left right : Condition} {join : Join} {later : List (Inquiry ε)} {place : Nat}

/-- In a left operand the group around it spares nothing. -/
theorem Condition.spares_group_left (hinside : place < left.calls.length) :
    (group left join right).Spares made place ↔ left.Spares made place := by
  constructor
  · rintro ⟨before, first, inner, second, hpart, hlower, hupper, hcomes⟩
    cases hpart with
    | whole => omega
    | left hpart => exact ⟨before, first, inner, second, hpart, hlower, hupper, hcomes⟩
    | right hpart => omega
  · rintro ⟨before, first, inner, second, hpart, hlower, hupper, hcomes⟩
    exact ⟨before, first, inner, second, .left hpart, hlower, hupper, hcomes⟩

/-- A right operand is spared as a whole if the left one decides. -/
theorem Condition.spares_group_of_comesTo (hcomes : ComesTo made 0 left join.decisive)
    (hlower : left.calls.length ≤ place)
    (hupper : place < (group left join right).calls.length) :
    (group left join right).Spares made place := by
  rw [calls, List.length_append] at hupper
  exact ⟨0, left, join, right, .whole, by omega, by omega, hcomes⟩

/-- What is spared in a left operand does not depend on the calls in the right one. -/
theorem Condition.spares_append_left
    (hwithin : ∀ inquiry ∈ made, inquiry.place < left.calls.length)
    (hfits : ∃ value, Fits value later) :
    left.Spares (made ++ later.map (Inquiry.behind left.calls.length)) place ↔
      left.Spares made place := by
  have hinside {before : Nat} {first second : Condition} {inner : Join}
      (hpart : left.HasPart before (group first inner second)) :
      before + first.calls.length ≤ left.calls.length :=
    Nat.le_trans (Nat.le_add_right _ _) hpart.group_le
  constructor
  · rintro ⟨before, first, inner, second, hpart, hlower, hupper, hcomes⟩
    rw [comesTo_append_left hwithin (hinside hpart) hfits] at hcomes
    exact ⟨before, first, inner, second, hpart, hlower, hupper, hcomes⟩
  · rintro ⟨before, first, inner, second, hpart, hlower, hupper, hcomes⟩
    rw [← comesTo_append_left hwithin (hinside hpart) hfits] at hcomes
    exact ⟨before, first, inner, second, hpart, hlower, hupper, hcomes⟩

/-- What is spared in a right operand that is evaluated does not depend on the left one. -/
theorem Condition.spares_append_right
    (hwithin : ∀ inquiry ∈ made, inquiry.place < left.calls.length)
    (hfits : ∃ value, Fits value (made ++ later.map (Inquiry.behind left.calls.length)))
    {value : Bool} (hcomes : ComesTo made 0 left value) (hundecided : value ≠ join.decisive) :
    (group left join right).Spares (made ++ later.map (Inquiry.behind left.calls.length))
        (left.calls.length + place) ↔ right.Spares later place := by
  obtain ⟨both, hjoint⟩ := hfits
  have hfirst := (fits_append.mp hjoint).1
  constructor
  · rintro ⟨before, operand, inner, other, hpart, hlower, hupper, hdecides⟩
    cases hpart with
    | whole => exact absurd ((hcomes both hfirst).symm.trans (hdecides both hjoint)) hundecided
    | left hpart =>
        have hinside := hpart.group_le
        omega
    | right hpart =>
        rw [comesTo_append_right hwithin ⟨both, hfirst⟩] at hdecides
        exact ⟨_, operand, inner, other, hpart, by omega, by omega, hdecides⟩
  · rintro ⟨before, operand, inner, other, hpart, hlower, hupper, hdecides⟩
    rw [← comesTo_append_right hwithin ⟨both, hfirst⟩] at hdecides
    exact ⟨_, operand, inner, other, .right hpart, by omega, by omega, hdecides⟩

end

/-- The calls of a left operand are not made again behind it. -/
theorem not_mem_behind_of_lt {calls place : Nat} {later : List (Inquiry ε)}
    (hinside : place < calls) :
    place ∉ (later.map (Inquiry.behind calls)).map Inquiry.place := by
  rw [List.map_map]
  intro hmem
  obtain ⟨inquiry, -, hsame⟩ := List.mem_map.mp hmem
  rw [Function.comp_apply, Inquiry.place_behind] at hsame
  omega

theorem mem_behind_iff {calls place : Nat} {later : List (Inquiry ε)} :
    calls + place ∈ (later.map (Inquiry.behind calls)).map Inquiry.place ↔
      place ∈ later.map Inquiry.place := by
  rw [List.map_map, List.mem_map, List.mem_map]
  refine exists_congr fun inquiry => and_congr_right fun _ => ?_
  rw [Function.comp_apply, Inquiry.place_behind, Nat.add_left_cancel_iff]

theorem failsBefore_append_left {calls place : Nat} {later : List (Inquiry ε)}
    (hinside : place < calls) :
    FailsBefore (made ++ later.map (Inquiry.behind calls)) place ↔ FailsBefore made place := by
  constructor
  · rintro ⟨inquiry, hmem, hlower, hfails⟩
    rcases List.mem_append.mp hmem with hfirst | hsecond
    · exact ⟨inquiry, hfirst, hlower, hfails⟩
    · obtain ⟨inquiry, -, rfl⟩ := List.mem_map.mp hsecond
      rw [Inquiry.place_behind] at hlower
      omega
  · rintro ⟨inquiry, hmem, hlower, hfails⟩
    exact ⟨inquiry, List.mem_append_left _ hmem, hlower, hfails⟩

theorem failsBefore_append_right {calls place : Nat} {later : List (Inquiry ε)}
    (hsucceeds : ∀ inquiry ∈ made, ∀ error, inquiry.answer ≠ .error error) :
    FailsBefore (made ++ later.map (Inquiry.behind calls)) (calls + place) ↔
      FailsBefore later place := by
  constructor
  · rintro ⟨inquiry, hmem, hlower, error, hanswer⟩
    rcases List.mem_append.mp hmem with hfirst | hsecond
    · exact absurd hanswer (hsucceeds inquiry hfirst error)
    · obtain ⟨inquiry, hown, rfl⟩ := List.mem_map.mp hsecond
      exact ⟨inquiry, hown, Nat.lt_of_add_lt_add_left hlower, error, hanswer⟩
  · rintro ⟨inquiry, hown, hlower, hfails⟩
    refine ⟨inquiry.behind calls, ?_, Nat.add_lt_add_left hlower calls, hfails⟩
    exact List.mem_append_right _ (List.mem_map_of_mem hown)

/-- A call is left out exactly if a group is decided without it or a call in front of it has
failed. The induction is on the evaluation; in a group the calls of the two operands are told apart
by their places. -/
theorem Asks.leftOut (hasks : Asks verdict condition state made result) :
    ∀ place < condition.calls.length,
      place ∉ made.map Inquiry.place ↔ condition.Spares made place ∨ FailsBefore made place := by
  induction hasks with
  | call =>
      intro place hwithin
      obtain rfl : place = 0 := Nat.lt_one_iff.mp hwithin
      constructor
      · intro habsent
        exact absurd (List.mem_singleton.mpr rfl) habsent
      · rintro (⟨_, _, _, _, hpart, -⟩ | ⟨_, -, hlower, -⟩)
        · cases hpart
        · exact absurd hlower (Nat.not_lt_zero _)
  | @fails left _ _ _ _ made _ hasks ih =>
      intro place hwithin
      by_cases hinside : place < left.calls.length
      · rw [Condition.spares_group_left hinside]
        exact ih place hinside
      · obtain ⟨inquiry, hmem, hanswer⟩ := hasks.exists_failed rfl
        have hlower := hasks.place_lt inquiry hmem
        refine iff_of_true (hasks.not_mem_of_le (by omega)) (.inr ?_)
        exact ⟨inquiry, hmem, by omega, _, hanswer⟩
  | @decides left _ _ _ _ made hasks ih =>
      intro place hwithin
      by_cases hinside : place < left.calls.length
      · rw [Condition.spares_group_left hinside]
        exact ih place hinside
      · refine iff_of_true (hasks.not_mem_of_le (by omega)) (.inl ?_)
        exact Condition.spares_group_of_comesTo (hasks.comesTo rfl) (by omega) hwithin
  | @goesOn left right join _ _ made later _ _ hasks hundecided hothers ih ih' =>
      intro place hwithin
      rw [Condition.calls, List.length_append] at hwithin
      rw [List.map_append, List.mem_append, not_or]
      by_cases hinside : place < left.calls.length
      · rw [Condition.spares_group_left hinside,
          Condition.spares_append_left hasks.place_lt hothers.exists_fits,
          failsBefore_append_left hinside, ← ih place hinside]
        exact and_iff_left (not_mem_behind_of_lt hinside)
      · obtain ⟨place, rfl⟩ := Nat.exists_eq_add_of_le (Nat.le_of_not_lt hinside)
        have hboth := (Asks.goesOn hasks hundecided hothers).exists_fits
        rw [Condition.spares_append_right hasks.place_lt hboth (hasks.comesTo rfl) hundecided,
          failsBefore_append_right (hasks.succeeds rfl), ← ih' place (by omega),
          mem_behind_iff]
        exact and_iff_right (hasks.not_mem_of_le (Nat.le_add_right _ _))

/-- What an evaluation does: its callback gets some of the calls, by the rules of short-circuit
evaluation, and a record of them changes nothing else. -/
theorem Condition.eval_shortCircuits (verdict : Call → EStateM ε σ Bool) (condition : Condition)
    (state : σ) :
    ∃ made : List (Inquiry ε),
      condition.eval (recording verdict) (state, []) =
        withRecord (made.map Inquiry.entry) (condition.eval verdict state) ∧
      condition.ShortCircuits made (answerOf (condition.eval verdict state)) := by
  obtain ⟨made, hasks⟩ := exists_asks verdict condition state
  refine ⟨made, hasks.eval_recording [], ?_⟩
  exact {
    placed := hasks.placed
    ordered := hasks.ordered
    leftmost := hasks.leftmost
    leftOut := hasks.leftOut
    decided := by
      intro hanswered value hfits
      cases hresult : answerOf (condition.eval verdict state) with
      | error error =>
          obtain ⟨inquiry, hmem, hfailed⟩ := hasks.exists_failed hresult
          obtain ⟨verdict, hanswer⟩ := hanswered inquiry hmem
          rw [hfailed] at hanswer
          cases hanswer
      | ok decided =>
          have hcomes := hasks.comesTo hresult value hfits
          simp only [Nat.zero_add] at hcomes
          rw [hcomes]
    failed := hasks.failed }

/-- A left operand that holds decides a disjunction, so the right one is not asked. -/
example :
    (Condition.group (.call ⟨"yes", []⟩) .or (.call ⟨"no", []⟩)).eval
        (recording fun call => (pure (call.method == "yes") : EStateM Unit Unit Bool)) ((), []) =
      .ok true ((), [(⟨"yes", []⟩, .ok true)]) := by
  rfl

end Dialogue
