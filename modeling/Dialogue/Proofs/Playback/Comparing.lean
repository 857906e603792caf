/-
# Methods that compare

Four methods order two arguments, two ask whether they are equal. The orderings read both arguments
alike: a variable stands for its value, any other text for itself. Equality asks the first argument
to name a variable, and reads a decimal as such even if a variable has that name. Where both ways of
reading come to the same values, all six methods follow one order of values, and so they agree. The
order of whole numbers is exact up to rounding, and so are the methods that follow it.
-/

import Dialogue.Playback.Method
import Dialogue.Proofs.Value

namespace Dialogue.Method

open Value (ComparesExactly)
open Number (Writes fitsBinary)

variable {state : State} {stores : Shelf} {id : StoreId} {names : Method → String}
  {left right : Argument} {store : Store} {a b : String} {m n : Int}
  {verdicts : Method → Except Error (Option Bool)} {order other : Option Ordering}

/-- The verdicts of the methods on two arguments, whatever they are called by. -/
def verdictOn (state : State) (stores : Shelf) (names : Method → String) (left right : Argument)
    (method : Method) : Except Error (Option Bool) :=
  method.verdict state stores ⟨names method, [left, right]⟩

/-- The value that equality compares with, if the argument is not in quotes. -/
def comparand? (store : Store) (right : Argument) : Option String :=
  if Value.isDecimal right.text then some right.text else store.get? right.text

/-- The methods that order two arguments. -/
def orderings : List Method :=
  [.greaterThan, .greaterOrEqual, .lessThan, .lessOrEqual]

/-- The verdicts of the orderings follow one order of values. -/
structure OrdersBy (verdicts : Method → Except Error (Option Bool)) (order : Option Ordering) :
    Prop where
  greaterThan : verdicts .greaterThan = .ok (order.map (· == .gt))
  greaterOrEqual : verdicts .greaterOrEqual = .ok (order.map (· != .lt))
  lessThan : verdicts .lessThan = .ok (order.map (· == .lt))
  lessOrEqual : verdicts .lessOrEqual = .ok (order.map (· != .gt))

theorem OrdersBy.exists_test (hordered : OrdersBy verdicts order) :
    ∀ method ∈ orderings, ∃ test : Ordering → Bool, verdicts method = .ok (order.map test) := by
  simp only [orderings, List.forall_mem_cons]
  exact ⟨⟨_, hordered.greaterThan⟩, ⟨_, hordered.greaterOrEqual⟩, ⟨_, hordered.lessThan⟩,
    ⟨_, hordered.lessOrEqual⟩, fun _ hmem => absurd hmem List.not_mem_nil⟩

/-- The orderings tell the order that they follow. -/
theorem OrdersBy.unique (hordered : OrdersBy verdicts order) (hagain : OrdersBy verdicts other) :
    order = other := by
  have hgreater := hordered.greaterThan.symm.trans hagain.greaterThan
  have hless := hordered.lessThan.symm.trans hagain.lessThan
  rw [Except.ok.injEq] at hgreater hless
  rcases order with _ | order <;> rcases other with _ | other
  · rfl
  · cases hgreater
  · cases hgreater
  · have htells : ∀ first second : Ordering, (first == .gt) = (second == .gt) →
        (first == .lt) = (second == .lt) → first = second := by
      intro first second
      cases first <;> cases second <;> decide
    rw [htells order other (Option.some.inj hgreater) (Option.some.inj hless)]

/-- The orderings compare the values of the two arguments. -/
theorem ordersBy_verdictOn (hattached : state.store = some id) :
    OrdersBy (verdictOn state stores names left right)
      (Value.order? (valueOf (stores.get id) left) (valueOf (stores.get id) right)) := by
  constructor <;> simp only [verdictOn, verdict, ordering, operands, State.storeId, hattached,
    Except.map]

theorem verdictOn_equal (hattached : state.store = some id) :
    verdictOn state stores names left right .equal =
      .ok (some (areEqual (stores.get id) left right)) := by
  simp only [verdictOn, verdict, equality, operands, State.storeId, hattached, Except.map]

theorem verdictOn_notEqual (hattached : state.store = some id) :
    verdictOn state stores names left right .notEqual =
      .ok (some (!areEqual (stores.get id) left right)) := by
  simp only [verdictOn, verdict, equality, operands, State.storeId, hattached, Except.map]

/-- A variable is equal to what it is compared with if that is a value, and the two values are. -/
theorem areEqual_of_unquoted (hheld : store.get? left.text = some a)
    (hunquoted : right.quoted = false) :
    areEqual store left right =
      (comparand? store right).any fun other => Value.order? a other == some .eq := by
  rw [areEqual, hheld, hunquoted, comparand?]
  dsimp only
  rw [if_neg Bool.false_ne_true]
  split
  · rfl
  · cases store.get? right.text <;> rfl

/-- Equality and the orderings agree. -/
structure Agree (verdicts : Method → Except Error (Option Bool)) : Prop where
  /-- No ordering fails. -/
  succeeds : ∀ method ∈ orderings, ∃ verdict, verdicts method = .ok verdict
  /-- Equality always has a verdict. -/
  definite : ∃ same, verdicts .equal = .ok (some same)
  equal : verdicts .equal = .ok (some true) ↔
    verdicts .greaterOrEqual = .ok (some true) ∧ verdicts .lessOrEqual = .ok (some true)
  notEqual : verdicts .notEqual = .ok (some true) ↔ verdicts .equal = .ok (some false)
  /-- Where one ordering has no verdict none has, and equality is false. -/
  undecided : ∀ method ∈ orderings, verdicts method = .ok none →
    (∀ other ∈ orderings, verdicts other = .ok none) ∧ verdicts .equal = .ok (some false)
  /-- Else exactly one of three methods holds. -/
  decided : (∀ method ∈ orderings, verdicts method ≠ .ok none) →
    ∃! method, method ∈ [.greaterThan, .lessThan, .equal] ∧ verdicts method = .ok (some true)

/-- The method that tells an order from the two others. -/
def telling : Ordering → Method
  | .lt => .lessThan
  | .eq => .equal
  | .gt => .greaterThan

/-- Of three methods only the one that tells the order of two values holds. -/
theorem OrdersBy.holds_iff_telling {order : Ordering} (hordered : OrdersBy verdicts (some order))
    (hequal : verdicts .equal = .ok (some (some order == some .eq))) :
    ∀ method ∈ [.greaterThan, .lessThan, .equal],
      verdicts method = .ok (some true) ↔ method = telling order := by
  simp only [List.forall_mem_cons, hordered.greaterThan, hordered.lessThan, hequal]
  cases order <;> simp [telling]

/-- Methods that follow one order of values agree. -/
theorem agree_of_ordersBy (hordered : OrdersBy verdicts order)
    (hequal : verdicts .equal = .ok (some (order == some .eq)))
    (hnotEqual : verdicts .notEqual = .ok (some (!(order == some .eq)))) : Agree verdicts where
  succeeds method hmem := by
    obtain ⟨test, hverdict⟩ := hordered.exists_test method hmem
    exact ⟨_, hverdict⟩
  definite := ⟨_, hequal⟩
  equal := by
    rw [hequal, hordered.greaterOrEqual, hordered.lessOrEqual]
    rcases order with _ | order
    · simp
    · cases order <;> simp
  notEqual := by
    rw [hequal, hnotEqual]
    simp
  undecided method hmem hsilent := by
    obtain ⟨test, hverdict⟩ := hordered.exists_test method hmem
    rw [hverdict, Except.ok.injEq, Option.map_eq_none_iff] at hsilent
    subst hsilent
    refine ⟨fun other hmem => ?_, hequal⟩
    obtain ⟨test, hverdict⟩ := hordered.exists_test other hmem
    exact hverdict
  decided hspoken := by
    cases order with
    | none => exact absurd hordered.greaterThan (hspoken _ List.mem_cons_self)
    | some order =>
        have htells := hordered.holds_iff_telling hequal
        have hlisted : telling order ∈ [.greaterThan, .lessThan, .equal] := by
          cases order <;> simp [telling]
        exact ⟨telling order, ⟨hlisted, (htells _ hlisted).mpr rfl⟩,
          fun method hholds => (htells method hholds.1).mp hholds.2⟩

/-- An argument without quotes that is a decimal or else a variable has the same value for equality
as for the orderings. -/
theorem comparand?_eq_valueOf (hunquoted : right.quoted = false)
    (heither : Value.isDecimal right.text = true ↔ store.get? right.text = none) :
    comparand? store right = some (valueOf store right) := by
  rw [comparand?, valueOf, hunquoted, if_neg Bool.false_ne_true]
  split
  · rename_i hdecimal
    rw [heither.mp hdecimal, Option.getD_none]
  · rename_i hother
    obtain ⟨value, hheld⟩ := Option.ne_none_iff_exists'.mp fun hunset => hother (heither.mpr hunset)
    rw [hheld, Option.getD_some]

/-- Equality agrees with the orderings on a variable and another argument without quotes that is a
decimal or the name of a variable and not both. -/
theorem agree_verdictOn (stores : Shelf) (names : Method → String)
    (hattached : state.store = some id) (hplain : left.quoted = false)
    (hheld : ((stores.get id).get? left.text).isSome = true) (hunquoted : right.quoted = false)
    (heither : Value.isDecimal right.text = true ↔ (stores.get id).get? right.text = none) :
    Agree (verdictOn state stores names left right) := by
  obtain ⟨value, hheld⟩ := Option.isSome_iff_exists.mp hheld
  have hisLeft : valueOf (stores.get id) left = value := by
    rw [valueOf, hplain, if_neg Bool.false_ne_true, hheld, Option.getD_some]
  have hsame : areEqual (stores.get id) left right =
      (Value.order? (valueOf (stores.get id) left) (valueOf (stores.get id) right) ==
        some .eq) := by
    rw [areEqual_of_unquoted hheld hunquoted, comparand?_eq_valueOf hunquoted heither,
      Option.any_some, hisLeft]
  refine agree_of_ordersBy (ordersBy_verdictOn hattached) ?_ ?_
  · rw [verdictOn_equal hattached, hsame]
  · rw [verdictOn_notEqual hattached, hsame]

/-- A variable beside another one, and beside a decimal. -/
theorem agree_verdictOn_gold :
    let id : StoreId := ⟨0⟩
    let inn : Collection := ⟨"inn", "inn", "", [.empty "inn"]⟩
    let state : State := .start inn 0 (some id)
    let store := (Store.empty.set "gold" (some "12")).set "price" (some " 9.5")
    let stores := Shelf.empty.put id store
    let gold : Argument := ⟨"Gold", false⟩
    state.store = some id ∧ gold.quoted = false ∧
      ((stores.get id).get? gold.text).isSome = true ∧
      ∀ right ∈ [⟨"price", false⟩, ⟨"1.2e1", false⟩],
        right.quoted = false ∧
        (Value.isDecimal right.text = true ↔ (stores.get id).get? right.text = none) ∧
        Agree (verdictOn state stores (fun _ => "") gold right) := by
  intro id inn state store stores gold
  have hattached : state.store = some id := rfl
  have hheld : ((stores.get id).get? gold.text).isSome = true := by decide +kernel
  refine ⟨hattached, rfl, hheld, List.forall_mem_cons.mpr ⟨?_, List.forall_mem_singleton.mpr ?_⟩⟩
  · have heither : Value.isDecimal "price" = true ↔ (stores.get id).get? "price" = none := by
      decide +kernel
    exact ⟨rfl, heither, agree_verdictOn stores _ hattached rfl hheld rfl heither⟩
  · have heither : Value.isDecimal "1.2e1" = true ↔ (stores.get id).get? "1.2e1" = none := by
      decide +kernel
    exact ⟨rfl, heither, agree_verdictOn stores _ hattached rfl hheld rfl heither⟩

/-- The orderings decide as whole numbers do. -/
structure OrdersAs (verdicts : Method → Except Error (Option Bool)) (m n : Int) : Prop where
  greaterThan : verdicts .greaterThan = .ok (some (decide (m > n)))
  greaterOrEqual : verdicts .greaterOrEqual = .ok (some (decide (m ≥ n)))
  lessThan : verdicts .lessThan = .ok (some (decide (m < n)))
  lessOrEqual : verdicts .lessOrEqual = .ok (some (decide (m ≤ n)))

theorem ordersAs_iff_ordersBy :
    OrdersAs verdicts m n ↔ OrdersBy verdicts (some (compare m n)) := by
  have hgreater : (compare m n == .gt) = decide (m > n) := by
    rw [Bool.eq_iff_iff, beq_iff_eq, decide_eq_true_eq, compare_gt_iff_gt]
  have hgreaterOrEqual : (compare m n != .lt) = decide (m ≥ n) := by
    rw [Bool.eq_iff_iff, bne_iff_ne, decide_eq_true_eq, compare_ge_iff_ge]
  have hless : (compare m n == .lt) = decide (m < n) := by
    rw [Bool.eq_iff_iff, beq_iff_eq, decide_eq_true_eq, compare_lt_iff_lt]
  have hlessOrEqual : (compare m n != .gt) = decide (m ≤ n) := by
    rw [Bool.eq_iff_iff, bne_iff_ne, decide_eq_true_eq, compare_le_iff_le]
  constructor
  · intro hdecides
    constructor <;> simp only [Option.map_some, hgreater, hgreaterOrEqual, hless, hlessOrEqual,
      hdecides.greaterThan, hdecides.greaterOrEqual, hdecides.lessThan, hdecides.lessOrEqual]
  · intro hordered
    constructor <;> simp only [hordered.greaterThan, hordered.greaterOrEqual, hordered.lessThan,
      hordered.lessOrEqual, Option.map_some, hgreater, hgreaterOrEqual, hless, hlessOrEqual]

/-- What comes of whole numbers that are compared, by themselves and as arguments of methods. -/
structure ComparesWhole (state : State) (stores : Shelf) (id : StoreId) (names : Method → String)
    (a b : String) (m n : Int) : Prop where
  exactly : Value.order? a b = some (compare m n) ↔ ComparesExactly a b m n
  /-- Far from each other, numbers in range are compared exactly. -/
  apart : fitsBinary m = true → fitsBinary n = true →
    m.natAbs + n.natAbs < 2 ^ 53 * (m - n).natAbs → ComparesExactly a b m n
  /-- Numbers that are not compared exactly are taken for equal or left without an order. -/
  inexactly : ¬ ComparesExactly a b m n →
    Value.order? a b = if fitsBinary m ∧ fitsBinary n then some .eq else none
  orderings : ∀ left right, valueOf (stores.get id) left = a → valueOf (stores.get id) right = b →
    (OrdersAs (verdictOn state stores names left right) m n ↔ ComparesExactly a b m n)
  /-- Without an order the numbers count as different, which is exact if they are. -/
  equality : ∀ left right, (stores.get id).get? left.text = some a → right.quoted = false →
    comparand? (stores.get id) right = some b →
    (verdictOn state stores names left right .equal = .ok (some (decide (m = n))) ↔
      ComparesExactly a b m n ∨ m ≠ n ∧ ¬ (fitsBinary m ∧ fitsBinary n))
  /-- A text in quotes is compared as such, with its zeros and its white space. -/
  quoted : ∀ left, (stores.get id).get? left.text = some a →
    (verdictOn state stores names left ⟨b, true⟩ .equal = .ok (some (decide (m = n))) ↔
      a = b ∨ m ≠ n)
  /-- A number out of range is taken for the name of a variable. -/
  unnamed : ∀ left, (stores.get id).get? left.text = some a → (stores.get id).get? b = none →
    fitsBinary n = false →
    (verdictOn state stores names left ⟨b, false⟩ .equal = .ok (some (decide (m = n))) ↔ m ≠ n)

/-- Whether two values are equal is decided exactly for whole numbers that are compared exactly, and
for different ones that are not both in range. -/
theorem order?_beq_eq_iff (hfirst : Writes m a) (hsecond : Writes n b) :
    (Value.order? a b == some .eq) = decide (m = n) ↔
      ComparesExactly a b m n ∨ m ≠ n ∧ ¬ (fitsBinary m ∧ fitsBinary n) := by
  by_cases hexactly : ComparesExactly a b m n
  · refine iff_of_true ?_ (.inl hexactly)
    rw [hexactly.order?_eq hfirst hsecond, Bool.eq_iff_iff, beq_iff_eq, Option.some.injEq,
      compare_eq_iff_eq, decide_eq_true_eq]
  · rw [Value.order?_of_not_comparesExactly hfirst hsecond hexactly, or_iff_right hexactly]
    split
    · rename_i hinRange
      have hdiffer : m ≠ n := fun hsame => hexactly (.rounded hinRange.1 hinRange.2 fun _ => hsame)
      rw [decide_eq_false hdiffer]
      exact iff_of_false Bool.noConfusion fun hapart => hapart.2 hinRange
    · rename_i houtside
      rw [and_iff_left houtside, eq_comm]
      exact decide_eq_false_iff_not

/-- Whole numbers are compared as exact arithmetic does, except that close neighbours beyond 64 bits
may be taken for equal, and that a number out of range is only equal to the very same text. -/
theorem comparesWhole_of_writes (stores : Shelf) (names : Method → String)
    (hattached : state.store = some id) (hfirst : Writes m a) (hsecond : Writes n b) :
    ComparesWhole state stores id names a b m n where
  exactly := Value.order?_eq_compare_iff hfirst hsecond
  apart := .of_apart
  inexactly := Value.order?_of_not_comparesExactly hfirst hsecond
  orderings left right hisLeft hisRight := by
    have hordered := @ordersBy_verdictOn state stores id names left right hattached
    rw [hisLeft, hisRight] at hordered
    rw [ordersAs_iff_ordersBy, ← Value.order?_eq_compare_iff hfirst hsecond]
    exact ⟨hordered.unique, fun horder => horder ▸ hordered⟩
  equality left right hheld hunquoted hcompared := by
    rw [verdictOn_equal hattached, areEqual_of_unquoted hheld hunquoted, hcompared, Option.any_some,
      Except.ok.injEq, Option.some.injEq, order?_beq_eq_iff hfirst hsecond]
  quoted left hheld := by
    have hverdict : areEqual (stores.get id) left ⟨b, true⟩ = (a == b) := by
      rw [areEqual, hheld]
      rfl
    rw [verdictOn_equal hattached, hverdict, Except.ok.injEq, Option.some.injEq]
    by_cases hsame : a = b
    · subst hsame
      exact iff_of_true (by rw [beq_self_eq_true, decide_eq_true (hfirst.unique hsecond)])
        (.inl rfl)
    · rw [beq_eq_false_iff_ne.mpr hsame, or_iff_right hsame, eq_comm]
      exact decide_eq_false_iff_not
  unnamed left hheld hunset houtside := by
    have hother : Value.isDecimal b = false := by
      rw [Value.isDecimal, Number.decimal?_of_integer? hsecond.integer?_trim, houtside]
      rfl
    have hverdict : areEqual (stores.get id) left ⟨b, false⟩ = false := by
      rw [areEqual_of_unquoted hheld rfl, comparand?, hother, hunset]
      rfl
    rw [verdictOn_equal hattached, hverdict, Except.ok.injEq, Option.some.injEq, eq_comm]
    exact decide_eq_false_iff_not

/-- An integer of 64 bits and a number beyond them. -/
theorem comparesWhole_of_writes_gold :
    let id : StoreId := ⟨0⟩
    let inn : Collection := ⟨"inn", "inn", "", [.empty "inn"]⟩
    let state : State := .start inn 0 (some id)
    let stores := Shelf.empty.put id (Store.empty.set "gold" (some " +0012"))
    let verdicts := verdictOn state stores (fun _ => "") ⟨"gold", false⟩
      ⟨"9223372036854775808", false⟩
    state.store = some id ∧ Writes 12 " +0012" ∧
      Writes 9223372036854775808 "9223372036854775808" ∧
      OrdersAs verdicts 12 9223372036854775808 ∧ verdicts .equal = .ok (some false) := by
  intro id inn state stores verdicts
  have hattached : state.store = some id := rfl
  have hfirst : Writes 12 " +0012" :=
    @Writes.written 12 [' '] ['+'] [] 2 (List.forall_mem_singleton.mpr rfl) (.plus (by decide))
      (List.forall_mem_nil _)
  have hsecond : Writes 9223372036854775808 "9223372036854775808" :=
    Number.writes_repr 9223372036854775808
  have hcompares := comparesWhole_of_writes stores (fun _ => "") hattached hfirst hsecond
  have hapart := hcompares.apart (by decide +kernel) (by decide +kernel) (by decide +kernel)
  have hisLeft : valueOf (stores.get id) ⟨"gold", false⟩ = " +0012" := by decide +kernel
  have hisRight : valueOf (stores.get id) ⟨"9223372036854775808", false⟩ =
      "9223372036854775808" := by decide +kernel
  have hheld : (stores.get id).get? "gold" = some " +0012" := by decide +kernel
  have hcompared : comparand? (stores.get id) ⟨"9223372036854775808", false⟩ =
      some "9223372036854775808" := by decide +kernel
  have hdiffers := (hcompares.equality ⟨"gold", false⟩ _ hheld rfl hcompared).mpr (.inl hapart)
  rw [decide_eq_false (by decide)] at hdiffers
  exact ⟨hattached, hfirst, hsecond, (hcompares.orderings _ _ hisLeft hisRight).mpr hapart,
    hdiffers⟩

/-- Two neighbours beyond 64 bits are taken for equal. -/
theorem not_forall_order?_eq_compare :
    ¬ ∀ (m n : Int) (a b : String), Writes m a → Writes n b →
      Value.order? a b = some (compare m n) := by
  intro hexact
  have horder := hexact 9223372036854775808 9223372036854775809 _ _
    (Number.writes_repr 9223372036854775808) (Number.writes_repr 9223372036854775809)
  have htaken : Value.order? (Nat.repr 9223372036854775808) (Nat.repr 9223372036854775809) =
      some .eq := by decide +kernel
  rw [htaken, Option.some.injEq, eq_comm, compare_eq_iff_eq] at horder
  exact absurd horder (by decide)

end Dialogue.Method
