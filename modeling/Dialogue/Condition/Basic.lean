/-
# Conditions

A block of a script is guarded by a condition: calls such as `visited(#Intro)`, joined by `and` and
`or`. A group has two operands, and evaluation looks at the right one only when the left one has
not decided the group. What a call means is left to the caller of `Condition.eval`, which may keep
a state and may fail.
-/

namespace Dialogue

/-- An argument of a call. -/
structure Argument where
  /-- The text of the argument, without quotes. -/
  text : String
  /-- Whether it was written in quotes. -/
  quoted : Bool
deriving DecidableEq

/-- A call such as `eq(name, "John")`. -/
structure Call where
  /-- The name before the bracket. -/
  method : String
  /-- The arguments in the brackets. -/
  arguments : List Argument
deriving DecidableEq

/-- How a group joins its operands. -/
inductive Join where
  | and
  | or
deriving DecidableEq

/-- A condition: a call, or two conditions joined. -/
inductive Condition where
  | call (call : Call)
  | group (left : Condition) (join : Join) (right : Condition)
deriving DecidableEq

/-- The text of the argument at an index. -/
def Call.argument? (call : Call) (index : Nat) : Option String :=
  call.arguments[index]?.map Argument.text

/-- The verdict of a group whose left operand has been decided, if that settles it. -/
def Join.settled? : Join → Bool → Option Bool
  | and, false => some false
  | or, true => some true
  | _, _ => none

namespace Condition

/-- The calls of a condition from left to right. -/
def calls : Condition → List Call
  | call c => [c]
  | group left _ right => left.calls ++ right.calls

/-- Evaluates a condition from left to right. The right operand of a group is evaluated only when
the left one does not settle the group. -/
def eval {m : Type → Type} [Monad m] (verdict : Call → m Bool) : Condition → m Bool
  | call c => verdict c
  | group left join right => do
    match join.settled? (← left.eval verdict) with
    | some decided => pure decided
    | none => right.eval verdict

end Condition

end Dialogue
