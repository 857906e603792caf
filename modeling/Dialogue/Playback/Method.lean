/-
# Methods that the playback knows

Two methods ask how often a script has been played, six compare values. The name of a method is
read without regard to case and to the white space around it. A method has a verdict, has none, or
fails for wrong arguments or for want of a store.
-/

import Dialogue.Playback.State
import Dialogue.Value

namespace Dialogue

open Text (trim lowercase)

/-- A method that the playback knows. -/
inductive Method where
  /-- Whether a script has been played, once or a number of times. -/
  | visited
  /-- Whether a script has never been played. -/
  | notVisited
  | equal
  | notEqual
  | greaterThan
  | greaterOrEqual
  | lessThan
  | lessOrEqual
deriving DecidableEq

namespace Method

/-- The method with a name. -/
def ofName? (name : String) : Option Method :=
  match lowercase (String.ofList (trim name.toList)) with
  | "visited" => some visited
  | "notvisited" => some notVisited
  | "eq" | "equal" | "equals" => some equal
  | "neq" | "notequal" | "notequals" => some notEqual
  | "gt" | "greaterthan" => some greaterThan
  | "gte" => some greaterOrEqual
  | "lt" | "lessthan" => some lessThan
  | "lte" => some lessOrEqual
  | _ => none

variable (state : State) (stores : Shelf) (call : Call)

/-- How often the script has been played that the first argument names. -/
def visitCount : Except Error UInt32 :=
  match call.argument? 0 with
  | none => .error (.arguments state.location (.noScriptPath call.method))
  | some path =>
    match state.storeId with
    | .error error => .error error
    | .ok id => .ok ((stores.get id).visitCount (state.resolve path))

/-- The count of visits that the second argument asks for. It is one if there is no such
argument. -/
def wantedCount : Except Error Int :=
  match call.argument? 1 with
  | none => .ok 1
  | some text =>
    match Number.word? (trim text.toList) with
    | none => .error (.arguments state.location (.countNotInteger text))
    | some count =>
      if count < 1 then .error (.arguments state.location (.countTooSmall count)) else .ok count

/-- Whether a script has been played as often as asked for. -/
def hasVisited : Except Error Bool :=
  match wantedCount state call with
  | .error error => .error error
  | .ok wanted => (visitCount state stores call).map fun count => decide (wanted ≤ count.toNat)

/-- The two arguments of a comparison, and the store to look up variables in. -/
def operands : Except Error (Argument × Argument × Store) :=
  match call.arguments with
  | [left, right] =>
    match state.storeId with
    | .error error => .error error
    | .ok id => .ok (left, right, stores.get id)
  | arguments =>
    .error (.arguments state.location (.notTwoArguments call.method arguments.length))

/-- Whether the variable that the left argument names is equal to the right argument: a text in
quotes, a decimal or another variable. -/
def areEqual (store : Store) (left right : Argument) : Bool :=
  match store.get? left.text with
  | none => false
  | some value =>
    if right.quoted then value == right.text
    else if Value.isDecimal right.text then Value.order? value right.text == some .eq
    else
      match store.get? right.text with
      | some other => Value.order? value other == some .eq
      | none => false

/-- The value of an argument that is to be ordered: a text in quotes, the value of a variable or,
if there is no such variable, the argument itself. -/
def valueOf (store : Store) (argument : Argument) : String :=
  if argument.quoted then argument.text else (store.get? argument.text).getD argument.text

/-- Whether the arguments are equal. -/
def equality : Except Error Bool :=
  (operands state stores call).map fun (left, right, store) => areEqual store left right

/-- Whether the order of the arguments passes a test, if they have an order. -/
def ordering (test : Ordering → Bool) : Except Error (Option Bool) :=
  (operands state stores call).map fun (left, right, store) =>
    (Value.order? (valueOf store left) (valueOf store right)).map test

/-- The verdict of a method on a call, if it has one. -/
def verdict (method : Method) : Except Error (Option Bool) :=
  match method with
  | visited => (hasVisited state stores call).map some
  | notVisited => (visitCount state stores call).map fun count => some (count == 0)
  | equal => (equality state stores call).map some
  | notEqual => (equality state stores call).map fun equal => some (!equal)
  | greaterThan => ordering state stores call (· == .gt)
  | greaterOrEqual => ordering state stores call (· != .lt)
  | lessThan => ordering state stores call (· == .lt)
  | lessOrEqual => ordering state stores call (· != .gt)

end Method

end Dialogue
