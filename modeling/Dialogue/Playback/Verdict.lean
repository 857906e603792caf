/-
# Deciding conditions

A condition is decided call by call. A method that the playback knows decides a call by itself; any
other call goes to the host. A call without a verdict counts as false. Deciding a condition does
not move the playback; only the stage around it may change.
-/

import Dialogue.Playback.Method
import Dialogue.Playback.Stage

namespace Dialogue

variable {μ : Type}

/-- Decides a call. -/
def Call.decide (host : Host μ) (state : State) (call : Call) : EStateM Error (Stage μ) Bool :=
  fun stage =>
    match Method.ofName? call.method with
    | some method =>
      match method.verdict state stage.stores call with
      | .error error => .error error stage
      | .ok (some verdict) => .ok verdict stage
      | .ok none => .ok false (stage.note state.location (.undecided call))
    | none =>
      match host.condition call state stage.toWorld with
      | (some verdict, world) => .ok verdict (stage.called (.condition call) world)
      | (none, world) =>
        .ok false ((stage.called (.condition call) world).note state.location
          (.unknownMethod call.method))

/-- Decides the condition that a text is written as. -/
def State.decide (host : Host μ) (state : State) (text : String) :
    EStateM Error (Stage μ) Bool :=
  match Condition.parse text with
  | .error error => throw (.condition state.location error)
  | .ok condition => condition.eval (Call.decide host state)

end Dialogue
