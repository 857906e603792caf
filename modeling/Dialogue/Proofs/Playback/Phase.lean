/-
# Phases of a run

To its host a run is a series of moments: the calls that are made, and in between the speeches that
are confirmed and the choices that are made. The moments come in a fixed order, which is told here
by phases. Nothing is called before the start, nothing while a speech waits to be confirmed or a
choice to be made, and nothing after the end.
-/

import Dialogue.Playback.Stage

namespace Dialogue

/-- A moment of a run. -/
inductive Moment where
  /-- The host is called. -/
  | call (callback : Callback)
  /-- A speech is confirmed, whether or not one waits. -/
  | resumed
  /-- A choice is made without an error, whether or not one waits. -/
  | chosen
deriving DecidableEq

/-- The call of a moment, if there is one. -/
def Moment.call? : Moment → Option Callback
  | call callback => some callback
  | resumed | chosen => none

/-- How far the moments of a run have come. -/
inductive Phase where
  /-- The playback has not started. -/
  | silent
  /-- The playback goes on. -/
  | playing
  /-- A speech waits to be confirmed. -/
  | speaking
  /-- A choice waits to be made. -/
  | choosing
  /-- The playback has ended in order. -/
  | finished
deriving DecidableEq

/-- The moments of a run keep to the order that a host relies on. -/
structure KeepsOrder (moments : List Moment) : Prop where
  /-- No call is made before the start, not even another start. -/
  startsOnce : ∀ earlier path later, moments = earlier ++ .call (.start path) :: later →
    ∀ moment ∈ earlier, moment.call? = none
  /-- Before any other call the playback has started. -/
  startsFirst : ∀ earlier callback later, moments = earlier ++ .call callback :: later →
    (∃ path, callback = .start path) ∨ ∃ path, .call (.start path) ∈ earlier
  /-- No call is made after the end, not even another end. -/
  endsLast : ∀ earlier later, moments = earlier ++ .call .finish :: later →
    ∀ moment ∈ later, moment.call? = none
  /-- Between a speech and any later call, a speech is confirmed. -/
  confirmed : ∀ earlier cue speech between callback later,
    moments = earlier ++ .call (.speech cue speech) :: (between ++ .call callback :: later) →
      .resumed ∈ between
  /-- Between an offer of choices and any later call, a choice is made. -/
  decided : ∀ earlier links between callback later,
    moments = earlier ++ .call (.choices links) :: (between ++ .call callback :: later) →
      .chosen ∈ between

namespace Phase

/-- The phase after a moment, unless a call is out of place. -/
def next? : Phase → Moment → Option Phase
  | silent, .call (.start _) => some playing
  | playing, .call (.quote _) | playing, .call (.tag _) | playing, .call (.condition _) =>
    some playing
  | playing, .call (.speech _ _) => some speaking
  | playing, .call (.choices _) => some choosing
  | playing, .call .finish => some finished
  | _, .call _ => none
  | speaking, .resumed => some playing
  | choosing, .chosen => some playing
  | phase, _ => some phase

/-- The phase after some moments, unless a call is out of place. -/
def after? : Phase → List Moment → Option Phase
  | phase, [] => some phase
  | phase, moment :: later => (phase.next? moment).bind fun next => next.after? later

variable {phase last : Phase} {moment : Moment} {moments : List Moment}

theorem after?_cons_eq_some_iff {later : List Moment} :
    phase.after? (moment :: later) = some last ↔
      ∃ next, phase.next? moment = some next ∧ next.after? later = some last := by
  rw [after?, Option.bind_eq_some_iff]

theorem after?_append (phase : Phase) (earlier later : List Moment) :
    phase.after? (earlier ++ later) =
      (phase.after? earlier).bind fun between => between.after? later := by
  induction earlier generalizing phase with
  | nil => rfl
  | cons moment earlier ih =>
      rw [List.cons_append, after?, after?]
      cases phase.next? moment with
      | none => rfl
      | some next => exact ih next

theorem after?_append_eq_some_iff {earlier later : List Moment} :
    phase.after? (earlier ++ later) = some last ↔
      ∃ between, phase.after? earlier = some between ∧ between.after? later = some last := by
  rw [after?_append, Option.bind_eq_some_iff]

/-- The phases before and after one of the moments. -/
theorem next?_of_after?_append_cons {earlier later : List Moment}
    (hleads : phase.after? (earlier ++ moment :: later) = some last) :
    ∃ before next, phase.after? earlier = some before ∧ before.next? moment = some next ∧
      next.after? later = some last := by
  obtain ⟨before, hearly, honward⟩ := after?_append_eq_some_iff.mp hleads
  obtain ⟨next, hfirst, hlate⟩ := after?_cons_eq_some_iff.mp honward
  exact ⟨before, next, hearly, hfirst, hlate⟩

/-- A phase that none of the moments leave is still there after them. -/
theorem eq_of_after?_of_stays
    (hstays : ∀ moment ∈ moments, ∀ next, phase.next? moment = some next → next = phase)
    (hleads : phase.after? moments = some last) :
    last = phase ∧ ∀ moment ∈ moments, phase.next? moment = some phase := by
  induction moments with
  | nil =>
      cases hleads
      exact ⟨rfl, fun _ hmem => absurd hmem List.not_mem_nil⟩
  | cons moment later ih =>
      obtain ⟨next, hfirst, honward⟩ := after?_cons_eq_some_iff.mp hleads
      have hsame := hstays moment List.mem_cons_self next hfirst
      subst hsame
      obtain ⟨hsame, hothers⟩ := ih (fun _ hmem => hstays _ (List.mem_cons_of_mem _ hmem)) honward
      exact ⟨hsame, List.forall_mem_cons.mpr ⟨hfirst, hothers⟩⟩

theorem call?_of_next?_silent (hleads : phase.next? moment = some silent) :
    phase = silent ∧ moment.call? = none := by
  cases moment with
  | call callback => cases phase <;> cases callback <;> cases hleads
  | resumed =>
      cases phase <;> cases hleads
      exact ⟨rfl, rfl⟩
  | chosen =>
      cases phase <;> cases hleads
      exact ⟨rfl, rfl⟩

/-- A run that is still silent has made no call. -/
theorem call?_of_after?_silent (hleads : phase.after? moments = some silent) :
    phase = silent ∧ ∀ moment ∈ moments, moment.call? = none := by
  induction moments generalizing phase with
  | nil =>
      cases hleads
      exact ⟨rfl, fun _ hmem => absurd hmem List.not_mem_nil⟩
  | cons moment later ih =>
      obtain ⟨next, hfirst, honward⟩ := after?_cons_eq_some_iff.mp hleads
      obtain ⟨rfl, hothers⟩ := ih honward
      obtain ⟨hsilent, hquiet⟩ := call?_of_next?_silent hfirst
      exact ⟨hsilent, List.forall_mem_cons.mpr ⟨hquiet, hothers⟩⟩

/-- A run that is no longer silent has started. -/
theorem start_mem_of_after? (hleads : silent.after? moments = some last) (hsounds : last ≠ silent) :
    ∃ path, .call (.start path) ∈ moments := by
  by_cases hstarted : ∃ path, .call (.start path) ∈ moments
  · exact hstarted
  refine absurd (eq_of_after?_of_stays (fun moment hmem next hfirst => ?_) hleads).1 hsounds
  cases moment with
  | call callback =>
      cases callback with
      | start path => exact absurd ⟨path, hmem⟩ hstarted
      | _ => cases hfirst
  | resumed | chosen =>
      cases hfirst
      rfl

/-- A run that is over makes no more calls. -/
theorem call?_of_after?_finished (hleads : finished.after? moments = some last) :
    last = finished ∧ ∀ moment ∈ moments, moment.call? = none := by
  have hstays : ∀ {moment next}, finished.next? moment = some next →
      next = finished ∧ moment.call? = none := by
    intro moment next hfirst
    cases moment <;> cases hfirst
    · exact ⟨rfl, rfl⟩
    · exact ⟨rfl, rfl⟩
  obtain ⟨hsame, hothers⟩ := eq_of_after?_of_stays (fun _ _ _ hfirst => (hstays hfirst).1) hleads
  exact ⟨hsame, fun moment hmem => (hstays (hothers moment hmem)).2⟩

/-- While no speech is confirmed the speech goes on waiting. -/
theorem eq_speaking_of_after? (hleads : speaking.after? moments = some last)
    (hunconfirmed : .resumed ∉ moments) : last = speaking := by
  refine (eq_of_after?_of_stays (fun moment hmem next hfirst => ?_) hleads).1
  cases moment with
  | call callback => cases hfirst
  | resumed => exact absurd hmem hunconfirmed
  | chosen =>
      cases hfirst
      rfl

/-- While no choice is made the choice goes on waiting. -/
theorem eq_choosing_of_after? (hleads : choosing.after? moments = some last)
    (hundecided : .chosen ∉ moments) : last = choosing := by
  refine (eq_of_after?_of_stays (fun moment hmem next hfirst => ?_) hleads).1
  cases moment with
  | call callback => cases hfirst
  | resumed =>
      cases hfirst
      rfl
  | chosen => exact absurd hmem hundecided

/-- The end is called exactly where the phase becomes that of the end. -/
theorem finish_mem_iff (hleads : phase.after? moments = some last) :
    .call .finish ∈ moments ↔ phase ≠ finished ∧ last = finished := by
  induction moments generalizing phase with
  | nil =>
      cases hleads
      constructor
      · intro hmem
        exact absurd hmem List.not_mem_nil
      · intro hended
        exact absurd hended.2 hended.1
  | cons moment later ih =>
      obtain ⟨next, hfirst, honward⟩ := after?_cons_eq_some_iff.mp hleads
      rw [List.mem_cons, ih honward]
      by_cases hends : moment = .call .finish
      · subst hends
        have hplaying : phase = playing ∧ next = finished := by
          cases phase <;> cases hfirst
          exact ⟨rfl, rfl⟩
        obtain ⟨rfl, rfl⟩ := hplaying
        exact ⟨fun _ => ⟨by decide, (call?_of_after?_finished honward).1⟩, fun _ => .inl rfl⟩
      · have hsame : next = finished ↔ phase = finished := by
          cases moment with
          | call callback =>
              cases phase <;> cases callback <;> cases hfirst <;>
                first | decide | exact absurd rfl hends
          | resumed => cases phase <;> cases hfirst <;> decide
          | chosen => cases phase <;> cases hfirst <;> decide
        rw [Ne, hsame]
        exact ⟨fun hreached => hreached.resolve_left fun heq => hends heq.symm, .inr⟩

/-- Moments that lead from silence to some phase keep to the order. -/
theorem keepsOrder (hleads : silent.after? moments = some last) : KeepsOrder moments where
  startsOnce earlier path later hsplit := by
    subst hsplit
    obtain ⟨before, next, hearly, hfirst, -⟩ := next?_of_after?_append_cons hleads
    have hquiet : before = silent := by
      cases before <;> cases hfirst
      rfl
    subst hquiet
    exact (call?_of_after?_silent hearly).2
  startsFirst earlier callback later hsplit := by
    subst hsplit
    obtain ⟨before, next, hearly, hfirst, -⟩ := next?_of_after?_append_cons hleads
    by_cases hquiet : before = silent
    · subst hquiet
      cases callback with
      | start path => exact .inl ⟨path, rfl⟩
      | _ => cases hfirst
    · exact .inr (start_mem_of_after? hearly hquiet)
  endsLast earlier later hsplit := by
    subst hsplit
    obtain ⟨before, next, -, hfirst, hlate⟩ := next?_of_after?_append_cons hleads
    have hended : next = finished := by
      cases before <;> cases hfirst
      rfl
    subst hended
    exact (call?_of_after?_finished hlate).2
  confirmed earlier cue speech between callback later hsplit := by
    subst hsplit
    obtain ⟨before, next, -, hfirst, hlate⟩ := next?_of_after?_append_cons hleads
    obtain ⟨waiting, _, hearly, hcalled, -⟩ := next?_of_after?_append_cons hlate
    have hspeaks : next = speaking := by
      cases before <;> cases hfirst
      rfl
    subst hspeaks
    by_cases hresumed : .resumed ∈ between
    · exact hresumed
    · rw [eq_speaking_of_after? hearly hresumed] at hcalled
      cases hcalled
  decided earlier links between callback later hsplit := by
    subst hsplit
    obtain ⟨before, next, -, hfirst, hlate⟩ := next?_of_after?_append_cons hleads
    obtain ⟨waiting, _, hearly, hcalled, -⟩ := next?_of_after?_append_cons hlate
    have hoffers : next = choosing := by
      cases before <;> cases hfirst
      rfl
    subst hoffers
    by_cases hchosen : .chosen ∈ between
    · exact hchosen
    · rw [eq_choosing_of_after? hearly hchosen] at hcalled
      cases hcalled

end Phase

end Dialogue
