/-
# Whether a playback returns

A playback steps until it waits, is over or fails. In one script this takes at most as many steps as
there are lines left. But a single choice at the end of a script may be followed without asking, and
nothing keeps it from leading back. So the steps return exactly if they enter a bounded number of
scripts in this way. They always do unless there is an endless chain of scripts, starting with the
running one, each with a link to the next.
-/

import Mathlib.Algebra.GroupWithZero.Nat
import Mathlib.Order.WellFounded
import Dialogue.Proofs.Collection.Sections
import Dialogue.Proofs.Playback.Course

namespace Dialogue

variable {μ : Type}

/-- A script in its collection. -/
structure Place where
  collection : Collection
  index : Nat
deriving DecidableEq

/-- The script at a place. -/
def Place.script (place : Place) : Script :=
  place.collection.scripts.getD place.index (.empty place.collection.path)

/-- The place of the running script. -/
def State.place (state : State) : Place :=
  ⟨state.collection, state.scriptIndex⟩

/-- A link on a line of the script at a place leads to another place. -/
def Place.LeadsTo (setup : Setup μ) (first next : Place) : Prop :=
  ∃ (scene : Scene μ) (link : Link), scene.state.place = first ∧
    .link link ∈ first.script.lines ∧ scene.target setup link = .ok (next.collection, next.index)

namespace State

variable {before after : State}

theorem Gathers.place (hgathers : before.Gathers after) : after.place = before.place := by
  rw [State.place, hgathers.collection, hgathers.scriptIndex]
  rfl

/-- How many lines there are from the line to run to the end of the script. -/
def linesLeft (state : State) : Nat :=
  state.script.lines.length - state.cursor

/-- There are fewer lines left on a later line of the same script. -/
theorem linesLeft_lt (hgathers : before.Gathers after) (hhere : before.line? ≠ none)
    (hfarther : before.cursor < after.cursor) : after.linesLeft < before.linesLeft := by
  have hbound : before.cursor < before.script.lines.length :=
    Nat.lt_of_not_le fun hpast => hhere (List.getElem?_eq_none hpast)
  rw [linesLeft, linesLeft, hgathers.script]
  omega

end State

namespace Scene

/-- With enough steps the playback waits, is over or has failed. -/
def Returns (setup : Setup μ) (scene : Scene μ) : Prop :=
  ∃ limit, (scene.advance setup limit).result ≠ .ok none

/-- The places that a number of steps enter by following single choices. -/
def entered (setup : Setup μ) : Nat → Scene μ → List Place
  | 0, _ => []
  | limit + 1, scene =>
    match scene.step setup with
    | .ok .moved after =>
      if scene.state.line? = none then after.state.place :: entered setup limit after
      else entered setup limit after
    | _ => []

variable {setup : Setup μ} {scene after : Scene μ} {limit : Nat} {P : Collection → Prop}

/-- What a link leads to depends on nothing but the place it is followed from. -/
theorem target_congr {link : Link} {collection : Collection} {index : Nat}
    (hsame : scene.state.place = after.state.place)
    (hleads : scene.target setup link = .ok (collection, index)) :
    after.target setup link = .ok (collection, index) := by
  have hown : scene.state.collection = after.state.collection := congrArg Place.collection hsame
  have hscript : scene.state.script = after.state.script := congrArg Place.script hsame
  have hpath : scene.state.resolve link.target = after.state.resolve link.target := by
    rw [State.resolve, State.resolve, hown, hscript]
  rw [target_eq_ok_iff rfl, hpath, hown] at hleads
  exact (target_eq_ok_iff rfl).mpr hleads

theorem entered_succ (hmoved : scene.step setup = .ok .moved after) (limit : Nat) :
    scene.entered setup (limit + 1) =
      if scene.state.line? = none then after.state.place :: after.entered setup limit
      else after.entered setup limit := by
  rw [entered, hmoved]

/-- At the end of a script, a single choice is followed without asking. -/
theorem step_of_single {link : Link} {collection : Collection} {index : Nat}
    (hrunning : scene.status = .running) (hunfinished : scene.state.finished = false)
    (hexhausted : scene.state.line? = none) (hauto : setup.autoFollow = true)
    (hsingle : scene.state.choices = [link])
    (hleads : scene.target setup link = .ok (collection, index)) :
    scene.step setup = .ok .moved (((scene.noteUnannounced link).note
      (.jumping (scene.state.resolve link.target))).enter collection index) := by
  rw [step, attempt, hrunning]
  dsimp only
  rw [play, hunfinished, if_neg Bool.false_ne_true, hexhausted]
  dsimp only
  rw [exhaust, hsingle, hauto]
  dsimp only
  rw [follow_of_ok hleads]

/-- A step goes on with another line or in another script, or else it returns and enters nothing. -/
inductive GoesOn (setup : Setup μ) (scene : Scene μ) : Prop where
  | returns (hout : ∀ limit, (scene.advance setup (limit + 1)).result ≠ .ok none)
      (hstays : ∀ limit, scene.entered setup limit = [])
  | runs {after : Scene μ} (hmoved : scene.step setup = .ok .moved after)
      (hhere : scene.state.line? ≠ none) (hgathers : scene.state.Gathers after.state)
      (hfarther : scene.state.cursor < after.state.cursor)
  | jumps {after : Scene μ} {link : Link} (hmoved : scene.step setup = .ok .moved after)
      (hexhausted : scene.state.line? = none) (hauto : setup.autoFollow = true)
      (hchosen : link ∈ scene.state.choices)
      (hleads : scene.target setup link = .ok (after.state.collection, after.state.scriptIndex))
      (hatStart : after.state.cursor = 0)

theorem goesOn (setup : Setup μ) (scene : Scene μ) : scene.GoesOn setup := by
  have hsteps := stepsTo_step setup scene
  have hsettles (hquiet : ∀ after, scene.step setup ≠ .ok .moved after) : scene.GoesOn setup := by
    refine .returns (fun limit => ?_) (fun limit => ?_)
    · rw [advance]
      split
      · intro hspent
        cases hspent
      · rename_i hmoved
        exact absurd hmoved (hquiet _)
      · intro hspent
        cases hspent
    · cases limit with
      | zero => rfl
      | succ limit =>
          rw [entered]
          split
          · rename_i hmoved
            exact absurd hmoved (hquiet _)
          · rfl
  generalize hstepped : scene.step setup = outcome at hsteps hsettles
  cases hsteps with
  | ran hhere hgathers hfarther hstatus => exact .runs hstepped hhere hgathers hfarther
  | jumped hexhausted hauto hsingle hleads henters hstatus =>
      rename_i after link collection index
      refine .jumps hstepped hexhausted hauto (hsingle ▸ .head _ : link ∈ _) ?_ ?_
      · rw [henters]
        exact hleads
      · rw [henters]
        rfl
  | still hidle hquiet => exact hsettles fun after hmoved => hquiet (by cases hmoved; rfl)
  | spoke hgathers hstatus => exact hsettles fun after hmoved => by cases hmoved
  | offered hsame hstatus => exact hsettles fun after hmoved => by cases hmoved
  | ended hgathers hstatus => exact hsettles fun after hmoved => by cases hmoved
  | failed hgathers hstatus => exact hsettles fun after hmoved => by cases hmoved

theorem Returns.of_step (hmoved : scene.step setup = .ok .moved after)
    (hreturns : after.Returns setup) : scene.Returns setup := by
  obtain ⟨limit, hout⟩ := hreturns
  exact ⟨limit + 1, by rwa [advance_succ hmoved]⟩

/-- Steps that have not returned are paid for by the lines that were left, and for each script
entered by its lines and the jump to it. -/
theorem le_of_advance (hspent : (scene.advance setup limit).result = .ok none) :
    limit ≤ scene.state.linesLeft +
      ((scene.entered setup limit).map fun place => place.script.lines.length + 1).sum := by
  induction limit generalizing scene with
  | zero => exact Nat.zero_le _
  | succ limit ih =>
      cases scene.goesOn setup with
      | returns hout hstays => exact absurd hspent (hout limit)
      | @runs after hmoved hhere hgathers hfarther =>
          rw [advance_succ hmoved] at hspent
          rw [entered_succ hmoved, if_neg hhere]
          have hlater := ih hspent
          have hfewer := State.linesLeft_lt hgathers hhere hfarther
          omega
      | @jumps after link hmoved hexhausted hauto hchosen hleads hatStart =>
          rw [advance_succ hmoved] at hspent
          rw [entered_succ hmoved, if_pos hexhausted, List.map_cons, List.sum_cons]
          have hlater := ih hspent
          have hwhole : after.state.linesLeft = after.state.place.script.lines.length := by
            rw [State.linesLeft, hatStart]
            rfl
          omega

/-- Some steps run the script to its end and enter another one. -/
structure Enters (setup : Setup μ) (scene after : Scene μ) : Prop where
  auto : setup.autoFollow = true
  leads : scene.state.place.LeadsTo setup after.state.place
  steps : ∃ count, ∀ limit,
    scene.advance setup (limit + count) = after.advance setup limit ∧
      scene.entered setup (limit + count) = after.state.place :: after.entered setup limit

/-- Either the playback returns from the running script, or it enters another one. -/
theorem returns_or_enters (hserved : setup.ReturnsOnly P) (hoffers : scene.Offers P) :
    scene.Returns setup ∨ ∃ after, scene.Enters setup after ∧ after.Offers P := by
  -- A line that runs leaves fewer lines of the same script. Nothing is counted across scripts.
  induction hleft : scene.state.linesLeft using Nat.strongRecOn generalizing scene with
  | ind left ih =>
      have hstill := offers_step hserved hoffers
      cases scene.goesOn setup with
      | returns hout hstays => exact .inl ⟨1, hout 0⟩
      | @runs between hmoved hhere hgathers hfarther =>
          rw [hmoved] at hstill
          have hfewer := State.linesLeft_lt hgathers hhere hfarther
          rcases ih _ (hleft ▸ hfewer) hstill rfl with hreturns | ⟨after, henters, hlater⟩
          · exact .inl (hreturns.of_step hmoved)
          · obtain ⟨count, hsteps⟩ := henters.steps
            refine .inr ⟨after, ⟨henters.auto, hgathers.place ▸ henters.leads, count + 1, ?_⟩,
              hlater⟩
            intro limit
            rw [← Nat.add_assoc, advance_succ hmoved, entered_succ hmoved, if_neg hhere]
            exact hsteps limit
      | @jumps after link hmoved hexhausted hauto hchosen hleads hatStart =>
          rw [hmoved] at hstill
          refine .inr ⟨after, ⟨hauto, ?_, 1, ?_⟩, hstill⟩
          · exact ⟨scene, link, rfl, hoffers.choices link hchosen, hleads⟩
          · intro limit
            rw [advance_succ hmoved, entered_succ hmoved, if_pos hexhausted]
            exact ⟨rfl, rfl⟩

theorem Returns.of_enters (henters : scene.Enters setup after) (hreturns : after.Returns setup) :
    scene.Returns setup := by
  obtain ⟨limit, hout⟩ := hreturns
  obtain ⟨count, hsteps⟩ := henters.steps
  exact ⟨limit + count, by rwa [(hsteps limit).1]⟩

/-- A playback that enters a bounded number of scripts returns. -/
theorem returns_of_bounded (hserved : setup.ReturnsOnly P) (hoffers : scene.Offers P) {bound : Nat}
    (hbounded : ∀ limit, (scene.entered setup limit).length ≤ bound) : scene.Returns setup := by
  induction bound generalizing scene with
  | zero =>
      rcases returns_or_enters hserved hoffers with hreturns | ⟨after, henters, -⟩
      · exact hreturns
      · obtain ⟨count, hsteps⟩ := henters.steps
        have hnone := hbounded (0 + count)
        rw [(hsteps 0).2] at hnone
        exact absurd hnone (Nat.not_succ_le_zero _)
  | succ bound ih =>
      rcases returns_or_enters hserved hoffers with hreturns | ⟨after, henters, hlater⟩
      · exact hreturns
      · refine .of_enters henters (ih hlater fun limit => ?_)
        obtain ⟨count, hsteps⟩ := henters.steps
        have hfewer := hbounded (limit + count)
        rw [(hsteps limit).2] at hfewer
        exact Nat.le_of_succ_le_succ hfewer

/-- A playback that returns has entered no more scripts than it has taken steps. -/
theorem length_entered_le (hout : (scene.advance setup limit).result ≠ .ok none) (later : Nat) :
    (scene.entered setup later).length ≤ limit := by
  induction limit generalizing scene later with
  | zero => exact absurd rfl hout
  | succ limit ih =>
      cases later with
      | zero => exact Nat.zero_le _
      | succ later =>
          cases scene.goesOn setup with
          | returns hout hstays =>
              rw [hstays]
              exact Nat.zero_le _
          | runs hmoved hhere hgathers hfarther =>
              rw [advance_succ hmoved] at hout
              rw [entered_succ hmoved, if_neg hhere]
              exact Nat.le_succ_of_le (ih hout later)
          | jumps hmoved hexhausted hauto hchosen hleads hatStart =>
              rw [advance_succ hmoved] at hout
              rw [entered_succ hmoved, if_pos hexhausted]
              exact Nat.succ_le_succ (ih hout later)

/-- A playback returns if every chain of scripts, each with a link to the next, has an end. -/
theorem returns_of_acc (hserved : setup.ReturnsOnly P) (hoffers : scene.Offers P)
    (hends : Acc (fun next first => Place.LeadsTo setup first next) scene.state.place) :
    scene.Returns setup := by
  -- What the steps read and write on their way does not matter: each script they enter is one that
  -- a link leads to.
  generalize hhere : scene.state.place = place at hends
  induction hends generalizing scene with
  | intro place _ ih =>
      rcases returns_or_enters hserved hoffers with hreturns | ⟨after, henters, hlater⟩
      · exact hreturns
      · exact .of_enters henters (ih _ (hhere ▸ henters.leads) hlater rfl)

/-- In every run, steps that have not returned are bounded by the lines of the scripts they enter.
So they return exactly if they enter a bounded number of scripts. Else single choices are followed
without asking, and from the running script there is an endless chain of scripts, each with a link
to the next. -/
theorem returns_iff_bounded_of_start (setup : Setup μ) {collection : Collection}
    {name : Option String} {store : Option StoreId} {playback : Playback}
    (hstarted : Playback.start collection name store = .ok playback) (world : World μ)
    (operations : List Operation) :
    let scene := (playback.opening world).performAll setup operations
    (∀ limit, (scene.advance setup limit).result = .ok none →
      limit ≤ scene.state.linesLeft +
        ((scene.entered setup limit).map fun place => place.script.lines.length + 1).sum) ∧
      (scene.Returns setup ↔ ∃ bound, ∀ limit, (scene.entered setup limit).length ≤ bound) ∧
      (¬ scene.Returns setup → setup.autoFollow = true ∧
        ∃ places : Nat → Place, places 0 = scene.state.place ∧
          ∀ count, (places count).LeadsTo setup (places (count + 1))) := by
  intro scene
  have hserved : setup.ReturnsOnly fun _ => True := fun _ _ _ _ _ => trivial
  have hoffers : scene.Offers fun _ => True :=
    offers_performAll hserved operations (offers_opening hstarted trivial world)
  refine ⟨fun limit => le_of_advance, ⟨?_, ?_⟩, fun hendless => ⟨?_, ?_⟩⟩
  · rintro ⟨limit, hout⟩
    exact ⟨limit, length_entered_le hout⟩
  · rintro ⟨bound, hbounded⟩
    exact returns_of_bounded hserved hoffers hbounded
  · rcases returns_or_enters hserved hoffers with hreturns | ⟨after, henters, -⟩
    · exact absurd hreturns hendless
    · exact henters.auto
  · exact not_acc_iff_exists_descending_chain.mp (mt (returns_of_acc hserved hoffers) hendless)

/-- A hall with a single choice, the yard, where no link leads on. -/
theorem returns_iff_bounded_of_start_yard :
    let link : Link := ⟨⟨"[[#Yard]]", 2⟩, "#Yard", "Yard"⟩
    let hall : Script := ⟨"Hall", "inn.md#Hall", [.link link], .ofList ["inn.md#Yard"]⟩
    let yard : Script := ⟨"Yard", "inn.md#Yard", [], .empty⟩
    let inn : Collection := ⟨"inn", "inn.md", "# Hall\n[[#Yard]]\n# Yard", [hall, yard]⟩
    let setup : Setup Unit := ⟨.idle, none, true⟩
    let playback : Playback := ⟨.start inn 0 none, .notStarted⟩
    let scene := (playback.opening ⟨(), .empty⟩).performAll setup [.step]
    Playback.start inn (some "Hall") none = .ok playback ∧ scene.Returns setup ∧
      ∃ bound, ∀ limit, (scene.entered setup limit).length ≤ bound := by
  intro link hall yard inn setup playback scene
  have hstarted : Playback.start inn (some "Hall") none = .ok playback := by
    have hfound : inn.scriptIndex? (some "Hall") = some 0 := by decide +kernel
    unfold Playback.start
    rw [if_neg (by decide), hfound]
  obtain ⟨-, hbounded, hendless⟩ :=
    returns_iff_bounded_of_start setup hstarted ⟨(), .empty⟩ [.step]
  have hreturns : scene.Returns setup := by
    by_contra hnever
    obtain ⟨-, places, hfirst, hleads⟩ := hendless hnever
    have hhere : scene.state.place = ⟨inn, 0⟩ := by decide +kernel
    obtain ⟨other, chosen, hstands, hmem, htarget⟩ := hleads 0
    rw [hfirst] at hstands hmem
    rw [hhere] at hmem
    cases List.mem_singleton.mp hmem
    have hfound : scene.target setup link = .ok (inn, 1) := by
      have hcut : Path.splitName (scene.state.resolve link.target) = ("inn.md", "Yard") := by
        decide +kernel
      exact (target_eq_ok_iff hcut).mpr ⟨by decide +kernel, .inl ⟨by decide +kernel, rfl⟩⟩
    have hnext : places 1 = ⟨inn, 1⟩ := by
      rw [target_congr hstands htarget, Except.ok.injEq, Prod.mk.injEq] at hfound
      exact congrArg₂ Place.mk hfound.1 hfound.2
    obtain ⟨_, _, _, hmem, _⟩ := hleads 1
    rw [hnext] at hmem
    exact absurd hmem List.not_mem_nil
  exact ⟨hstarted, hreturns, hbounded.mp hreturns⟩

/-- A script with a single link to itself is played for ever: two steps lead from its start back
to its start. -/
theorem not_forall_returns :
    ¬ ∀ (setup : Setup Unit) (text path : String) (collection : Collection) (playback : Playback)
      (world : World Unit), setup.autoFollow = true →
      Collection.parse true text path = .ok collection →
      Playback.start collection none none = .ok playback →
      (playback.opening world).Returns setup := by
  intro hreturns
  let link : Link := ⟨⟨"[[#A]]", 2⟩, "#A", "A"⟩
  let sole : Script := ⟨"A", "x.md#A", [.link link], .ofList ["x.md#A"]⟩
  let collection : Collection := ⟨"x", "x.md", "# A\n[[#A]]", [sole]⟩
  let setup : Setup Unit := ⟨.idle, none, true⟩
  let top (status : Status) (stage : Stage Unit) : Scene Unit :=
    ⟨⟨.start collection 0 none, status⟩, stage⟩
  let atEnd : State := { State.start collection 0 none with cursor := 1, choices := [link] }
  let bottom (stage : Stage Unit) : Scene Unit := ⟨⟨atEnd, .running⟩, stage⟩
  have hread : Collection.parse true "# A\n[[#A]]" "x.md" = .ok collection := by
    have hlines : Item.sourceLines "# A\n[[#A]]".toList = ["# A".toList, "[[#A]]".toList] := by cbv
    let sections : List Section := [⟨some ⟨"A", 1⟩, [.link link]⟩]
    have hitems : Item.ofText "# A\n[[#A]]" = .ok (sections.flatMap Section.items) := by
      rw [Item.ofText, hlines]
      rfl
    have hscripts : sections.map (Section.script "x.md") = [sole] := by decide +kernel
    have hvalid : ∀ script ∈ [sole], script.invalidCondition? = none := by decide
    exact Collection.parse_of_sections hitems (by decide) (by decide) (by decide +kernel) hscripts
      (List.pairwise_singleton _ _) fun _ => hvalid
  have hdown (stage : Stage Unit) :
      (top .running stage).step setup = .ok .moved (bottom stage) := rfl
  have hback (stage : Stage Unit) :
      ∃ later, (bottom stage).step setup = .ok .moved (top .running later) := by
    have hcut : Path.splitName ((bottom stage).state.resolve link.target) = ("x.md", "A") := by
      show Path.splitName (atEnd.resolve link.target) = _
      decide +kernel
    have hown : collection.isAt "x.md" = true := by decide +kernel
    have hlisted : atEnd.script.linksTo (atEnd.resolve link.target) = true := by decide +kernel
    have htarget : (bottom stage).target setup link = .ok (collection, 0) :=
      (target_eq_ok_iff hcut).mpr ⟨rfl, .inl ⟨hown, rfl⟩⟩
    have hannounced : (bottom stage).noteUnannounced link = bottom stage := by
      rw [noteUnannounced]
      dsimp only [bottom]
      rw [if_pos hlisted]
    have hstepped := step_of_single rfl rfl rfl rfl rfl htarget
    rw [hannounced] at hstepped
    exact ⟨_, hstepped⟩
  have hnever (limit : Nat) : ∀ stage,
      ((top .running stage).advance setup limit).result = .ok none ∧
        ((bottom stage).advance setup limit).result = .ok none := by
    induction limit with
    | zero => exact fun stage => ⟨rfl, rfl⟩
    | succ limit ih =>
        intro stage
        obtain ⟨later, hgoesBack⟩ := hback stage
        rw [advance_succ (hdown stage), advance_succ hgoesBack]
        exact ⟨(ih stage).2, (ih later).1⟩
  have world : World Unit := ⟨(), .empty⟩
  obtain ⟨limit, hout⟩ :=
    hreturns setup _ _ collection ⟨.start collection 0 none, .notStarted⟩ world
    rfl hread rfl
  cases limit with
  | zero => exact hout rfl
  | succ limit =>
      have hbegins : (Playback.opening ⟨.start collection 0 none, .notStarted⟩ world).step setup =
          .ok .moved (bottom ⟨world, [.start "x.md#A"], []⟩) := rfl
      rw [advance_succ hbegins] at hout
      exact hout (hnever limit _).2

end Scene

end Dialogue
