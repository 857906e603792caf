/-
# Closing the blocks that a script leaves open

A script may end while blocks are still open. Closing them there, by a tag for each, gives a script
with more lines that reads the same up to its old end. Two states are twins if one plays the script
as it is and the other the closed one, at the same line or both past the old end. How many closing
tags there are, and whether they match the open blocks, makes no difference.

As long as lines of the old script are left, twins cannot be told apart by anything that is asked of
them: they have the same line to run, the same place, and their conditions are decided alike. Only
a search for a tag may find one more, and that stands past the old end as well.
-/

import Dialogue.Proofs.Playback.BlockTree
import Dialogue.Proofs.Playback.Consistency
import Mathlib.Data.List.Forall2

namespace Dialogue

variable {μ : Type}

/-- A script goes over into one that closes blocks at its end: some closing tags have been put after
its lines, but none if it has no lines. -/
structure Script.ClosesTo (script closed : Script) : Prop where
  name : closed.name = script.name
  path : closed.path = script.path
  links : closed.links = script.links
  lines : ∃ tags : List Tag, closed.lines = script.lines ++ tags.map .tag ∧
    (∀ tag ∈ tags, tag.closesBlock = true) ∧ (script.lines = [] → tags = [])

/-- In a collection the open blocks of some scripts have been closed. -/
structure Collection.ClosesTo (collection closed : Collection) : Prop where
  name : closed.name = collection.name
  path : closed.path = collection.path
  scripts : List.Forall₂ Script.ClosesTo collection.scripts closed.scripts

/-- Two libraries fail alike and return collections that differ in closed blocks only. -/
def Library.ClosesTo (library closed : Library) : Prop :=
  ∀ path,
    (∃ error, library path = .error error ∧ closed path = .error error) ∨
      ∃ collection other, library path = .ok collection ∧ closed path = .ok other ∧
        collection.ClosesTo other

/-- Two set-ups differ at most in closed blocks of what their libraries return. -/
structure Setup.ClosesTo (setup closed : Setup μ) : Prop where
  host : closed.host = setup.host
  autoFollow : closed.autoFollow = setup.autoFollow
  library : Option.Rel Library.ClosesTo setup.library closed.library

theorem Script.ClosesTo.refl (script : Script) : script.ClosesTo script :=
  ⟨rfl, rfl, rfl, [], (List.append_nil _).symm, nofun, fun _ => rfl⟩

theorem Collection.ClosesTo.refl (collection : Collection) : collection.ClosesTo collection :=
  ⟨rfl, rfl, List.forall₂_same.mpr fun script _ => .refl script⟩

/-- In a collection one script is closed and the others stay. -/
theorem Collection.closesTo_set {collection : Collection} {index : Nat} {script closed : Script}
    (hhere : collection.scripts[index]? = some script) (hcloses : script.ClosesTo closed) :
    collection.ClosesTo { collection with scripts := collection.scripts.set index closed } where
  name := rfl
  path := rfl
  scripts := by
    generalize collection.scripts = scripts at hhere
    induction scripts generalizing index with
    | nil => cases hhere
    | cons first later ih =>
        cases index with
        | zero =>
            cases hhere
            exact .cons hcloses (List.forall₂_same.mpr fun other _ => .refl other)
        | succ index => exact .cons (.refl first) (ih hhere)

theorem Library.ClosesTo.refl (library : Library) : Library.ClosesTo library library := by
  intro path
  cases hfound : library path with
  | error error => exact .inl ⟨error, rfl, rfl⟩
  | ok collection => exact .inr ⟨collection, collection, rfl, rfl, .refl collection⟩

theorem Setup.ClosesTo.refl (setup : Setup μ) : setup.ClosesTo setup where
  host := rfl
  autoFollow := rfl
  library := by
    cases setup.library with
    | none => exact .none
    | some library => exact .some (.refl library)

/-- No block tree begins with a closing tag. -/
theorem Block.lines_ne_closing_cons {tag : Tag} (hcloses : tag.closesBlock = true)
    (rest : List Line) (block : Block) : block.lines ≠ .tag tag :: rest := by
  intro hbegins
  cases block with
  | done => cases hbegins
  | line line hplain others =>
      rw [Block.lines] at hbegins
      obtain ⟨rfl, -⟩ := List.cons.inj hbegins
      simp [Line.isPlain, Line.tag?, Tag.endsBranch, hcloses] at hplain
  | chain other hopens body others after =>
      rw [Block.lines] at hbegins
      obtain ⟨hsame, -⟩ := List.cons.inj hbegins
      cases hsame
      rw [Tag.closesBlock_eq_false (Tag.opensBlock_iff.mp hopens) (by decide)] at hcloses
      cases hcloses

/-- Closing tags close the open blocks of a script if its lines are those of a block tree with
them. -/
theorem Script.closesTo_of_block {script : Script} {tags : List Tag} {block : Block}
    (hclosing : ∀ tag ∈ tags, tag.closesBlock = true)
    (hnested : script.lines ++ tags.map .tag = block.lines) :
    script.ClosesTo { script with lines := script.lines ++ tags.map .tag } where
  name := rfl
  path := rfl
  links := rfl
  lines := by
    refine ⟨tags, rfl, hclosing, fun hempty => ?_⟩
    rw [hempty, List.nil_append] at hnested
    cases tags with
    | nil => rfl
    | cons tag later =>
        exact absurd hnested.symm (block.lines_ne_closing_cons (hclosing tag List.mem_cons_self) _)

theorem Script.ClosesTo.eq_nil {script closed : Script} (hcloses : script.ClosesTo closed)
    (hempty : script.lines = []) : closed.lines = [] := by
  obtain ⟨tags, hlines, -, hnone⟩ := hcloses.lines
  rw [hlines, hempty, hnone hempty]
  rfl

theorem Script.map_name_eq {scripts closed : List Script}
    (hcloses : List.Forall₂ Script.ClosesTo scripts closed) :
    closed.map Script.name = scripts.map Script.name := by
  induction hcloses with
  | nil => rfl
  | cons hfirst _ ih => rw [List.map_cons, List.map_cons, hfirst.name, ih]

namespace Collection.ClosesTo

variable {collection closed : Collection}

/-- Names find the same scripts. -/
theorem scriptIndex?_eq (hcloses : collection.ClosesTo closed) (name : Option String) :
    closed.scriptIndex? name = collection.scriptIndex? name := by
  have hsearch (scripts : List Script) (wanted : String) :
      scripts.findIdx? (fun script => Text.sameName script.name wanted) =
        (scripts.map Script.name).findIdx? fun name => Text.sameName name wanted := by
    rw [List.findIdx?_map]
    rfl
  have hnames := Script.map_name_eq hcloses.scripts
  have hscripts := hcloses.scripts
  rw [scriptIndex?, scriptIndex?]
  generalize collection.scripts = old, closed.scripts = new at hnames hscripts ⊢
  cases hscripts with
  | nil => rfl
  | cons hfirst hlater =>
      cases hlater with
      | nil => rfl
      | cons hsecond hothers =>
          dsimp only
          rw [hsearch, hsearch, hnames]

/-- The script at an index has been closed at most. -/
theorem getD_scripts (hcloses : collection.ClosesTo closed) (index : Nat) :
    (collection.scripts.getD index (.empty collection.path)).ClosesTo
      (closed.scripts.getD index (.empty closed.path)) := by
  rw [hcloses.path]
  have hscripts := hcloses.scripts
  generalize collection.scripts = old, closed.scripts = new at hscripts
  induction hscripts generalizing index with
  | nil => exact .refl _
  | cons hfirst hlater ih =>
      cases index with
      | zero => exact hfirst
      | succ index => exact ih index

end Collection.ClosesTo

section Search

variable {wanted : Tag → Bool} {depth : Int} {lines more : List Line} {before : Nat} {tag : Tag}

/-- Where a search can stop does not depend on the lines after that. -/
theorem stopsAt_append_iff (hinside : before < lines.length) :
    StopsAt wanted depth (lines ++ more) before tag ↔ StopsAt wanted depth lines before tag := by
  have hstands : (lines ++ more)[before]? = lines[before]? := List.getElem?_append_left hinside
  have hpassed : (lines ++ more).take before = lines.take before :=
    List.take_append_of_le_length (Nat.le_of_lt hinside)
  constructor
  · rintro ⟨hhere, hhit, houtside⟩
    exact ⟨hstands ▸ hhere, hhit, hpassed ▸ houtside⟩
  · rintro ⟨hhere, hhit, houtside⟩
    exact ⟨hstands.trans hhere, hhit, by rwa [hpassed]⟩

theorem seekTag_append_of_eq_some (hfound : seekTag wanted depth lines = some (before, tag))
    (more : List Line) : seekTag wanted depth (lines ++ more) = some (before, tag) := by
  obtain ⟨hstops, hfirst⟩ := seekTag_eq_some_iff.mp hfound
  have hinside := hstops.lt_length
  refine seekTag_eq_some_iff.mpr
    ⟨(stopsAt_append_iff hinside).mpr hstops, fun earlier hbelow other => ?_⟩
  exact mt (stopsAt_append_iff (Nat.lt_trans hbelow hinside)).mp (hfirst earlier hbelow other)

/-- What is found only with more lines stands among them. -/
theorem length_le_of_seekTag_append (hmissing : seekTag wanted depth lines = none)
    (hfound : seekTag wanted depth (lines ++ more) = some (before, tag)) :
    lines.length ≤ before := by
  by_contra hinside
  have hstops := (seekTag_eq_some_iff.mp hfound).1
  rw [stopsAt_append_iff (Nat.lt_of_not_le hinside)] at hstops
  exact seekTag_eq_none_iff.mp hmissing before tag hstops

end Search

/-- Two states are the same in two collections of which the second has its open blocks closed. Past
the end of the script of the first one it does not matter where they stand. -/
structure State.Twins (state twin : State) : Prop where
  collection : state.collection.ClosesTo twin.collection
  scriptIndex : twin.scriptIndex = state.scriptIndex
  cursor : min twin.cursor state.script.lines.length = min state.cursor state.script.lines.length
  speaker : twin.speaker = state.speaker
  choices : twin.choices = state.choices
  finished : twin.finished = state.finished
  store : twin.store = state.store
  retrying : twin.retrying = state.retrying

namespace State.Twins

variable {state twin : State} {line : Line}

/-- Both may go to the same line, or both past the old end. -/
theorem withCursor (htwins : state.Twins twin) {index other : Nat}
    (htogether : min other state.script.lines.length = min index state.script.lines.length) :
    State.Twins { state with cursor := index } { twin with cursor := other } :=
  { htwins with cursor := htogether }

theorem script (htwins : state.Twins twin) : state.script.ClosesTo twin.script := by
  have hcloses := htwins.collection.getD_scripts state.scriptIndex
  rw [State.script, State.script, htwins.scriptIndex]
  exact hcloses

theorem resolve_eq (htwins : state.Twins twin) (relative : String) :
    twin.resolve relative = state.resolve relative := by
  rw [State.resolve, State.resolve, htwins.script.path, Collection.resolve, Collection.resolve,
    htwins.collection.path]

/-- While a line is left, twins stand at the same one. -/
theorem cursor_eq (htwins : state.Twins twin) (hhere : state.line? = some line) :
    twin.cursor = state.cursor ∧ state.cursor < state.script.lines.length := by
  have hbound : state.cursor < state.script.lines.length := (List.getElem?_eq_some_iff.mp hhere).1
  have hcursor := htwins.cursor
  omega

theorem line?_eq (htwins : state.Twins twin) (hhere : state.line? = some line) :
    twin.line? = some line := by
  obtain ⟨hcursor, hbound⟩ := htwins.cursor_eq hhere
  obtain ⟨tags, hlines, -, -⟩ := htwins.script.lines
  rw [line?, hcursor, hlines, List.getElem?_append_left hbound]
  exact hhere

/-- Past the end, a twin has no line left, or it stands at a closing tag. -/
theorem line?_of_none (htwins : state.Twins twin) (hexhausted : state.line? = none) :
    twin.line? = none ∨ ∃ tag, twin.line? = some (.tag tag) ∧ tag.closesBlock = true := by
  have hpast : state.script.lines.length ≤ state.cursor := List.getElem?_eq_none_iff.mp hexhausted
  have hcursor := htwins.cursor
  obtain ⟨tags, hlines, hclosing, -⟩ := htwins.script.lines
  rw [line?, hlines, List.getElem?_append_right (by omega), List.getElem?_map]
  cases hfound : tags[twin.cursor - state.script.lines.length]? with
  | none => exact .inl rfl
  | some tag => exact .inr ⟨tag, rfl, hclosing tag (List.mem_of_getElem? hfound)⟩

theorem location_eq (htwins : state.Twins twin) (hhere : state.line? = some line) :
    twin.location = state.location := by
  rw [location, location, htwins.line?_eq hhere, hhere, htwins.collection.name, htwins.script.name]
  rfl

theorem storeId_eq (htwins : state.Twins twin) (hhere : state.line? = some line) :
    twin.storeId = state.storeId := by
  rw [storeId, storeId, htwins.store, htwins.location_eq hhere]

/-- Where one twin finds a tag the other finds it too, as long as it stands before the old end. Past
the end only the second twin may find one, and that is a closing tag. -/
theorem skipTo_cases (htwins : state.Twins twin) (hhere : state.line? = some line)
    (wanted : Tag → Bool) :
    (∃ tag index, state.skipTo wanted = (some tag, { state with cursor := index }) ∧
      twin.skipTo wanted = (some tag, { twin with cursor := index })) ∨
    ∃ found index, state.skipTo wanted =
        (none, { state with cursor := state.script.lines.length }) ∧
      twin.skipTo wanted = (found, { twin with cursor := index }) ∧
      state.script.lines.length ≤ index ∧ ∀ tag, found = some tag → tag.closesBlock = true := by
  obtain ⟨hcursor, hbound⟩ := htwins.cursor_eq hhere
  obtain ⟨tags, hlines, hclosing, -⟩ := htwins.script.lines
  have hrest : twin.script.lines.drop (twin.cursor + 1) =
      state.script.lines.drop (state.cursor + 1) ++ tags.map .tag := by
    rw [hlines, hcursor, List.drop_append_of_le_length hbound]
  rw [skipTo, skipTo, hrest, hcursor]
  cases hold : seekTag wanted 0 (state.script.lines.drop (state.cursor + 1)) with
  | some pair =>
      obtain ⟨before, tag⟩ := pair
      rw [seekTag_append_of_eq_some hold]
      exact .inl ⟨_, _, rfl, rfl⟩
  | none =>
      right
      cases hnew : seekTag wanted 0
          (state.script.lines.drop (state.cursor + 1) ++ tags.map .tag) with
      | none =>
          refine ⟨none, _, rfl, rfl, ?_, fun tag hfound => by cases hfound⟩
          rw [hlines, List.length_append]
          exact Nat.le_add_right _ _
      | some hit =>
          obtain ⟨before, tag⟩ := hit
          have hpast := length_le_of_seekTag_append hold hnew
          obtain ⟨hstands, -, -⟩ := (seekTag_eq_some_iff.mp hnew).1
          rw [List.getElem?_append_right hpast, List.getElem?_map] at hstands
          obtain ⟨other, hmem, hsame⟩ := Option.map_eq_some_iff.mp hstands
          rw [List.length_drop] at hpast
          refine ⟨some tag, state.cursor + 1 + before, rfl, rfl, by omega, ?_⟩
          rintro _ ⟨⟩
          exact Line.tag.inj hsame ▸ hclosing other (List.mem_of_getElem? hmem)

end State.Twins

/-- A host that does the same in twin states. -/
structure Host.IsBlind (host : Host μ) : Prop where
  start : ∀ {state twin : State}, state.Twins twin → host.start twin = host.start state
  tag : ∀ (tag : Tag) {state twin : State}, state.Twins twin →
    host.tag tag twin = host.tag tag state
  condition : ∀ (call : Call) {state twin : State}, state.Twins twin →
    host.condition call twin = host.condition call state

/-- A host does the same in twin states if it decides from the tag or the call it is given and from
what it remembers. When a playback starts, it may look at the path of the script. -/
theorem Host.isBlind_of_decides {host : Host μ}
    (hstart : ∀ state other : State, other.script.path = state.script.path →
      host.start other = host.start state)
    (htag : ∀ tag (state other : State), host.tag tag other = host.tag tag state)
    (hcondition : ∀ call (state other : State),
      host.condition call other = host.condition call state) : host.IsBlind where
  start htwins := hstart _ _ htwins.script.path
  tag given _ _ _ := htag given _ _
  condition given _ _ _ := hcondition given _ _

theorem Host.isBlind_idle : (Host.idle : Host μ).IsBlind :=
  isBlind_of_decides (fun _ _ _ => rfl) (fun _ _ _ => rfl) fun _ _ _ => rfl

section

variable {state twin : State} {line : Line}

/-- Before the old end, methods have the same verdict for twins. -/
theorem Method.verdict_eq_of_twins (htwins : state.Twins twin) (hhere : state.line? = some line)
    (stores : Shelf) (call : Call) (method : Method) :
    method.verdict twin stores call = method.verdict state stores call := by
  have hlocation := htwins.location_eq hhere
  have hvisits : visitCount twin stores call = visitCount state stores call := by
    simp only [visitCount, hlocation, htwins.storeId_eq hhere, htwins.resolve_eq]
  have hwanted : wantedCount twin call = wantedCount state call := by
    simp only [wantedCount, hlocation]
  have hpair : operands twin stores call = operands state stores call := by
    simp only [operands, hlocation, htwins.storeId_eq hhere]
  cases method <;> simp only [verdict, hasVisited, equality, ordering, hvisits, hwanted, hpair]

/-- Before the old end, conditions are decided alike for twins. -/
theorem State.decide_eq_of_twins {host : Host μ} (hblind : host.IsBlind)
    (htwins : state.Twins twin) (hhere : state.line? = some line) (text : String) :
    twin.decide host text = state.decide host text := by
  have hcalls : Call.decide host twin = Call.decide host state := by
    funext call stage
    simp only [Call.decide, Method.verdict_eq_of_twins htwins hhere, htwins.location_eq hhere,
      hblind.condition call htwins]
  rw [State.decide, State.decide, htwins.location_eq hhere, hcalls]

end

end Dialogue
