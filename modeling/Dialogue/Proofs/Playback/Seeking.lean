/-
# The search for a tag

A branch that is not to be played is skipped by a search for the tag that ends it. The search passes
over the lines one by one and counts in how many blocks it is. What it finds can be said without
the count: it is the first wanted tag before which as many tags have opened a block as have closed
one. As long as the tags that close blocks are wanted themselves, the count never falls below zero,
and it never exceeds the number of lines.

Nothing is asked of the lines. Blocks may be left open, and a tag may close a block that no tag has
opened.
-/

import Dialogue.Proofs.Playback.BlockTree
import Mathlib.Data.Nat.Find

namespace Dialogue

/-- The number of tags among some lines that open a block. -/
def openings (lines : List Line) : Nat :=
  (lines.filterMap Line.tag?).countP Tag.opensBlock

/-- The number of tags among some lines that close a block. -/
def closings (lines : List Line) : Nat :=
  (lines.filterMap Line.tag?).countP Tag.closesBlock

/-- The depth in blocks after some lines that start at a depth. -/
def depthAfter (depth : Int) (lines : List Line) : Int :=
  depth + (openings lines - closings lines)

variable {wanted : Tag → Bool} {depth : Int} {lines rest : List Line} {line : Line} {tag : Tag}
  {before passed : Nat}

theorem Tag.nesting_bounds (tag : Tag) : -1 ≤ tag.nesting ∧ tag.nesting ≤ 1 := by
  rw [nesting]
  cases tag.opensBlock <;> cases tag.closesBlock <;> decide

theorem Tag.nesting_nonneg (hunclosed : tag.closesBlock = false) : 0 ≤ tag.nesting := by
  rw [nesting, hunclosed]
  cases tag.opensBlock <;> decide

theorem depthAfter_nil : depthAfter depth [] = depth := by
  simp [depthAfter, openings, closings]

theorem depthAfter_append (depth : Int) (lines more : List Line) :
    depthAfter depth (lines ++ more) = depthAfter (depthAfter depth lines) more := by
  simp only [depthAfter, openings, closings, List.filterMap_append, List.countP_append]
  omega

theorem depthAfter_singleton (hplain : line.tag? = none) : depthAfter depth [line] = depth := by
  simp [depthAfter, openings, closings, hplain]

theorem depthAfter_tag (depth : Int) (tag : Tag) :
    depthAfter depth [.tag tag] = depth + tag.nesting := by
  cases hopens : tag.opensBlock <;> cases hcloses : tag.closesBlock <;>
    simp [depthAfter, openings, closings, Tag.nesting, Line.tag?, hopens, hcloses]

theorem depthAfter_cons (depth : Int) (line : Line) (rest : List Line) :
    depthAfter depth (line :: rest) = depthAfter (depthAfter depth [line]) rest :=
  depthAfter_append depth [line] rest

theorem Line.tag?_eq_some_iff : line.tag? = some tag ↔ line = .tag tag := by
  cases line <;> simp [Line.tag?]

/-- A search that starts at a depth can stop at the tag after some lines: the tag is wanted, and it
stands outside of all blocks. -/
structure StopsAt (wanted : Tag → Bool) (depth : Int) (lines : List Line) (before : Nat)
    (tag : Tag) : Prop where
  stands : lines[before]? = some (.tag tag)
  hit : wanted tag = true
  outside : depthAfter depth (lines.take before) = 0

theorem stopsAt_zero_iff :
    StopsAt wanted depth (line :: rest) 0 tag ↔
      line.tag? = some tag ∧ depth = 0 ∧ wanted tag = true := by
  rw [Line.tag?_eq_some_iff]
  constructor
  · rintro ⟨hstands, hhit, houtside⟩
    rw [List.take_zero, depthAfter_nil] at houtside
    exact ⟨Option.some.inj hstands, houtside, hhit⟩
  · rintro ⟨rfl, rfl, hhit⟩
    exact ⟨rfl, hhit, depthAfter_nil⟩

theorem stopsAt_succ_iff :
    StopsAt wanted depth (line :: rest) (before + 1) tag ↔
      StopsAt wanted (depthAfter depth [line]) rest before tag := by
  constructor
  · rintro ⟨hstands, hhit, houtside⟩
    rw [List.take_succ_cons, depthAfter_cons] at houtside
    exact ⟨hstands, hhit, houtside⟩
  · rintro ⟨hstands, hhit, houtside⟩
    refine ⟨hstands, hhit, ?_⟩
    rw [List.take_succ_cons, depthAfter_cons]
    exact houtside

theorem StopsAt.lt_length (hstops : StopsAt wanted depth lines before tag) :
    before < lines.length :=
  (List.getElem?_eq_some_iff.mp hstops.stands).1

theorem StopsAt.tag_eq {other : Tag} (hstops : StopsAt wanted depth lines before tag)
    (halso : StopsAt wanted depth lines before other) : tag = other :=
  Line.tag.inj (Option.some.inj (hstops.stands.symm.trans halso.stands))

theorem seekTag_cons_of_stopsAt (hstops : StopsAt wanted depth (line :: rest) 0 tag) :
    seekTag wanted depth (line :: rest) = some (0, tag) := by
  obtain ⟨hhere, houtside, hhit⟩ := stopsAt_zero_iff.mp hstops
  rw [seekTag, hhere]
  exact if_pos ⟨houtside, hhit⟩

/-- A line at which the search cannot stop is passed over, and the count takes note of it. -/
theorem seekTag_cons_of_not_stopsAt
    (hpasses : ∀ tag, ¬StopsAt wanted depth (line :: rest) 0 tag) :
    seekTag wanted depth (line :: rest) =
      farther 1 (seekTag wanted (depthAfter depth [line]) rest) := by
  cases hhere : line.tag? with
  | none =>
      rw [seekTag, hhere, depthAfter_singleton hhere]
      rfl
  | some tag =>
      have hinside : ¬(depth = 0 ∧ wanted tag = true) :=
        fun hhit => hpasses tag (stopsAt_zero_iff.mpr ⟨hhere, hhit⟩)
      rw [Line.tag?_eq_some_iff.mp hhere, seekTag_tag hinside, depthAfter_tag]

theorem farther_succ_eq_some_iff {found : Option (Nat × Tag)} :
    farther 1 found = some (before + 1, tag) ↔ found = some (before, tag) := by
  cases found with
  | none => exact iff_of_false nofun nofun
  | some pair => simp [farther, Prod.ext_iff]

theorem farther_one_ne_zero (found : Option (Nat × Tag)) : farther 1 found ≠ some (0, tag) := by
  cases found <;> simp [farther]

/-- A search finds the first tag at which it can stop. -/
theorem seekTag_eq_some_iff :
    seekTag wanted depth lines = some (before, tag) ↔
      StopsAt wanted depth lines before tag ∧
        ∀ earlier < before, ∀ other, ¬StopsAt wanted depth lines earlier other := by
  -- a line that is passed over changes the depth that the rest of the search starts at
  induction lines generalizing depth before with
  | nil => exact iff_of_false nofun fun hfirst => absurd hfirst.1.stands nofun
  | cons line rest ih =>
      by_cases hstops : ∃ here, StopsAt wanted depth (line :: rest) 0 here
      · obtain ⟨here, hstops⟩ := hstops
        rw [seekTag_cons_of_stopsAt hstops]
        constructor
        · intro hsame
          cases hsame
          exact ⟨hstops, fun earlier hbelow => absurd hbelow (Nat.not_lt_zero earlier)⟩
        · rintro ⟨hstopsToo, hfirst⟩
          cases before with
          | zero => rw [hstops.tag_eq hstopsToo]
          | succ before => exact absurd hstops (hfirst 0 (Nat.succ_pos before) here)
      · have hpasses := not_exists.mp hstops
        rw [seekTag_cons_of_not_stopsAt hpasses]
        cases before with
        | zero => exact iff_of_false (farther_one_ne_zero _) fun hfirst => hpasses tag hfirst.1
        | succ before =>
            rw [farther_succ_eq_some_iff, ih, stopsAt_succ_iff]
            refine and_congr_right fun _ => ⟨fun hfirst earlier hbelow other => ?_,
              fun hfirst earlier hbelow other hstopsToo => ?_⟩
            · cases earlier with
              | zero => exact hpasses other
              | succ earlier =>
                  exact mt stopsAt_succ_iff.mp
                    (hfirst earlier (Nat.lt_of_succ_lt_succ hbelow) other)
            · exact hfirst (earlier + 1) (Nat.succ_lt_succ hbelow) other
                (stopsAt_succ_iff.mpr hstopsToo)

/-- A search finds nothing exactly if it can stop nowhere. -/
theorem seekTag_eq_none_iff :
    seekTag wanted depth lines = none ↔
      ∀ before tag, ¬StopsAt wanted depth lines before tag := by
  classical
  constructor
  · intro hmissing before tag hstops
    have exists_stop : ∃ before, ∃ tag, StopsAt wanted depth lines before tag :=
      ⟨before, tag, hstops⟩
    obtain ⟨first, hhere⟩ := Nat.find_spec exists_stop
    have hfound := seekTag_eq_some_iff.mpr ⟨hhere, fun earlier hbelow other hstopsToo =>
      Nat.find_min exists_stop hbelow ⟨other, hstopsToo⟩⟩
    rw [hmissing] at hfound
    cases hfound
  · intro hnowhere
    cases hfound : seekTag wanted depth lines with
    | none => rfl
    | some pair => exact absurd (seekTag_eq_some_iff.mp hfound).1 (hnowhere pair.1 pair.2)

/-- The search for a wanted tag among some lines passes over so many of them and then is at a
depth. Each round of the search passes over one line. -/
inductive Passes (wanted : Tag → Bool) (lines : List Line) : Nat → Int → Prop where
  /-- The search starts with a count of zero. -/
  | start : Passes wanted lines 0 0
  /-- A line without a tag leaves the count as it is. -/
  | plain {passed : Nat} {depth : Int} {line : Line} (hearlier : Passes wanted lines passed depth)
      (hhere : lines[passed]? = some line) (hplain : line.tag? = none) :
      Passes wanted lines (passed + 1) depth
  /-- A tag adds its nesting to the count, unless the search stops there. -/
  | tag {passed : Nat} {depth : Int} {tag : Tag} (hearlier : Passes wanted lines passed depth)
      (hhere : lines[passed]? = some (.tag tag)) (hgoesOn : ¬(depth = 0 ∧ wanted tag = true)) :
      Passes wanted lines (passed + 1) (depth + tag.nesting)

theorem drop_eq_cons_of_getElem? (hhere : lines[passed]? = some line) :
    lines.drop passed = line :: lines.drop (passed + 1) := by
  obtain ⟨hinside, rfl⟩ := List.getElem?_eq_some_iff.mp hhere
  exact List.drop_eq_getElem_cons hinside

namespace Passes

theorem le_length (hpasses : Passes wanted lines passed depth) : passed ≤ lines.length := by
  cases hpasses with
  | start => exact Nat.zero_le _
  | plain hearlier hhere hplain => exact (List.getElem?_eq_some_iff.mp hhere).1
  | tag hearlier hhere hgoesOn => exact (List.getElem?_eq_some_iff.mp hhere).1

/-- The search goes on after the lines that it has passed over, at the depth that it has counted. -/
theorem seekTag_eq (hpasses : Passes wanted lines passed depth) :
    seekTag wanted 0 lines = farther passed (seekTag wanted depth (lines.drop passed)) := by
  induction hpasses with
  | start => rw [farther_zero, List.drop_zero]
  | @plain passed depth line hearlier hhere hplain ih =>
      have hround : seekTag wanted depth (line :: lines.drop (passed + 1)) =
          farther 1 (seekTag wanted depth (lines.drop (passed + 1))) := by
        rw [seekTag, hplain]
        rfl
      rw [ih, drop_eq_cons_of_getElem? hhere, hround, farther_farther, Nat.add_comm]
  | tag hearlier hhere hgoesOn ih =>
      rw [ih, drop_eq_cons_of_getElem? hhere, seekTag_tag hgoesOn, farther_farther, Nat.add_comm]

/-- If the tags that close blocks are wanted, the search stops before its count falls below zero. -/
theorem depth_nonneg (hclosing : ∀ tag : Tag, tag.closesBlock = true → wanted tag = true)
    (hpasses : Passes wanted lines passed depth) : 0 ≤ depth := by
  induction hpasses with
  | start => exact Int.le_refl 0
  | plain hearlier hhere hplain ih => exact ih
  | @tag passed depth tag hearlier hhere hgoesOn ih =>
      obtain ⟨hfalls, -⟩ := tag.nesting_bounds
      by_cases hcloses : tag.closesBlock = true
      · have hinside : depth ≠ 0 := fun houtside => hgoesOn ⟨houtside, hclosing tag hcloses⟩
        omega
      · have hrises := Tag.nesting_nonneg (Bool.eq_false_iff.mpr hcloses)
        omega

/-- The count grows by one at most with each line. -/
theorem depth_le (hpasses : Passes wanted lines passed depth) : depth ≤ passed := by
  induction hpasses with
  | start => exact Int.le_refl 0
  | plain hearlier hhere hplain ih => omega
  | @tag passed depth tag hearlier hhere hgoesOn ih =>
      obtain ⟨-, hrises⟩ := tag.nesting_bounds
      omega

end Passes

namespace State

variable {state : State} {index : Nat}

/-- The lines strictly between the line to run and a later one. -/
def linesBefore (state : State) (index : Nat) : List Line :=
  (state.script.lines.take index).drop (state.cursor + 1)

/-- A wanted tag stands after the line to run, and as many tags in between open a block as close
one. -/
structure Matches (state : State) (wanted : Tag → Bool) (index : Nat) (tag : Tag) : Prop where
  after : state.cursor < index
  stands : state.script.lines[index]? = some (.tag tag)
  hit : wanted tag = true
  balanced : openings (state.linesBefore index) = closings (state.linesBefore index)

/-- What skipping to a wanted tag gives, and the state that it leads to. Nothing but the cursor
changes. -/
inductive SkipsTo (state : State) (wanted : Tag → Bool) : Option Tag × State → Prop where
  /-- The first match is found, and the cursor stands there. -/
  | found {index : Nat} {tag : Tag} (hhit : state.Matches wanted index tag)
      (hfirst : ∀ earlier < index, ∀ other, ¬state.Matches wanted earlier other) :
      SkipsTo state wanted (some tag, { state with cursor := index })
  /-- There is no match, and the cursor stands at the end of the script. -/
  | missing (hnowhere : ∀ index tag, ¬state.Matches wanted index tag) :
      SkipsTo state wanted (none, { state with cursor := state.script.lines.length })

/-- The matches of a state are where a search of the lines after the cursor can stop. -/
theorem matches_iff :
    state.Matches wanted (state.cursor + 1 + before) tag ↔
      StopsAt wanted 0 (state.script.lines.drop (state.cursor + 1)) before tag := by
  have hbetween : state.linesBefore (state.cursor + 1 + before) =
      (state.script.lines.drop (state.cursor + 1)).take before := by
    rw [linesBefore, List.take_drop]
  have hbalanced : depthAfter 0 ((state.script.lines.drop (state.cursor + 1)).take before) = 0 ↔
      openings (state.linesBefore (state.cursor + 1 + before)) =
        closings (state.linesBefore (state.cursor + 1 + before)) := by
    rw [hbetween, depthAfter]
    omega
  constructor
  · rintro ⟨-, hstands, hhit, hlevel⟩
    exact ⟨by rwa [List.getElem?_drop], hhit, hbalanced.mpr hlevel⟩
  · rintro ⟨hstands, hhit, houtside⟩
    rw [List.getElem?_drop] at hstands
    exact ⟨by omega, hstands, hhit, hbalanced.mp houtside⟩

theorem Matches.exists_before (hhit : state.Matches wanted index tag) :
    ∃ before, index = state.cursor + 1 + before :=
  Nat.exists_eq_add_of_le hhit.after

theorem skipsTo_skipTo (state : State) (wanted : Tag → Bool) :
    state.SkipsTo wanted (state.skipTo wanted) := by
  rw [skipTo]
  cases hfound : seekTag wanted 0 (state.script.lines.drop (state.cursor + 1)) with
  | none =>
      refine .missing fun index tag hhit => ?_
      obtain ⟨before, rfl⟩ := hhit.exists_before
      exact seekTag_eq_none_iff.mp hfound before tag (matches_iff.mp hhit)
  | some pair =>
      obtain ⟨before, tag⟩ := pair
      obtain ⟨hstops, hfirst⟩ := seekTag_eq_some_iff.mp hfound
      refine .found (matches_iff.mpr hstops) fun earlier hbelow other hhit => ?_
      obtain ⟨passed, rfl⟩ := hhit.exists_before
      exact hfirst passed (by omega) other (matches_iff.mp hhit)

/-- Skipping to a wanted tag, round by round. -/
structure SkipsByCount (state : State) (wanted : Tag → Bool) : Prop where
  /-- The first match is found, if there is one. -/
  skips : state.SkipsTo wanted (state.skipTo wanted)
  /-- After each round the search goes on at the depth that it has counted. -/
  goesOn : ∀ passed depth,
    let later := state.script.lines.drop (state.cursor + 1)
    Passes wanted later passed depth →
      seekTag wanted 0 later = farther passed (seekTag wanted depth (later.drop passed))
  /-- The count never falls below zero, and it never exceeds the number of lines. So 32 bits are
  enough for a script of less than `2 ^ 31` lines. -/
  counts : ∀ passed depth,
    Passes wanted (state.script.lines.drop (state.cursor + 1)) passed depth →
      0 ≤ depth ∧ depth ≤ state.script.lines.length

theorem skipsByCount_of_closing (hclosing : ∀ tag : Tag, tag.closesBlock = true → wanted tag = true)
    (state : State) : state.SkipsByCount wanted where
  skips := skipsTo_skipTo state wanted
  goesOn _ _ hpasses := hpasses.seekTag_eq
  counts passed depth hpasses := by
    have hlength := hpasses.le_length
    have hbound := hpasses.depth_le
    rw [List.length_drop] at hlength
    exact ⟨hpasses.depth_nonneg hclosing, by omega⟩

/-- Both when a block is left and when a branch is skipped, the playback goes on at the first tag
that is wanted and before which as many blocks have been opened as closed. -/
theorem skipsByCount_branch_and_block (state : State) :
    state.SkipsByCount Tag.endsBranch ∧ state.SkipsByCount Tag.closesBlock :=
  ⟨skipsByCount_of_closing Tag.endsBranch_of_closesBlock state,
    skipsByCount_of_closing (fun _ hcloses => hcloses) state⟩

end State

end Dialogue
