/-
# Why a source is refused

A source is refused for a link with a blank target, for two scripts with matching names or, if
conditions are checked, for a condition that cannot be read. All lines are read before any script is
looked at, so a blank target comes first wherever it stands. Then the scripts are taken in order.
The first that is at fault decides, and a name that is taken goes before a condition in the same
script. A source that is not refused makes a collection, and the check of conditions has no part in
what that collection is.
-/

import Dialogue.Proofs.Collection.Sections
import Dialogue.Proofs.Collection.Validation

namespace Dialogue

open Text (trim)

/-- A cut of a list is made before its first entry or after it. -/
theorem exists_cut_cons_iff {α : Type} {first : α} {rest : List α}
    {P : List α → α → List α → Prop} :
    (∃ before entry after, first :: rest = before ++ entry :: after ∧ P before entry after) ↔
      P [] first rest ∨
        ∃ before entry after,
          rest = before ++ entry :: after ∧ P (first :: before) entry after := by
  constructor
  · rintro ⟨before, entry, after, hcut, hholds⟩
    cases before with
    | nil =>
        cases hcut
        exact .inl hholds
    | cons other before =>
        cases hcut
        exact .inr ⟨before, entry, after, rfl, hholds⟩
  · rintro (hholds | ⟨before, entry, after, rfl, hholds⟩)
    · exact ⟨[], first, rest, rfl, hholds⟩
    · exact ⟨first :: before, entry, after, rfl, hholds⟩

theorem map_eq_error_iff {ε α β : Type} {result : Except ε α} {f : α → β} {error : ε} :
    result.map f = .error error ↔ result = .error error := by
  cases result <;> simp [Except.map]

theorem map_eq_ok_iff {ε α β : Type} {result : Except ε α} {f : α → β} {value : β} :
    result.map f = .ok value ↔ ∃ before, result = .ok before ∧ f before = value := by
  cases result <;> simp [Except.map]

/-- A line of a source is a link with a blank target. -/
def IsBlankLink (line : List Char) : Prop :=
  ∃ target display, Grammar.link? (trim line) = some (target, display) ∧ trim target = []

/-- A link is no heading: the one starts with a bracket and the other with a hash. -/
theorem Grammar.heading?_of_link? {text target : List Char} {display : Option (List Char)}
    (hlinked : link? text = some (target, display)) : heading? text = none := by
  rw [link?.eq_def] at hlinked
  split at hlinked
  · rfl
  · cases hlinked

namespace Item

variable {line : List Char} {lineNo : Nat} {lines : List (List Char)} {error : SourceError}

theorem ofLine?_eq_error_iff :
    ofLine? line lineNo = .error error ↔
      IsBlankLink line ∧ error = .blankTarget (String.ofList (trim line)) lineNo := by
  rw [IsBlankLink]
  constructor
  · intro hfailed
    rw [ofLine?] at hfailed
    split at hfailed
    · cases hfailed
    · split at hfailed
      · cases hfailed
      · cases hclassified : Line.classifyChars (trim line) lineNo with
        | ok line =>
            rw [hclassified] at hfailed
            cases hfailed
        | error cause =>
            rw [hclassified] at hfailed
            cases hfailed
            simp only [Line.classifyChars] at hclassified
            split at hclassified
            · rename_i target display hlinked
              split at hclassified
              · rename_i hblank
                cases hclassified
                exact ⟨⟨target, display, hlinked, hblank⟩, rfl⟩
              · cases hclassified
            · -- no other form of a line can be refused
              split at hclassified
              · cases hclassified
              · split at hclassified
                · cases hclassified
                · split at hclassified <;> cases hclassified
  · rintro ⟨⟨target, display, hlinked, hblank⟩, rfl⟩
    have hrefused : Line.classifyChars (trim line) lineNo =
        .error (.blankTarget (String.ofList (trim line)) lineNo) := by
      simp only [Line.classifyChars, hlinked, hblank]
    rw [ofLine?]
    split
    · rename_i hnothing
      rw [hnothing] at hlinked
      cases hlinked
    · rw [Grammar.heading?_of_link? hlinked, hrefused]
      rfl

theorem ofLines_of_isBlankLink (hblank : IsBlankLink line) :
    ofLines lineNo (line :: lines) = .error (.blankTarget (String.ofList (trim line)) lineNo) := by
  rw [ofLines, ofLine?_eq_error_iff.mpr ⟨hblank, rfl⟩]

theorem ofLines_of_not_isBlankLink (lineNo : Nat) (lines : List (List Char))
    (hsound : ¬IsBlankLink line) :
    ∃ item : Option Item, ofLines lineNo (line :: lines) =
      (ofLines (lineNo + 1) lines).map (item.toList ++ ·) := by
  cases hread : ofLine? line lineNo with
  | error cause => exact absurd (ofLine?_eq_error_iff.mp hread).1 hsound
  | ok item =>
      refine ⟨item, ?_⟩
      rw [ofLines, hread]
      cases ofLines (lineNo + 1) lines <;> rfl

/-- The lines of a source are refused for the first link with a blank target. -/
theorem ofLines_eq_error_iff :
    ofLines lineNo lines = .error error ↔
      ∃ earlier line later, lines = earlier ++ line :: later ∧
        (∀ other ∈ earlier, ¬IsBlankLink other) ∧ IsBlankLink line ∧
          error = .blankTarget (String.ofList (trim line)) (lineNo + earlier.length) := by
  induction lines generalizing lineNo with
  | nil => simp
  | cons first rest ih =>
      rw [exists_cut_cons_iff]
      by_cases hblank : IsBlankLink first
      · rw [ofLines_of_isBlankLink hblank]
        constructor
        · intro hfailed
          cases hfailed
          exact .inl ⟨fun _ hmem => absurd hmem List.not_mem_nil, hblank, rfl⟩
        · rintro (⟨-, -, rfl⟩ | ⟨earlier, line, later, -, hsound, -⟩)
          · rfl
          · exact absurd hblank (hsound first List.mem_cons_self)
      · obtain ⟨item, honward⟩ := ofLines_of_not_isBlankLink lineNo rest hblank
        have hcount (earlier : List (List Char)) :
            lineNo + 1 + earlier.length = lineNo + (first :: earlier).length := by
          rw [List.length_cons, Nat.add_assoc, Nat.add_comm 1]
        rw [honward, map_eq_error_iff, ih]
        constructor
        · rintro ⟨earlier, line, later, hcut, hsound, hown, hsame⟩
          rw [hcount] at hsame
          exact .inr ⟨earlier, line, later, hcut, List.forall_mem_cons.mpr ⟨hblank, hsound⟩, hown,
            hsame⟩
        · rintro (⟨-, hown, -⟩ | ⟨earlier, line, later, hcut, hsound, hown, hsame⟩)
          · exact absurd hown hblank
          · rw [← hcount] at hsame
            exact ⟨earlier, line, later, hcut, (List.forall_mem_cons.mp hsound).2, hown, hsame⟩

/-- The lines of a source can be read exactly if none of them is a link with a blank target. -/
theorem exists_ofLines_eq_ok_iff (lineNo : Nat) :
    (∃ items, ofLines lineNo lines = .ok items) ↔ ∀ line ∈ lines, ¬IsBlankLink line := by
  induction lines generalizing lineNo with
  | nil => simp
  | cons first rest ih =>
      rw [List.forall_mem_cons]
      by_cases hblank : IsBlankLink first
      · rw [ofLines_of_isBlankLink hblank]
        simp [hblank]
      · obtain ⟨item, honward⟩ := ofLines_of_not_isBlankLink lineNo rest hblank
        rw [honward, ← ih (lineNo + 1)]
        cases ofLines (lineNo + 1) rest <;> simp [hblank, Except.map]

/-- A source whose lines cannot be read is refused for the first link with a blank target. -/
theorem ofText_eq_error_iff {text : String} :
    ofText text = .error error ↔
      ∃ earlier line later, sourceLines text.toList = earlier ++ line :: later ∧
        (∀ other ∈ earlier, ¬IsBlankLink other) ∧ IsBlankLink line ∧
          error = .blankTarget (String.ofList (trim line)) (earlier.length + 1) := by
  rw [ofText, ofLines_eq_error_iff]
  simp only [Nat.add_comm 1]

end Item

theorem Tag.invalidCondition?_eq_some_iff {tag : Tag} {cause : SyntaxError} :
    tag.invalidCondition? = some cause ↔
      tag.hasCondition = true ∧ Condition.parse tag.args = .error cause := by
  rw [invalidCondition?]
  cases Condition.parse tag.args <;> simp

namespace Script

/-- The check of a script finds the first condition in it that cannot be read. -/
theorem invalidCondition?_eq_some_iff {script : Script} {lineNo : Nat} {cause : SyntaxError} :
    script.invalidCondition? = some (lineNo, cause) ↔
      ∃ before tag after, script.lines = before ++ .tag tag :: after ∧
        (∀ other, .tag other ∈ before → other.IsReadable) ∧ tag.hasCondition = true ∧
          Condition.parse tag.args = .error cause ∧ lineNo = tag.lineNo := by
  rw [invalidCondition?, List.findSome?_eq_some_iff]
  constructor
  · rintro ⟨earlier, tag, later, hcut, hfound, hpasses⟩
    obtain ⟨before, rest, hlines, rfl, hremaining⟩ := List.filterMap_eq_append_iff.mp hcut
    obtain ⟨between, line, after, rfl, hothers, hisTag, -⟩ :=
      List.filterMap_eq_cons_iff.mp hremaining
    obtain ⟨cause', hunread, hsame⟩ := Option.map_eq_some_iff.mp hfound
    cases hsame
    cases line with
    | cue | speech | link | quote => cases hisTag
    | tag own =>
        cases hisTag
        obtain ⟨hconditional, hunread⟩ := Tag.invalidCondition?_eq_some_iff.mp hunread
        refine ⟨before ++ between, tag, after, ?_, ?_, hconditional, hunread, rfl⟩
        · rw [hlines, List.append_assoc]
        · intro other hmem
          rcases List.mem_append.mp hmem with hfirst | hsecond
          · have hpassed := hpasses other (List.mem_filterMap.mpr ⟨.tag other, hfirst, rfl⟩)
            exact Tag.isReadable_iff.mpr (Option.map_eq_none_iff.mp hpassed)
          · exact absurd (hothers _ hsecond) (by simp [Line.tag?])
  · rintro ⟨before, tag, after, hlines, hreadable, hconditional, hunread, rfl⟩
    refine ⟨before.filterMap Line.tag?, tag, after.filterMap Line.tag?, ?_, ?_, ?_⟩
    · rw [hlines, List.filterMap_append]
      rfl
    · rw [Tag.invalidCondition?_eq_some_iff.mpr ⟨hconditional, hunread⟩]
      rfl
    · intro other hmem
      obtain ⟨line, hlisted, hisTag⟩ := List.mem_filterMap.mp hmem
      cases line with
      | cue | speech | link | quote => cases hisTag
      | tag own =>
          cases hisTag
          rw [Tag.isReadable_iff.mp (hreadable other hlisted), Option.map_none]

/-- What is wrong with a script of a collection after those before it. -/
inductive Fault (validate : Bool) (collection : String) (earlier : List Script) (script : Script) :
    SourceError → Prop where
  | duplicate {other : Script} (hmem : other ∈ earlier)
      (hsame : Text.sameName other.name script.name = true) :
      Fault validate collection earlier script (.duplicateScript collection script.name)
  | condition {before after : List Line} {tag : Tag} {cause : SyntaxError}
      (hchecked : validate = true) (hfresh : ∀ other ∈ earlier, Collection.NamesDiffer other script)
      (hlines : script.lines = before ++ .tag tag :: after)
      (hreadable : ∀ other, .tag other ∈ before → other.IsReadable)
      (hconditional : tag.hasCondition = true) (hunread : Condition.parse tag.args = .error cause) :
      Fault validate collection earlier script (.invalidCondition collection tag.lineNo cause)

end Script

namespace Collection

/-- Scripts with none of which anything is wrong. -/
structure AreSound (validate : Bool) (scripts : List Script) : Prop where
  /-- The names do not match each other. -/
  distinct : scripts.Pairwise NamesDiffer
  /-- If conditions are checked, they can be read. -/
  readable : validate = true → ∀ script ∈ scripts, script.IsReadable

variable {validate : Bool} {name : String} {earlier added scripts : List Script} {script : Script}
  {error : SourceError}

theorem AreSound.sublist {fewer : List Script} (hsound : AreSound validate scripts)
    (hsub : fewer.Sublist scripts) : AreSound validate fewer where
  distinct := hsound.distinct.sublist hsub
  readable hchecked script hmem := hsound.readable hchecked script (hsub.subset hmem)

theorem AreSound.weaken (hsound : AreSound true scripts) : AreSound validate scripts where
  distinct := hsound.distinct
  readable _ := hsound.readable rfl

theorem areSound_nil : AreSound validate [] where
  distinct := .nil
  readable _ _ hmem := absurd hmem List.not_mem_nil

/-- After sound scripts another one is sound as well, or it is at fault. -/
theorem AreSound.concat_or (name : String) (hsound : AreSound validate earlier) (script : Script) :
    AreSound validate (earlier ++ [script]) ∨
      ∃ error, script.Fault validate name earlier error := by
  by_cases hfresh : ∀ other ∈ earlier, NamesDiffer other script
  · have hdistinct : (earlier ++ [script]).Pairwise NamesDiffer := by
      rw [List.pairwise_append]
      exact ⟨hsound.distinct, List.pairwise_singleton _ _, by simpa using hfresh⟩
    by_cases hpasses : validate = true → script.IsReadable
    · refine .inl ⟨hdistinct, fun hchecked other hmem => ?_⟩
      rcases List.mem_append.mp hmem with hbefore | hlast
      · exact hsound.readable hchecked other hbefore
      · rw [List.mem_singleton.mp hlast]
        exact hpasses hchecked
    · obtain ⟨hchecked, hunreadable⟩ := Classical.not_imp.mp hpasses
      rw [Script.isReadable_iff] at hunreadable
      obtain ⟨⟨lineNo, cause⟩, hfound⟩ := Option.ne_none_iff_exists'.mp hunreadable
      obtain ⟨before, tag, after, hlines, hreadable, hconditional, hunread, -⟩ :=
        Script.invalidCondition?_eq_some_iff.mp hfound
      exact .inr ⟨_, .condition hchecked hfresh hlines hreadable hconditional hunread⟩
  · obtain ⟨other, htaken⟩ := Classical.not_forall.mp hfresh
    obtain ⟨hmem, hsame⟩ := Classical.not_imp.mp htaken
    exact .inr ⟨_, .duplicate hmem (Bool.not_eq_false _ ▸ hsame)⟩

/-- Nothing is added from a script at fault on. -/
theorem addScripts_of_fault (added : List Script)
    (hfault : script.Fault validate name earlier error) :
    addScripts validate name earlier (script :: added) = .error error := by
  rw [addScripts]
  cases hfault with
  | duplicate hmem hsame => rw [if_pos (List.any_eq_true.mpr ⟨_, hmem, hsame⟩)]
  | condition hchecked hfresh hlines hreadable hconditional hunread =>
      have hfound := Script.invalidCondition?_eq_some_iff.mpr
        ⟨_, _, _, hlines, hreadable, hconditional, hunread, rfl⟩
      rw [any_sameName_eq_false_iff.mpr hfresh, if_neg Bool.false_ne_true, if_pos hchecked, hfound]

theorem addScripts_of_areSound (hsound : AreSound validate (earlier ++ [script])) :
    addScripts validate name earlier (script :: added) =
      addScripts validate name (earlier ++ [script]) added := by
  obtain ⟨-, -, hapart⟩ := List.pairwise_append.mp hsound.distinct
  have hfresh : ∀ other ∈ earlier, NamesDiffer other script :=
    fun other hmem => hapart other hmem script List.mem_cons_self
  have hmem : script ∈ earlier ++ [script] := List.mem_append_right earlier List.mem_cons_self
  exact addScripts_cons hfresh fun hchecked =>
    Script.isReadable_iff.mp (hsound.readable hchecked script hmem)

theorem AreSound.not_fault (hsound : AreSound validate (earlier ++ [script])) :
    ¬script.Fault validate name earlier error := by
  intro hfault
  have hrefused := addScripts_of_fault [] hfault
  rw [addScripts_of_areSound hsound] at hrefused
  cases hrefused

/-- The first script at fault decides the error. -/
theorem addScripts_eq_error_iff (hsound : AreSound validate earlier) :
    addScripts validate name earlier added = .error error ↔
      ∃ before script after, added = before ++ script :: after ∧
        AreSound validate (earlier ++ before) ∧
          script.Fault validate name (earlier ++ before) error := by
  -- the earlier scripts stay sound up to the first one at fault
  induction added generalizing earlier with
  | nil => simp [addScripts]
  | cons script rest ih =>
      rw [exists_cut_cons_iff, List.append_nil]
      rcases hsound.concat_or name script with hnext | ⟨cause, hfault⟩
      · rw [addScripts_of_areSound hnext, ih hnext]
        simp only [List.append_assoc, List.singleton_append]
        constructor
        · exact .inr
        · rintro (⟨-, hfault⟩ | hlater)
          · exact absurd hfault hnext.not_fault
          · exact hlater
      · rw [addScripts_of_fault rest hfault]
        constructor
        · intro hfailed
          cases hfailed
          exact .inl ⟨hsound, hfault⟩
        · rintro (⟨-, hother⟩ | ⟨before, other, after, -, hlater, -⟩)
          · rw [← addScripts_of_fault [] hfault, addScripts_of_fault [] hother]
          · rw [List.append_cons] at hlater
            have hnext := hlater.sublist (List.sublist_append_left (earlier ++ [script]) before)
            exact absurd hfault hnext.not_fault

/-- Sound scripts and no others are added, in order. -/
theorem addScripts_eq_ok_iff (hsound : AreSound validate earlier) :
    addScripts validate name earlier added = .ok scripts ↔
      AreSound validate (earlier ++ added) ∧ scripts = earlier ++ added := by
  constructor
  · intro hdone
    obtain ⟨rfl, hdistinct⟩ := addScripts_spec hdone hsound.distinct
    refine ⟨⟨hdistinct, ?_⟩, rfl⟩
    rintro rfl
    exact isReadable_of_addScripts (hsound.readable rfl) hdone
  · rintro ⟨⟨hdistinct, hreadable⟩, rfl⟩
    refine addScripts_of_distinct hdistinct fun hchecked script hmem => ?_
    exact Script.isReadable_iff.mp (hreadable hchecked script (List.mem_append_right earlier hmem))

/-- Why a source is refused. -/
inductive Refuses (validate : Bool) (text path : String) : SourceError → Prop where
  | blankTarget {earlier later : List (List Char)} {line : List Char}
      (hlines : Item.sourceLines text.toList = earlier ++ line :: later)
      (hfirst : ∀ other ∈ earlier, ¬IsBlankLink other) (hblank : IsBlankLink line) :
      Refuses validate text path (.blankTarget (String.ofList (trim line)) (earlier.length + 1))
  | script {items : List Item} {before after : List Script} {script : Script} {error : SourceError}
      (hclassified : Item.ofText text = .ok items)
      (hscripts : (Section.ofItems items).map (Section.script path) = before ++ script :: after)
      (hsound : AreSound validate before)
      (hfault : script.Fault validate (Path.stem path) before error) :
      Refuses validate text path error

variable {text path : String} {items : List Item} {collection : Collection}

theorem ofItems_eq_nil_iff : Section.ofItems items = [] ↔ items = [] := by
  constructor
  · intro hnone
    rw [← Section.flatMap_items_ofItems items, hnone, List.flatMap_nil]
  · rintro rfl
    exact Section.ofItems_nil

/-- Once the lines have been read, the scripts decide. -/
theorem parse_of_ofText (hclassified : Item.ofText text = .ok items) :
    parse validate text path =
      (addScripts validate (Path.stem path) []
        ((Section.ofItems items).map (Section.script path))).map fun _ =>
          ⟨Path.stem path, path, text, (Section.ofSource items).map (Section.script path)⟩ := by
  simp only [parse, hclassified]
  split
  · rename_i hrefused
    rw [hrefused]
    rfl
  · rename_i hadded
    obtain ⟨-, hnone⟩ := (addScripts_eq_ok_iff areSound_nil).mp hadded
    rw [List.nil_append, eq_comm, List.map_eq_nil_iff, ofItems_eq_nil_iff] at hnone
    rw [hadded, hnone]
    rfl
  · rename_i scripts hsome hadded
    obtain ⟨-, hall⟩ := (addScripts_eq_ok_iff areSound_nil).mp hadded
    rw [List.nil_append] at hall
    have items_ne : items ≠ [] := by
      rintro rfl
      exact hsome (by rw [hall, Section.ofItems_nil, List.map_nil])
    rw [hadded, hall, Section.ofSource, if_neg items_ne]
    rfl

theorem parse_eq_error_iff :
    parse validate text path = .error error ↔ Refuses validate text path error := by
  constructor
  · intro hfailed
    cases hclassified : Item.ofText text with
    | error cause =>
        rw [parse, hclassified] at hfailed
        cases hfailed
        obtain ⟨earlier, line, later, hlines, hfirst, hblank, rfl⟩ :=
          Item.ofText_eq_error_iff.mp hclassified
        exact .blankTarget hlines hfirst hblank
    | ok items =>
        rw [parse_of_ofText hclassified, map_eq_error_iff, addScripts_eq_error_iff areSound_nil]
          at hfailed
        obtain ⟨before, script, after, hscripts, hsound, hfault⟩ := hfailed
        exact .script hclassified hscripts hsound hfault
  · intro hrefused
    cases hrefused with
    | blankTarget hlines hfirst hblank =>
        rw [parse, Item.ofText_eq_error_iff.mpr ⟨_, _, _, hlines, hfirst, hblank, rfl⟩]
    | script hclassified hscripts hsound hfault =>
        rw [parse_of_ofText hclassified,
          (addScripts_eq_error_iff areSound_nil).mpr ⟨_, _, _, hscripts, hsound, hfault⟩]
        rfl

theorem parse_eq_ok_iff :
    parse validate text path = .ok collection ↔
      ∃ items, Item.ofText text = .ok items ∧
        AreSound validate ((Section.ofItems items).map (Section.script path)) ∧
          collection =
            ⟨Path.stem path, path, text, (Section.ofSource items).map (Section.script path)⟩ := by
  constructor
  · intro hdone
    cases hclassified : Item.ofText text with
    | error cause =>
        rw [parse, hclassified] at hdone
        cases hdone
    | ok items =>
        rw [parse_of_ofText hclassified, map_eq_ok_iff] at hdone
        obtain ⟨scripts, hadded, hsame⟩ := hdone
        exact ⟨items, rfl, ((addScripts_eq_ok_iff areSound_nil).mp hadded).1, hsame.symm⟩
  · rintro ⟨items, hclassified, hsound, rfl⟩
    rw [parse_of_ofText hclassified, (addScripts_eq_ok_iff areSound_nil).mpr ⟨hsound, rfl⟩]
    rfl

/-- Scripts at fault for their names are so whether or not conditions are checked. -/
theorem Refuses.weaken (hrefused : Refuses true text path error) :
    Refuses false text path error ∨
      ∃ lineNo cause, error = .invalidCondition (Path.stem path) lineNo cause := by
  cases hrefused with
  | blankTarget hlines hfirst hblank => exact .inl (.blankTarget hlines hfirst hblank)
  | script hclassified hscripts hsound hfault =>
      cases hfault with
      | duplicate hmem hsame =>
          exact .inl (.script hclassified hscripts hsound.weaken (.duplicate hmem hsame))
      | condition => exact .inr ⟨_, _, rfl⟩

/-- The check of conditions changes nothing but that it refuses some sources. -/
theorem parse_true_eq_or :
    parse true text path = parse false text path ∨
      ∃ lineNo cause,
        parse true text path = .error (.invalidCondition (Path.stem path) lineNo cause) := by
  cases hchecked : parse true text path with
  | ok collection =>
      obtain ⟨items, hclassified, hsound, rfl⟩ := parse_eq_ok_iff.mp hchecked
      exact .inl (parse_eq_ok_iff.mpr ⟨items, hclassified, hsound.weaken, rfl⟩).symm
  | error cause =>
      rcases (parse_eq_error_iff.mp hchecked).weaken with hrefused | ⟨lineNo, cause, rfl⟩
      · exact .inl (parse_eq_error_iff.mpr hrefused).symm
      · exact .inr ⟨lineNo, cause, rfl⟩

theorem parse_false_ne_invalidCondition {lineNo : Nat} {cause : SyntaxError} :
    parse false text path ≠ .error (.invalidCondition name lineNo cause) := by
  intro hfailed
  cases parse_eq_error_iff.mp hfailed with
  | script hclassified hscripts hsound hfault =>
      cases hfault with
      | condition hchecked => cases hchecked

/-- Which sources are refused and why, which are read and as what collection. Without the check of
conditions all is the same, but no condition is a reason to refuse a source. -/
theorem parse_eq_error_iff_refuses (text path : String) :
    (∀ validate error,
      parse validate text path = .error error ↔ Refuses validate text path error) ∧
    (∀ validate collection, parse validate text path = .ok collection ↔
      (∀ line ∈ Item.sourceLines text.toList, ¬IsBlankLink line) ∧
      ∃ items, Item.ofText text = .ok items ∧
        AreSound validate ((Section.ofItems items).map (Section.script path)) ∧
        collection =
          ⟨Path.stem path, path, text, (Section.ofSource items).map (Section.script path)⟩) ∧
    (parse true text path = parse false text path ∨
      ∃ lineNo cause,
        parse true text path = .error (.invalidCondition (Path.stem path) lineNo cause)) ∧
    ∀ name lineNo cause, parse false text path ≠ .error (.invalidCondition name lineNo cause) := by
  refine ⟨fun _ _ => parse_eq_error_iff, fun validate collection => ?_, parse_true_eq_or,
    fun _ _ _ => parse_false_ne_invalidCondition⟩
  rw [parse_eq_ok_iff]
  constructor
  · rintro ⟨items, hclassified, hholds⟩
    exact ⟨(Item.exists_ofLines_eq_ok_iff 1).mp ⟨items, hclassified⟩, items, hclassified, hholds⟩
  · exact And.right

end Collection

end Dialogue
