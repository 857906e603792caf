/-
# Setting a variable and comparing it

A tag may set a variable to a text in quotes, and a condition may compare the variable with the same
text in quotes. The two do not read the quotes alike. A tag takes the outer quotes away and keeps
what stands between them as it is written; a condition also reads a quote that is escaped with a
backslash as a quote. So the variable is equal to the text unless there is a quote in it.
-/

import Dialogue.Line.Classify
import Dialogue.Playback.Scene
import Dialogue.Proofs.Condition.RoundTrip
import Dialogue.Proofs.Playback.Run
import Dialogue.Proofs.Text.Edges

namespace Dialogue

open Text (isBlank isWordChar trim trimLeft)

/-- A text in quotes. -/
def quotedText (content : String) : String :=
  String.ofList (Argument.chars ⟨content, true⟩)

variable {name content : String}

theorem toList_quotedText :
    (quotedText content).toList = '"' :: (escapeQuotes content.toList ++ ['"']) := by
  rw [quotedText, String.toList_ofList]
  rfl

/-- Escaping leaves a text as it is only if there is no quote in it. -/
theorem escapeQuotes_eq_self_iff {text : List Char} : escapeQuotes text = text ↔ '"' ∉ text := by
  induction text with
  | nil => simp
  | cons c rest ih =>
      rw [escapeQuotes_cons]
      by_cases hquote : c = '"'
      · simp [hquote]
      · rw [if_neg hquote, List.singleton_append, List.cons.injEq, ih]
        simp [Ne.symm hquote]

theorem mem_of_mem_escapeQuotes {text : List Char} {c : Char} (hmem : c ∈ escapeQuotes text)
    (hother : c ≠ '\\') : c ∈ text := by
  obtain ⟨d, hlisted, hshown⟩ := List.mem_flatMap.mp hmem
  split at hshown
  · rename_i hquote
    rw [hquote] at hlisted
    simp only [List.mem_cons, List.not_mem_nil, or_false, hother, false_or] at hshown
    rwa [hshown]
  · rwa [List.mem_singleton.mp hshown]

theorem Scene.unquote_quotedText :
    unquote (quotedText content).toList = escapeQuotes content.toList := by
  rw [toList_quotedText, unquote]
  simp

theorem trim_quotedText : trim (quotedText content).toList = (quotedText content).toList := by
  have hblank : isBlank '"' = false := by decide
  rw [Text.trim_eq_self_iff, toList_quotedText]
  simp [hblank, List.getLast?_cons]

/-- Whether a character is no white space and has no meaning in a condition. -/
def isVariableChar (c : Char) : Bool :=
  !isBlank c && !([',', '(', ')', '"'].contains c)

/-- A name that a tag and a condition both take as it is. -/
structure IsVariableName (name : String) : Prop where
  nonempty : name ≠ ""
  word : name.toList.all isVariableChar = true

/-- The written form of the arguments of a tag that sets a variable to a text. -/
def assignmentArgs (name content : String) : String :=
  name ++ " " ++ quotedText content

/-- The tag that sets a variable to a text in quotes, on a line with a given number. -/
def assignment (name content : String) (lineNo : Nat) : Tag :=
  ⟨⟨"#set " ++ name ++ " " ++ quotedText content, lineNo⟩, "set", assignmentArgs name content⟩

namespace IsVariableName

variable (hnamed : IsVariableName name)

include hnamed

theorem solid : ∀ c ∈ name.toList, isBlank c = false := by
  intro c hmem
  have hown := List.all_eq_true.mp hnamed.word c hmem
  rw [isVariableChar, Bool.and_eq_true, Bool.not_eq_true'] at hown
  exact hown.1

theorem plain : ∀ c ∈ name.toList, c ∉ [',', '(', ')', '"'] := by
  intro c hmem hlisted
  have hown := List.all_eq_true.mp hnamed.word c hmem
  rw [isVariableChar, List.contains_iff_mem.mpr hlisted, Bool.not_true, Bool.and_false] at hown
  cases hown

/-- Neither end of the arguments is white space: they start with the name and end with a quote. -/
theorem trim_assignmentArgs (content : String) :
    trim (assignmentArgs name content).toList = (assignmentArgs name content).toList := by
  obtain ⟨first, more, hchars⟩ :=
    List.exists_cons_of_ne_nil (mt String.toList_eq_nil_iff.mp hnamed.nonempty)
  have hsolid : isBlank first = false :=
    hnamed.solid first (by rw [hchars]; exact List.mem_cons_self)
  have hblank : isBlank '"' = false := by decide
  rw [Text.trim_eq_self_iff, assignmentArgs, String.toList_append, toList_quotedText,
    String.toList_append, hchars]
  simp [hsolid, hblank, List.getLast?_append, List.getLast?_cons]

theorem assignment?_assignmentArgs (content : String) :
    Scene.assignment? (assignmentArgs name content) =
      some (name, String.ofList (escapeQuotes content.toList)) := by
  have hwritten : (assignmentArgs name content).toList =
      name.toList ++ ' ' :: (quotedText content).toList := by
    simp [assignmentArgs]
  have hsolid : ∀ c ∈ name.toList, (!isBlank c) = true :=
    fun c hmem => by simp [hnamed.solid c hmem]
  have hspace : isBlank ' ' = true := by decide
  have htaken : (assignmentArgs name content).toList.takeWhile (!isBlank ·) = name.toList := by
    rw [hwritten, List.takeWhile_append_of_pos hsolid,
      List.takeWhile_cons_of_neg (by simp [hspace]), List.append_nil]
  have hleft : (assignmentArgs name content).toList.dropWhile (!isBlank ·) =
      ' ' :: (quotedText content).toList := by
    rw [hwritten, List.dropWhile_append_of_pos hsolid,
      List.dropWhile_cons_of_neg (by simp [hspace])]
  have hvalue : trim (' ' :: (quotedText content).toList) = (quotedText content).toList := by
    rw [trim, Text.trimLeft_cons_of_isBlank _ hspace]
    exact trim_quotedText
  simp only [Scene.assignment?, hnamed.trim_assignmentArgs, htaken, hleft, hvalue,
    Scene.unquote_quotedText, String.ofList_toList]

/-- The written form of the tag is read as the tag. -/
theorem classify_set (honeLine : '\n' ∉ content.toList) (lineNo : Nat) :
    Line.classify ("#set " ++ name ++ " " ++ quotedText content) lineNo =
      .ok (.tag (assignment name content lineNo)) := by
  have hwritten : ("#set " ++ name ++ " " ++ quotedText content).toList =
      '#' :: (['s', 'e', 't'] ++ ' ' :: (assignmentArgs name content).toList) := by
    simp [assignmentArgs]
  have hunbroken : '\n' ∉ (assignmentArgs name content).toList := by
    rw [assignmentArgs, String.toList_append, String.toList_append, toList_quotedText]
    intro hmem
    rcases List.mem_append.mp hmem with hbefore | hvalue
    · rcases List.mem_append.mp hbefore with hinName | hspace
      · exact absurd (hnamed.solid _ hinName) (by decide)
      · exact absurd hspace (by decide)
    · rcases List.mem_append.mp (List.mem_of_ne_of_mem (by decide) hvalue) with hinside | hquote
      · exact honeLine (mem_of_mem_escapeQuotes hinside (by decide))
      · exact absurd hquote (by decide)
  have hstart := Text.trimLeft_eq_of_trim_eq (hnamed.trim_assignmentArgs content)
  have hword : ∀ c ∈ ['s', 'e', 't'], isWordChar c = true := List.all_eq_true.mp (by decide +kernel)
  have hspace : isWordChar ' ' = false ∧ isBlank ' ' = true := by decide +kernel
  have htagged : Grammar.tag? ('#' :: (['s', 'e', 't'] ++
      ' ' :: (assignmentArgs name content).toList)) =
        some (['s', 'e', 't'], (assignmentArgs name content).toList) := by
    rw [Grammar.tag?, List.takeWhile_append_of_pos hword, List.dropWhile_append_of_pos hword,
      List.takeWhile_cons_of_neg (by simp [hspace]), List.dropWhile_cons_of_neg (by simp [hspace])]
    simp [hspace, hstart, hunbroken, hnamed.trim_assignmentArgs]
  have hunlinked : Grammar.link? ('#' :: (['s', 'e', 't'] ++
      ' ' :: (assignmentArgs name content).toList)) = none := rfl
  rw [Line.classify, Line.classifyChars, hwritten]
  simp only [htagged, hunlinked]
  rw [← hwritten, String.ofList_toList, String.ofList_toList]
  rfl

end IsVariableName

/-- The call that compares a variable with a text in quotes. -/
def comparison (name content : String) : Call :=
  ⟨"eq", [⟨name, false⟩, ⟨content, true⟩]⟩

theorem text_comparison :
    (comparison name content).text = "eq(" ++ name ++ ", " ++ quotedText content ++ ")" := by
  rw [← String.toList_inj, Call.toList_text]
  simp [comparison, Call.chars, Argument.chars, quotedText, List.intercalate]

theorem IsVariableName.isPlainText (hnamed : IsVariableName name) : IsPlainText name.toList where
  unended c hmem := by
    have hplain := hnamed.plain c hmem
    simp only [List.mem_cons, not_or] at hplain
    simp [endsArgument, hplain]
  unquoted hstart := by
    have hplain := hnamed.plain _ (List.mem_of_head? hstart)
    exact hplain (by decide)
  trimmed := by
    rw [Text.trim_eq_self_iff]
    constructor
    · intro hblank
      obtain ⟨c, hstart, hblank⟩ := Option.map_eq_some_iff.mp hblank
      rw [hnamed.solid c (List.mem_of_head? hstart)] at hblank
      cases hblank
    · intro hblank
      obtain ⟨c, hstop, hblank⟩ := Option.map_eq_some_iff.mp hblank
      rw [hnamed.solid c (List.mem_of_getLast? hstop)] at hblank
      cases hblank

/-- The written form of the call is read as the call. -/
theorem IsVariableName.parse_comparison (hnamed : IsVariableName name)
    (hunescaped : content.toList.getLast? ≠ some '\\') :
    Condition.parse (comparison name content).text = .ok (.call (comparison name content)) := by
  have hlegible : Condition.IsLegible (.call (comparison name content)) := by
    intro call hmem
    rw [List.mem_singleton.mp hmem]
    refine ⟨(by decide : "eq".toList ≠ []), ?_, (by decide : "eq".toList.head? ≠ some ')'), ?_⟩
    · exact List.all_eq_true.mp (by decide : "eq".toList.all isMethodChar = true)
    · simp only [comparison, List.forall_mem_cons]
      exact ⟨hnamed.isPlainText, hunescaped, fun _ hmem => absurd hmem List.not_mem_nil⟩
  have hkept : (Condition.call (comparison name content)).settled =
      .call (comparison name content) := by
    rw [Condition.settled_eq_self_iff]
    simp [Condition.calls, comparison, Argument.empty]
  rw [← hkept]
  exact hlegible.parse_text

variable {μ : Type} {host : Host μ} {scene : Scene μ} {id : StoreId}

/-- A variable is equal to a text in quotes only if its value is that very text. -/
theorem decide_comparison {state : State} {stage : Stage μ} {value : String}
    (hnamed : IsVariableName name) (hunescaped : content.toList.getLast? ≠ some '\\')
    (hattached : state.store = some id) (hheld : (stage.stores.get id).get? name = some value) :
    state.decide host (comparison name content).text stage = .ok (value == content) stage := by
  have hknown : Method.ofName? (comparison name content).method = some .equal :=
    (by decide +kernel : Method.ofName? "eq" = some .equal)
  have hoperands : Method.operands state stage.stores (comparison name content) =
      .ok (⟨name, false⟩, ⟨content, true⟩, stage.stores.get id) := by
    simp only [Method.operands, comparison, State.storeId, hattached]
  have hverdict : Method.equal.verdict state stage.stores (comparison name content) =
      .ok (some (value == content)) := by
    simp [Method.verdict, Method.equality, hoperands, Except.map, Method.areEqual, hheld]
  simp only [State.decide, hnamed.parse_comparison hunescaped, Condition.eval, Call.decide, hknown,
    hverdict]

/-- Between quotes a text is written as it is only if there is no quote in it. -/
theorem ofList_escapeQuotes_beq :
    (String.ofList (escapeQuotes content.toList) == content) = decide ('"' ∉ content.toList) := by
  have hsame : String.ofList (escapeQuotes content.toList) = content ↔ '"' ∉ content.toList := by
    rw [← escapeQuotes_eq_self_iff, ← String.toList_inj, String.toList_ofList]
  rw [Bool.beq_eq_decide_eq, decide_eq_decide]
  exact hsame

namespace Scene

/-- A tag that sets a variable to a text in quotes leaves what is written between the quotes in the
store. -/
theorem runTag_assignment (host : Host μ) (hnamed : IsVariableName name)
    (hattached : scene.state.store = some id) (content : String) (lineNo : Nat) :
    ∃ after, scene.runTag host (assignment name content lineNo) = .ok () after ∧
      after.state = scene.state ∧
      (after.stage.stores.get id).get? name =
        some (String.ofList (escapeQuotes content.toList)) := by
  have hknown : Directive.ofName? "set" = some .set := by decide +kernel
  have hassigned := hnamed.assignment?_assignmentArgs content
  simp only [runTag, assignment, hknown, runAssignment, State.storeId, hattached, hassigned]
  refine ⟨_, rfl, rfl, ?_⟩
  simp [note, Stage.note, Stage.putStore, Store.get?_set]

/-- A tag that sets a variable to a text in quotes succeeds. The comparison of the variable with the
same text in quotes holds right afterwards unless there is a quote in the text. -/
theorem decide_of_runTag_set {μ : Type} (host : Host μ) {scene : Scene μ} {id : StoreId}
    {name content : String} (lineNo : Nat) (hnamed : IsVariableName name)
    (honeLine : '\n' ∉ content.toList) (hunescaped : content.toList.getLast? ≠ some '\\')
    (hattached : scene.state.store = some id) :
    ∃ tag after,
      Line.classify ("#set " ++ name ++ " " ++ quotedText content) lineNo = .ok (.tag tag) ∧
      scene.runTag host tag = .ok () after ∧
      (after.stage.stores.get id).get? name = some (String.ofList (escapeQuotes content.toList)) ∧
      after.state.decide host ("eq(" ++ name ++ ", " ++ quotedText content ++ ")") after.stage =
        .ok (decide ('"' ∉ content.toList)) after.stage := by
  obtain ⟨after, hrun, hsame, hheld⟩ := runTag_assignment host hnamed hattached content lineNo
  refine ⟨_, after, hnamed.classify_set honeLine lineNo, hrun, hheld, ?_⟩
  rw [← text_comparison, ← ofList_escapeQuotes_beq]
  exact decide_comparison hnamed hunescaped (by rw [hsame, hattached]) hheld

theorem decide_of_runTag_set_mood :
    let inn : Collection := ⟨"inn", "inn", "", [.empty "inn"]⟩
    let id : StoreId := ⟨0⟩
    let scene : Scene Unit := ⟨⟨.start inn 0 (some id), .running⟩, ⟨⟨(), .empty⟩, [], []⟩⟩
    let content := " a) b\\c "
    IsVariableName "mood" ∧ '\n' ∉ content.toList ∧ content.toList.getLast? ≠ some '\\' ∧
      scene.state.store = some id ∧
      ∃ tag after,
        Line.classify ("#set " ++ "mood" ++ " " ++ quotedText content) 1 = .ok (.tag tag) ∧
        scene.runTag .idle tag = .ok () after ∧
        (after.stage.stores.get id).get? "mood" = some content ∧
        after.state.decide .idle ("eq(" ++ "mood" ++ ", " ++ quotedText content ++ ")")
          after.stage = .ok true after.stage := by
  intro inn id scene content
  have hnamed : IsVariableName "mood" := ⟨by decide, by decide⟩
  have honeLine : '\n' ∉ content.toList := by decide
  have hunescaped : content.toList.getLast? ≠ some '\\' := by decide
  have hattached : scene.state.store = some id := rfl
  obtain ⟨tag, after, hclassified, hrun, hheld, hdecided⟩ :=
    decide_of_runTag_set .idle 1 hnamed honeLine hunescaped hattached
  have hplain : '"' ∉ content.toList := by decide
  rw [escapeQuotes_eq_self_iff.mpr hplain, String.ofList_toList] at hheld
  rw [decide_eq_true hplain] at hdecided
  exact ⟨hnamed, honeLine, hunescaped, hattached, tag, after, hclassified, hrun, hheld, hdecided⟩

/-- With a quote in the text the comparison fails. -/
theorem not_forall_decide_set :
    ¬ ∀ (name content : String) (host : Host Unit) (scene : Scene Unit) (id : StoreId)
        (lineNo : Nat),
      IsVariableName name → '\n' ∉ content.toList → content.toList.getLast? ≠ some '\\' →
      scene.state.store = some id →
      ∃ tag after,
        Line.classify ("#set " ++ name ++ " " ++ quotedText content) lineNo = .ok (.tag tag) ∧
        scene.runTag host tag = .ok () after ∧
        after.state.decide host ("eq(" ++ name ++ ", " ++ quotedText content ++ ")") after.stage =
          .ok true after.stage := by
  intro halike
  let inn : Collection := ⟨"inn", "inn", "", [.empty "inn"]⟩
  let id : StoreId := ⟨0⟩
  let scene : Scene Unit := ⟨⟨.start inn 0 (some id), .running⟩, ⟨⟨(), .empty⟩, [], []⟩⟩
  have hnamed : IsVariableName "a" := ⟨by decide, by decide⟩
  have honeLine : '\n' ∉ "x\"y".toList := by decide
  have hunescaped : "x\"y".toList.getLast? ≠ some '\\' := by decide
  have hattached : scene.state.store = some id := rfl
  obtain ⟨tag, after, hclassified, hrun, hholds⟩ :=
    halike "a" "x\"y" .idle scene id 1 hnamed honeLine hunescaped hattached
  cases (hnamed.classify_set honeLine 1).symm.trans hclassified
  obtain ⟨other, hruns, hsame, hheld⟩ := runTag_assignment .idle hnamed hattached "x\"y" 1
  cases hrun.symm.trans hruns
  rw [← text_comparison, decide_comparison hnamed hunescaped (by rw [hsame, hattached]) hheld,
    ofList_escapeQuotes_beq] at hholds
  have hverdict := (EStateM.Result.ok.inj hholds).1
  exact absurd hverdict (by decide)

end Scene

end Dialogue
