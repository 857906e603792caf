/-
# The written form of a condition read again

The written form of a legible condition can be read, and what is read is the condition itself up to
one thing: an empty argument without quotes at the end of a call leaves no trace in the written
form. A condition that was read from a text is therefore read from its own written form exactly
when none of its calls ends with such an argument. A condition made by hand comes back exactly when
it is legible as well, for nothing that is not legible is ever read.
-/

import Dialogue.Condition.Text
import Dialogue.Proofs.Condition.Legible
import Dialogue.Proofs.Text.Edges
import Mathlib.Logic.Basic

namespace Dialogue

open Text (isBlank trimLeft trimRight)

/-- The argument that leaves no trace in the written form: nothing, and no quotes around it. -/
def Argument.empty : Argument :=
  ⟨"", false⟩

/-- The arguments without an empty one at the end. -/
def settle (arguments : List Argument) : List Argument :=
  if arguments.getLast? = some Argument.empty then arguments.dropLast else arguments

/-- The condition as it comes out of its written form. -/
def Condition.settled : Condition → Condition
  | call c => call { c with arguments := settle c.arguments }
  | group left join right => group left.settled join right.settled

theorem settle_eq_self_iff {arguments : List Argument} :
    settle arguments = arguments ↔ arguments.getLast? ≠ some Argument.empty := by
  rw [settle]
  split
  · rename_i hlast
    constructor
    · intro hsame
      have hshorter := congrArg List.length hsame
      have hinhabited : arguments.length ≠ 0 := by
        intro hnothing
        rw [List.length_eq_zero_iff.mp hnothing] at hlast
        cases hlast
      rw [List.length_dropLast] at hshorter
      omega
    · intro hother
      exact absurd hlast hother
  · rename_i hother
    exact ⟨fun _ => hother, fun _ => rfl⟩

theorem settle_cons_cons (first next : Argument) (others : List Argument) :
    settle (first :: next :: others) = first :: settle (next :: others) := by
  rw [settle, settle, List.getLast?_cons_cons, List.dropLast_cons_cons]
  split <;> rfl

/-- A condition stays as it is exactly when no call ends with an empty argument. -/
theorem Condition.settled_eq_self_iff {condition : Condition} :
    condition.settled = condition ↔
      ∀ call ∈ condition.calls, call.arguments.getLast? ≠ some Argument.empty := by
  induction condition with
  | call c =>
      rw [calls, List.forall_mem_singleton, ← settle_eq_self_iff, settled, call.injEq]
      constructor
      · intro hsame
        exact congrArg Call.arguments hsame
      · intro hsame
        rw [hsame]
  | group left join right hleftIH hrightIH =>
      rw [calls, List.forall_mem_append, ← hleftIH, ← hrightIH, settled, group.injEq]
      constructor
      · rintro ⟨hsameLeft, -, hsameRight⟩
        exact ⟨hsameLeft, hsameRight⟩
      · rintro ⟨hsameLeft, hsameRight⟩
        exact ⟨hsameLeft, rfl, hsameRight⟩

/-- A text with its quotes escaped is read back, unless it would hide the closing quote. -/
theorem readQuoted_escapeQuotes {text : List Char} (hunhidden : text.getLast? ≠ some '\\')
    (rest : List Char) :
    readQuoted (escapeQuotes text ++ '"' :: rest) = some (text, rest) := by
  induction text with
  | nil => rfl
  | cons c more ih =>
      have hlater : readQuoted (escapeQuotes more ++ '"' :: rest) = some (more, rest) := by
        apply ih
        intro hhidden
        apply hunhidden
        rw [List.getLast?_cons, hhidden, Option.getD_some]
      rw [escapeQuotes_cons]
      by_cases hquote : c = '"'
      · subst hquote
        rw [if_pos rfl]
        show readQuoted ('\\' :: '"' :: (escapeQuotes more ++ '"' :: rest)) = _
        rw [readQuoted, hlater]
        rfl
      · rw [if_neg hquote]
        show readQuoted (c :: (escapeQuotes more ++ '"' :: rest)) = _
        rw [readQuoted, hlater]
        · rfl
        · -- a backslash does not meet a quote: none of the text is left bare, and it is not last
          intro tail hbackslash hbare
          cases more with
          | nil => exact hunhidden (by rw [hbackslash]; rfl)
          | cons d others =>
              rw [escapeQuotes_cons] at hbare
              by_cases hquote' : d = '"'
              · rw [if_pos hquote'] at hbare
                cases hbare
              · rw [if_neg hquote'] at hbare
                cases hbare
                exact hquote' rfl
        · exact hquote

/-- A plain text is read back. With nothing in it, only a comma tells that it is there. -/
theorem IsPlainText.readsArgument {text plain rest : List Char} {c : Char}
    (hlegible : IsPlainText plain) (hends : endsArgument c = true)
    (hshown : plain = [] → c = ',') (hstart : trimLeft text = trimLeft (plain ++ c :: rest)) :
    ReadsArgument text ⟨String.ofList plain, false⟩ (c :: rest) := by
  obtain ⟨htaken, hdropped⟩ := takeWhile_of_unended hlegible.unended hends rest
  cases plain with
  | nil =>
      obtain rfl := hshown rfl
      rw [List.nil_append, Text.trimLeft_cons_of_not_isBlank rest (by decide)] at hstart
      have hreads := ReadsArgument.plain hstart (by decide) (by decide) hdropped
      rw [List.nil_append] at htaken
      rw [htaken] at hreads
      exact hreads
  | cons d more =>
      have hsolid : isBlank d = false :=
        Text.isBlank_of_trimLeft_eq_cons (Text.trimLeft_eq_of_trim_eq hlegible.trimmed)
      rw [List.cons_append, Text.trimLeft_cons_of_not_isBlank _ hsolid] at hstart
      have hunclosed : d ≠ ')' := by
        rintro rfl
        exact absurd (hlegible.unended _ List.mem_cons_self) (by decide)
      have hunquoted : d ≠ '"' := by
        rintro rfl
        exact hlegible.unquoted rfl
      have hreads := ReadsArgument.plain hstart hunclosed hunquoted hdropped
      rw [List.cons_append] at htaken
      rw [htaken, Text.trimRight_eq_of_trim_eq hlegible.trimmed] at hreads
      exact hreads

/-- The written form of an argument is read back, if it leaves a trace. -/
theorem Argument.IsLegible.readsArgument {argument : Argument} {text rest : List Char} {c : Char}
    (hlegible : argument.IsLegible) (hends : endsArgument c = true)
    (hshown : argument = Argument.empty → c = ',')
    (hstart : trimLeft text = trimLeft (argument.chars ++ c :: rest)) :
    ReadsArgument text argument (c :: rest) := by
  obtain ⟨content, quoted⟩ := argument
  cases quoted with
  | true =>
      have hunhidden : content.toList.getLast? ≠ some '\\' := hlegible
      have hcloses := readQuoted_escapeQuotes hunhidden (c :: rest)
      have hopening : (⟨content, true⟩ : Argument).chars ++ c :: rest =
          '"' :: (escapeQuotes content.toList ++ '"' :: c :: rest) := by
        simp [Argument.chars]
      rw [hopening, Text.trimLeft_cons_of_not_isBlank _ (by decide)] at hstart
      have hreads := ReadsArgument.quoted hstart hcloses
        (Text.trimLeft_cons_of_not_isBlank rest (isBlank_of_endsArgument hends))
      rw [String.ofList_toList] at hreads
      exact hreads
  | false =>
      have hplain : IsPlainText content.toList := hlegible
      have hshown' : content.toList = [] → c = ',' := by
        intro hnothing
        apply hshown
        rw [String.toList_eq_nil_iff.mp hnothing]
        rfl
      have hreads := hplain.readsArgument hends hshown' hstart
      rw [String.ofList_toList] at hreads
      exact hreads

/-- The written form of the arguments of a call, with the bracket that closes it, is read back
without an empty argument at the end. -/
theorem readsArguments_chars {arguments : List Argument} {text rest : List Char}
    (hlegible : ∀ argument ∈ arguments, argument.IsLegible)
    (hstart : trimLeft text =
      trimLeft ([',', ' '].intercalate (arguments.map Argument.chars) ++ ')' :: rest)) :
    ReadsArguments text (settle arguments) rest := by
  induction arguments generalizing text with
  | nil => exact .none hstart
  | cons argument others ih =>
      obtain ⟨hfirst, hlater⟩ := List.forall_mem_cons.mp hlegible
      cases others with
      | nil =>
          by_cases hlost : argument = Argument.empty
          · subst hlost
            exact .none hstart
          · have hkept : settle [argument] = [argument] := by
              rw [settle_eq_self_iff, List.getLast?_singleton, Ne, Option.some_inj]
              exact hlost
            rw [hkept]
            apply ReadsArguments.last
            apply hfirst.readsArgument (by decide) (absurd · hlost)
            simpa [List.intercalate] using hstart
      | cons next others =>
          rw [settle_cons_cons]
          have hreads : ReadsArgument text argument (',' :: ' ' ::
              ([',', ' '].intercalate ((next :: others).map Argument.chars) ++ ')' :: rest)) := by
            apply hfirst.readsArgument (by decide) (fun _ => rfl)
            simpa [List.intercalate] using hstart
          apply ReadsArguments.more hreads
          apply ih hlater
          exact Text.trimLeft_cons_of_isBlank _ (by decide)

/-- The written form of a call does not start with white space or a bracket. -/
theorem Call.IsLegible.chars_eq_cons {call : Call} (hlegible : call.IsLegible) :
    ∃ c more, call.chars = c :: more ∧ isBlank c = false ∧ c ≠ ')' := by
  cases hname : call.method.toList with
  | nil => exact absurd hname hlegible.named
  | cons c more =>
      have hword := hlegible.word c (by rw [hname]; exact List.mem_cons_self)
      rw [isMethodChar, Bool.and_eq_true, Bool.not_eq_true'] at hword
      have hunclosed : c ≠ ')' := by
        rintro rfl
        exact hlegible.unclosed (by rw [hname]; rfl)
      rw [Call.chars, hname]
      exact ⟨c, _, rfl, hword.1, hunclosed⟩

/-- The written form of a call is read back. -/
theorem Call.IsLegible.readsCall {call : Call} (hlegible : call.IsLegible) (rest : List Char) :
    ReadsCall (call.chars ++ rest) { call with arguments := settle call.arguments } rest where
  named := hlegible.named
  word := hlegible.word
  opens := by
    refine ⟨'(' :: ([',', ' '].intercalate (call.arguments.map Argument.chars) ++ ')' :: rest), _,
      ?_, Text.trimLeft_cons_of_not_isBlank _ (by decide),
      readsArguments_chars hlegible.arguments rfl⟩
    obtain ⟨c, more, hstart, hsolid, -⟩ := hlegible.chars_eq_cons
    have hstays : trimLeft (call.chars ++ rest) = call.chars ++ rest := by
      rw [hstart]
      exact Text.trimLeft_cons_of_not_isBlank _ hsolid
    rw [hstays, Call.chars]
    simp

/-- The written form of a condition does not start with white space. -/
theorem Condition.IsLegible.trimLeft_chars {condition : Condition} (hlegible : condition.IsLegible)
    (rest : List Char) : trimLeft (condition.chars ++ rest) = condition.chars ++ rest := by
  cases condition with
  | call c =>
      have hcalled : c.IsLegible := hlegible c (List.mem_singleton.mpr rfl)
      obtain ⟨d, more, hstart, hsolid, -⟩ := hcalled.chars_eq_cons
      rw [Condition.chars, hstart]
      exact Text.trimLeft_cons_of_not_isBlank _ hsolid
  | group left join right => exact Text.trimLeft_cons_of_not_isBlank _ (by decide)

theorem readJoin?_chars (join : Join) (rest : List Char) :
    readJoin? (trimLeft (' ' :: (join.chars ++ ' ' :: rest))) = some (join, rest) := by
  rw [Text.trimLeft_cons_of_isBlank _ (by decide)]
  cases join with
  | and =>
      rw [Join.chars, List.cons_append, Text.trimLeft_cons_of_not_isBlank _ (by decide)]
      rfl
  | or =>
      rw [Join.chars, List.cons_append, Text.trimLeft_cons_of_not_isBlank _ (by decide)]
      rfl

/-- Neither a closing bracket nor the end of a text joins conditions. -/
theorem readJoin?_bracket (rest : List Char) : readJoin? (trimLeft (')' :: rest)) = none := by
  rw [Text.trimLeft_cons_of_not_isBlank rest (by decide)]
  rfl

/-- The written form of a condition is read back as an operand: a group has brackets around it. -/
theorem Condition.IsLegible.readsOperand {condition : Condition} (hlegible : condition.IsLegible)
    (rest : List Char) :
    ReadsOperand (condition.chars ++ rest) condition.settled rest := by
  induction condition generalizing rest with
  | call c =>
      have hcalled : c.IsLegible := hlegible c (List.mem_singleton.mpr rfl)
      refine .call ?_ (hcalled.readsCall rest)
      obtain ⟨d, more, hstart, -, hunclosed⟩ := hcalled.chars_eq_cons
      rw [Condition.chars, hstart, List.cons_append, List.head?_cons, Ne, Option.some_inj]
      exact hunclosed
  | group left join right hleftIH hrightIH =>
      obtain ⟨hlegibleLeft, hlegibleRight⟩ := List.forall_mem_append.mp hlegible
      have hreadsRight :
          ReadsCondition (right.chars ++ ')' :: rest) right.settled (')' :: rest) := by
        apply ReadsCondition.operand _ (readJoin?_bracket rest)
        rw [IsLegible.trimLeft_chars hlegibleRight]
        exact hrightIH hlegibleRight _
      have hjoined := readJoin?_chars join (right.chars ++ ')' :: rest)
      have hreadsLeft := hleftIH hlegibleLeft
        (' ' :: (join.chars ++ ' ' :: (right.chars ++ ')' :: rest)))
      rw [← IsLegible.trimLeft_chars hlegibleLeft] at hreadsLeft
      have hreadsBoth := ReadsCondition.group hreadsLeft hjoined hreadsRight
      have hcloses : trimLeft (')' :: rest) = ')' :: rest :=
        Text.trimLeft_cons_of_not_isBlank rest (by decide)
      have hwritten : (group left join right).chars ++ rest =
          '(' :: (left.chars ++ ' ' :: (join.chars ++ ' ' :: (right.chars ++ ')' :: rest))) := by
        simp [Condition.chars]
      rw [hwritten, settled]
      exact .enclosed hreadsBoth hcloses

/-- The written form of a legible condition can be read, and only empty arguments at the end of
calls are lost. -/
theorem Condition.IsLegible.parse_text {condition : Condition} (hlegible : condition.IsLegible) :
    parse condition.text = .ok condition.settled := by
  rw [parse_eq_ok_iff, toList_text]
  refine ⟨[], .operand ?_ rfl, rfl⟩
  have hstart := hlegible.trimLeft_chars []
  have hreads := hlegible.readsOperand []
  rw [List.append_nil] at hstart hreads
  rw [hstart]
  exact hreads

/-- A condition that was read from a text is read from its written form again, without empty
arguments at the end of calls. So it comes back as it was exactly when no call ends with one. -/
theorem Condition.parse_text_eq_iff {text : String} {condition : Condition}
    (hread : parse text = .ok condition) :
    parse condition.text = .ok condition.settled ∧
      (parse condition.text = .ok condition ↔
        ∀ call ∈ condition.calls, call.arguments.getLast? ≠ some Argument.empty) := by
  have hagain := (isLegible_of_parse hread).parse_text
  refine ⟨hagain, ?_⟩
  rw [hagain, ← settled_eq_self_iff, Except.ok.injEq]

/-- An empty argument in front of another one survives. -/
theorem Condition.parse_text_eq_iff_join :
    let condition : Condition :=
      .group (.call ⟨"x", [⟨"", false⟩, ⟨"a)", true⟩]⟩) .or (.call ⟨"y", []⟩)
    parse "x(,\"a)\") OR y( )" = .ok condition ∧ parse condition.text = .ok condition := by
  intro condition
  have hfirst : ReadsArgument ",\"a)\") OR y( )".toList ⟨"", false⟩ ",\"a)\") OR y( )".toList :=
    .plain (c := ',') rfl (by decide) (by decide) rfl
  have hsecond : ReadsArgument "\"a)\") OR y( )".toList ⟨"a)", true⟩ ") OR y( )".toList :=
    .quoted rfl rfl rfl
  have hreadsLeft : ReadsCall "x(,\"a)\") OR y( )".toList ⟨"x", [⟨"", false⟩, ⟨"a)", true⟩]⟩
      " OR y( )".toList :=
    ⟨by decide, List.all_eq_true.mp (by decide), _, _, rfl, rfl, .more hfirst (.last hsecond)⟩
  have hreadsRight : ReadsCall "y( )".toList ⟨"y", []⟩ [] :=
    ⟨by decide, List.all_eq_true.mp (by decide), _, _, rfl, rfl, .none rfl⟩
  have hread : parse "x(,\"a)\") OR y( )" = .ok condition := by
    rw [parse_eq_ok_iff]
    refine ⟨[], ?_, rfl⟩
    exact .group (.call (by decide) hreadsLeft) rfl (.operand (.call (by decide) hreadsRight) rfl)
  exact ⟨hread, (parse_text_eq_iff hread).2.mpr (by decide)⟩

/-- A call with one empty argument is not read from its written form. -/
theorem Condition.not_forall_parse_text :
    ¬ ∀ text condition, parse text = .ok condition → parse condition.text = .ok condition := by
  intro hreturns
  have hargument : ReadsArgument ",)".toList Argument.empty [',', ')'] :=
    .plain (c := ',') rfl (by decide) (by decide) rfl
  have hreads : ReadsCall "a(,)".toList ⟨"a", [Argument.empty]⟩ [] :=
    ⟨by decide, List.all_eq_true.mp (by decide), _, _, rfl, rfl, .more hargument (.none rfl)⟩
  have hread : parse "a(,)" = .ok (.call ⟨"a", [Argument.empty]⟩) := by
    rw [parse_eq_ok_iff]
    exact ⟨[], .operand (.call (by decide) hreads) rfl, rfl⟩
  have hagain := hreturns _ _ hread
  rw [(isLegible_of_parse hread).parse_text, Except.ok.injEq, settled_eq_self_iff] at hagain
  exact absurd hagain (by decide)

theorem Argument.isLegible_iff {argument : Argument} :
    argument.IsLegible ↔
      if argument.quoted then argument.text.toList.getLast? ≠ some '\\'
      else (∀ c ∈ argument.text.toList, c ≠ ',' ∧ c ≠ ')') ∧
        argument.text.toList.head? ≠ some '"' ∧
        argument.text.toList.head?.map isBlank ≠ some true ∧
        argument.text.toList.getLast?.map isBlank ≠ some true := by
  obtain ⟨text, quoted⟩ := argument
  cases quoted with
  | true => exact Iff.rfl
  | false =>
      show IsPlainText text.toList ↔ _
      rw [if_neg Bool.false_ne_true, ← Text.trim_eq_self_iff]
      constructor
      · rintro ⟨hclear, hunquoted, htrimmed⟩
        exact ⟨fun c hmem => endsArgument_eq_false_iff.mp (hclear c hmem), hunquoted, htrimmed⟩
      · rintro ⟨hclear, hunquoted, htrimmed⟩
        exact ⟨fun c hmem => endsArgument_eq_false_iff.mpr (hclear c hmem), hunquoted, htrimmed⟩

theorem Call.isLegible_iff {call : Call} :
    call.IsLegible ↔
      (call.method ≠ "" ∧ (∀ c ∈ call.method.toList, isBlank c = false ∧ c ≠ '(') ∧
          call.method.toList.head? ≠ some ')') ∧
        ∀ argument ∈ call.arguments, argument.IsLegible := by
  rw [Ne, ← String.toList_eq_nil_iff]
  constructor
  · rintro ⟨hnamed, hword, hunclosed, harguments⟩
    exact ⟨⟨hnamed, fun c hmem => isMethodChar_iff.mp (hword c hmem), hunclosed⟩, harguments⟩
  · rintro ⟨⟨hnamed, hword, hunclosed⟩, harguments⟩
    exact ⟨hnamed, fun c hmem => isMethodChar_iff.mpr (hword c hmem), hunclosed, harguments⟩

/-- A condition, however it was made, is read back from its written form exactly if it is legible
and no call ends with an empty argument. -/
theorem Condition.parse_text_eq_ok_iff (condition : Condition) :
    parse condition.text = .ok condition ↔
      ∀ call ∈ condition.calls,
        (call.method ≠ "" ∧ (∀ c ∈ call.method.toList, isBlank c = false ∧ c ≠ '(') ∧
          call.method.toList.head? ≠ some ')') ∧
        (∀ argument ∈ call.arguments,
          if argument.quoted then argument.text.toList.getLast? ≠ some '\\'
          else (∀ c ∈ argument.text.toList, c ≠ ',' ∧ c ≠ ')') ∧
            argument.text.toList.head? ≠ some '"' ∧
            argument.text.toList.head?.map isBlank ≠ some true ∧
            argument.text.toList.getLast?.map isBlank ≠ some true) ∧
        call.arguments.getLast? ≠ some ⟨"", false⟩ := by
  have hcomesBack : parse condition.text = .ok condition ↔
      condition.IsLegible ∧ condition.settled = condition := by
    constructor
    · intro hread
      have hlegible := isLegible_of_parse hread
      rw [hlegible.parse_text, Except.ok.injEq] at hread
      exact ⟨hlegible, hread⟩
    · rintro ⟨hlegible, hsame⟩
      rw [hlegible.parse_text, hsame]
  rw [hcomesBack, settled_eq_self_iff, IsLegible, ← forall₂_and]
  refine forall₂_congr fun call _ => ?_
  rw [Call.isLegible_iff, and_assoc]
  refine and_congr_right fun _ => and_congr_left fun _ => ?_
  exact forall₂_congr fun argument _ => Argument.isLegible_iff

end Dialogue
