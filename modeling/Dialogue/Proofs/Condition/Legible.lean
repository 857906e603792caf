/-
# Conditions that can be read

Not every condition that can be written down by hand comes out of reading a text: the name of a call
has no white space in it, an argument without quotes holds no comma, and so on. What a reader makes
of a text is called legible here. A legible condition may still differ from what is read from its
written form, in one way: an empty argument without quotes at the end of a call is lost.
-/

import Dialogue.Proofs.Condition.Reading
import Dialogue.Proofs.Text.Trim

namespace Dialogue

open Text (isBlank trim trimLeft trimRight)

/-- A text that may stand as an argument without quotes. -/
structure IsPlainText (text : List Char) : Prop where
  /-- Nothing in it ends an argument. -/
  unended : ∀ c ∈ text, endsArgument c = false
  /-- It does not look like a text in quotes. -/
  unquoted : text.head? ≠ some '"'
  /-- There is no white space around it. -/
  trimmed : trim text = text

/-- An argument that can be read. A text in quotes does not end with a backslash, which would hide
the closing quote. -/
def Argument.IsLegible (argument : Argument) : Prop :=
  if argument.quoted then argument.text.toList.getLast? ≠ some '\\'
  else IsPlainText argument.text.toList

/-- A call that can be read. -/
structure Call.IsLegible (call : Call) : Prop where
  /-- The name is not empty. -/
  named : call.method.toList ≠ []
  /-- The characters of the name. -/
  word : ∀ c ∈ call.method.toList, isMethodChar c = true
  /-- The name does not start with a closing bracket. -/
  unclosed : call.method.toList.head? ≠ some ')'
  /-- The arguments can be read. -/
  arguments : ∀ argument ∈ call.arguments, argument.IsLegible

/-- A condition that can be read. -/
def Condition.IsLegible (condition : Condition) : Prop :=
  ∀ call ∈ condition.calls, call.IsLegible

theorem isPlainText_nil : IsPlainText [] where
  unended _ hmem := absurd hmem List.not_mem_nil
  unquoted := nofun
  trimmed := rfl

/-- Nothing is read between quotes only if the closing quote comes at once. -/
theorem eq_cons_of_readQuoted_nil {text after : List Char}
    (hread : readQuoted text = some ([], after)) : text = '"' :: after := by
  rw [readQuoted.eq_def] at hread
  split at hread
  · cases hread
  · rw [Option.map_eq_some_iff] at hread
    obtain ⟨_, -, himpossible⟩ := hread
    cases himpossible
  · cases hread
    rfl
  · rw [Option.map_eq_some_iff] at hread
    obtain ⟨_, -, himpossible⟩ := hread
    cases himpossible

/-- A text read between quotes does not end with a backslash. -/
theorem getLast?_of_readQuoted {text quoted after : List Char}
    (hread : readQuoted text = some (quoted, after)) : quoted.getLast? ≠ some '\\' := by
  fun_induction readQuoted text generalizing quoted after with
  | case1 => cases hread
  | case2 rest ih =>
      obtain ⟨⟨inner, left⟩, hfound, hsame⟩ := Option.map_eq_some_iff.mp hread
      cases hsame
      have hkept := ih hfound
      rw [List.getLast?_cons]
      cases hlast : inner.getLast? with
      | none => decide
      | some c =>
          rw [hlast] at hkept
          exact hkept
  | case3 rest =>
      cases hread
      decide
  | case4 c rest hescaping hclosing ih =>
      obtain ⟨⟨inner, left⟩, hfound, hsame⟩ := Option.map_eq_some_iff.mp hread
      cases hsame
      have hkept := ih hfound
      rw [List.getLast?_cons]
      cases hlast : inner.getLast? with
      | none =>
          rw [List.getLast?_eq_none_iff] at hlast
          subst hlast
          rw [Option.getD_none, Ne, Option.some_inj]
          intro hbackslash
          exact hescaping _ hbackslash (eq_cons_of_readQuoted_nil hfound)
      | some d =>
          rw [hlast] at hkept
          exact hkept

theorem isPlainText_of_start {c : Char} {beyond : List Char} (hsolid : isBlank c = false)
    (hunquoted : c ≠ '"') :
    IsPlainText (trimRight ((c :: beyond).takeWhile (!endsArgument ·))) := by
  have hunended : ∀ d ∈ trimRight ((c :: beyond).takeWhile (!endsArgument ·)),
      endsArgument d = false := by
    intro d hmem
    have htaken := List.all_eq_true.mp List.all_takeWhile d ((Text.trimRight_prefix _).subset hmem)
    simpa using htaken
  by_cases hends : endsArgument c = true
  · rw [List.takeWhile_cons_of_neg (by simp [hends])]
    exact isPlainText_nil
  · rw [List.takeWhile_cons_of_pos (by simp [hends]),
      Text.trimRight_cons_of_not_isBlank _ hsolid] at hunended ⊢
    refine ⟨hunended, ?_, ?_⟩
    · rw [List.head?_cons, Ne, Option.some_inj]
      exact hunquoted
    · rw [Text.trim_eq_of_trimRight_eq]
      · exact Text.trimLeft_cons_of_not_isBlank _ hsolid
      · rw [Text.trimRight_cons_of_not_isBlank _ hsolid, Text.trimRight_trimRight]

theorem ReadsArgument.isLegible {text rest : List Char} {argument : Argument}
    (hreads : ReadsArgument text argument rest) : argument.IsLegible := by
  cases hreads with
  | quoted hstart hcloses hstop =>
      show (String.toList _).getLast? ≠ some '\\'
      rw [String.toList_ofList]
      exact getLast?_of_readQuoted hcloses
  | plain hstart hunclosed hunquoted hstop =>
      show IsPlainText (String.toList _)
      rw [String.toList_ofList]
      exact isPlainText_of_start (Text.isBlank_of_trimLeft_eq_cons hstart) hunquoted

theorem ReadsArguments.isLegible {text after : List Char} {arguments : List Argument}
    (hreads : ReadsArguments text arguments after) :
    ∀ argument ∈ arguments, argument.IsLegible := by
  induction hreads with
  | none hstart =>
      intro argument hmem
      exact absurd hmem List.not_mem_nil
  | last hreads =>
      intro argument hmem
      rw [List.mem_singleton.mp hmem]
      exact hreads.isLegible
  | more hreads hothers ih => exact List.forall_mem_cons.mpr ⟨hreads.isLegible, ih⟩

/-- A call that is read where nothing closes a bracket can be read again. -/
theorem ReadsCall.isLegible {text after : List Char} {call : Call}
    (htrimmed : trimLeft text = text) (hunclosed : text.head? ≠ some ')')
    (hreads : ReadsCall text call after) : call.IsLegible := by
  obtain ⟨beyond, inside, hstart, hopens, harguments⟩ := hreads.opens
  refine ⟨hreads.named, hreads.word, ?_, harguments.isLegible⟩
  intro hclosing
  apply hunclosed
  rw [← htrimmed, hstart, List.head?_append, hclosing, Option.some_or]

mutual

theorem ReadsCondition.isLegible {text rest : List Char} {condition : Condition} :
    ReadsCondition text condition rest → condition.IsLegible
  | .operand hreads _ => hreads.isLegible (Text.trimLeft_trimLeft text)
  | .group hreads _ hothers => by
      intro call hmem
      rcases List.mem_append.mp hmem with hinLeft | hinRight
      · exact hreads.isLegible (Text.trimLeft_trimLeft text) call hinLeft
      · exact hothers.isLegible call hinRight

theorem ReadsOperand.isLegible {text rest : List Char} {condition : Condition}
    (htrimmed : trimLeft text = text) : ReadsOperand text condition rest → condition.IsLegible
  | .enclosed hreads _ => hreads.isLegible
  | .call hunclosed hreads => by
      intro call hmem
      rw [List.mem_singleton.mp hmem]
      exact hreads.isLegible htrimmed hunclosed

end

/-- Whatever is read from a text is legible. -/
theorem Condition.isLegible_of_parse {text : String} {condition : Condition}
    (hread : parse text = .ok condition) : condition.IsLegible := by
  obtain ⟨rest, hreads, -⟩ := parse_eq_ok_iff.mp hread
  exact hreads.isLegible

end Dialogue
