/-
# What the readers of conditions read

What a reader makes of a text is told here by rules: one for each way in which it may succeed. A
reader succeeds exactly where a rule does. So a property of everything that is read is proved by
induction on the rules, and a text is read by finding the rules for it.
-/

import Dialogue.Condition.Reader

namespace Dialogue

open Text (isBlank trimLeft trimRight)

/-- The start of a text is read as an argument, up to the character that ends it. -/
inductive ReadsArgument : List Char → Argument → List Char → Prop where
  | quoted {text inside argument beyond rest : List Char} (hstart : trimLeft text = '"' :: inside)
      (hcloses : readQuoted inside = some (argument, beyond)) (hstop : trimLeft beyond = rest) :
      ReadsArgument text ⟨String.ofList argument, true⟩ rest
  | plain {text beyond rest : List Char} {c : Char} (hstart : trimLeft text = c :: beyond)
      (hunclosed : c ≠ ')') (hunquoted : c ≠ '"')
      (hstop : (c :: beyond).dropWhile (!endsArgument ·) = rest) :
      ReadsArgument text
        ⟨String.ofList (trimRight ((c :: beyond).takeWhile (!endsArgument ·))), false⟩ rest

/-- The start of a text is read as arguments with the bracket that closes them. -/
inductive ReadsArguments : List Char → List Argument → List Char → Prop where
  | none {text after : List Char} (hstart : trimLeft text = ')' :: after) :
      ReadsArguments text [] after
  | last {text after : List Char} {argument : Argument}
      (hreads : ReadsArgument text argument (')' :: after)) : ReadsArguments text [argument] after
  | more {text beyond after : List Char} {argument : Argument} {arguments : List Argument}
      (hreads : ReadsArgument text argument (',' :: beyond))
      (hothers : ReadsArguments beyond arguments after) :
      ReadsArguments text (argument :: arguments) after

theorem endsArgument_iff {c : Char} : endsArgument c = true ↔ c = ',' ∨ c = ')' := by
  rw [endsArgument, Bool.or_eq_true, beq_iff_eq, beq_iff_eq]

theorem endsArgument_eq_false_iff {c : Char} : endsArgument c = false ↔ c ≠ ',' ∧ c ≠ ')' := by
  rw [Bool.eq_false_iff, Ne, endsArgument_iff, not_or]

/-- The character that ends an argument is a comma or a bracket. -/
theorem endsArgument_of_dropWhile {text rest : List Char} {c : Char}
    (hstop : text.dropWhile (!endsArgument ·) = c :: rest) : c = ',' ∨ c = ')' := by
  have hkept := List.head?_dropWhile_not (!endsArgument ·) text
  rw [hstop] at hkept
  simpa [endsArgument_iff] using hkept

/-- What ends an argument is not white space. -/
theorem isBlank_of_endsArgument {c : Char} (hends : endsArgument c = true) : isBlank c = false := by
  rcases endsArgument_iff.mp hends with rfl | rfl <;> decide

/-- A text without quotes stops at the first character that ends an argument. -/
theorem takeWhile_of_unended {text : List Char} {c : Char}
    (hunended : ∀ d ∈ text, endsArgument d = false) (hends : endsArgument c = true)
    (rest : List Char) :
    (text ++ c :: rest).takeWhile (!endsArgument ·) = text ∧
      (text ++ c :: rest).dropWhile (!endsArgument ·) = c :: rest := by
  have hpasses : ∀ d ∈ text, (!endsArgument d) = true := by
    intro d hmem
    rw [hunended d hmem]
    rfl
  have hstops : ¬ (!endsArgument c) = true := by
    rw [hends]
    decide
  constructor
  · rw [List.takeWhile_append_of_pos hpasses,
      List.takeWhile_cons_of_neg (p := (!endsArgument ·)) hstops, List.append_nil]
  · rw [List.dropWhile_append_of_pos hpasses,
      List.dropWhile_cons_of_neg (p := (!endsArgument ·)) hstops]

theorem readsArguments_of_readArguments {text after : List Char} {arguments : List Argument}
    (hread : readArguments text = .ok (arguments, after)) :
    ReadsArguments text arguments after := by
  fun_induction readArguments text generalizing arguments after with
  | case1 | case3 | case4 | case6 | case8 | case9 | case10 => cases hread
  | case2 text after hstart =>
      cases hread
      exact .none hstart
  | case5 text inside hstart argument beyond hquoted after hstop =>
      cases hread
      exact .last (.quoted hstart hquoted hstop)
  | case7 text inside hstart argument beyond hquoted more hstop _ _ hfound ih =>
      cases hread
      exact .more (.quoted hstart hquoted hstop) (ih hfound)
  | case11 =>
      rename_i text c rest hunclosed hunquoted hstart argument more hstop _ _ hfound ih
      cases hread
      exact .more (.plain hstart hunclosed hunquoted hstop) (ih hfound)
  | case12 =>
      rename_i text c rest hunclosed hunquoted hstart argument head after hother hstop
      cases hread
      obtain rfl : head = ')' := (endsArgument_of_dropWhile hstop).resolve_left hother
      exact .last (.plain hstart hunclosed hunquoted hstop)

/-- The reader of arguments, written without the facts that make it end. -/
theorem readArguments_eq (text : List Char) :
    readArguments text =
      match trimLeft text with
      | [] => .error .unclosedCall
      | ')' :: after => .ok ([], after)
      | '"' :: inside =>
        match readQuoted inside with
        | none => .error .unclosedCall
        | some (argument, beyond) =>
          match trimLeft beyond with
          | [] => .error .unclosedCall
          | ')' :: after => .ok ([⟨String.ofList argument, true⟩], after)
          | ',' :: more =>
            match readArguments more with
            | .error cause => .error cause
            | .ok (arguments, after) => .ok (⟨String.ofList argument, true⟩ :: arguments, after)
          | _ => .error (.textAfterQuoted (String.ofList argument))
      | c :: rest =>
        let argument := String.ofList (trimRight ((c :: rest).takeWhile (!endsArgument ·)))
        match (c :: rest).dropWhile (!endsArgument ·) with
        | [] => .error .unclosedCall
        | ',' :: more =>
          match readArguments more with
          | .error cause => .error cause
          | .ok (arguments, after) => .ok (⟨argument, false⟩ :: arguments, after)
        | _ :: after => .ok ([⟨argument, false⟩], after) := by
  rw [readArguments]
  split
  · rename_i hstart
    simp only [hstart]
  · rename_i hstart
    simp only [hstart]
  · rename_i hstart
    simp only [hstart]
    split
    · rename_i hquoted
      simp only [hquoted]
    · rename_i hquoted
      simp only [hquoted]
      split
      · rename_i hstop
        simp only [hstop]
      · rename_i hstop
        simp only [hstop]
      · rename_i more hstop
        cases hfound : readArguments more <;> simp only [hstop, hfound]
      · simp_all only
  · rename_i hstart
    simp only [hstart]
    split
    · rename_i hstop
      simp only [hstop]
    · rename_i more hstop
      cases hfound : readArguments more <;> simp only [hstop, hfound]
    · rename_i hstop
      simp only [hstop]

theorem readArguments_of_readsArguments {text after : List Char} {arguments : List Argument}
    (hreads : ReadsArguments text arguments after) :
    readArguments text = .ok (arguments, after) := by
  induction hreads with
  | none hstart =>
      rw [readArguments_eq]
      simp only [hstart]
  | last hreads =>
      rw [readArguments_eq]
      cases hreads with
      | quoted hstart hcloses hstop => simp only [hstart, hcloses, hstop]
      | plain hstart hunclosed hunquoted hstop =>
          simp only [hstart, hstop]
          rfl
  | more hreads hothers ih =>
      rw [readArguments_eq]
      cases hreads with
      | quoted hstart hcloses hstop => simp only [hstart, hcloses, hstop, ih]
      | plain hstart hunclosed hunquoted hstop => simp only [hstart, hstop, ih]

/-- The reader of arguments succeeds exactly where its rules do. -/
theorem readArguments_eq_ok_iff {text after : List Char} {arguments : List Argument} :
    readArguments text = .ok (arguments, after) ↔ ReadsArguments text arguments after :=
  ⟨readsArguments_of_readArguments, readArguments_of_readsArguments⟩

theorem isMethodChar_iff {c : Char} : isMethodChar c = true ↔ isBlank c = false ∧ c ≠ '(' := by
  rw [isMethodChar, Bool.and_eq_true, Bool.not_eq_true', bne_iff_ne]

/-- A call is read from the start of a text. -/
structure ReadsCall (text : List Char) (call : Call) (after : List Char) : Prop where
  /-- The name is not empty. -/
  named : call.method.toList ≠ []
  /-- The characters of the name. -/
  word : ∀ c ∈ call.method.toList, isMethodChar c = true
  /-- The name is followed by a bracket and arguments. -/
  opens : ∃ beyond inside, trimLeft text = call.method.toList ++ beyond ∧
    trimLeft beyond = '(' :: inside ∧ ReadsArguments inside call.arguments after

theorem readsCall_of_readCall {text after : List Char} {call : Call}
    (hread : readCall text = .ok (call, after)) : ReadsCall text call after := by
  simp only [readCall] at hread
  split at hread
  · cases hread
  · rename_i inside hopens
    split at hread
    · cases hread
    · rename_i name hunnamed
      split at hread
      · cases hread
      · rename_i arguments after' hfound
        cases hread
        refine ⟨?_, ?_, ?_⟩
        · rw [String.toList_ofList]
          exact hunnamed
        · rw [String.toList_ofList]
          intro c hmem
          exact List.all_eq_true.mp List.all_takeWhile c hmem
        · refine ⟨_, inside, ?_, hopens, readArguments_eq_ok_iff.mp hfound⟩
          rw [String.toList_ofList, List.takeWhile_append_dropWhile]
  · cases hread

/-- The name of a call ends before white space and a bracket. -/
theorem dropWhile_isMethodChar {beyond inside : List Char}
    (hopens : trimLeft beyond = '(' :: inside) :
    beyond.takeWhile isMethodChar = [] ∧ beyond.dropWhile isMethodChar = beyond := by
  cases beyond with
  | nil => cases hopens
  | cons c rest =>
      have hstops : ¬ isMethodChar c = true := by
        by_cases hblank : isBlank c = true
        · simp [isMethodChar, hblank]
        · rw [Text.trimLeft_cons_of_not_isBlank rest (Bool.eq_false_iff.mpr hblank)] at hopens
          cases hopens
          decide
      exact ⟨List.takeWhile_cons_of_neg hstops, List.dropWhile_cons_of_neg hstops⟩

theorem readCall_of_readsCall {text after : List Char} {call : Call}
    (hreads : ReadsCall text call after) : readCall text = .ok (call, after) := by
  obtain ⟨beyond, inside, hstart, hopens, harguments⟩ := hreads.opens
  obtain ⟨htaken, hdropped⟩ := dropWhile_isMethodChar hopens
  have hname : (trimLeft text).takeWhile isMethodChar = call.method.toList := by
    rw [hstart, List.takeWhile_append_of_pos hreads.word, htaken, List.append_nil]
  have hrest : (trimLeft text).dropWhile isMethodChar = beyond := by
    rw [hstart, List.dropWhile_append_of_pos hreads.word, hdropped]
  rw [readCall]
  simp only [hname, hrest, hopens, readArguments_eq_ok_iff.mpr harguments]
  split
  · rename_i hunnamed
    exact absurd hunnamed hreads.named
  · rw [String.ofList_toList]

/-- The reader of calls succeeds exactly where its rule does. -/
theorem readCall_eq_ok_iff {text after : List Char} {call : Call} :
    readCall text = .ok (call, after) ↔ ReadsCall text call after :=
  ⟨readsCall_of_readCall, readCall_of_readsCall⟩

/-- No call is read where a bracket opens. -/
theorem not_readsCall_bracket {tail after : List Char} {call : Call} :
    ¬ ReadsCall ('(' :: tail) call after := by
  intro hreads
  obtain ⟨beyond, inside, hstart, -⟩ := hreads.opens
  rw [Text.trimLeft_cons_of_not_isBlank tail (by decide)] at hstart
  cases hname : call.method.toList with
  | nil => exact hreads.named hname
  | cons d more =>
      have hword := hreads.word d (by rw [hname]; exact List.mem_cons_self)
      rw [hname] at hstart
      cases hstart
      exact absurd hword (by decide)

mutual

/-- The start of a text is read as a condition. -/
inductive ReadsCondition : List Char → Condition → List Char → Prop where
  | operand {text rest : List Char} {condition : Condition}
      (hreads : ReadsOperand (trimLeft text) condition rest)
      (hends : readJoin? (trimLeft rest) = none) : ReadsCondition text condition rest
  | group {text rest beyond after : List Char} {left right : Condition} {join : Join}
      (hreads : ReadsOperand (trimLeft text) left rest)
      (hjoins : readJoin? (trimLeft rest) = some (join, beyond))
      (hothers : ReadsCondition beyond right after) :
      ReadsCondition text (.group left join right) after

/-- The start of a text is read as an operand of a condition. -/
inductive ReadsOperand : List Char → Condition → List Char → Prop where
  | enclosed {inside rest after : List Char} {condition : Condition}
      (hreads : ReadsCondition inside condition rest) (hcloses : trimLeft rest = ')' :: after) :
      ReadsOperand ('(' :: inside) condition after
  | call {text after : List Char} {call : Call} (hunclosed : text.head? ≠ some ')')
      (hreads : ReadsCall text call after) : ReadsOperand text (.call call) after

end

mutual

theorem readsCondition_of_readCondition {text rest : List Char} {condition : Condition}
    {hshorter : rest.length < text.length}
    (hread : readCondition text = .ok ⟨(condition, rest), hshorter⟩) :
    ReadsCondition text condition rest := by
  rw [readCondition] at hread
  split at hread
  · cases hread
  · rename_i left between hshorter' hoperand
    have htrimmed := Text.length_trimLeft_le text
    split at hread
    · rename_i hends
      cases hread
      exact .operand (readsOperand_of_readOperand _ hoperand) hends
    · rename_i join beyond hjoins
      have hcloser : beyond.length < text.length := by
        have hbound := Text.length_trimLeft_le between
        have hconsumed := length_lt_of_readJoin? hjoins
        simp only at hshorter'
        omega
      dsimp only at hread
      split at hread
      · cases hread
      · rename_i right after hshorter'' hothers
        cases hread
        exact .group (readsOperand_of_readOperand _ hoperand) hjoins
          (readsCondition_of_readCondition hothers)
termination_by 2 * text.length + 1
decreasing_by all_goals omega

theorem readsOperand_of_readOperand {rest : List Char} {condition : Condition} :
    (text : List Char) → {hshorter : rest.length < text.length} →
      readOperand text = .ok ⟨(condition, rest), hshorter⟩ → ReadsOperand text condition rest
  | [], _, hread => by
      rw [readOperand] at hread
      cases hread
  | c :: tail, _, hread => by
      by_cases hclosing : c = ')'
      · subst hclosing
        rw [readOperand] at hread
        cases hread
      · by_cases hopening : c = '('
        · subst hopening
          rw [readOperand] at hread
          split at hread
          · cases hread
          · rename_i hinner
            split at hread
            · rename_i hcloses
              cases hread
              exact .enclosed (readsCondition_of_readCondition hinner) hcloses
            · cases hread
        · rw [readOperand] at hread
          · split at hread
            · cases hread
            · rename_i hcalled
              cases hread
              refine .call ?_ (readCall_eq_ok_iff.mp hcalled)
              rw [List.head?_cons, Ne, Option.some_inj]
              exact hclosing
          · exact hclosing
          · exact hopening
termination_by text => 2 * text.length

end

mutual

theorem readCondition_of_readsCondition {text rest : List Char} {condition : Condition} :
    ReadsCondition text condition rest →
      ∃ hshorter, readCondition text = .ok ⟨(condition, rest), hshorter⟩
  | .operand hreads hends => by
      obtain ⟨hshorter, hread⟩ := readOperand_of_readsOperand hreads
      refine ⟨Nat.lt_of_lt_of_le hshorter (Text.length_trimLeft_le text), ?_⟩
      rw [readCondition]
      simp only [hread]
      split
      · rfl
      · rename_i hjoins
        rw [hends] at hjoins
        cases hjoins
  | @ReadsCondition.group _ between beyond _ _ _ _ hreads hjoins hothers => by
      obtain ⟨hshorter, hread⟩ := readOperand_of_readsOperand hreads
      obtain ⟨hshorter', hread'⟩ := readCondition_of_readsCondition hothers
      have hbound : rest.length < text.length := by
        have htrimmed := Text.length_trimLeft_le text
        have htrimmed' := Text.length_trimLeft_le between
        have hconsumed := length_lt_of_readJoin? hjoins
        simp only at hshorter hshorter'
        omega
      rw [readCondition]
      simp only [hread]
      split
      · rename_i hends
        rw [hends] at hjoins
        cases hjoins
      · rename_i join' beyond' hjoins'
        rw [hjoins] at hjoins'
        cases hjoins'
        rw [hread']
        exact ⟨hbound, rfl⟩

theorem readOperand_of_readsOperand {text rest : List Char} {condition : Condition} :
    ReadsOperand text condition rest →
      ∃ hshorter, readOperand text = .ok ⟨(condition, rest), hshorter⟩
  | @ReadsOperand.enclosed inside _ _ _ hreads hcloses => by
      obtain ⟨hshorter, hread⟩ := readCondition_of_readsCondition hreads
      have hbound : rest.length < ('(' :: inside).length := by
        have hcloser := length_lt_of_trimLeft_eq_cons hcloses
        simp only at hshorter
        rw [List.length_cons]
        omega
      rw [readOperand]
      simp only [hread]
      split
      · rename_i hcloses'
        rw [hcloses] at hcloses'
        cases hcloses'
        exact ⟨hbound, rfl⟩
      · rename_i hunclosed
        exact absurd hcloses (hunclosed _)
  | @ReadsOperand.call _ _ call hunclosed hreads => by
      have hread := readCall_eq_ok_iff.mpr hreads
      cases text with
      | nil => cases hread
      | cons c tail =>
          have hclosing : c ≠ ')' := by
            rintro rfl
            exact hunclosed rfl
          have hopening : c ≠ '(' := by
            rintro rfl
            exact not_readsCall_bracket hreads
          rw [readOperand]
          · split
            · rename_i hfailed
              rw [hread] at hfailed
              cases hfailed
            · rename_i hcalled
              rw [hread] at hcalled
              cases hcalled
              exact ⟨length_lt_of_readCall hread, rfl⟩
          · exact hclosing
          · exact hopening

end

/-- A text is read as a condition exactly where the rules read it up to white space. -/
theorem Condition.parse_eq_ok_iff {text : String} {condition : Condition} :
    Condition.parse text = .ok condition ↔
      ∃ rest, ReadsCondition text.toList condition rest ∧ trimLeft rest = [] := by
  rw [parse]
  constructor
  · intro hread
    split at hread
    · cases hread
    · rename_i rest _ hfound
      split at hread
      · rename_i hblank
        cases hread
        exact ⟨rest, readsCondition_of_readCondition hfound, hblank⟩
      · cases hread
  · rintro ⟨rest, hreads, hblank⟩
    obtain ⟨hshorter, hread⟩ := readCondition_of_readsCondition hreads
    simp only [hread, hblank]

end Dialogue
