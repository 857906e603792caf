/-
# Reading conditions

A call is a name, an opening bracket and arguments up to the first closing bracket outside quotes.
An argument in quotes is kept as it is, with `\"` for a quote; any other argument is trimmed. A
condition is a call or a condition in parentheses, optionally followed by `and` or `or` in any case,
white space and a condition, so the right operand of a group reaches as far as it can.

Every reader returns what it read together with the text after it. The readers of conditions also
carry the fact that they consumed something, which is why they end.
-/

import Dialogue.Condition.Basic
import Dialogue.Text.Blank

namespace Dialogue

open Text (isBlank trimLeft trimRight)

/-- Why a text is not a condition. -/
inductive SyntaxCause where
  /-- There is nothing before the opening bracket. -/
  | missingMethodName
  /-- The name before the opening bracket is broken by white space. -/
  | blankInMethodName
  /-- A quoted argument is followed by something other than a comma or a closing bracket. -/
  | textAfterQuoted (argument : String)
  /-- The text ends before the closing bracket of a call. -/
  | unclosedCall
  /-- A group in parentheses has no closing parenthesis. -/
  | unclosedGroup
  /-- A condition should stand here and there is none. -/
  | missingOperand
  /-- The condition is followed by more text. -/
  | trailingText (rest : String)
deriving DecidableEq

/-- A text that is not a condition, and why. -/
structure SyntaxError where
  /-- The whole text that was read. -/
  command : String
  /-- Why it is refused. -/
  cause : SyntaxCause
deriving DecidableEq

/-- The message for a text that is not a condition. -/
def SyntaxError.message (error : SyntaxError) : String :=
  let call := "Failed to parse command string '" ++ error.command ++ "' - "
  let condition := "Failed to parse command expression '" ++ error.command ++ "' - "
  match error.cause with
  | .missingMethodName =>
    call ++ "No method name could be determined before opening bracket."
  | .blankInMethodName => call ++ "Method name contains whitespace."
  | .textAfterQuoted argument =>
    call ++ "Encountered a character after parsing quoted argument '" ++ argument ++ "'."
  | .unclosedCall =>
    call ++ "Either the string is lacking a closing bracket, or the command string is malformed " ++
      "in an unparsable fashion."
  | .unclosedGroup => condition ++ "A parenthesised group is never closed."
  | .missingOperand => condition ++ "Expected a command but found nothing."
  | .trailingText rest => condition ++ "Unexpected text '" ++ rest ++ "'."

/-- The text up to the closing quote, and the text after that quote. -/
def readQuoted : List Char → Option (List Char × List Char)
  | [] => none
  | '\\' :: '"' :: rest => (readQuoted rest).map fun (text, after) => ('"' :: text, after)
  | '"' :: rest => some ([], rest)
  | c :: rest => (readQuoted rest).map fun (text, after) => (c :: text, after)

theorem length_lt_of_readQuoted {text quoted after : List Char}
    (h : readQuoted text = some (quoted, after)) : after.length < text.length := by
  fun_induction readQuoted text generalizing quoted after with
  | case1 => simp at h
  | case2 rest ih =>
    obtain ⟨⟨q, a⟩, hfound, heq⟩ := Option.map_eq_some_iff.mp h
    simp only [Prod.mk.injEq] at heq
    obtain ⟨-, rfl⟩ := heq
    have := ih hfound
    simp only [List.length_cons]
    omega
  | case3 rest => simp_all
  | case4 c rest _ _ ih =>
    obtain ⟨⟨q, a⟩, hfound, heq⟩ := Option.map_eq_some_iff.mp h
    simp only [Prod.mk.injEq] at heq
    obtain ⟨-, rfl⟩ := heq
    have := ih hfound
    simp only [List.length_cons]
    omega

/-- Whether a character ends an argument that is not in quotes. -/
def endsArgument (c : Char) : Bool :=
  c == ',' || c == ')'

theorem length_lt_of_dropWhile_eq_cons {p : Char → Bool} {text rest : List Char} {c : Char}
    (h : text.dropWhile p = c :: rest) : rest.length < text.length := by
  have hshorter := (List.dropWhile_suffix p (l := text)).length_le
  rw [h, List.length_cons] at hshorter
  omega

theorem length_lt_of_trimLeft_eq_cons {text rest : List Char} {c : Char}
    (h : trimLeft text = c :: rest) : rest.length < text.length :=
  length_lt_of_dropWhile_eq_cons h

/-- The arguments up to the closing bracket, and the text after it. A comma with nothing before it
gives an empty argument; a closing bracket with nothing before it gives none. -/
def readArguments (text : List Char) : Except SyntaxCause (List Argument × List Char) :=
  match _start : trimLeft text with
  | [] => .error .unclosedCall
  | ')' :: after => .ok ([], after)
  | '"' :: inside =>
    match _quoted : readQuoted inside with
    | none => .error .unclosedCall
    | some (argument, beyond) =>
      match _stop : trimLeft beyond with
      | [] => .error .unclosedCall
      | ')' :: after => .ok ([⟨String.ofList argument, true⟩], after)
      | ',' :: more =>
        match readArguments more with
        | .error cause => .error cause
        | .ok (arguments, after) => .ok (⟨String.ofList argument, true⟩ :: arguments, after)
      | _ => .error (.textAfterQuoted (String.ofList argument))
  | c :: rest =>
    let argument := String.ofList (trimRight ((c :: rest).takeWhile (!endsArgument ·)))
    match _stop : (c :: rest).dropWhile (!endsArgument ·) with
    | [] => .error .unclosedCall
    | ',' :: more =>
      match readArguments more with
      | .error cause => .error cause
      | .ok (arguments, after) => .ok (⟨argument, false⟩ :: arguments, after)
    | _ :: after => .ok ([⟨argument, false⟩], after)
termination_by text.length
decreasing_by
  · have := length_lt_of_trimLeft_eq_cons _start
    have := length_lt_of_readQuoted _quoted
    have := length_lt_of_trimLeft_eq_cons _stop
    omega
  · have := length_lt_of_dropWhile_eq_cons _stop
    have := Text.length_trimLeft_le text
    rw [_start] at this
    omega

theorem length_lt_of_readArguments {text after : List Char} {arguments : List Argument}
    (h : readArguments text = .ok (arguments, after)) : after.length < text.length := by
  fun_induction readArguments text generalizing arguments after with
  | case1 | case3 | case4 | case6 | case8 | case9 | case10 => simp at h
  | case2 text after hstart =>
    cases h
    exact length_lt_of_trimLeft_eq_cons hstart
  | case5 text inside hstart argument beyond hquoted after hstop =>
    cases h
    have := length_lt_of_trimLeft_eq_cons hstart
    have := length_lt_of_readQuoted hquoted
    have := length_lt_of_trimLeft_eq_cons hstop
    omega
  | case7 text inside hstart argument beyond hquoted more hstop _ _ hfound ih =>
    cases h
    have := length_lt_of_trimLeft_eq_cons hstart
    have := length_lt_of_readQuoted hquoted
    have := length_lt_of_trimLeft_eq_cons hstop
    have := ih hfound
    omega
  | case11 =>
    rename_i text c rest _ _ hstart _ more hstop _ _ hfound ih
    cases h
    have := Text.length_trimLeft_le text
    have := length_lt_of_dropWhile_eq_cons hstop
    have := ih hfound
    rw [hstart] at *
    omega
  | case12 =>
    rename_i text c rest _ _ hstart _ _ after _ hstop
    cases h
    have := Text.length_trimLeft_le text
    have := length_lt_of_dropWhile_eq_cons hstop
    rw [hstart] at *
    omega

/-- Whether a character may stand in the name of a call. -/
def isMethodChar (c : Char) : Bool :=
  !isBlank c && c != '('

/-- A call at the start of a text, and the text after it. -/
def readCall (text : List Char) : Except SyntaxCause (Call × List Char) :=
  let start := trimLeft text
  match trimLeft (start.dropWhile isMethodChar) with
  | [] => .error .unclosedCall
  | '(' :: inside =>
    match start.takeWhile isMethodChar with
    | [] => .error .missingMethodName
    | name =>
      match readArguments inside with
      | .error cause => .error cause
      | .ok (arguments, after) => .ok (⟨String.ofList name, arguments⟩, after)
  | _ => .error .blankInMethodName

theorem length_lt_of_readCall {text after : List Char} {call : Call}
    (h : readCall text = .ok (call, after)) : after.length < text.length := by
  simp only [readCall] at h
  split at h
  · simp at h
  · rename_i inside hstop
    split at h
    · simp at h
    · split at h
      · simp at h
      · rename_i hfound
        cases h
        have := length_lt_of_readArguments hfound
        have := length_lt_of_trimLeft_eq_cons hstop
        have := (List.dropWhile_suffix isMethodChar (l := trimLeft text)).length_le
        have := Text.length_trimLeft_le text
        omega
  · simp at h

/-- The text after a word in any case and one white space character, if the text starts with
them. -/
def afterWord? (word text : List Char) : Option (List Char) :=
  if (text.take word.length).map Char.toLower = word then
    match text.drop word.length with
    | c :: rest => if isBlank c then some rest else none
    | [] => none
  else none

theorem length_lt_of_afterWord? {word text rest : List Char}
    (h : afterWord? word text = some rest) : rest.length < text.length := by
  simp only [afterWord?] at h
  split at h
  · split at h
    · rename_i c rest' heq
      have := congrArg List.length heq
      simp only [List.length_drop, List.length_cons] at this
      split at h
      · cases h
        omega
      · simp at h
    · simp at h
  · simp at h

/-- The joining word at the start of a text, and the text after it. -/
def readJoin? (text : List Char) : Option (Join × List Char) :=
  match afterWord? ['a', 'n', 'd'] text with
  | some rest => some (.and, rest)
  | none => (afterWord? ['o', 'r'] text).map fun rest => (.or, rest)

theorem length_lt_of_readJoin? {text rest : List Char} {join : Join}
    (h : readJoin? text = some (join, rest)) : rest.length < text.length := by
  simp only [readJoin?] at h
  split at h
  · rename_i hfound
    cases h
    exact length_lt_of_afterWord? hfound
  · obtain ⟨r, hfound, heq⟩ := Option.map_eq_some_iff.mp h
    cases heq
    exact length_lt_of_afterWord? hfound

/-- What a reader of conditions returns: a condition and the text after it, which is shorter than
the text it was read from. -/
abbrev ReadCondition (text : List Char) : Type :=
  Except SyntaxCause { read : Condition × List Char // read.2.length < text.length }

mutual

/-- A condition at the start of a text, and the text after it. -/
def readCondition (text : List Char) : ReadCondition text :=
  match readOperand (trimLeft text) with
  | .error cause => .error cause
  | .ok ⟨(left, rest), hshorter⟩ =>
    have hbound : rest.length < text.length :=
      Nat.lt_of_lt_of_le hshorter (Text.length_trimLeft_le text)
    match hjoined : readJoin? (trimLeft rest) with
    | none => .ok ⟨(left, rest), hbound⟩
    | some (join, rest') =>
      have hbound' : rest'.length < text.length :=
        Nat.lt_trans (Nat.lt_of_lt_of_le (length_lt_of_readJoin? hjoined)
          (Text.length_trimLeft_le rest)) hbound
      match readCondition rest' with
      | .error cause => .error cause
      | .ok ⟨(right, after), hshorter'⟩ =>
        .ok ⟨(.group left join right, after), Nat.lt_trans hshorter' hbound'⟩
termination_by 2 * text.length + 1
decreasing_by
  · have := Text.length_trimLeft_le text
    omega
  · omega

/-- A call or a condition in parentheses at the start of a text, and the text after it. -/
def readOperand (text : List Char) : ReadCondition text :=
  match text with
  | [] => .error .missingOperand
  | ')' :: _ => .error .missingOperand
  | '(' :: inside =>
    match readCondition inside with
    | .error cause => .error cause
    | .ok ⟨(inner, rest), hshorter⟩ =>
      match hclosed : trimLeft rest with
      | ')' :: after =>
        .ok ⟨(inner, after), by
          have := length_lt_of_trimLeft_eq_cons hclosed
          simp only [List.length_cons] at hshorter ⊢
          omega⟩
      | _ => .error .unclosedGroup
  | c :: rest =>
    match hcalled : readCall (c :: rest) with
    | .error cause => .error cause
    | .ok (call, after) => .ok ⟨(.call call, after), length_lt_of_readCall hcalled⟩
termination_by 2 * text.length
decreasing_by
  simp only [List.length_cons]
  omega

end

/-- Reads a text as one call. What follows the closing bracket does not matter. -/
def Call.parse (text : String) : Except SyntaxError Call :=
  match readCall text.toList with
  | .error cause => .error ⟨text, cause⟩
  | .ok (call, _) => .ok call

/-- Reads a whole text as a condition. -/
def Condition.parse (text : String) : Except SyntaxError Condition :=
  match readCondition text.toList with
  | .error cause => .error ⟨text, cause⟩
  | .ok ⟨(condition, rest), _⟩ =>
    match trimLeft rest with
    | [] => .ok condition
    | left => .error ⟨text, .trailingText (String.ofList left)⟩

end Dialogue
