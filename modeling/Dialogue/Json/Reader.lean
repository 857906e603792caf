/-
# Reading JSON

A text is read by the letter of the format: no leading zeros, no comma before a closing bracket, no
control character inside a string, nothing but white space after the value. A string is read in two
steps. First its quotes and escapes are resolved into characters and escaped code units, then
escaped surrogates are paired up.

Every reader returns what it read together with the text after it and the fact that this text is
shorter, which is why the readers of nested values end.
-/

import Dialogue.Json.Basic

namespace Dialogue.Json

/-- Whether a character is white space between tokens. -/
def isSpace (c : Char) : Bool :=
  c == ' ' || c == '\t' || c == '\n' || c == '\r'

/-- The text without the white space it starts with. -/
def skipSpace (text : List Char) : List Char :=
  text.dropWhile isSpace

/-- The value of a hexadecimal digit. -/
def hexDigit? (c : Char) : Option Nat :=
  if '0' ≤ c ∧ c ≤ '9' then some (c.toNat - '0'.toNat)
  else if 'a' ≤ c ∧ c ≤ 'f' then some (c.toNat - 'a'.toNat + 10)
  else if 'A' ≤ c ∧ c ≤ 'F' then some (c.toNat - 'A'.toNat + 10)
  else none

/-- The code unit that four hexadecimal digits name. -/
def codeUnit? (a b c d : Char) : Option Nat :=
  match hexDigit? a, hexDigit? b, hexDigit? c, hexDigit? d with
  | some a, some b, some c, some d => some (((a * 16 + b) * 16 + c) * 16 + d)
  | _, _, _, _ => none

/-- The character that a backslash and a letter stand for. -/
def escaped? : Char → Option Char
  | '"' => some '"'
  | '\\' => some '\\'
  | '/' => some '/'
  | 'b' => some '\x08'
  | 'f' => some '\x0C'
  | 'n' => some '\n'
  | 'r' => some '\r'
  | 't' => some '\t'
  | _ => none

/-- A piece of a string: a character, or a code unit escaped by its number. -/
inductive Piece where
  | char (c : Char)
  | unit (code : Nat)

/-- The pieces of a string up to its closing quote, and the text after that. -/
def readPieces : List Char → Option (List Piece × List Char)
  | [] => none
  | '"' :: rest => some ([], rest)
  | '\\' :: 'u' :: a :: b :: c :: d :: rest =>
    match codeUnit? a b c d with
    | some code => (readPieces rest).map fun (pieces, after) => (.unit code :: pieces, after)
    | none => none
  | '\\' :: c :: rest =>
    match escaped? c with
    | some c => (readPieces rest).map fun (pieces, after) => (.char c :: pieces, after)
    | none => none
  | c :: rest =>
    if c.toNat < 0x20 then none
    else (readPieces rest).map fun (pieces, after) => (.char c :: pieces, after)

/-- Whether a code unit opens a surrogate pair. -/
def isHighSurrogate (code : Nat) : Bool :=
  0xD800 ≤ code && code < 0xDC00

/-- Whether a code unit closes a surrogate pair. -/
def isLowSurrogate (code : Nat) : Bool :=
  0xDC00 ≤ code && code < 0xE000

/-- The text of a string's pieces. There is none if a surrogate has no partner. -/
def joinPieces : List Piece → Option (List Char)
  | [] => some []
  | .char c :: rest => (joinPieces rest).map (c :: ·)
  | .unit high :: .unit low :: rest =>
    if isHighSurrogate high then
      if isLowSurrogate low then
        (joinPieces rest).map
          (Char.ofNat (0x10000 + (high - 0xD800) * 0x400 + (low - 0xDC00)) :: ·)
      else none
    else if isLowSurrogate high then none
    else (joinPieces (.unit low :: rest)).map (Char.ofNat high :: ·)
  | .unit code :: rest =>
    if isHighSurrogate code || isLowSurrogate code then none
    else (joinPieces rest).map (Char.ofNat code :: ·)

/-- A string after its opening quote, and the text after it. -/
def readString (text : List Char) : Option (Option String × List Char) :=
  (readPieces text).map fun (pieces, after) => ((joinPieces pieces).map String.ofList, after)

theorem length_lt_of_readPieces {text after : List Char} {pieces : List Piece}
    (h : readPieces text = some (pieces, after)) : after.length < text.length := by
  fun_induction readPieces text generalizing pieces after with
  | case1 | case4 | case6 | case7 => simp_all
  | case2 rest => simp_all
  | case3 | case5 | case8 =>
    rename_i ih
    obtain ⟨⟨p, a⟩, hfound, heq⟩ := Option.map_eq_some_iff.mp h
    simp only [Prod.mk.injEq] at heq
    obtain ⟨-, rfl⟩ := heq
    have := ih hfound
    simp only [List.length_cons]
    omega

theorem length_lt_of_readString {text after : List Char} {string : Option String}
    (h : readString text = some (string, after)) : after.length < text.length := by
  obtain ⟨⟨pieces, rest⟩, hfound, heq⟩ := Option.map_eq_some_iff.mp h
  simp only [Prod.mk.injEq] at heq
  obtain ⟨-, rfl⟩ := heq
  exact length_lt_of_readPieces hfound

/-- The digits at the start of a text, and the text after them. There must be one. -/
def readDigits (text : List Char) : Option (List Char × List Char) :=
  match text.takeWhile Char.isDigit with
  | [] => none
  | digits => some (digits, text.dropWhile Char.isDigit)

/-- The part of a number before the point: no zero leads another digit. -/
def readWhole : List Char → Option (List Char × List Char)
  | '0' :: rest => some (['0'], rest)
  | text => readDigits text

/-- The part of a number from its point on; it may be missing. -/
def readFraction : List Char → Option (List Char × List Char)
  | '.' :: rest => (readDigits rest).map fun (digits, after) => ('.' :: digits, after)
  | text => some ([], text)

/-- The part of a number from the letter `e` on; it may be missing. -/
def readExponent : List Char → Option (List Char × List Char)
  | c :: rest =>
    if c = 'e' ∨ c = 'E' then
      match rest with
      | s :: digits =>
        if s = '+' ∨ s = '-' then
          (readDigits digits).map fun (digits, after) => (c :: s :: digits, after)
        else (readDigits rest).map fun (digits, after) => (c :: digits, after)
      | [] => none
    else some ([], c :: rest)
  | [] => some ([], [])

/-- The minus sign of a number, which may be missing, and the text after it. -/
def readSign : List Char → List Char × List Char
  | '-' :: rest => (['-'], rest)
  | text => ([], text)

/-- A number as it is written, and the text after it. -/
def readNumber (text : List Char) : Option (List Char × List Char) :=
  let (sign, unsigned) := readSign text
  match readWhole unsigned with
  | none => none
  | some (whole, rest) =>
    match readFraction rest with
    | none => none
    | some (fraction, rest) =>
      (readExponent rest).map fun (exponent, after) =>
        (sign ++ whole ++ fraction ++ exponent, after)

/-- The text after a word that it starts with. -/
def afterWord? (word text : List Char) : Option (List Char) :=
  if word.isPrefixOf text then some (text.drop word.length) else none

/-- A value that is not nested, and the text after it. -/
def readScalar (text : List Char) : Option (Json × List Char) :=
  match text with
  | '"' :: rest => (readString rest).map fun (content, after) => (.string content, after)
  | 'n' :: rest => (afterWord? ['u', 'l', 'l'] rest).map fun after => (.null, after)
  | 't' :: rest => (afterWord? ['r', 'u', 'e'] rest).map fun after => (.bool true, after)
  | 'f' :: rest => (afterWord? ['a', 'l', 's', 'e'] rest).map fun after => (.bool false, after)
  | text => (readNumber text).map fun (written, after) => (.number (String.ofList written), after)

theorem length_lt_of_readDigits {text digits after : List Char}
    (h : readDigits text = some (digits, after)) : after.length < text.length := by
  have hwhole :=
    congrArg List.length (List.takeWhile_append_dropWhile (p := Char.isDigit) (l := text))
  simp only [readDigits] at h
  split at h
  · simp at h
  · rename_i hnonempty
    simp only [Option.some.injEq, Prod.mk.injEq] at h
    obtain ⟨-, rfl⟩ := h
    have := List.length_pos_iff.mpr hnonempty
    simp only [List.length_append] at hwhole
    omega

theorem length_lt_of_readWhole {text digits after : List Char}
    (h : readWhole text = some (digits, after)) : after.length < text.length := by
  simp only [readWhole] at h
  split at h
  · simp only [Option.some.injEq, Prod.mk.injEq] at h
    obtain ⟨-, rfl⟩ := h
    simp
  · exact length_lt_of_readDigits h

theorem length_le_of_readFraction {text written after : List Char}
    (h : readFraction text = some (written, after)) : after.length ≤ text.length := by
  simp only [readFraction] at h
  split at h
  · obtain ⟨⟨d, a⟩, hfound, heq⟩ := Option.map_eq_some_iff.mp h
    simp only [Prod.mk.injEq] at heq
    obtain ⟨-, rfl⟩ := heq
    have := length_lt_of_readDigits hfound
    simp only [List.length_cons]
    omega
  · simp_all

theorem length_le_of_readExponent {text written after : List Char}
    (h : readExponent text = some (written, after)) : after.length ≤ text.length := by
  simp only [readExponent] at h
  split at h
  · split at h
    · split at h
      · split at h <;>
        · obtain ⟨⟨d, a⟩, hfound, heq⟩ := Option.map_eq_some_iff.mp h
          simp only [Prod.mk.injEq] at heq
          obtain ⟨-, rfl⟩ := heq
          have := length_lt_of_readDigits hfound
          simp only [List.length_cons] at *
          omega
      · simp at h
    · simp_all
  · simp_all

theorem length_readSign_le (text : List Char) : (readSign text).2.length ≤ text.length := by
  fun_cases readSign text <;> simp

theorem length_lt_of_readNumber {text written after : List Char}
    (h : readNumber text = some (written, after)) : after.length < text.length := by
  simp only [readNumber] at h
  split at h
  · simp at h
  · rename_i hfoundWhole
    split at h
    · simp at h
    · rename_i hfoundFraction
      obtain ⟨⟨e, a⟩, hfoundExponent, heq⟩ := Option.map_eq_some_iff.mp h
      simp only [Prod.mk.injEq] at heq
      obtain ⟨-, rfl⟩ := heq
      have := length_lt_of_readWhole hfoundWhole
      have := length_le_of_readFraction hfoundFraction
      have := length_le_of_readExponent hfoundExponent
      have := length_readSign_le text
      omega

theorem length_le_of_afterWord? {word text after : List Char}
    (h : afterWord? word text = some after) : after.length ≤ text.length := by
  simp only [afterWord?] at h
  split at h
  · cases h
    simp
  · simp at h

theorem length_lt_of_readScalar {text after : List Char} {value : Json}
    (h : readScalar text = some (value, after)) : after.length < text.length := by
  simp only [readScalar] at h
  split at h
  · obtain ⟨⟨c, a⟩, hfound, heq⟩ := Option.map_eq_some_iff.mp h
    simp only [Prod.mk.injEq] at heq
    obtain ⟨-, rfl⟩ := heq
    have := length_lt_of_readString hfound
    simp only [List.length_cons]
    omega
  · obtain ⟨a, hfound, heq⟩ := Option.map_eq_some_iff.mp h
    cases heq
    exact Nat.lt_succ_of_le (length_le_of_afterWord? hfound)
  · obtain ⟨a, hfound, heq⟩ := Option.map_eq_some_iff.mp h
    cases heq
    exact Nat.lt_succ_of_le (length_le_of_afterWord? hfound)
  · obtain ⟨a, hfound, heq⟩ := Option.map_eq_some_iff.mp h
    cases heq
    exact Nat.lt_succ_of_le (length_le_of_afterWord? hfound)
  · obtain ⟨⟨c, a⟩, hfound, heq⟩ := Option.map_eq_some_iff.mp h
    simp only [Prod.mk.injEq] at heq
    obtain ⟨-, rfl⟩ := heq
    exact length_lt_of_readNumber hfound

theorem length_skipSpace_le (text : List Char) : (skipSpace text).length ≤ text.length :=
  (List.dropWhile_suffix isSpace).length_le

theorem length_lt_of_skipSpace_eq_cons {text rest : List Char} {c : Char}
    (h : skipSpace text = c :: rest) : rest.length < text.length := by
  have := length_skipSpace_le text
  rw [h, List.length_cons] at this
  omega

/-- What a reader returns: what it read and the text after it, which is shorter than the text it
was read from. -/
abbrev Reading (α : Type) (text : List Char) : Type :=
  Option { read : α × List Char // read.2.length < text.length }

mutual

/-- A value, and the text after it. -/
def readValue (text : List Char) : Reading Json text :=
  match _start : skipSpace text with
  | '[' :: inside =>
    have hbound : inside.length < text.length := length_lt_of_skipSpace_eq_cons _start
    match hstop : skipSpace inside with
    | ']' :: after =>
      some ⟨(.array [], after), Nat.lt_trans (length_lt_of_skipSpace_eq_cons hstop) hbound⟩
    | _ =>
      match readItems inside with
      | none => none
      | some ⟨(items, after), hshorter⟩ =>
        some ⟨(.array items, after), Nat.lt_trans hshorter hbound⟩
  | '{' :: inside =>
    have hbound : inside.length < text.length := length_lt_of_skipSpace_eq_cons _start
    match hstop : skipSpace inside with
    | '}' :: after =>
      some ⟨(.object [], after), Nat.lt_trans (length_lt_of_skipSpace_eq_cons hstop) hbound⟩
    | _ =>
      match readMembers inside with
      | none => none
      | some ⟨(members, after), hshorter⟩ =>
        some ⟨(.object members, after), Nat.lt_trans hshorter hbound⟩
  | start =>
    match hfound : readScalar start with
    | none => none
    | some (value, after) =>
      some ⟨(value, after), by
        have := length_lt_of_readScalar hfound
        have := length_skipSpace_le text
        simp_all
        omega⟩
termination_by 2 * text.length
decreasing_by
  all_goals omega

/-- The items of an array up to its closing bracket, and the text after that. There must be an
item. -/
def readItems (text : List Char) : Reading (List Json) text :=
  match readValue text with
  | none => none
  | some ⟨(item, rest), hshorter⟩ =>
    match hstop : skipSpace rest with
    | ']' :: after =>
      some ⟨([item], after), Nat.lt_trans (length_lt_of_skipSpace_eq_cons hstop) hshorter⟩
    | ',' :: more =>
      have hbound : more.length < text.length :=
        Nat.lt_trans (length_lt_of_skipSpace_eq_cons hstop) hshorter
      match readItems more with
      | none => none
      | some ⟨(items, after), hshorter'⟩ =>
        some ⟨(item :: items, after), Nat.lt_trans hshorter' hbound⟩
    | _ => none
termination_by 2 * text.length + 1
decreasing_by
  all_goals omega

/-- The members of an object up to its closing brace, and the text after that. There must be a
member. -/
def readMembers (text : List Char) : Reading (List (Option String × Json)) text :=
  match hstart : skipSpace text with
  | '"' :: inside =>
    match hnamed : readString inside with
    | none => none
    | some (name, beyond) =>
      match hcolon : skipSpace beyond with
      | ':' :: value =>
        have hbound : value.length < text.length :=
          Nat.lt_trans (length_lt_of_skipSpace_eq_cons hcolon)
            (Nat.lt_trans (length_lt_of_readString hnamed) (length_lt_of_skipSpace_eq_cons hstart))
        match readValue value with
        | none => none
        | some ⟨(value, rest), hshorter⟩ =>
          match hstop : skipSpace rest with
          | '}' :: after =>
            some ⟨([(name, value)], after),
              Nat.lt_trans (length_lt_of_skipSpace_eq_cons hstop) (Nat.lt_trans hshorter hbound)⟩
          | ',' :: more =>
            have hbound' : more.length < text.length :=
              Nat.lt_trans (length_lt_of_skipSpace_eq_cons hstop) (Nat.lt_trans hshorter hbound)
            match readMembers more with
            | none => none
            | some ⟨(members, after), hshorter'⟩ =>
              some ⟨((name, value) :: members, after), Nat.lt_trans hshorter' hbound'⟩
          | _ => none
      | _ => none
  | _ => none
termination_by 2 * text.length
decreasing_by
  all_goals omega

end

/-- Reads a whole text as a value. -/
def parse? (text : String) : Option Json :=
  match readValue text.toList with
  | none => none
  | some ⟨(value, rest), _⟩ => if skipSpace rest = [] then some value else none

end Dialogue.Json
