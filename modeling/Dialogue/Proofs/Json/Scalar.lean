/-
# Written strings and numbers

A string is written character by character, and each character is read back from its written form
whatever comes after it. A whole number is written in digits without a leading zero, so all of its
digits are read back as long as the text after them does not go on with the number.
-/

import Dialogue.Json.Reader
import Dialogue.Json.Writer

namespace Dialogue.Json

theorem hexDigit?_digitChar {digit : Nat} (hlt : digit < 16) :
    hexDigit? (Nat.digitChar digit) = some digit := by
  have hall : ∀ digit < 16, hexDigit? (Nat.digitChar digit) = some digit := by decide
  exact hall digit hlt

theorem codeUnit?_control {code : Nat} (hlt : code < 0x20) :
    codeUnit? '0' '0' (Nat.digitChar (code / 16)) (Nat.digitChar (code % 16)) = some code := by
  have hzero : hexDigit? '0' = some 0 := rfl
  rw [codeUnit?, hzero, hexDigit?_digitChar (by omega), hexDigit?_digitChar (by omega)]
  exact congrArg some (by omega)

/-- Whether a piece stands for a character. A code unit does so if it is no surrogate. -/
def Piece.StandsFor (c : Char) : Piece → Prop
  | char other => other = c
  | unit code => code = c.toNat ∧ code < 0xD800

theorem joinPieces_cons {piece : Piece} {c : Char} (hstands : piece.StandsFor c)
    (rest : List Piece) : joinPieces (piece :: rest) = (joinPieces rest).map (c :: ·) := by
  cases piece with
  | char other =>
      cases hstands
      rfl
  | unit code =>
      obtain ⟨rfl, hlt⟩ := hstands
      have hhigh : isHighSurrogate c.toNat = false := by
        rw [isHighSurrogate, Bool.and_eq_false_iff]
        exact .inl (decide_eq_false (by omega))
      have hlow : isLowSurrogate c.toNat = false := by
        rw [isLowSurrogate, Bool.and_eq_false_iff]
        exact .inl (decide_eq_false (by omega))
      have hown : Char.ofNat c.toNat = c := Char.ofNat_toNat c
      rcases rest with _ | ⟨_ | _, _⟩ <;> simp [joinPieces, hhigh, hlow, hown]

/-- Every character is written as one piece that stands for it. -/
theorem readPieces_escape (c : Char) :
    ∃ piece : Piece, piece.StandsFor c ∧ ∀ rest, readPieces (escape c ++ rest) =
      (readPieces rest).map fun (pieces, after) => (piece :: pieces, after) := by
  fun_cases escape c with
  | case1 | case2 | case3 | case4 | case5 | case6 | case7 =>
      exact ⟨.char _, rfl, fun _ => rfl⟩
  | case8 c h1 h2 h3 h4 h5 h6 h7 hcontrol =>
      refine ⟨.unit c.toNat, ⟨rfl, by omega⟩, fun rest => ?_⟩
      rw [List.cons_append, List.cons_append, List.cons_append, List.cons_append, List.cons_append,
        List.cons_append, List.nil_append, readPieces, codeUnit?_control hcontrol]
  | case9 c hquote hbackslash h3 h4 h5 h6 h7 hplain =>
      refine ⟨.char c, rfl, fun rest => ?_⟩
      rw [List.singleton_append, readPieces, if_neg hplain]
      · exact hquote
      · exact fun _ _ _ _ _ hsame _ => hbackslash hsame
      · exact fun _ _ hsame _ => hbackslash hsame

/-- A written string is read back. -/
theorem readString_quoted (text : String) (rest : List Char) :
    readString (text.toList.flatMap escape ++ '"' :: rest) = some (some text, rest) := by
  obtain ⟨pieces, hread, hjoined⟩ : ∃ pieces,
      readPieces (text.toList.flatMap escape ++ '"' :: rest) = some (pieces, rest) ∧
        joinPieces pieces = some text.toList := by
    induction text.toList with
    | nil => exact ⟨[], rfl, rfl⟩
    | cons c later ih =>
        obtain ⟨pieces, hread, hjoined⟩ := ih
        obtain ⟨piece, hstands, hreads⟩ := readPieces_escape c
        refine ⟨piece :: pieces, ?_, ?_⟩
        · rw [List.flatMap_cons, List.append_assoc, hreads, hread]
          rfl
        · rw [joinPieces_cons hstands, hjoined]
          rfl
  rw [readString, hread, Option.map_some]
  dsimp only
  rw [hjoined, Option.map_some, String.ofList_toList]

/-- Whether a text does not go on with a number. -/
def EndsNumber (text : List Char) : Prop :=
  ∀ c ∈ text.head?, c.isDigit = false ∧ c ≠ '.' ∧ c ≠ 'e' ∧ c ≠ 'E'

theorem head?_toDigits_ne {n : Nat} (hpos : 0 < n) : (Nat.toDigits 10 n).head? ≠ some '0' := by
  induction n using Nat.strongRecOn with
  | ind n ih =>
      by_cases hsmall : n < 10
      · have hall : ∀ digit < 10, 0 < digit → Nat.digitChar digit ≠ '0' := by decide
        rw [Nat.toDigits_of_lt_base hsmall, List.head?_cons]
        exact fun hzero => hall n hsmall hpos (Option.some.inj hzero)
      · have hstart := ih (n / 10) (by omega) (by omega)
        rw [Nat.toDigits_of_base_le (by omega) (by omega), List.head?_append]
        cases hdigits : (Nat.toDigits 10 (n / 10)).head? with
        | none =>
            have hnonempty : Nat.toDigits 10 (n / 10) ≠ [] :=
              List.ne_nil_of_length_pos Nat.length_toDigits_pos
            exact absurd (List.head?_eq_none_iff.mp hdigits) hnonempty
        | some c =>
            rw [hdigits] at hstart
            exact hstart

theorem readDigits_append {digits rest : List Char} (hnonempty : digits ≠ [])
    (hall : ∀ c ∈ digits, c.isDigit = true) (hends : EndsNumber rest) :
    readDigits (digits ++ rest) = some (digits, rest) := by
  have hstop : rest.takeWhile Char.isDigit = [] ∧ rest.dropWhile Char.isDigit = rest := by
    cases rest with
    | nil => exact ⟨rfl, rfl⟩
    | cons c later =>
        have hother := (hends c rfl).1
        exact ⟨List.takeWhile_cons_of_neg (by simp [hother]),
          List.dropWhile_cons_of_neg (by simp [hother])⟩
  rw [readDigits, List.takeWhile_append_of_pos hall, List.dropWhile_append_of_pos hall, hstop.1,
    hstop.2, List.append_nil]
  split
  · contradiction
  · rfl

theorem readSign_of_isDigit {c : Char} (hdigit : c.isDigit = true) (rest : List Char) :
    readSign (c :: rest) = ([], c :: rest) := by
  rw [readSign]
  intro other hstart
  cases hstart
  cases hdigit

/-- No fraction and no exponent is read from a text that does not go on with a number. -/
theorem readFraction_of_endsNumber {rest : List Char} (hends : EndsNumber rest) :
    readFraction rest = some ([], rest) := by
  fun_cases readFraction rest with
  | case1 rest => exact absurd rfl (hends '.' rfl).2.1
  | case2 => rfl

theorem readExponent_of_endsNumber {rest : List Char} (hends : EndsNumber rest) :
    readExponent rest = some ([], rest) := by
  cases rest with
  | nil => rfl
  | cons c later =>
      obtain ⟨-, -, hsmall, hgreat⟩ := hends c rfl
      simp only [readExponent, hsmall, hgreat, or_self, if_false]

theorem isDigit_of_mem_toDigits {n : Nat} {c : Char} (hmem : c ∈ Nat.toDigits 10 n) :
    c.isDigit = true :=
  Nat.isDigit_of_mem_toDigits (by omega) (by omega) hmem

/-- A whole number is written as a digit and further characters. -/
theorem toDigits_eq_cons (n : Nat) :
    ∃ c later, Nat.toDigits 10 n = c :: later ∧ c.isDigit = true := by
  cases hstart : Nat.toDigits 10 n with
  | nil => exact absurd hstart (List.ne_nil_of_length_pos Nat.length_toDigits_pos)
  | cons c later => exact ⟨c, later, rfl, isDigit_of_mem_toDigits (hstart ▸ List.mem_cons_self)⟩

theorem readWhole_toDigits (n : Nat) {rest : List Char} (hends : EndsNumber rest) :
    readWhole (Nat.toDigits 10 n ++ rest) = some (Nat.toDigits 10 n, rest) := by
  cases n with
  | zero => rfl
  | succ n =>
      have hleading := head?_toDigits_ne (Nat.succ_pos n)
      have hnonempty : Nat.toDigits 10 (n + 1) ≠ [] :=
        List.ne_nil_of_length_pos Nat.length_toDigits_pos
      have hdigits := readDigits_append hnonempty (fun _ => isDigit_of_mem_toDigits) hends
      obtain ⟨c, later, hstart, -⟩ := toDigits_eq_cons (n + 1)
      rw [hstart] at hdigits hleading ⊢
      rw [List.cons_append, readWhole]
      · exact hdigits
      · intro other hzero
        cases hzero
        exact hleading rfl

/-- The digits of a whole number are read back if the text after them does not go on with it. -/
theorem readScalar_ofNat (n : Nat) {rest : List Char} (hends : EndsNumber rest) :
    readScalar (n.repr.toList ++ rest) = some (.ofNat n, rest) := by
  have hwhole := readWhole_toDigits n hends
  have hnumber : readNumber (Nat.toDigits 10 n ++ rest) = some (Nat.toDigits 10 n, rest) := by
    have hunsigned : readSign (Nat.toDigits 10 n ++ rest) = ([], Nat.toDigits 10 n ++ rest) := by
      obtain ⟨c, later, hstart, hdigit⟩ := toDigits_eq_cons n
      rw [hstart]
      exact readSign_of_isDigit hdigit _
    rw [readNumber, hunsigned]
    dsimp only
    rw [hwhole]
    dsimp only
    rw [readFraction_of_endsNumber hends]
    dsimp only
    rw [readExponent_of_endsNumber hends, Option.map_some, List.nil_append, List.append_nil,
      List.append_nil]
  have hwritten : n.repr.toList = Nat.toDigits 10 n := String.toList_ofList
  rw [hwritten]
  obtain ⟨c, later, hstart, hdigit⟩ := toDigits_eq_cons n
  rw [hstart] at hnumber ⊢
  rw [List.cons_append] at hnumber ⊢
  rw [readScalar, hnumber, Option.map_some, ofNat, Nat.repr, hstart]
  all_goals
    rintro _ hother
    cases hother
    cases hdigit

theorem nat?_ofNat {n : Nat} (hlt : n < natLimit) : (ofNat n).nat? = some n := by
  have hwritten : n.repr.toList = Nat.toDigits 10 n := String.toList_ofList
  rw [ofNat, nat?, hwritten, Number.natural?_toDigits, Option.filter_some,
    if_pos (decide_eq_true hlt)]

theorem le_ofDigitChars (digits : List Char) (n : Nat) : n ≤ Nat.ofDigitChars 10 digits n := by
  induction digits generalizing n with
  | nil => exact Nat.le_refl n
  | cons c rest ih =>
      rw [Nat.ofDigitChars_cons]
      exact Nat.le_trans (by omega) (ih _)

/-- All digits of a number of 64 bits are added up. -/
theorem addDigits_eq {digits : List Char} {n : Nat}
    (hlt : Nat.ofDigitChars 10 digits n < natLimit) :
    addDigits n digits = (Nat.ofDigitChars 10 digits n, 0) := by
  induction digits generalizing n with
  | nil => rfl
  | cons c rest ih =>
      rw [Nat.ofDigitChars_cons] at hlt ⊢
      rw [addDigits, if_pos (Nat.lt_of_le_of_lt (le_ofDigitChars rest _) hlt)]
      exact ih hlt

/-- A whole number of 64 bits is in range. -/
theorem isInRange_repr {n : Nat} (hlt : n < natLimit) : isInRange n.repr.toList = true := by
  have hwritten : n.repr.toList = Nat.toDigits 10 n := String.toList_ofList
  have hunsigned : Number.splitSign (Nat.toDigits 10 n) = (false, Nat.toDigits 10 n) := by
    obtain ⟨c, later, hstart, hdigit⟩ := toDigits_eq_cons n
    rw [hstart, Number.splitSign]
    all_goals
      rintro _ hsign
      cases hsign
      cases hdigit
  have hall : ∀ c ∈ Nat.toDigits 10 n, c.isDigit = true := fun _ => isDigit_of_mem_toDigits
  have hwhole := @List.takeWhile_append_of_pos _ Char.isDigit _ [] hall
  have hrest := @List.dropWhile_append_of_pos _ Char.isDigit _ [] hall
  rw [List.append_nil] at hwhole hrest
  have hvalue : Nat.ofDigitChars 10 (Nat.toDigits 10 n) 0 = n :=
    Nat.ofDigitChars_toDigits (by omega) (by omega)
  have hadded : addDigits 0 (Nat.toDigits 10 n) = (n, 0) := by
    rw [addDigits_eq, hvalue]
    rwa [hvalue]
  have hshort : shorten? n.repr.toList = some ⟨false, n, 0⟩ := by
    rw [hwritten, shorten?, hunsigned]
    dsimp only
    rw [hwhole, hrest, List.takeWhile_nil, List.append_nil, hadded]
    rfl
  rw [isInRange, hshort]
  exact fitsRange_of_exponent_le (Int.le_refl 0)

end Dialogue.Json
