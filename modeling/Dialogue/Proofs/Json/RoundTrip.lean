/-
# Reading written values

A value is read back from its written form if its numbers are whole numbers and its strings and
names are texts. White space does not matter where a layout puts it. So each of the readers finds,
after the white space it skips, just what the writer of the same kind of value has put there, and
the text that it leaves is the text after that.
-/

import Dialogue.Proofs.Json.Scalar

namespace Dialogue.Json

variable {text rest : List Char}

/-- What a reader returns, without the fact that it leaves a shorter text. -/
def Reading.read {α : Type} (reading : Reading α text) : Option (α × List Char) :=
  reading.map Subtype.val

theorem read_readValue (text : List Char) :
    (readValue text).read =
      match skipSpace text with
      | '[' :: inside =>
        match skipSpace inside with
        | ']' :: after => some (.array [], after)
        | _ => (readItems inside).read.map fun (items, after) => (.array items, after)
      | '{' :: inside =>
        match skipSpace inside with
        | '}' :: after => some (.object [], after)
        | _ => (readMembers inside).read.map fun (members, after) => (.object members, after)
      | start => readScalar start := by
  rw [readValue]
  split
  · rename_i inside hstart
    simp only [hstart]
    split
    · rename_i hstop
      simp only [hstop]
      rfl
    · rename_i hunfinished
      cases readItems inside <;> dsimp only <;> split
      · exact absurd ‹_› (hunfinished _)
      · rfl
      · exact absurd ‹_› (hunfinished _)
      · rfl
  · rename_i inside hstart
    simp only [hstart]
    split
    · rename_i hstop
      simp only [hstop]
      rfl
    · rename_i hunfinished
      cases readMembers inside <;> dsimp only <;> split
      · exact absurd ‹_› (hunfinished _)
      · rfl
      · exact absurd ‹_› (hunfinished _)
      · rfl
  · rename_i hnoArray hnoObject
    calc
      _ = readScalar (skipSpace text) := by
        split <;> exact Eq.symm ‹_›
      _ = _ := by
        split
        · exact absurd ‹_› (hnoArray _)
        · exact absurd ‹_› (hnoObject _)
        · rfl

theorem read_readValue_scalar {c : Char} {inside : List Char}
    (hstart : skipSpace text = c :: inside) (hnoArray : c ≠ '[') (hnoObject : c ≠ '{') :
    (readValue text).read = readScalar (c :: inside) := by
  rw [read_readValue, hstart]
  split
  · rename_i hsame
    cases hsame
    contradiction
  · rename_i hsame
    cases hsame
    contradiction
  · rfl

theorem read_readValue_array {inside : List Char} (hstart : skipSpace text = '[' :: inside)
    (hopens : (skipSpace inside).head? ≠ some ']') :
    (readValue text).read =
      (readItems inside).read.map fun (items, after) => (.array items, after) := by
  simp only [read_readValue, hstart]
  split
  · rename_i hstop
    rw [hstop] at hopens
    contradiction
  · rfl

theorem read_readValue_object {inside : List Char} (hstart : skipSpace text = '{' :: inside)
    (hopens : (skipSpace inside).head? ≠ some '}') :
    (readValue text).read =
      (readMembers inside).read.map fun (members, after) => (.object members, after) := by
  simp only [read_readValue, hstart]
  split
  · rename_i hstop
    rw [hstop] at hopens
    contradiction
  · rfl

theorem read_readItems (text : List Char) :
    (readItems text).read = (readValue text).read.bind fun (item, rest) =>
      match skipSpace rest with
      | ']' :: after => some ([item], after)
      | ',' :: more => (readItems more).read.map fun (items, after) => (item :: items, after)
      | _ => none := by
  rw [readItems]
  cases readValue text with
  | none => rfl
  | some first =>
      obtain ⟨⟨item, rest⟩, hshorter⟩ := first
      dsimp only [Reading.read, Option.map_some, Option.bind_some]
      split
      · rename_i hstop
        simp only [hstop]
        rfl
      · rename_i more hcomma
        simp only [hcomma]
        cases readItems more <;> rfl
      · rename_i hunfinished halone
        split
        · exact absurd ‹_› (hunfinished _)
        · exact absurd ‹_› (halone _)
        · rfl

theorem read_readMembers (text : List Char) :
    (readMembers text).read =
      match skipSpace text with
      | '"' :: inside => (readString inside).bind fun (name, beyond) =>
        match skipSpace beyond with
        | ':' :: named => (readValue named).read.bind fun (value, rest) =>
          match skipSpace rest with
          | '}' :: after => some ([(name, value)], after)
          | ',' :: more =>
            (readMembers more).read.map fun (members, after) => ((name, value) :: members, after)
          | _ => none
        | _ => none
      | _ => none := by
  rw [readMembers]
  split
  · rename_i inside hstart
    simp only [hstart]
    split
    · rename_i hmissing
      rw [hmissing]
      rfl
    · rename_i name beyond hnamed
      simp only [hnamed, Option.bind_some]
      split
      · rename_i value hcolon
        simp only [hcolon]
        cases readValue value with
        | none => rfl
        | some first =>
            obtain ⟨⟨value, rest⟩, hshorter⟩ := first
            dsimp only [Reading.read, Option.map_some, Option.bind_some]
            split
            · rename_i hstop
              simp only [hstop]
              rfl
            · rename_i more hcomma
              simp only [hcomma]
              cases readMembers more <;> rfl
            · rename_i hunfinished halone
              split
              · exact absurd ‹_› (hunfinished _)
              · exact absurd ‹_› (halone _)
              · rfl
      · rename_i hunnamed
        split
        · exact absurd ‹_› (hunnamed _)
        · rfl
  · rename_i hunopened
    split
    · exact absurd ‹_› (hunopened _)
    · rfl

theorem parse?_eq_bind (text : String) :
    parse? text = (readValue text.toList).read.bind fun (value, rest) =>
      if skipSpace rest = [] then some value else none := by
  rw [parse?]
  cases readValue text.toList <;> rfl

/-- A layout puts only white space between the tokens of a text. -/
structure Layout.IsSpaced (layout : Layout) : Prop where
  lineBreak : ∀ depth, ∀ c ∈ layout.lineBreak depth, isSpace c = true
  colon : ∃ spaces, layout.colon = ':' :: spaces ∧ ∀ c ∈ spaces, isSpace c = true

theorem Layout.isSpaced_indented : Layout.indented.IsSpaced where
  lineBreak depth := by
    refine List.forall_mem_cons.mpr ⟨rfl, fun c hmem => ?_⟩
    rw [List.eq_of_mem_replicate hmem]
    rfl
  colon := ⟨[' '], rfl, List.forall_mem_singleton.mpr rfl⟩

theorem skipSpace_append {spaces : List Char} (hblank : ∀ c ∈ spaces, isSpace c = true)
    (text : List Char) : skipSpace (spaces ++ text) = skipSpace text :=
  List.dropWhile_append_of_pos hblank

theorem skipSpace_cons {c : Char} (hsolid : isSpace c = false) (text : List Char) :
    skipSpace (c :: text) = c :: text :=
  List.dropWhile_cons_of_neg (by simp [hsolid])

/-- A value whose numbers are whole numbers and whose strings and names are texts. -/
inductive IsPlain : Json → Prop where
  | null : IsPlain null
  | bool (value : Bool) : IsPlain (bool value)
  | ofNat (n : Nat) : IsPlain (ofNat n)
  | ofText (text : String) : IsPlain (ofText text)
  | array (items : List Json) (hplain : ∀ item ∈ items, IsPlain item) : IsPlain (array items)
  | ofMembers (members : List (String × Json)) (hplain : ∀ part ∈ members, IsPlain part.2) :
      IsPlain (ofMembers members)

theorem isSpace_of_isDigit {c : Char} (hdigit : c.isDigit = true) : isSpace c = false := by
  rw [Bool.eq_false_iff]
  intro hspace
  simp only [isSpace, Bool.or_eq_true, beq_iff_eq] at hspace
  rcases hspace with ((rfl | rfl) | rfl) | rfl <;> cases hdigit

/-- A written value starts with a character that is neither white space nor a closing bracket. -/
theorem IsPlain.write_eq_cons {value : Json} (hplain : value.IsPlain) (layout : Layout)
    (depth : Nat) :
    ∃ c later, write layout depth value = c :: later ∧ isSpace c = false ∧ c ≠ ']' := by
  cases hplain with
  | null => exact ⟨_, _, rfl, by decide⟩
  | bool value => cases value <;> exact ⟨_, _, rfl, by decide⟩
  | ofNat n =>
      obtain ⟨c, later, hstart, hdigit⟩ := toDigits_eq_cons n
      have hwritten : write layout depth (.ofNat n) = Nat.toDigits 10 n := String.toList_ofList
      refine ⟨c, later, hwritten.trans hstart, isSpace_of_isDigit hdigit, ?_⟩
      rintro rfl
      cases hdigit
  | ofText text => exact ⟨_, _, rfl, by decide⟩
  | array items hplain => cases items <;> exact ⟨_, _, rfl, by decide⟩
  | ofMembers members hplain => cases members <;> exact ⟨_, _, rfl, by decide⟩

/-- A value is found behind white space. -/
theorem IsPlain.skipSpace_write {value : Json} (hplain : value.IsPlain) (layout : Layout)
    (depth : Nat) {spaces : List Char} (hblank : ∀ c ∈ spaces, isSpace c = true)
    (rest : List Char) :
    skipSpace (spaces ++ (write layout depth value ++ rest)) =
      write layout depth value ++ rest := by
  obtain ⟨c, later, hstart, hsolid, -⟩ := hplain.write_eq_cons layout depth
  rw [skipSpace_append hblank, hstart, List.cons_append, skipSpace_cons hsolid]

/-- A name is found behind white space. -/
theorem skipSpace_quote (name : String) {spaces : List Char}
    (hblank : ∀ c ∈ spaces, isSpace c = true) (rest : List Char) :
    skipSpace (spaces ++ (quote (some name) ++ rest)) = quote (some name) ++ rest :=
  (skipSpace_append hblank _).trans (skipSpace_cons rfl _)

/-- A written value is read at any depth, if the text after it does not go on with a number. -/
def IsReadBack (layout : Layout) (value : Json) : Prop :=
  ∀ {text rest : List Char} (depth : Nat), skipSpace text = write layout depth value ++ rest →
    EndsNumber rest → (readValue text).read = some (value, rest)

theorem endsNumber_append {spaces : List Char} (hblank : ∀ c ∈ spaces, isSpace c = true)
    (hends : EndsNumber rest) : EndsNumber (spaces ++ rest) := by
  cases spaces with
  | nil => exact hends
  | cons c later =>
      intro first heq
      cases heq
      have hspace := hblank c List.mem_cons_self
      simp only [isSpace, Bool.or_eq_true, beq_iff_eq] at hspace
      rcases hspace with ((rfl | rfl) | rfl) | rfl <;> decide

variable {layout : Layout}

theorem endsNumber_cons {c : Char} (htoken : c = ',' ∨ c = ']' ∨ c = '}') :
    EndsNumber (c :: rest) := by
  rintro _ ⟨⟩
  rcases htoken with rfl | rfl | rfl <;> decide

/-- Written items are read up to the closing bracket. -/
theorem read_writeItems (hspaced : layout.IsSpaced) {item : Json} {later : List Json}
    (hplain : ∀ other ∈ later, other.IsPlain)
    (hreadBack : ∀ other ∈ item :: later, IsReadBack layout other) (depth outer : Nat)
    (hstart : skipSpace text = write layout depth item ++
      (writeItems layout depth later ++ (layout.lineBreak outer ++ ']' :: rest))) :
    (readItems text).read = some (item :: later, rest) := by
  have hblank := hspaced.lineBreak
  induction later generalizing text item with
  | nil =>
      have hends : EndsNumber (layout.lineBreak outer ++ ']' :: rest) :=
        endsNumber_append (hblank outer) (endsNumber_cons (.inr (.inl rfl)))
      rw [read_readItems, hreadBack item List.mem_cons_self depth hstart hends, Option.bind_some]
      dsimp only
      rw [writeItems, List.nil_append, skipSpace_append (hblank outer), skipSpace_cons rfl]
      rfl
  | cons next later ih =>
      obtain ⟨hfirst, hothers⟩ := List.forall_mem_cons.mp hreadBack
      obtain ⟨hhere, hplain⟩ := List.forall_mem_cons.mp hplain
      rw [writeItems, List.append_assoc, List.append_assoc, List.cons_append] at hstart
      have hopens := hhere.skipSpace_write layout depth (hblank depth)
        (writeItems layout depth later ++ (layout.lineBreak outer ++ ']' :: rest))
      rw [read_readItems, hfirst depth hstart (endsNumber_cons (.inl rfl)), Option.bind_some]
      dsimp only
      rw [skipSpace_cons rfl]
      simp only [ih hplain hothers hopens, Option.map_some]

/-- A written member is read, and what follows it decides how the reading goes on. -/
theorem read_writeMember (hspaced : layout.IsSpaced) {name : String} {value : Json}
    (hplain : value.IsPlain) (hreadBack : IsReadBack layout value) (depth : Nat)
    {beyond : List Char} (hends : EndsNumber beyond)
    (hstart : skipSpace text =
      quote (some name) ++ (layout.colon ++ (write layout depth value ++ beyond))) :
    (readMembers text).read =
      match skipSpace beyond with
      | '}' :: after => some ([(some name, value)], after)
      | ',' :: more =>
        (readMembers more).read.map fun (members, after) => ((some name, value) :: members, after)
      | _ => none := by
  obtain ⟨spaces, hcolon, hblank⟩ := hspaced.colon
  have hnamed := hplain.skipSpace_write layout depth hblank beyond
  simp only [quote, hcolon, List.cons_append, List.append_assoc, List.nil_append] at hstart
  rw [read_readMembers, hstart]
  have hcolon := skipSpace_cons (c := ':') rfl (spaces ++ (write layout depth value ++ beyond))
  simp only [readString_quoted, Option.bind_some, hcolon, hreadBack depth hnamed hends]

/-- The members of an object. -/
abbrev named (members : List (String × Json)) : List (Option String × Json) :=
  members.map fun (name, value) => (some name, value)

/-- Written members are read up to the closing brace. -/
theorem read_writeMembers (hspaced : layout.IsSpaced) {name : String} {value : Json}
    {later : List (String × Json)} (hplain : ∀ part ∈ (name, value) :: later, part.2.IsPlain)
    (hreadBack : ∀ part ∈ (name, value) :: later, IsReadBack layout part.2) (depth outer : Nat)
    (hstart : skipSpace text = quote (some name) ++ (layout.colon ++ (write layout depth value ++
      (writeMembers layout depth (named later) ++ (layout.lineBreak outer ++ '}' :: rest))))) :
    (readMembers text).read = some (named ((name, value) :: later), rest) := by
  have hblank := hspaced.lineBreak
  induction later generalizing text name value with
  | nil =>
      have hends : EndsNumber (layout.lineBreak outer ++ '}' :: rest) :=
        endsNumber_append (hblank outer) (endsNumber_cons (.inr (.inr rfl)))
      rw [read_writeMember hspaced (hplain _ List.mem_cons_self) (hreadBack _ List.mem_cons_self)
        depth hends hstart, skipSpace_append (hblank outer), skipSpace_cons rfl]
      rfl
  | cons next later ih =>
      obtain ⟨hown, hplain⟩ := List.forall_mem_cons.mp hplain
      obtain ⟨hfirst, hothers⟩ := List.forall_mem_cons.mp hreadBack
      simp only [named, List.map_cons, writeMembers, List.append_assoc, List.cons_append] at hstart
      rw [read_writeMember hspaced hown hfirst depth (endsNumber_cons (.inl rfl)) hstart,
        skipSpace_cons rfl]
      simp only [ih hplain hothers (skipSpace_quote next.1 (hblank depth) _), Option.map_some]
      rfl

/-- Every value with whole numbers and texts is read back from its written form. -/
theorem IsPlain.isReadBack (hspaced : layout.IsSpaced) {value : Json} (hplain : value.IsPlain) :
    IsReadBack layout value := by
  have hblank := hspaced.lineBreak
  induction hplain with
  | null =>
      intro text rest depth hstart hends
      rw [read_readValue_scalar hstart (by decide) (by decide)]
      rfl
  | bool value =>
      intro text rest depth hstart hends
      cases value <;> exact read_readValue_scalar hstart (by decide) (by decide)
  | ofNat n =>
      intro text rest depth hstart hends
      have hread := readScalar_ofNat n hends
      obtain ⟨c, later, hdigits, hdigit⟩ := toDigits_eq_cons n
      have hwritten : n.repr.toList = c :: later := String.toList_ofList.trans hdigits
      rw [hwritten] at hread
      have hnoArray : c ≠ '[' := by
        rintro rfl
        cases hdigit
      have hnoObject : c ≠ '{' := by
        rintro rfl
        cases hdigit
      have hfirst := hstart.trans (congrArg (· ++ rest) hwritten)
      exact (read_readValue_scalar hfirst hnoArray hnoObject).trans hread
  | ofText content =>
      intro text rest depth hstart hends
      simp only [Json.ofText, write, quote, List.cons_append, List.append_assoc,
        List.nil_append] at hstart
      rw [read_readValue_scalar hstart (by decide) (by decide), readScalar, readString_quoted]
      rfl
  | array items hplain ih =>
      intro text rest depth hstart hends
      cases items with
      | nil =>
        rw [read_readValue, hstart]
        rfl
      | cons item later =>
        obtain ⟨hhere, hothers⟩ := List.forall_mem_cons.mp hplain
        simp only [write, List.append_assoc, List.cons_append, List.nil_append] at hstart
        have hopens := hhere.skipSpace_write layout (depth + 1) (hblank (depth + 1))
          (writeItems layout (depth + 1) later ++ (layout.lineBreak depth ++ ']' :: rest))
        obtain ⟨c, tail, hfirst, hsolid, hnoBracket⟩ := hhere.write_eq_cons layout (depth + 1)
        rw [read_readValue_array hstart,
          read_writeItems hspaced hothers ih (depth + 1) depth hopens, Option.map_some]
        rw [hopens, hfirst]
        exact fun hstop => hnoBracket (Option.some.inj hstop)
  | ofMembers members hplain ih =>
      intro text rest depth hstart hends
      cases members with
      | nil =>
        rw [read_readValue, hstart]
        rfl
      | cons part later =>
        simp only [Json.ofMembers, List.map_cons, write, List.append_assoc, List.cons_append,
          List.nil_append] at hstart
        rw [read_readValue_object hstart, read_writeMembers hspaced hplain ih (depth + 1) depth
          (skipSpace_quote part.1 (hblank (depth + 1)) _), Option.map_some]
        · rfl
        · rw [skipSpace_quote part.1 (hblank (depth + 1))]
          exact fun hstop => absurd (Option.some.inj hstop) (by decide)

theorem parse?_write (hspaced : layout.IsSpaced) {value : Json} (hplain : value.IsPlain) :
    parse? (String.ofList (write layout 0 value)) = some value := by
  have hstart := hplain.skipSpace_write layout 0 (fun _ hmem => absurd hmem List.not_mem_nil) []
  have hends : EndsNumber [] := fun _ => nofun
  rw [parse?_eq_bind, String.toList_ofList]
  rw [List.nil_append, List.append_nil] at hstart
  rw [hplain.isReadBack hspaced 0 (hstart.trans (List.append_nil _).symm) hends, Option.bind_some]
  rfl

/-- A value is read back from its lines. -/
theorem parse?_indented {value : Json} (hplain : value.IsPlain) :
    parse? value.indented = some value :=
  parse?_write Layout.isSpaced_indented hplain

end Dialogue.Json
