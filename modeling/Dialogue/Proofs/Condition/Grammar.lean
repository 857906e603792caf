/-
# The grammar of conditions

How a condition is written is told here by a grammar. Each rule puts a text together from the texts
of its parts; none of them says how to find the parts. A text may be a condition in one way only,
and the reader of conditions finds it: what it accepts are the texts that the grammar derives, and
what it makes of them is what they derive.

Two rules need a word. A backslash in a quoted text stands for itself unless a quote follows, so a
quoted text cannot end with one. What stands between two commas is an argument even if it is blank,
but a blank text before the closing bracket is none.
-/

import Dialogue.Condition.Text
import Dialogue.Proofs.Condition.Reading
import Dialogue.Proofs.Text.Edges
import Mathlib.Data.List.Basic
import Mathlib.Data.List.TakeWhile

namespace Dialogue

open Text (isBlank trim trimLeft trimRight)

/-- White space, or nothing. -/
def IsGap (text : List Char) : Prop :=
  ∀ c ∈ text, isBlank c = true

/-- What follows an opening quote, with the closing one, and the text that it stands for. -/
inductive DerivesQuoted : List Char → List Char → Prop where
  | close : DerivesQuoted ['"'] []
  | quote {written text : List Char} (hlater : DerivesQuoted written text) :
      DerivesQuoted ('\\' :: '"' :: written) ('"' :: text)
  | other {c : Char} {written text : List Char} (hunquoted : c ≠ '"')
      (hlone : c = '\\' → written.head? ≠ some '"') (hlater : DerivesQuoted written text) :
      DerivesQuoted (c :: written) (c :: text)

/-- What stands between two commas of a call. -/
inductive DerivesArgument : List Char → Argument → Prop where
  | quoted {before written text after : List Char} (hleads : IsGap before)
      (hquoted : DerivesQuoted written text) (htrails : IsGap after) :
      DerivesArgument (before ++ '"' :: written ++ after) ⟨String.ofList text, true⟩
  | plain {written : List Char} (hunended : ∀ c ∈ written, c ≠ ',' ∧ c ≠ ')')
      (hunquoted : (trimLeft written).head? ≠ some '"') :
      DerivesArgument written ⟨String.ofList (trim written), false⟩

/-- What stands between the brackets of a call. -/
inductive DerivesArguments : List Char → List Argument → Prop where
  | none {written : List Char} (hblank : IsGap written) : DerivesArguments written []
  | last {written : List Char} {argument : Argument} (hpiece : DerivesArgument written argument)
      (hsolid : ¬IsGap written) : DerivesArguments written [argument]
  | more {written later : List Char} {argument : Argument} {arguments : List Argument}
      (hpiece : DerivesArgument written argument) (hothers : DerivesArguments later arguments) :
      DerivesArguments (written ++ ',' :: later) (argument :: arguments)

/-- A call: a name, a bracket, the arguments and a bracket. -/
inductive DerivesCall : List Char → Call → Prop where
  | call {name between inside : List Char} {arguments : List Argument} (hnamed : name ≠ [])
      (hword : ∀ c ∈ name, isBlank c = false ∧ c ≠ '(') (hunclosed : name.head? ≠ some ')')
      (hgap : IsGap between) (hderives : DerivesArguments inside arguments) :
      DerivesCall (name ++ between ++ '(' :: inside ++ [')']) ⟨String.ofList name, arguments⟩

mutual

/-- A condition: an operand, or an operand joined to a condition. -/
inductive DerivesCondition : List Char → Condition → Prop where
  | operand {before written after : List Char} {condition : Condition} (hleads : IsGap before)
      (hoperand : DerivesOperand written condition) (htrails : IsGap after) :
      DerivesCondition (before ++ written ++ after) condition
  | group {before written between word later : List Char} {c : Char} {left right : Condition}
      {join : Join} (hleads : IsGap before) (hoperand : DerivesOperand written left)
      (hgap : IsGap between) (hjoins : word.map Char.toLower = join.chars)
      (hblank : isBlank c = true)
      (hothers : DerivesCondition later right) :
      DerivesCondition (before ++ written ++ between ++ word ++ c :: later) (.group left join right)

/-- An operand: a condition in parentheses, or a call. -/
inductive DerivesOperand : List Char → Condition → Prop where
  | enclosed {inside : List Char} {condition : Condition}
      (hinner : DerivesCondition inside condition) :
      DerivesOperand ('(' :: inside ++ [')']) condition
  | call {written : List Char} {call : Call} (hderives : DerivesCall written call) :
      DerivesOperand written (.call call)

end

theorem IsGap.trimLeft_append {gap : List Char} (hblank : IsGap gap) (rest : List Char) :
    trimLeft (gap ++ rest) = trimLeft rest :=
  List.dropWhile_append_of_pos hblank

theorem trimLeft_eq_nil_iff {text : List Char} : trimLeft text = [] ↔ IsGap text :=
  List.dropWhile_eq_nil_iff

/-- Trimming takes a gap off. -/
theorem exists_gap (text : List Char) : ∃ gap, IsGap gap ∧ text = gap ++ trimLeft text :=
  ⟨text.takeWhile isBlank, List.all_eq_true.mp List.all_takeWhile,
    List.takeWhile_append_dropWhile.symm⟩

theorem DerivesQuoted.ne_nil {written text : List Char} (hderives : DerivesQuoted written text) :
    written ≠ [] := by
  cases hderives <;> exact List.cons_ne_nil _ _

theorem DerivesQuoted.readQuoted_append {written text : List Char}
    (hderives : DerivesQuoted written text) (rest : List Char) :
    readQuoted (written ++ rest) = some (text, rest) := by
  induction hderives with
  | close => rfl
  | quote hlater ih =>
      show readQuoted ('\\' :: '"' :: (_ ++ rest)) = _
      rw [readQuoted, ih]
      rfl
  | @other c written text hunquoted hlone hlater ih =>
      show readQuoted (c :: (written ++ rest)) = _
      rw [readQuoted, ih]
      · rfl
      · -- a backslash does not meet a quote
        intro tail hbackslash hbare
        apply hlone hbackslash
        have hstart := congrArg List.head? hbare
        rwa [List.head?_append_of_ne_nil _ hlater.ne_nil, List.head?_cons] at hstart
      · exact hunquoted

theorem exists_derivesQuoted {text quoted rest : List Char}
    (hread : readQuoted text = some (quoted, rest)) :
    ∃ written, text = written ++ rest ∧ DerivesQuoted written quoted := by
  fun_induction readQuoted text generalizing quoted rest with
  | case1 => cases hread
  | case2 more ih =>
      obtain ⟨⟨inner, left⟩, hfound, hsame⟩ := Option.map_eq_some_iff.mp hread
      cases hsame
      obtain ⟨written, rfl, hderives⟩ := ih hfound
      exact ⟨_, rfl, .quote hderives⟩
  | case3 more =>
      cases hread
      exact ⟨['"'], rfl, .close⟩
  | case4 c more hescaping hunquoted ih =>
      obtain ⟨⟨inner, left⟩, hfound, hsame⟩ := Option.map_eq_some_iff.mp hread
      cases hsame
      obtain ⟨written, rfl, hderives⟩ := ih hfound
      refine ⟨c :: written, rfl, .other hunquoted (fun hbackslash hbare => ?_) hderives⟩
      obtain ⟨tail, hstart⟩ := List.head?_eq_some_iff.mp hbare
      exact hescaping (tail ++ rest) hbackslash (by rw [hstart, List.cons_append])

/-- A piece of a call is read as its argument. If it is blank, only a comma tells that it is
there. -/
theorem DerivesArgument.readsArgument {written rest : List Char} {argument : Argument} {c : Char}
    (hderives : DerivesArgument written argument) (hends : c = ',' ∨ c = ')')
    (hshown : IsGap written → c = ',') :
    ReadsArgument (written ++ c :: rest) argument (c :: rest) := by
  have hsolid : isBlank c = false := isBlank_of_endsArgument (endsArgument_iff.mpr hends)
  cases hderives with
  | @quoted before written text after hleads hquoted htrails =>
      have hstart : trimLeft (before ++ '"' :: written ++ after ++ c :: rest) =
          '"' :: (written ++ (after ++ c :: rest)) := by
        rw [List.append_assoc, List.append_assoc, hleads.trimLeft_append,
          List.cons_append, Text.trimLeft_cons_of_not_isBlank _ (by decide)]
      refine .quoted hstart (hquoted.readQuoted_append _) ?_
      rw [htrails.trimLeft_append, Text.trimLeft_cons_of_not_isBlank _ hsolid]
  | plain hunended hunquoted =>
      obtain ⟨gap, hblank, hcut⟩ := exists_gap written
      have hunended' : ∀ d ∈ trimLeft written, endsArgument d = false := by
        intro d hmem
        exact endsArgument_eq_false_iff.mpr
          (hunended d ((Text.trimLeft_suffix written).subset hmem))
      obtain ⟨htaken, hdropped⟩ := takeWhile_of_unended hunended' (endsArgument_iff.mpr hends) rest
      cases hcontent : trimLeft written with
      | nil =>
          obtain rfl := hshown (trimLeft_eq_nil_iff.mp hcontent)
          rw [hcontent] at htaken hdropped
          have hstart : trimLeft (written ++ ',' :: rest) = ',' :: rest := by
            rw [(trimLeft_eq_nil_iff.mp hcontent).trimLeft_append,
              Text.trimLeft_cons_of_not_isBlank _ hsolid]
          have hreads := ReadsArgument.plain hstart (by decide) (by decide) hdropped
          rw [List.nil_append] at htaken
          rwa [htaken, ← hcontent] at hreads
      | cons d more =>
          have hstart : trimLeft (written ++ c :: rest) = d :: (more ++ c :: rest) := by
            rw [hcut, List.append_assoc, hblank.trimLeft_append, hcontent, List.cons_append,
              Text.trimLeft_cons_of_not_isBlank _ (Text.isBlank_of_trimLeft_eq_cons hcontent)]
          have hown : d ∈ written := by
            apply (Text.trimLeft_suffix written).subset
            rw [hcontent]
            exact List.mem_cons_self
          have hunquoted' : d ≠ '"' := by
            rintro rfl
            rw [hcontent] at hunquoted
            exact hunquoted rfl
          rw [hcontent, List.cons_append] at htaken hdropped
          have hreads := ReadsArgument.plain hstart (hunended d hown).2 hunquoted' hdropped
          rwa [htaken, ← hcontent] at hreads

/-- A text that starts with neither white space nor a quote derives an argument with what comes
before the first comma or bracket. -/
theorem derivesArgument_takeWhile {gap beyond : List Char} {c : Char} (hblank : IsGap gap)
    (hsolid : isBlank c = false) (hunquoted : c ≠ '"') :
    DerivesArgument (gap ++ (c :: beyond).takeWhile (!endsArgument ·))
      ⟨String.ofList (trimRight ((c :: beyond).takeWhile (!endsArgument ·))), false⟩ := by
  have hfirst : ∀ d ∈ ((c :: beyond).takeWhile (!endsArgument ·)).head?, d = c := by
    intro d hhead
    rw [List.head?_takeWhile, List.head?_cons, Option.mem_def, Option.filter_eq_some_iff] at hhead
    exact (Option.some.inj hhead.1).symm
  have hstays : trimLeft ((c :: beyond).takeWhile (!endsArgument ·)) =
      (c :: beyond).takeWhile (!endsArgument ·) := by
    rw [Text.trimLeft_eq_self_iff]
    intro hwhite
    obtain ⟨d, hhead, hblank⟩ := Option.map_eq_some_iff.mp hwhite
    rw [hfirst d hhead, hsolid] at hblank
    cases hblank
  have hderives := @DerivesArgument.plain (gap ++ (c :: beyond).takeWhile (!endsArgument ·)) ?_ ?_
  · rwa [trim, hblank.trimLeft_append, hstays] at hderives
  · intro d hmem
    rw [← not_or, ← endsArgument_iff]
    rcases List.mem_append.mp hmem with hbefore | htaken
    · intro hends
      have hwhite := hblank d hbefore
      rw [isBlank_of_endsArgument hends] at hwhite
      cases hwhite
    · simpa using List.mem_takeWhile_imp htaken
  · rw [hblank.trimLeft_append, hstays]
    intro hquote
    exact hunquoted (hfirst '"' hquote).symm

/-- What is read as an argument derives it. Only before a comma can it be blank. -/
theorem ReadsArgument.exists_derivesArgument {text rest : List Char} {argument : Argument}
    (hreads : ReadsArgument text argument rest) :
    ∃ written, text = written ++ rest ∧ DerivesArgument written argument ∧
      (IsGap written → rest.head? = some ',') := by
  obtain ⟨gap, hblank, hcut⟩ := exists_gap text
  cases hreads with
  | quoted hstart hcloses hstop =>
      rename_i inside argument beyond
      obtain ⟨written, rfl, hderives⟩ := exists_derivesQuoted hcloses
      obtain ⟨gap', hblank', hcut'⟩ := exists_gap beyond
      rw [hstop] at hcut'
      refine ⟨gap ++ '"' :: written ++ gap', ?_, .quoted hblank hderives hblank', ?_⟩
      · calc text = gap ++ '"' :: (written ++ beyond) := by rw [← hstart]; exact hcut
          _ = gap ++ '"' :: written ++ gap' ++ rest := by rw [hcut']; simp
      · intro hnothing
        have hquote := hnothing '"' (by simp)
        exact absurd hquote (by decide)
  | plain hstart hunclosed hunquoted hstop =>
      rename_i beyond c
      have hsolid := Text.isBlank_of_trimLeft_eq_cons hstart
      have hwhole : (c :: beyond).takeWhile (!endsArgument ·) ++ rest = c :: beyond := by
        rw [← hstop]
        exact List.takeWhile_append_dropWhile
      refine ⟨_, ?_, derivesArgument_takeWhile hblank hsolid hunquoted, ?_⟩
      · rw [List.append_assoc, hwhole, ← hstart]
        exact hcut
      · -- what is taken starts with something solid, so nothing is, and a comma comes next
        intro hnothing
        cases htaken : (c :: beyond).takeWhile (!endsArgument ·) with
        | nil =>
            rw [htaken, List.nil_append] at hwhole
            rw [hwhole] at hstop
            rw [hwhole, (endsArgument_of_dropWhile hstop).resolve_right hunclosed, List.head?_cons]
        | cons d more =>
            rw [htaken, List.cons_append] at hwhole
            obtain ⟨rfl, -⟩ := List.cons.inj hwhole
            have hwhite := hnothing d (by simp [htaken])
            rw [hsolid] at hwhite
            cases hwhite

/-- The reader of arguments reads what the grammar derives, up to the closing bracket. -/
theorem readsArguments_iff {text after : List Char} {arguments : List Argument} :
    ReadsArguments text arguments after ↔
      ∃ inside, text = inside ++ ')' :: after ∧ DerivesArguments inside arguments := by
  constructor
  · intro hreads
    induction hreads with
    | none hstart =>
        obtain ⟨gap, hblank, hcut⟩ := exists_gap _
        exact ⟨gap, by rw [← hstart]; exact hcut, .none hblank⟩
    | last hreads =>
        obtain ⟨written, hcut, hderives, hshown⟩ := hreads.exists_derivesArgument
        exact ⟨written, hcut, .last hderives fun hblank => absurd (hshown hblank) (by simp)⟩
    | more hreads hothers ih =>
        obtain ⟨written, rfl, hderives, -⟩ := hreads.exists_derivesArgument
        obtain ⟨inside, rfl, hlater⟩ := ih
        exact ⟨written ++ ',' :: inside, by simp, .more hderives hlater⟩
  · rintro ⟨inside, rfl, hderives⟩
    induction hderives with
    | none hblank =>
        apply ReadsArguments.none
        rw [hblank.trimLeft_append, Text.trimLeft_cons_of_not_isBlank _ (by decide)]
    | last hpiece hsolid =>
        exact .last (hpiece.readsArgument (.inr rfl) fun hblank => absurd hblank hsolid)
    | more hpiece hothers ih =>
        rw [List.append_assoc]
        exact .more (hpiece.readsArgument (.inl rfl) fun _ => rfl) ih

/-- A call starts with a character of its name. -/
theorem DerivesCall.eq_cons {written : List Char} {call : Call}
    (hderives : DerivesCall written call) :
    ∃ c more, written = c :: more ∧ isBlank c = false ∧ c ≠ ')' := by
  obtain ⟨hnamed, hword, hunclosed, hgap, harguments⟩ := hderives
  rename_i name between inside arguments
  cases name with
  | nil => contradiction
  | cons c more =>
      refine ⟨c, _, rfl, (hword c List.mem_cons_self).1, ?_⟩
      rintro rfl
      exact hunclosed rfl

theorem DerivesCall.readsCall {written : List Char} {call : Call}
    (hderives : DerivesCall written call) (rest : List Char) :
    ReadsCall (written ++ rest) call rest := by
  obtain ⟨c, more, hstart, hsolid, -⟩ := hderives.eq_cons
  have hstays : trimLeft (written ++ rest) = written ++ rest := by
    rw [hstart]
    exact Text.trimLeft_cons_of_not_isBlank _ hsolid
  cases hderives with
  | @call name between inside arguments hnamed hword hunclosed hgap hderives =>
      refine ⟨?_, ?_, between ++ '(' :: (inside ++ ')' :: rest), inside ++ ')' :: rest, ?_, ?_, ?_⟩
      · rw [String.toList_ofList]
        exact hnamed
      · rw [String.toList_ofList]
        exact fun c hmem => isMethodChar_iff.mpr (hword c hmem)
      · rw [hstays, String.toList_ofList]
        simp
      · rw [hgap.trimLeft_append, Text.trimLeft_cons_of_not_isBlank _ (by decide)]
      · exact readsArguments_iff.mpr ⟨inside, rfl, hderives⟩

theorem ReadsCall.exists_derivesCall {text after : List Char} {call : Call}
    (htrimmed : trimLeft text = text) (hunclosed : text.head? ≠ some ')')
    (hreads : ReadsCall text call after) :
    ∃ written, text = written ++ after ∧ DerivesCall written call := by
  obtain ⟨beyond, inner, hstart, hopens, harguments⟩ := hreads.opens
  obtain ⟨inside, rfl, hderives⟩ := readsArguments_iff.mp harguments
  obtain ⟨gap, hblank, hcut⟩ := exists_gap beyond
  rw [hopens] at hcut
  have hderived := DerivesCall.call hreads.named
    (fun c hmem => isMethodChar_iff.mp (hreads.word c hmem)) ?_ hblank hderives
  · rw [String.ofList_toList] at hderived
    refine ⟨_, ?_, hderived⟩
    rw [← htrimmed, hstart, hcut]
    simp
  · intro hclosing
    apply hunclosed
    rw [← htrimmed, hstart, List.head?_append, hclosing, Option.some_or]

theorem afterWord?_append (word rest : List Char) {c : Char} (hblank : isBlank c = true) :
    afterWord? (word.map Char.toLower) (word ++ c :: rest) = some rest := by
  rw [afterWord?, List.length_map, List.take_left, List.drop_left, if_pos rfl]
  exact if_pos hblank

theorem exists_word_of_afterWord? {word text rest : List Char}
    (hfound : afterWord? word text = some rest) :
    ∃ start c, text = start ++ c :: rest ∧ start.map Char.toLower = word ∧ isBlank c = true := by
  rw [afterWord?] at hfound
  split at hfound
  · rename_i hsame
    split at hfound
    · rename_i c more hcut
      split at hfound
      · rename_i hblank
        cases hfound
        refine ⟨text.take word.length, c, ?_, hsame, hblank⟩
        rw [← hcut, List.take_append_drop]
      · cases hfound
    · cases hfound
  · cases hfound

/-- The reader of joins finds a joining word with white space after it. -/
theorem readJoin?_eq_some_iff {text rest : List Char} {join : Join} :
    readJoin? text = some (join, rest) ↔
      ∃ word c, text = word ++ c :: rest ∧ word.map Char.toLower = join.chars ∧
        isBlank c = true := by
  rw [readJoin?]
  constructor
  · intro hfound
    split at hfound
    · rename_i hmatched
      cases hfound
      exact exists_word_of_afterWord? hmatched
    · obtain ⟨_, hmatched, hsame⟩ := Option.map_eq_some_iff.mp hfound
      cases hsame
      exact exists_word_of_afterWord? hmatched
  · rintro ⟨word, c, rfl, hsame, hblank⟩
    have hmatched := afterWord?_append word rest hblank
    rw [hsame] at hmatched
    cases join with
    | and =>
        rw [Join.chars] at hmatched
        rw [hmatched]
    | or =>
        -- two letters and white space are not the other word
        have hunmatched : afterWord? ['a', 'n', 'd'] (word ++ c :: rest) = none := by
          refine if_neg fun hother => ?_
          have hfirst := congrArg List.head? hother
          cases word with
          | nil => cases hsame
          | cons d more =>
              have hown := congrArg List.head? hsame
              rw [List.map_cons, List.head?_cons] at hown
              rw [List.cons_append, List.length_cons, List.take_succ_cons, List.map_cons,
                List.head?_cons, hown] at hfirst
              exact absurd hfirst (by decide)
        rw [Join.chars] at hmatched
        rw [hunmatched, hmatched]
        rfl

/-- A joining word does not start with white space. -/
theorem trimLeft_join {word : List Char} {join : Join}
    (hsame : word.map Char.toLower = join.chars) (rest : List Char) :
    trimLeft (word ++ rest) = word ++ rest := by
  cases word with
  | nil => cases join <;> cases hsame
  | cons c more =>
      apply Text.trimLeft_cons_of_not_isBlank
      rw [← Text.isBlank_toLower]
      have hfirst := congrArg List.head? hsame
      rw [List.map_cons, List.head?_cons] at hfirst
      cases join with
      | and => rw [Option.some.inj hfirst]; decide
      | or => rw [Option.some.inj hfirst]; decide

mutual

theorem ReadsCondition.exists_derivesCondition {text rest : List Char} {condition : Condition} :
    ReadsCondition text condition rest →
      ∃ written, text = written ++ trimLeft rest ∧ DerivesCondition written condition
  | .operand hreads hends => by
      obtain ⟨before, hleads, hcut⟩ := exists_gap text
      obtain ⟨after, htrails, hcut'⟩ := exists_gap rest
      obtain ⟨written, hwhole, hderives⟩ :=
        hreads.exists_derivesOperand (Text.trimLeft_trimLeft text)
      refine ⟨before ++ written ++ after, ?_, .operand hleads hderives htrails⟩
      rw [hcut, hwhole, List.append_assoc, List.append_assoc, ← hcut']
  | @ReadsCondition.group _ rest _ _ _ _ _ hreads hjoins hothers => by
      obtain ⟨before, hleads, hcut⟩ := exists_gap text
      obtain ⟨between, hgap, hcut'⟩ := exists_gap rest
      obtain ⟨written, hwhole, hderives⟩ :=
        hreads.exists_derivesOperand (Text.trimLeft_trimLeft text)
      obtain ⟨word, c, hsplit, hsame, hblank⟩ := readJoin?_eq_some_iff.mp hjoins
      obtain ⟨later, rfl, hderives'⟩ := hothers.exists_derivesCondition
      refine ⟨_, ?_, .group hleads hderives hgap hsame hblank hderives'⟩
      rw [hcut, hwhole, hcut', hsplit]
      simp

theorem ReadsOperand.exists_derivesOperand {text rest : List Char} {condition : Condition}
    (htrimmed : trimLeft text = text) : ReadsOperand text condition rest →
      ∃ written, text = written ++ rest ∧ DerivesOperand written condition
  | .enclosed hreads hcloses => by
      obtain ⟨inside, rfl, hderives⟩ := hreads.exists_derivesCondition
      refine ⟨'(' :: inside ++ [')'], ?_, .enclosed hderives⟩
      rw [hcloses]
      simp
  | .call hunclosed hreads => by
      obtain ⟨written, hwhole, hderives⟩ := hreads.exists_derivesCall htrimmed hunclosed
      exact ⟨written, hwhole, .call hderives⟩

end

/-- An operand does not start with white space. -/
theorem DerivesOperand.trimLeft_append {written : List Char} {condition : Condition}
    (hderives : DerivesOperand written condition) (rest : List Char) :
    trimLeft (written ++ rest) = written ++ rest := by
  cases hderives with
  | enclosed hinner => exact Text.trimLeft_cons_of_not_isBlank _ (by decide)
  | call hderives =>
      obtain ⟨c, more, rfl, hsolid, -⟩ := hderives.eq_cons
      exact Text.trimLeft_cons_of_not_isBlank _ hsolid

mutual

/-- What the grammar derives is read, up to a text that does not go on with the condition. -/
theorem DerivesCondition.readsCondition {written stop : List Char} {condition : Condition}
    (htrimmed : trimLeft stop = stop) (hunjoined : readJoin? stop = none) :
    DerivesCondition written condition →
      ∃ rest, ReadsCondition (written ++ stop) condition rest ∧ trimLeft rest = stop
  | @DerivesCondition.operand before written after _ hleads hderives htrails => by
      have hleft : trimLeft (after ++ stop) = stop := by
        rw [htrails.trimLeft_append, htrimmed]
      refine ⟨after ++ stop, .operand ?_ (by rw [hleft]; exact hunjoined), hleft⟩
      rw [List.append_assoc, List.append_assoc, hleads.trimLeft_append, hderives.trimLeft_append]
      exact hderives.readsOperand (after ++ stop)
  | @DerivesCondition.group before written between word later c left right join hleads hderives hgap
      hsame hblank hothers => by
      obtain ⟨rest, hreads, hends⟩ := hothers.readsCondition htrimmed hunjoined
      have hfirst : ReadsOperand
          (trimLeft (before ++ written ++ between ++ word ++ c :: later ++ stop))
          left (between ++ (word ++ c :: (later ++ stop))) := by
        have hwhole : before ++ written ++ between ++ word ++ c :: later ++ stop =
            before ++ (written ++ (between ++ (word ++ c :: (later ++ stop)))) := by
          simp
        rw [hwhole, hleads.trimLeft_append, hderives.trimLeft_append]
        exact hderives.readsOperand _
      have hjoins : readJoin? (trimLeft (between ++ (word ++ c :: (later ++ stop)))) =
          some (join, later ++ stop) := by
        have hstart : trimLeft (word ++ c :: (later ++ stop)) = word ++ c :: (later ++ stop) :=
          trimLeft_join hsame _
        rw [hgap.trimLeft_append, hstart, readJoin?_eq_some_iff]
        exact ⟨word, c, rfl, hsame, hblank⟩
      exact ⟨rest, .group hfirst hjoins hreads, hends⟩

theorem DerivesOperand.readsOperand {written : List Char} {condition : Condition} :
    DerivesOperand written condition → ∀ rest, ReadsOperand (written ++ rest) condition rest
  | @DerivesOperand.enclosed inside _ hinner => by
      intro rest
      have hcloses : trimLeft (')' :: rest) = ')' :: rest :=
        Text.trimLeft_cons_of_not_isBlank rest (by decide)
      obtain ⟨left, hreads, hends⟩ := hinner.readsCondition hcloses rfl
      have hwhole : '(' :: inside ++ [')'] ++ rest = '(' :: (inside ++ ')' :: rest) := by
        simp
      rw [hwhole]
      exact .enclosed hreads hends
  | .call hderives => by
      intro rest
      refine .call ?_ (hderives.readsCall rest)
      obtain ⟨c, more, rfl, -, hunclosed⟩ := hderives.eq_cons
      rw [List.cons_append, List.head?_cons, Ne, Option.some_inj]
      exact hunclosed

end

/-- A text is read as a condition exactly if the grammar derives the condition from it, and it
derives at most one. -/
theorem Condition.parse_eq_ok_iff_derives (text : String) :
    (∀ condition, parse text = .ok condition ↔ DerivesCondition text.toList condition) ∧
      ∀ first second, DerivesCondition text.toList first → DerivesCondition text.toList second →
        first = second := by
  have haccepts (condition : Condition) :
      parse text = .ok condition ↔ DerivesCondition text.toList condition := by
    rw [parse_eq_ok_iff]
    constructor
    · rintro ⟨rest, hreads, hends⟩
      obtain ⟨written, hwhole, hderives⟩ := hreads.exists_derivesCondition
      rw [hends, List.append_nil] at hwhole
      rwa [hwhole]
    · intro hderives
      have hreads := hderives.readsCondition Text.trimLeft_nil rfl
      rwa [List.append_nil] at hreads
  refine ⟨haccepts, fun first second hderives hderives' => ?_⟩
  have hsame := ((haccepts first).mpr hderives).symm.trans ((haccepts second).mpr hderives')
  exact Except.ok.inj hsame

end Dialogue
