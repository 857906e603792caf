/-
# The written forms of lines as a grammar

How a heading, a link, a tag, a quote and a cue are written is told here by a grammar that puts each
form together from its parts and does not say how to find them. A line has at most one of these
forms and the parts in it in one way only, and a line that has none of them is a speech. What a line
is read as is made from its form and the parts in it.

The forms do not meet because they start differently: with a hash and white space, with a hash and a
word, with two brackets, with a pointed bracket, or with a capital, a dash or an underscore. The
parts are found in one way only because a run of characters of one class ends where a character of
another class follows.
-/

import Dialogue.Line.Classify
import Dialogue.Proofs.Comment
import Dialogue.Proofs.Condition.Grammar
import Dialogue.Proofs.Line.Numbering
import Dialogue.Proofs.Text.Classes

namespace Dialogue

open Text (isBlank isWordChar trim trimLeft trimRight)

/-! ## The grammar -/

/-- What may follow the brackets of a link: white space and perhaps a comment that is not closed. -/
inductive DerivesTail : List Char → Prop where
  | gap {gap : List Char} (hblank : IsGap gap) : DerivesTail gap
  | comment {gap : List Char} (hblank : IsGap gap) (comment : List Char) :
      DerivesTail (gap ++ '%' :: '%' :: comment)

/-- A heading: one to six hashes, white space and a name up to the first mark, if there is one. -/
inductive DerivesHeading : List Char → List Char → Prop where
  | plain {count : Nat} {gap title : List Char} (hleast : 1 ≤ count) (hmost : count ≤ 6)
      (hapart : gap ≠ []) (hblank : IsGap gap) (hunmarked : ¬Comment.HasMark title) :
      DerivesHeading (List.replicate count '#' ++ gap ++ title) (trim title)
  | marked {count : Nat} {gap title : List Char} (hleast : 1 ≤ count) (hmost : count ≤ 6)
      (hapart : gap ≠ []) (hblank : IsGap gap) (hfirst : Comment.IsClear title)
      (comment : List Char) :
      DerivesHeading (List.replicate count '#' ++ gap ++ title ++ '%' :: '%' :: comment)
        (trim title)

/-- A link: a target between double brackets, perhaps with a text to display behind a bar. -/
inductive DerivesLink : List Char → List Char → Option (List Char) → Prop where
  | bare {target tail : List Char} (hwithin : ∀ c ∈ target, c ≠ ']' ∧ c ≠ '|')
      (hends : DerivesTail tail) :
      DerivesLink ('[' :: '[' :: (target ++ ']' :: ']' :: tail)) target none
  | shown {target display tail : List Char} (hwithin : ∀ c ∈ target, c ≠ ']' ∧ c ≠ '|')
      (hinside : ∀ c ∈ display, c ≠ ']') (hends : DerivesTail tail) :
      DerivesLink ('[' :: '[' :: (target ++ '|' :: (display ++ ']' :: ']' :: tail))) target
        (some display)

/-- A tag: a hash and a word, perhaps with arguments behind white space. -/
inductive DerivesTag : List Char → List Char → List Char → Prop where
  | bare {name : List Char} (hnamed : name ≠ []) (hword : ∀ c ∈ name, isWordChar c = true) :
      DerivesTag ('#' :: name) name []
  | given {name gap args : List Char} (hnamed : name ≠ [])
      (hword : ∀ c ∈ name, isWordChar c = true) (hapart : gap ≠ []) (hblank : IsGap gap) :
      DerivesTag ('#' :: (name ++ (gap ++ args))) name (trim args)

/-- The name that a cue shows: the word `as` and another word, each behind white space. The other
word goes on as far as it can. -/
inductive DerivesShown : List Char → List Char → List Char → Prop where
  | named {gap between shown rest : List Char} (hapart : gap ≠ []) (hblank : IsGap gap)
      (hapart' : between ≠ []) (hblank' : IsGap between) (hsolid : shown ≠ [])
      (hword : ∀ c ∈ shown, isWordChar c = true) (hends : ∀ c ∈ rest.head?, isWordChar c = false) :
      DerivesShown (gap ++ 'a' :: 's' :: (between ++ (shown ++ rest))) shown rest

/-- The attributes of a cue: the pieces between commas behind a dash, without white space around
them and without the blank ones. -/
inductive DerivesAttributes : List Char → List (List Char) → Prop where
  | listed {gap pieces : List Char} (hblank : IsGap gap) :
      DerivesAttributes (gap ++ '-' :: pieces)
        (((pieces.splitOn ',').map trim).filter (· ≠ []))
  | none {text : List Char} (hundashed : ∀ gap pieces, IsGap gap → text ≠ gap ++ '-' :: pieces) :
      DerivesAttributes text []

/-- A cue: a name that ends the line or has white space behind it, perhaps the name to show in its
place, and perhaps attributes. What follows after that is left out. -/
inductive DerivesCue : List Char → List Char → Option (List Char) → List (List Char) → Prop where
  | shown {identifier text shown rest : List Char} {attributes : List (List Char)}
      (hnamed : identifier ≠ []) (hletters : ∀ c ∈ identifier, Grammar.isNameChar c = true)
      (hends : ∀ c ∈ text.head?, isBlank c = true) (hshows : DerivesShown text shown rest)
      (hlisted : DerivesAttributes rest attributes) :
      DerivesCue (identifier ++ text) identifier (some shown) attributes
  | plain {identifier text : List Char} {attributes : List (List Char)}
      (hnamed : identifier ≠ []) (hletters : ∀ c ∈ identifier, Grammar.isNameChar c = true)
      (hends : ∀ c ∈ text.head?, isBlank c = true)
      (hunshown : ∀ shown rest, ¬DerivesShown text shown rest)
      (hlisted : DerivesAttributes text attributes) :
      DerivesCue (identifier ++ text) identifier none attributes

/-- A form that a line can have, with the parts in it. -/
inductive Form where
  | heading (name : List Char)
  | link (target : List Char) (display : Option (List Char))
  | tag (name args : List Char)
  | quote (text : List Char)
  | cue (identifier : List Char) (shownAs : Option (List Char)) (attributes : List (List Char))
  | speech
deriving DecidableEq

/-- A line is written in a form. -/
inductive DerivesForm : List Char → Form → Prop where
  | heading {line name : List Char} (hderives : DerivesHeading line name) :
      DerivesForm line (.heading name)
  | link {line target : List Char} {display : Option (List Char)}
      (hderives : DerivesLink line target display) : DerivesForm line (.link target display)
  | tag {line name args : List Char} (hderives : DerivesTag line name args) :
      DerivesForm line (.tag name args)
  | quote (text : List Char) : DerivesForm ('>' :: text) (.quote (trim text))
  | cue {line identifier : List Char} {shownAs : Option (List Char)}
      {attributes : List (List Char)} (hderives : DerivesCue line identifier shownAs attributes) :
      DerivesForm line (.cue identifier shownAs attributes)

/-- The form of a line: the one that it is written in, or a speech. -/
inductive HasForm (line : List Char) : Form → Prop where
  | written {form : Form} (hderives : DerivesForm line form) : HasForm line form
  | speech (hunwritten : ∀ form, ¬DerivesForm line form) : HasForm line .speech

/-- What a line from a source is read as if it has a form. A link is shown by the text that it
displays or, if that is blank, by its target without the hashes in front. -/
def Form.outcome (source : Source) : Form → Except SourceError Item
  | heading name => .ok (.heading ⟨String.ofList name, source.lineNo⟩)
  | link target display =>
    if trim target = [] then .error (.blankTarget source.raw source.lineNo)
    else
      .ok (.line (.link ⟨source, String.ofList (trim target), String.ofList
        (if trim (display.getD []) = [] then trim ((trim target).dropWhile (· == '#'))
          else trim (display.getD []))⟩))
  | tag name args => .ok (.line (.tag ⟨source, String.ofList name, String.ofList args⟩))
  | quote text => .ok (.line (.quote ⟨source, String.ofList text⟩))
  | cue identifier shownAs attributes =>
    .ok (.line (.cue ⟨source, String.ofList identifier, shownAs.map String.ofList,
      attributes.map String.ofList⟩))
  | speech => .ok (.line (.speech ⟨source, source.raw⟩))

theorem DerivesShown.suffix {text shown rest : List Char} (hshows : DerivesShown text shown rest) :
    rest <:+ text := by
  cases hshows with
  | @named gap between shown rest hapart hblank hapart' hblank' hsolid hword hends =>
      exact ⟨gap ++ 'a' :: 's' :: (between ++ shown), by simp⟩

theorem DerivesLink.head?_eq {line target : List Char} {display : Option (List Char)}
    (hderives : DerivesLink line target display) : line.head? = some '[' := by
  cases hderives <;> rfl

theorem DerivesTag.starts {line name args : List Char} (hderives : DerivesTag line name args) :
    ∃ c rest, isWordChar c = true ∧ line = '#' :: c :: rest := by
  cases hderives with
  | bare hnamed hword =>
      obtain ⟨c, rest, rfl⟩ := List.exists_cons_of_ne_nil hnamed
      exact ⟨c, rest, hword c List.mem_cons_self, rfl⟩
  | given hnamed hword hapart hblank =>
      obtain ⟨c, rest, rfl⟩ := List.exists_cons_of_ne_nil hnamed
      exact ⟨c, _, hword c List.mem_cons_self, rfl⟩

theorem DerivesCue.starts {line identifier : List Char} {shownAs : Option (List Char)}
    {attributes : List (List Char)} (hderives : DerivesCue line identifier shownAs attributes) :
    ∃ c, line.head? = some c ∧ Grammar.isNameChar c = true := by
  cases hderives with
  | shown hnamed hletters hends hshows hlisted =>
      obtain ⟨c, rest, rfl⟩ := List.exists_cons_of_ne_nil hnamed
      exact ⟨c, rfl, hletters c List.mem_cons_self⟩
  | plain hnamed hletters hends hunshown hlisted =>
      obtain ⟨c, rest, rfl⟩ := List.exists_cons_of_ne_nil hnamed
      exact ⟨c, rfl, hletters c List.mem_cons_self⟩

/-! ## Runs and gaps -/

section

variable {p : Char → Bool} {run gap : List Char}

/-- A run of characters of a class ends where a character of another class follows. -/
theorem takeWhile_run (hinside : ∀ c ∈ run, p c = true) (rest : List Char)
    (hstops : ∀ c ∈ rest.head?, p c = false) :
    (run ++ rest).takeWhile p = run ∧ (run ++ rest).dropWhile p = rest := by
  rw [List.takeWhile_append_of_pos hinside, List.dropWhile_append_of_pos hinside]
  cases rest with
  | nil => simp
  | cons c later =>
      have hstop := hstops c rfl
      rw [List.takeWhile_cons_of_neg (by simp [hstop]),
        List.dropWhile_cons_of_neg (by simp [hstop]), List.append_nil]
      exact ⟨rfl, rfl⟩

theorem of_mem_head?_dropWhile (text : List Char) :
    ∀ c ∈ (text.dropWhile p).head?, p c = false := by
  intro c hfirst
  have hstops := List.head?_dropWhile_not p text
  rw [Option.mem_def.mp hfirst] at hstops
  simpa using hstops

theorem IsGap.trim_append (hblank : IsGap gap) (rest : List Char) :
    trim (gap ++ rest) = trim rest := by
  rw [trim, trim, hblank.trimLeft_append]

theorem IsGap.isClear (hblank : IsGap gap) : Comment.IsClear gap := by
  induction gap with
  | nil => exact Comment.isClear_nil
  | cons c rest ih =>
      obtain ⟨hfirst, hlater⟩ := List.forall_mem_cons.mp hblank
      refine Comment.isClear_cons_iff.mpr ⟨?_, ih hlater⟩
      rintro ⟨rfl, -⟩
      cases hfirst

end

namespace Grammar

variable {line text target name args shown rest : List Char} {display : Option (List Char)}

/-! ## Headings -/

/-- The name of a heading is what follows its hashes and its white space, up to the first mark. -/
theorem heading?_append {count : Nat} {gap : List Char} (hleast : 1 ≤ count) (hmost : count ≤ 6)
    (hapart : gap ≠ []) (hblank : IsGap gap) (rest : List Char) :
    heading? (List.replicate count '#' ++ gap ++ rest) =
      some (trim (((Comment.cutAtMark rest).map Prod.fst).getD rest)) := by
  cases gap with
  | nil => exact absurd rfl hapart
  | cons c more =>
      obtain ⟨hfirst, hlater⟩ := List.forall_mem_cons.mp hblank
      have hstops : ∀ d ∈ (c :: (more ++ rest)).head?, (d == '#') = false := by
        rintro d ⟨⟩
        rw [beq_eq_false_iff_ne]
        rintro rfl
        cases hfirst
      have hinside : ∀ d ∈ List.replicate count '#', (d == '#') = true := by
        simp [List.mem_replicate]
      obtain ⟨hhashes, hothers⟩ := takeWhile_run hinside _ hstops
      rw [List.append_assoc, List.cons_append, heading?, hhashes, hothers, List.length_replicate]
      simp only [hleast, hmost, hfirst, and_self, if_true]
      have hfound := Comment.cutAtMark_append (IsGap.isClear hlater) rest
      cases hcut : Comment.cutAtMark rest with
      | none =>
          rw [hcut] at hfound
          rw [hfound]
          exact congrArg some (IsGap.trim_append hlater rest)
      | some parts =>
          rw [hcut] at hfound
          rw [hfound]
          exact congrArg some (IsGap.trim_append hlater parts.1)

theorem heading?_eq_some_iff : heading? line = some name ↔ DerivesHeading line name := by
  constructor
  · intro hread
    have hwhole := line.takeWhile_append_dropWhile (p := (· == '#'))
    have hhashes : line.takeWhile (· == '#') =
        List.replicate (line.takeWhile (· == '#')).length '#' :=
      List.eq_replicate_of_mem fun _ hmem =>
        eq_of_beq (List.mem_takeWhile_imp (p := (· == '#')) hmem)
    rw [heading?] at hread
    split at hread
    · rename_i c rest hbehind
      split at hread
      · rename_i hheld
        obtain ⟨hleast, hmost, hblank⟩ := hheld
        rw [hbehind, hhashes] at hwhole
        -- one character is gap enough, as the name is trimmed anyway
        have hgap : IsGap [c] := List.forall_mem_singleton.mpr hblank
        rw [← hwhole]
        split at hread
        · rename_i title comment hcut
          cases hread
          rw [Comment.eq_append_of_cutAtMark hcut]
          have hderives := DerivesHeading.marked hleast hmost (List.cons_ne_nil c []) hgap
            (Comment.isClear_of_cutAtMark hcut) comment
          rwa [List.append_assoc, List.append_assoc] at hderives
        · rename_i huncut
          cases hread
          have hderives := DerivesHeading.plain hleast hmost (List.cons_ne_nil c []) hgap
            (Comment.cutAtMark_eq_none_iff.mp huncut)
          rwa [List.append_assoc] at hderives
      · cases hread
    · cases hread
  · intro hderives
    cases hderives with
    | plain hleast hmost hapart hblank hunmarked =>
        rw [heading?_append hleast hmost hapart hblank, Comment.cutAtMark_eq_none_iff.mpr hunmarked]
        rfl
    | @marked count gap title hleast hmost hapart hblank hfirst comment =>
        rw [List.append_assoc _ title, heading?_append hleast hmost hapart hblank,
          Comment.cutAtMark_append hfirst, Comment.cutAtMark]
        simp

/-! ## Links -/

theorem isFinished_iff (hsingle : '\n' ∉ text) : isFinished text = true ↔ DerivesTail text := by
  constructor
  · intro hfinished
    obtain ⟨gap, hblank, hparts⟩ := exists_gap text
    rw [isFinished] at hfinished
    split at hfinished
    · rename_i hnothing
      exact .gap (trimLeft_eq_nil_iff.mp hnothing)
    · rename_i comment hmarked
      rw [hparts, hmarked]
      exact .comment hblank comment
    · cases hfinished
  · intro hderives
    cases hderives with
    | gap hblank => rw [isFinished, trimLeft_eq_nil_iff.mpr hblank]
    | @comment gap hblank comment =>
        have hunbroken : '\n' ∉ comment := fun hmem => hsingle (by simp [hmem])
        rw [isFinished, hblank.trimLeft_append, Text.trimLeft_cons_of_not_isBlank _ (by decide)]
        simpa using hunbroken

theorem link?_eq_some_iff (hsingle : '\n' ∉ line) :
    link? line = some (target, display) ↔ DerivesLink line target display := by
  constructor
  · intro hread
    rw [link?.eq_def] at hread
    split at hread
    · rename_i rest
      have hwhole := rest.takeWhile_append_dropWhile (p := fun c => c != ']' && c != '|')
      have hwithin : ∀ c ∈ rest.takeWhile (fun c => c != ']' && c != '|'), c ≠ ']' ∧ c ≠ '|' :=
        fun _ hmem => by simpa using List.mem_takeWhile_imp hmem
      rw [← hwhole] at hsingle ⊢
      split at hread
      · rename_i tail hbehind
        split at hread
        · rename_i hfinished
          cases hread
          rw [hbehind] at hsingle ⊢
          refine .bare hwithin ((isFinished_iff fun hmem => hsingle ?_).mp hfinished)
          simp [hmem]
        · cases hread
      · rename_i more hbehind
        have hinside : ∀ c ∈ more.takeWhile (· != ']'), c ≠ ']' :=
          fun _ hmem => by simpa using List.mem_takeWhile_imp hmem
        rw [hbehind, ← more.takeWhile_append_dropWhile (p := (· != ']'))] at hsingle ⊢
        split at hread
        · rename_i tail hafter
          split at hread
          · rename_i hfinished
            cases hread
            rw [hafter] at hsingle ⊢
            refine .shown hwithin hinside ((isFinished_iff fun hmem => hsingle ?_).mp hfinished)
            simp [hmem]
          · cases hread
        · cases hread
      · cases hread
    · cases hread
  · intro hderives
    cases hderives with
    | @bare target tail hwithin hends =>
        have hfinished := (isFinished_iff fun hmem => hsingle (by simp [hmem])).mpr hends
        obtain ⟨hbefore, hbehind⟩ := takeWhile_run (p := fun c => c != ']' && c != '|')
          (by simpa using hwithin) (']' :: ']' :: tail) (by simp)
        rw [link?, hbefore, hbehind]
        simp only [hfinished, if_true]
    | @shown target display tail hwithin hinside hends =>
        have hfinished := (isFinished_iff fun hmem => hsingle (by simp [hmem])).mpr hends
        obtain ⟨hbefore, hbehind⟩ := takeWhile_run (p := fun c => c != ']' && c != '|')
          (by simpa using hwithin) ('|' :: (display ++ ']' :: ']' :: tail)) (by simp)
        obtain ⟨hbetween, hafter⟩ := takeWhile_run (p := (· != ']')) (by simpa using hinside)
          (']' :: ']' :: tail) (by simp)
        rw [link?, hbefore, hbehind]
        simp only [hbetween, hafter, hfinished, if_true]

/-! ## Tags -/

theorem tag?_eq_some_iff (hsingle : '\n' ∉ line) :
    tag? line = some (name, args) ↔ DerivesTag line name args := by
  constructor
  · intro hread
    rw [tag?.eq_def] at hread
    split at hread
    · rename_i rest
      have hword : ∀ c ∈ rest.takeWhile isWordChar, isWordChar c = true :=
        fun _ => List.mem_takeWhile_imp
      rw [← rest.takeWhile_append_dropWhile (p := isWordChar)]
      split at hread
      · cases hread
      · rename_i hbehind hnamed
        cases hread
        rw [hbehind, List.append_nil]
        exact .bare hnamed hword
      · rename_i c more hbehind hnamed
        simp only at hread
        split at hread
        · rename_i hheld
          cases hread
          rw [hbehind, trim, Text.trimLeft_trimLeft]
          have hgap : IsGap [c] := List.forall_mem_singleton.mpr (Bool.and_eq_true_iff.mp hheld).1
          exact .given hnamed hword (List.cons_ne_nil c []) hgap
        · cases hread
    · cases hread
  · intro hderives
    cases hderives with
    | bare hnamed hword =>
        obtain ⟨hbefore, hbehind⟩ := takeWhile_run hword [] (by simp)
        rw [List.append_nil] at hbefore hbehind
        rw [tag?, hbefore, hbehind]
        split
        · contradiction
        · rfl
        · contradiction
    | @given name gap args hnamed hword hapart hblank =>
        cases gap with
        | nil => exact absurd rfl hapart
        | cons c more =>
            obtain ⟨hfirst, (hlater : IsGap more)⟩ := List.forall_mem_cons.mp hblank
            -- white space is no part of a word, so the name ends in front of it
            have hstops : ∀ d ∈ (c :: (more ++ args)).head?, isWordChar d = false := by
              rintro d ⟨⟩
              exact Text.isWordChar_of_isBlank hfirst
            obtain ⟨hbefore, hbehind⟩ := takeWhile_run hword _ hstops
            have hunbroken : '\n' ∉ trimLeft args := fun hmem =>
              hsingle (by simp [(Text.trimLeft_suffix args).subset hmem])
            rw [List.cons_append, tag?, hbefore, hbehind]
            split
            · contradiction
            · contradiction
            · rename_i hsame
              cases hsame
              simp [hfirst, hunbroken, trim, Text.trimLeft_trimLeft, hlater.trimLeft_append]

/-! ## Cues -/

theorem shownAs?_eq_some_iff :
    shownAs? text = some (shown, rest) ↔ DerivesShown text shown rest := by
  constructor
  · intro hread
    rw [shownAs?.eq_def] at hread
    split at hread
    · rename_i first behind
      obtain ⟨gap, hblank, hparts⟩ := exists_gap behind
      split at hread
      · rename_i second more hstarts
        obtain ⟨between, hblank', hparts'⟩ := exists_gap more
        have hword : ∀ c ∈ (trimLeft more).takeWhile isWordChar, isWordChar c = true :=
          fun _ => List.mem_takeWhile_imp
        have hends := of_mem_head?_dropWhile (p := isWordChar) (trimLeft more)
        split at hread
        · rename_i hheld
          obtain ⟨hfirst', hsecond'⟩ := Bool.and_eq_true_iff.mp hheld
          split at hread
          · cases hread
          · rename_i hsolid
            cases hread
            have hwhole : first :: behind = first :: gap ++ 'a' :: 's' :: (second :: between ++
                ((trimLeft more).takeWhile isWordChar ++
                  (trimLeft more).dropWhile isWordChar)) := by
              rw [List.takeWhile_append_dropWhile, List.cons_append, List.cons_append, ← hparts',
                ← hstarts, ← hparts]
            rw [hwhole]
            exact .named (List.cons_ne_nil first gap) (List.forall_mem_cons.mpr ⟨hfirst', hblank⟩)
              (List.cons_ne_nil second between) (List.forall_mem_cons.mpr ⟨hsecond', hblank'⟩)
              hsolid
              hword hends
        · cases hread
      · cases hread
    · cases hread
  · intro hderives
    cases hderives with
    | @named gap between shown rest hapart hblank hapart' hblank' hsolid hword hends =>
        obtain ⟨first, more, rfl⟩ := List.exists_cons_of_ne_nil hapart
        obtain ⟨second, more', rfl⟩ := List.exists_cons_of_ne_nil hapart'
        obtain ⟨hfirst', (hlater : IsGap more)⟩ := List.forall_mem_cons.mp hblank
        obtain ⟨hsecond', (hlater' : IsGap more')⟩ := List.forall_mem_cons.mp hblank'
        obtain ⟨c, others, rfl⟩ := List.exists_cons_of_ne_nil hsolid
        obtain ⟨hbefore, hbehind⟩ := takeWhile_run hword _ hends
        -- the gap ends where the word starts
        have hstart : trimLeft (more' ++ (c :: others ++ rest)) = c :: others ++ rest := by
          rw [hlater'.trimLeft_append, List.cons_append, Text.trimLeft_cons_of_not_isBlank _
            (Text.isBlank_of_isWordChar (hword c List.mem_cons_self))]
        rw [List.cons_append, shownAs?, hlater.trimLeft_append,
          Text.trimLeft_cons_of_not_isBlank _ (by decide), List.cons_append]
        simp only [hfirst', hsecond', Bool.and_self, if_true, hstart, hbefore, hbehind]

theorem map_trim_splitOn_trimLeft (text : List Char) :
    ((trimLeft text).splitOn ',').map trim = (text.splitOn ',').map trim := by
  rw [trimLeft, splitOn_dropWhile (by decide)]
  obtain ⟨piece, pieces, hcut⟩ := List.exists_cons_of_ne_nil (List.splitOn_ne_nil ',' text)
  rw [hcut, List.modifyHead_cons, List.map_cons, List.map_cons]
  exact congrArg (· :: _) (congrArg trimRight (Text.trimLeft_trimLeft piece))

theorem attributes_dash {gap pieces : List Char} (hblank : IsGap gap) (hsingle : '\n' ∉ pieces) :
    attributes (gap ++ '-' :: pieces) = ((pieces.splitOn ',').map trim).filter (· ≠ []) := by
  have hunbroken : ∀ c ∈ trimLeft pieces, (c != '\n') = true := by
    intro c hmem
    rw [bne_iff_ne]
    rintro rfl
    exact hsingle ((Text.trimLeft_suffix pieces).subset hmem)
  rw [attributes, hblank.trimLeft_append, Text.trimLeft_cons_of_not_isBlank _ (by decide)]
  simp only [List.takeWhile_eq_self_iff.mpr hunbroken, map_trim_splitOn_trimLeft]

theorem attributes_undashed (hundashed : ∀ gap pieces, IsGap gap → text ≠ gap ++ '-' :: pieces) :
    attributes text = [] := by
  obtain ⟨gap, hblank, hparts⟩ := exists_gap text
  rw [attributes]
  split
  · rename_i pieces hdashed
    rw [hdashed] at hparts
    exact absurd hparts (hundashed gap pieces hblank)
  · rfl

theorem attributes_eq_iff {listed : List (List Char)} (hsingle : '\n' ∉ text) :
    attributes text = listed ↔ DerivesAttributes text listed := by
  constructor
  · rintro rfl
    by_cases hdashed : ∃ gap pieces, IsGap gap ∧ text = gap ++ '-' :: pieces
    · obtain ⟨gap, pieces, hblank, rfl⟩ := hdashed
      rw [attributes_dash hblank fun hmem => hsingle (by simp [hmem])]
      exact .listed hblank
    · have hundashed : ∀ gap pieces, IsGap gap → text ≠ gap ++ '-' :: pieces :=
        fun gap pieces hblank hsame => hdashed ⟨gap, pieces, hblank, hsame⟩
      rw [attributes_undashed hundashed]
      exact .none hundashed
  · intro hderives
    cases hderives with
    | listed hblank => exact attributes_dash hblank fun hmem => hsingle (by simp [hmem])
    | none hundashed => exact attributes_undashed hundashed

theorem cue?_append {identifier : List Char} (hnamed : identifier ≠ [])
    (hletters : ∀ c ∈ identifier, isNameChar c = true)
    (hends : ∀ c ∈ text.head?, isBlank c = true) :
    cue? (identifier ++ text) =
      match shownAs? text with
      | some (shown, more) => some ⟨identifier, some shown, attributes more⟩
      | none => some ⟨identifier, none, attributes text⟩ := by
  have hstops : ∀ c ∈ text.head?, isNameChar c = false := by
    intro c hfirst
    rw [Bool.eq_false_iff]
    intro hletter
    have hsolid := isBlank_of_isNameChar hletter
    rw [hends c hfirst] at hsolid
    cases hsolid
  obtain ⟨hbefore, hbehind⟩ := takeWhile_run hletters _ hstops
  rw [cue?, hbefore, hbehind]
  exact if_pos ⟨hnamed, (Option.all_eq_true _ _).mpr hends⟩

theorem cue?_eq_some_iff {identifier : List Char} {shownAs : Option (List Char)}
    {listed : List (List Char)} (hsingle : '\n' ∉ line) :
    cue? line = some ⟨identifier, shownAs, listed⟩ ↔
      DerivesCue line identifier shownAs listed := by
  constructor
  · intro hread
    have hwhole := line.takeWhile_append_dropWhile (p := isNameChar)
    have hletters : ∀ c ∈ line.takeWhile isNameChar, isNameChar c = true :=
      fun _ => List.mem_takeWhile_imp
    have hsingle' : '\n' ∉ line.dropWhile isNameChar :=
      fun hmem => hsingle ((List.dropWhile_suffix isNameChar).subset hmem)
    rw [cue?] at hread
    split at hread
    · rename_i hheld
      obtain ⟨hnamed, hblank⟩ := hheld
      have hends := (Option.all_eq_true _ _).mp hblank
      split at hread
      · rename_i shown rest hshows
        cases hread
        have hshows := shownAs?_eq_some_iff.mp hshows
        have hlisted := (attributes_eq_iff fun hmem => hsingle' (hshows.suffix.subset hmem)).mp rfl
        have hderives := DerivesCue.shown hnamed hletters hends hshows hlisted
        rwa [hwhole] at hderives
      · rename_i hunshown
        cases hread
        have hunshown : ∀ shown rest, ¬DerivesShown (line.dropWhile isNameChar) shown rest := by
          intro shown rest hshows
          rw [shownAs?_eq_some_iff.mpr hshows] at hunshown
          cases hunshown
        have hlisted := (attributes_eq_iff hsingle').mp rfl
        have hderives := DerivesCue.plain hnamed hletters hends hunshown hlisted
        rwa [hwhole] at hderives
    · cases hread
  · intro hderives
    cases hderives with
    | @shown _ text shown rest _ hnamed hletters hends hshows hlisted =>
        have hsingle' : '\n' ∉ rest :=
          fun hmem => hsingle (List.mem_append_right _ (hshows.suffix.subset hmem))
        rw [cue?_append hnamed hletters hends, shownAs?_eq_some_iff.mpr hshows,
          ← (attributes_eq_iff hsingle').mpr hlisted]
    | @plain _ text _ hnamed hletters hends hunshown hlisted =>
        have hsingle' : '\n' ∉ text := fun hmem => hsingle (List.mem_append_right _ hmem)
        have hunshown : shownAs? text = none :=
          Option.eq_none_iff_forall_ne_some.mpr fun (shown, rest) hshows =>
            hunshown shown rest (shownAs?_eq_some_iff.mp hshows)
        rw [cue?_append hnamed hletters hends, hunshown, ← (attributes_eq_iff hsingle').mpr hlisted]

/-! ## How lines start -/

theorem heading?_of_head?_ne (hother : line.head? ≠ some '#') : heading? line = none := by
  cases line with
  | nil => rfl
  | cons c rest =>
      have hplain : ¬(c == '#') = true := fun hsame => hother (congrArg some (eq_of_beq hsame))
      rw [heading?, List.takeWhile_cons_of_neg (p := (· == '#')) hplain,
        List.dropWhile_cons_of_neg (p := (· == '#')) hplain]
      simp

/-- A hash and a word start no heading. -/
theorem heading?_of_isWordChar {c : Char} (hword : isWordChar c = true) (rest : List Char) :
    heading? ('#' :: c :: rest) = none := by
  have hplain : ¬(c == '#') = true := by
    rw [beq_iff_eq]
    rintro rfl
    cases hword
  rw [heading?, List.dropWhile_cons_of_pos rfl, List.dropWhile_cons_of_neg (p := (· == '#')) hplain]
  simp [Text.isBlank_of_isWordChar hword]

theorem link?_of_head?_ne (hother : line.head? ≠ some '[') : link? line = none := by
  rw [link?.eq_def]
  split
  · exact absurd rfl hother
  · rfl

theorem tag?_of_head?_ne (hother : line.head? ≠ some '#') : tag? line = none := by
  rw [tag?.eq_def]
  split
  · exact absurd rfl hother
  · rfl

end Grammar

namespace Form

variable {line : List Char} {form : Form}

/-- The form of a line, found by trying one form after the other. -/
def ofLine (line : List Char) : Form :=
  match Grammar.heading? line with
  | some name => .heading name
  | none =>
    match Grammar.link? line with
    | some (target, display) => .link target display
    | none =>
      match Grammar.tag? line with
      | some (name, args) => .tag name args
      | none =>
        if line.head? = some '>' then .quote (trim line.tail)
        else
          match Grammar.cue? line with
          | some parts => .cue parts.identifier parts.shownAs parts.attributes
          | none => .speech

/-- The order in which the forms are tried does not matter: a line that is written in a form is
not written in one that is tried before. -/
theorem ofLine_of_derivesForm (hsingle : '\n' ∉ line) (hderives : DerivesForm line form) :
    ofLine line = form := by
  cases hderives with
  | heading hderives => rw [ofLine, Grammar.heading?_eq_some_iff.mpr hderives]
  | link hderives =>
      rw [ofLine, Grammar.heading?_of_head?_ne (by simp [hderives.head?_eq]),
        (Grammar.link?_eq_some_iff hsingle).mpr hderives]
  | tag hderives =>
      obtain ⟨c, rest, hword, rfl⟩ := hderives.starts
      rw [ofLine, Grammar.heading?_of_isWordChar hword, Grammar.link?_of_head?_ne (by simp),
        (Grammar.tag?_eq_some_iff hsingle).mpr hderives]
  | quote text =>
      rw [ofLine, Grammar.heading?_of_head?_ne (by simp), Grammar.link?_of_head?_ne (by simp),
        Grammar.tag?_of_head?_ne (by simp)]
      rfl
  | cue hderives =>
      obtain ⟨c, hfirst, hletter⟩ := hderives.starts
      have hother : ∀ d, Grammar.isNameChar d = false → line.head? ≠ some d := by
        intro d hunnamed hsame
        rw [hfirst] at hsame
        cases hsame
        rw [hletter] at hunnamed
        cases hunnamed
      rw [ofLine, Grammar.heading?_of_head?_ne (hother '#' rfl),
        Grammar.link?_of_head?_ne (hother '[' rfl), Grammar.tag?_of_head?_ne (hother '#' rfl)]
      simp only [if_neg (hother '>' rfl), (Grammar.cue?_eq_some_iff hsingle).mpr hderives]

theorem derivesForm_ofLine_or (hsingle : '\n' ∉ line) :
    DerivesForm line (ofLine line) ∨ ofLine line = .speech := by
  rw [ofLine]
  split
  · rename_i name hheaded
    exact .inl (.heading (Grammar.heading?_eq_some_iff.mp hheaded))
  · split
    · rename_i target display hlinked
      exact .inl (.link ((Grammar.link?_eq_some_iff hsingle).mp hlinked))
    · split
      · rename_i name args htagged
        exact .inl (.tag ((Grammar.tag?_eq_some_iff hsingle).mp htagged))
      · split
        · rename_i hquoted
          obtain ⟨text, rfl⟩ := List.head?_eq_some_iff.mp hquoted
          exact .inl (.quote text)
        · split
          · rename_i parts hcued
            exact .inl (.cue ((Grammar.cue?_eq_some_iff hsingle).mp hcued))
          · exact .inr rfl

theorem hasForm_iff (hsingle : '\n' ∉ line) : HasForm line form ↔ form = ofLine line := by
  constructor
  · intro hheld
    cases hheld with
    | written hderives => exact (ofLine_of_derivesForm hsingle hderives).symm
    | speech hunwritten =>
        rcases derivesForm_ofLine_or hsingle with hderives | hspeech
        · exact absurd hderives (hunwritten _)
        · exact hspeech.symm
  · rintro rfl
    rcases derivesForm_ofLine_or hsingle with hderives | hspeech
    · exact .written hderives
    · rw [hspeech]
      -- a form that the line is written in would have been found
      refine .speech fun form hderives => ?_
      have hsame := ofLine_of_derivesForm hsingle hderives
      rw [hspeech] at hsame
      subst hsame
      cases hderives

end Form

theorem Link.nameOf_eq (target : List Char) (display : Option (List Char)) :
    Link.nameOf target display =
      if trim (display.getD []) = [] then trim (target.dropWhile (· == '#'))
      else trim (display.getD []) := by
  rw [Link.nameOf]
  split
  · rename_i hblank
    rw [if_pos hblank]
  · rename_i hshown
    rw [if_neg hshown]

/-- What a line that is no heading is read as is made from its form. -/
theorem Line.classifyChars_eq_outcome {text : List Char} (hunheaded : Grammar.heading? text = none)
    (lineNo : Nat) :
    (Line.classifyChars text lineNo).map Item.line =
      (Form.ofLine text).outcome ⟨String.ofList text, lineNo⟩ := by
  rw [Form.ofLine, hunheaded, Line.classifyChars]
  cases Grammar.link? text with
  | some parts =>
      obtain ⟨target, display⟩ := parts
      simp only [Form.outcome]
      split
      · rename_i hblank
        rw [if_pos hblank]
        rfl
      · rename_i hsolid
        rw [if_neg hsolid, Link.nameOf_eq]
        rfl
  | none =>
      cases Grammar.tag? text with
      | some parts => rfl
      | none =>
          simp only
          split
          · rfl
          · cases Grammar.cue? text with
            | some parts => rfl
            | none => rfl

namespace Item

variable {line : List Char}

theorem ofLine?_eq_outcome (hsolid : line ≠ []) (htrimmed : trim line = line) (lineNo : Nat) :
    ofLine? line lineNo =
      ((Form.ofLine line).outcome ⟨String.ofList line, lineNo⟩).map some := by
  rw [ofLine?, htrimmed]
  split
  · contradiction
  · cases hheaded : Grammar.heading? line with
    | some name =>
        rw [Form.ofLine, hheaded]
        rfl
    | none =>
        rw [← Line.classifyChars_eq_outcome hheaded]
        cases Line.classifyChars line lineNo <;> rfl

/-- A line has exactly one form, and the parts in it are unique. They decide what the line is read
as. -/
theorem ofLine?_of_hasForm (hsolid : line ≠ []) (htrimmed : trim line = line)
    (hsingle : '\n' ∉ line) (lineNo : Nat) :
    (∃! form, HasForm line form) ∧
      ∀ form, HasForm line form →
        ofLine? line lineNo = (form.outcome ⟨String.ofList line, lineNo⟩).map some := by
  refine ⟨⟨Form.ofLine line, (Form.hasForm_iff hsingle).mpr rfl, ?_⟩, ?_⟩
  · intro other hheld
    exact (Form.hasForm_iff hsingle).mp hheld
  · intro form hheld
    rw [(Form.hasForm_iff hsingle).mp hheld]
    exact ofLine?_eq_outcome hsolid htrimmed lineNo

/-- One hyphen belongs to the name of the speaker, and the other one opens the attributes. -/
theorem ofLine?_of_hasForm_hyphens :
    let line := "O-K  as Jo-hn, ,sad".toList
    let form : Form := .cue "O-K".toList (some "Jo".toList) ["hn".toList, "sad".toList]
    line ≠ [] ∧ trim line = line ∧ '\n' ∉ line ∧ (∃! other, HasForm line other) ∧
      HasForm line form ∧
      ofLine? line 3 = .ok (some (.line (.cue ⟨⟨"O-K  as Jo-hn, ,sad", 3⟩, "O-K", some "Jo",
        ["hn", "sad"]⟩))) := by
  intro line form
  have hsolid : line ≠ [] := by decide
  have htrimmed : trim line = line := by decide
  have hsingle : '\n' ∉ line := by decide
  obtain ⟨hunique, hread⟩ := ofLine?_of_hasForm hsolid htrimmed hsingle 3
  have hheld : HasForm line form := (Form.hasForm_iff hsingle).mpr (by decide +kernel)
  exact ⟨hsolid, htrimmed, hsingle, hunique, hheld, hread form hheld⟩

end Item

end Dialogue
