/-
# What a collection holds

A source is cut into sections at its headings, and every section becomes a script. Nothing is lost
and nothing appears twice: the sections, one after the other, are the items of the source. So a
collection that has been read has a script for every heading, one more if something stands before
the first heading or there is nothing at all, and the lines of its scripts are the lines of the
source in their order.
-/

import Dialogue.Collection.OfText
import Dialogue.Proofs.Line.Numbering

namespace Dialogue

/-- Whether an item is a heading. -/
def Item.isHeading : Item → Bool
  | heading _ => true
  | line _ => false

namespace Section

theorem takeLines_append (items : List Item) :
    (takeLines items).1.map Item.line ++ (takeLines items).2 = items := by
  fun_induction takeLines items with
  | case1 line rest lines after heq ih =>
      rw [heq] at ih
      exact congrArg (Item.line line :: ·) ih
  | case2 items => rfl

/-- The lines of a section end before a heading or with the source. -/
theorem isHeading_of_takeLines (items : List Item) :
    ∀ item ∈ (takeLines items).2.head?, item.isHeading = true := by
  fun_induction takeLines items with
  | case1 line rest lines after heq ih =>
      rw [heq] at ih
      exact ih
  | case2 items hstops =>
      intro item hfirst
      cases items with
      | nil => cases hfirst
      | cons other rest =>
          cases other with
          | heading heading =>
              cases hfirst
              rfl
          | line line => exact absurd rfl (hstops line rest)

/-- The first section takes its items and leaves the others. -/
theorem splitFirst_append (items : List Item) :
    (splitFirst items).1.items ++ (splitFirst items).2 = items := by
  fun_cases splitFirst items with
  | case1 heading rest lines after heq =>
      have htaken := takeLines_append rest
      rw [heq] at htaken
      exact congrArg (Item.heading heading :: ·) htaken
  | case2 items _ lines after heq =>
      have htaken := takeLines_append items
      rw [heq] at htaken
      exact htaken

theorem isHeading_of_splitFirst (items : List Item) :
    ∀ item ∈ (splitFirst items).2.head?, item.isHeading = true := by
  fun_cases splitFirst items with
  | case1 heading rest lines after heq =>
      have hnext := isHeading_of_takeLines rest
      rw [heq] at hnext
      exact hnext
  | case2 items _ lines after heq =>
      have hnext := isHeading_of_takeLines items
      rw [heq] at hnext
      exact hnext

/-- A section has a heading if its first item is one. -/
theorem isSome_heading_splitFirst (item : Item) (rest : List Item) :
    (splitFirst (item :: rest)).1.heading.isSome = item.isHeading := by
  cases item <;> rfl

/-- The sections of some items are these items, one after the other. -/
theorem flatMap_items_ofItems (items : List Item) :
    (ofItems items).flatMap Section.items = items := by
  induction items using ofItems.induct with
  | case1 => rw [ofItems_nil, List.flatMap_nil]
  | case2 item rest ih =>
      rw [ofItems_cons, List.flatMap_cons, ih]
      exact splitFirst_append (item :: rest)

/-- The lines of a section go on to the next heading. -/
theorem takeLines_map_line_append (lines : List Line) {after : List Item}
    (hstops : ∀ item ∈ after.head?, item.isHeading = true) :
    takeLines (lines.map Item.line ++ after) = (lines, after) := by
  induction lines with
  | nil =>
      cases after with
      | nil => rfl
      | cons item rest =>
          cases item with
          | heading heading => rfl
          | line line => cases hstops _ rfl
  | cons line lines ih => rw [List.map_cons, List.cons_append, takeLines, ih]

/-- A section that holds something is cut off in front of a heading. -/
theorem splitFirst_items_append {part : Section} {after : List Item} (hsome : part.items ≠ [])
    (hstops : ∀ item ∈ after.head?, item.isHeading = true) :
    splitFirst (part.items ++ after) = (part, after) := by
  obtain ⟨_ | heading, lines⟩ := part
  · cases lines with
    | nil => exact absurd rfl hsome
    | cons line lines =>
        have htaken := takeLines_map_line_append (line :: lines) hstops
        rw [List.map_cons, List.cons_append] at htaken
        simp only [items, Option.map_none, Option.toList_none, List.nil_append, List.map_cons,
          List.cons_append, splitFirst, htaken]
  · have htaken := takeLines_map_line_append lines hstops
    simp only [items, Option.map_some, Option.toList_some, List.cons_append, List.nil_append,
      splitFirst, htaken]

theorem items_ne_nil_of_isSome {part : Section} (hheaded : part.heading.isSome = true) :
    part.items ≠ [] := by
  obtain ⟨heading, hopens⟩ := Option.isSome_iff_exists.mp hheaded
  rw [items, hopens]
  exact List.cons_ne_nil _ _

theorem isHeading_of_flatMap_items {sections : List Section}
    (hheaded : ∀ part ∈ sections, part.heading.isSome = true) :
    ∀ item ∈ (sections.flatMap items).head?, item.isHeading = true := by
  intro item hfirst
  cases sections with
  | nil => cases hfirst
  | cons part later =>
      obtain ⟨heading, hopens⟩ := Option.isSome_iff_exists.mp (hheaded part List.mem_cons_self)
      rw [List.flatMap_cons, items, hopens] at hfirst
      cases hfirst
      rfl

/-- Sections are found again in their items if the first one holds something and all others have a
heading. -/
theorem ofItems_flatMap_items {first : Section} {later : List Section} (hsome : first.items ≠ [])
    (hheaded : ∀ part ∈ later, part.heading.isSome = true) :
    ofItems ((first :: later).flatMap items) = first :: later := by
  induction later generalizing first with
  | nil =>
      have hcut : splitFirst (first.items ++ []) = (first, []) :=
        splitFirst_items_append hsome (isHeading_of_flatMap_items hheaded)
      obtain ⟨item, rest, hitems⟩ := List.exists_cons_of_ne_nil hsome
      rw [List.append_nil, hitems] at hcut
      rw [List.flatMap_singleton, hitems, ofItems_cons, hcut, ofItems_nil]
  | cons part later ih =>
      have hcut := splitFirst_items_append hsome (isHeading_of_flatMap_items hheaded)
      obtain ⟨hpart, hothers⟩ := List.forall_mem_cons.mp hheaded
      obtain ⟨item, rest, hitems⟩ := List.exists_cons_of_ne_nil hsome
      rw [hitems, List.cons_append] at hcut
      rw [List.flatMap_cons, hitems, List.cons_append, ofItems_cons, hcut,
        ih (items_ne_nil_of_isSome hpart) hothers]

/-- If the items start with a heading, every section has one. -/
theorem isSome_heading_of_ofItems {items : List Item}
    (hheaded : ∀ item ∈ items.head?, item.isHeading = true) :
    ∀ part ∈ ofItems items, part.heading.isSome = true := by
  induction items using ofItems.induct with
  | case1 =>
      rw [ofItems_nil]
      exact fun _ hmem => absurd hmem List.not_mem_nil
  | case2 item rest ih =>
      rw [ofItems_cons]
      refine List.forall_mem_cons.mpr ⟨?_, ih (isHeading_of_splitFirst (item :: rest))⟩
      rw [isSome_heading_splitFirst]
      exact hheaded item rfl

/-- The sections that become the scripts of a collection: a source without items has one too. -/
def ofSource (items : List Item) : List Section :=
  if items = [] then [⟨none, []⟩] else ofItems items

theorem flatMap_items_ofSource (items : List Item) :
    (ofSource items).flatMap Section.items = items := by
  rw [ofSource]
  split
  · rename_i hempty
    rw [hempty]
    rfl
  · exact flatMap_items_ofItems items

/-- There is a first section, which has a heading if the items start with one, and all others
have one. -/
theorem ofSource_eq_cons (items : List Item) :
    ∃ first later, ofSource items = first :: later ∧
      first.heading.isSome = items.head?.any Item.isHeading ∧
      ∀ part ∈ later, part.heading.isSome = true := by
  cases items with
  | nil => exact ⟨⟨none, []⟩, [], rfl, rfl, fun _ hmem => absurd hmem List.not_mem_nil⟩
  | cons item rest =>
      refine ⟨_, _, ofItems_cons item rest, isSome_heading_splitFirst item rest, ?_⟩
      exact isSome_heading_of_ofItems (isHeading_of_splitFirst (item :: rest))

theorem countP_isHeading_items (part : Section) :
    part.items.countP Item.isHeading = if part.heading.isSome then 1 else 0 := by
  have hlines : (part.lines.map Item.line).countP Item.isHeading = 0 := by
    rw [List.countP_map, List.countP_eq_zero]
    exact fun _ _ => nofun
  rw [items, List.countP_append, hlines]
  cases part.heading <;> rfl

theorem countP_isHeading_of_headed {sections : List Section}
    (hheaded : ∀ part ∈ sections, part.heading.isSome = true) :
    (sections.flatMap Section.items).countP Item.isHeading = sections.length := by
  induction sections with
  | nil => rfl
  | cons part later ih =>
      obtain ⟨hhere, hothers⟩ := List.forall_mem_cons.mp hheaded
      rw [List.flatMap_cons, List.countP_append, countP_isHeading_items, if_pos hhere, ih hothers,
        List.length_cons, Nat.add_comm]

/-- The lines of the scripts are among the items of their sections, in order. -/
theorem lines_sublist_items (path : String) (sections : List Section) :
    (((sections.map (script path)).flatMap Script.lines).map Item.line).Sublist
      (sections.flatMap Section.items) := by
  induction sections with
  | nil => exact .slnil
  | cons part later ih =>
      rw [List.map_cons, List.flatMap_cons, List.map_append, List.flatMap_cons]
      exact (List.sublist_append_right _ _).append ih

end Section

/-- The items that a script is made of: its heading, if it has one, and then its lines. -/
def Script.itemsUnder (heading : Option Heading) (script : Script) : List Item :=
  (heading.map Item.heading).toList ++ script.lines.map Item.line

/-- A script of the collection at a path has its name from a heading and says so in its own path.
Without a heading it has the default name and the path of the collection. -/
structure Script.IsUnder (path : String) (heading : Option Heading) (script : Script) : Prop where
  name : script.name = (heading.map Heading.name).getD Script.defaultName
  path : script.path = (heading.map fun heading => path ++ "#" ++ heading.name).getD path

theorem Section.isUnder_script (path : String) (part : Section) :
    (part.script path).IsUnder path part.heading := by
  obtain ⟨heading, lines⟩ := part
  cases heading <;> exact ⟨rfl, rfl⟩

namespace Collection

variable {validate : Bool} {name text path : String} {earlier added scripts : List Script}
  {collection : Collection}

/-- Two scripts have names that do not match. -/
def NamesDiffer (first second : Script) : Prop :=
  Text.sameName first.name second.name = false

instance (first second : Script) : Decidable (NamesDiffer first second) :=
  inferInstanceAs (Decidable (_ = _))

/-- Scripts that can be added are added in order, and each has a name of its own. -/
theorem addScripts_spec (hdone : addScripts validate name earlier added = .ok scripts)
    (hdistinct : earlier.Pairwise NamesDiffer) :
    scripts = earlier ++ added ∧ scripts.Pairwise NamesDiffer := by
  induction added generalizing earlier with
  | nil =>
      cases hdone
      exact ⟨(List.append_nil _).symm, hdistinct⟩
  | cons script rest ih =>
      rw [addScripts] at hdone
      split at hdone
      · cases hdone
      · rename_i hunmatched
        split at hdone
        · cases hdone
        · have hapart : (earlier ++ [script]).Pairwise NamesDiffer := by
            refine List.pairwise_append.mpr ⟨hdistinct, List.pairwise_singleton _ _, ?_⟩
            intro other hmem last hsame
            rw [List.mem_singleton.mp hsame, NamesDiffer, Bool.eq_false_iff]
            intro hmatched
            exact hunmatched (List.any_eq_true.mpr ⟨other, hmem, hmatched⟩)
          obtain ⟨hall, hpairwise⟩ := ih hdone hapart
          refine ⟨?_, hpairwise⟩
          rw [hall, List.append_assoc, List.singleton_append]

/-- A collection that has been read has a script for every section of its source. -/
theorem scripts_of_parse (hread : parse validate text path = .ok collection) :
    ∃ items, Item.ofText text = .ok items ∧ collection.path = path ∧
      collection.scripts = (Section.ofSource items).map (Section.script path) ∧
      collection.scripts.Pairwise NamesDiffer := by
  simp only [parse] at hread
  split at hread
  · cases hread
  · rename_i items hclassified
    refine ⟨items, hclassified, ?_⟩
    split at hread
    · cases hread
    · rename_i hdone
      cases hread
      obtain ⟨hnone, -⟩ := addScripts_spec hdone .nil
      rw [List.nil_append, eq_comm, List.map_eq_nil_iff] at hnone
      have hempty : items = [] := by
        rw [← Section.flatMap_items_ofItems items, hnone, List.flatMap_nil]
      rw [hempty]
      exact ⟨rfl, rfl, List.pairwise_singleton _ _⟩
    · rename_i hsome hdone
      cases hread
      obtain ⟨hall, hdistinct⟩ := addScripts_spec hdone .nil
      have items_ne : items ≠ [] := by
        rintro rfl
        rw [List.nil_append, Section.ofItems_nil] at hall
        exact hsome hall
      refine ⟨rfl, ?_, hdistinct⟩
      rw [Section.ofSource, if_neg items_ne]
      exact hall

theorem any_sameName_eq_false_iff {script : Script} :
    (earlier.any fun other => Text.sameName other.name script.name) = false ↔
      ∀ other ∈ earlier, NamesDiffer other script := by
  simp [NamesDiffer]

/-- A script is added if its name is new and, when conditions are checked, they can be read. -/
theorem addScripts_cons {script : Script} (hfresh : ∀ other ∈ earlier, NamesDiffer other script)
    (hvalid : validate = true → script.invalidCondition? = none) :
    addScripts validate name earlier (script :: added) =
      addScripts validate name (earlier ++ [script]) added := by
  have hpasses : (if validate then script.invalidCondition? else none) = none := by
    split
    · exact hvalid ‹_›
    · rfl
  rw [addScripts, any_sameName_eq_false_iff.mpr hfresh, if_neg Bool.false_ne_true, hpasses]

theorem addScripts_of_distinct (hdistinct : (earlier ++ added).Pairwise NamesDiffer)
    (hvalid : validate = true → ∀ script ∈ added, script.invalidCondition? = none) :
    addScripts validate name earlier added = .ok (earlier ++ added) := by
  induction added generalizing earlier with
  | nil => rw [addScripts, List.append_nil]
  | cons script rest ih =>
      obtain ⟨-, -, hapart⟩ := List.pairwise_append.mp hdistinct
      have hfresh : ∀ other ∈ earlier, NamesDiffer other script :=
        fun other hmem => hapart other hmem script List.mem_cons_self
      rw [List.append_cons] at hdistinct
      have hadded := ih hdistinct fun hchecked other hmem =>
        hvalid hchecked other (List.mem_cons_of_mem script hmem)
      rw [addScripts_cons hfresh fun hchecked => hvalid hchecked script List.mem_cons_self, hadded,
        ← List.append_cons]

/-- A source that consists of some sections is read as the collection of their scripts. -/
theorem parse_of_sections {first : Section} {later : List Section}
    (hclassified : Item.ofText text = .ok ((first :: later).flatMap Section.items))
    (hsome : first.items ≠ []) (hheaded : ∀ part ∈ later, part.heading.isSome = true)
    (hnamed : Path.stem path = name)
    (hscripts : (first :: later).map (Section.script path) = scripts)
    (hdistinct : scripts.Pairwise NamesDiffer)
    (hvalid : validate = true → ∀ script ∈ scripts, script.invalidCondition? = none) :
    parse validate text path = .ok ⟨name, path, text, scripts⟩ := by
  have hadded : addScripts validate name [] scripts = .ok scripts :=
    addScripts_of_distinct hdistinct hvalid
  rw [parse, hclassified, hnamed]
  dsimp only
  rw [Section.ofItems_flatMap_items hsome hheaded, hscripts, hadded, ← hscripts]
  rfl

theorem mem_links_script {part : Section} {target : String} :
    target ∈ (part.script path).links ↔
      ∃ link, .link link ∈ (part.script path).lines ∧ target = Path.resolve path link.target := by
  rw [Section.script, PathSet.mem_ofList, List.mem_map]
  constructor
  · rintro ⟨link, hmem, rfl⟩
    obtain ⟨line, hlisted, hisLink⟩ := List.mem_filterMap.mp hmem
    cases line with
    | link other =>
        cases hisLink
        exact ⟨link, hlisted, rfl⟩
    | cue | speech | quote | tag => cases hisLink
  · rintro ⟨link, hlisted, rfl⟩
    exact ⟨link, List.mem_filterMap.mpr ⟨.link link, hlisted, rfl⟩, rfl⟩

/-- A collection holds what the items of a source say, no more and no less. -/
structure Holds (collection : Collection) (items : List Item) : Prop where
  /-- Each script stands under a heading, but for the first one, which may have none. The items are
  these headings, each followed by the lines of its script. -/
  listed : ∃ entries : List (Option Heading × Script),
    entries.map Prod.snd = collection.scripts ∧
      (∀ entry ∈ entries, entry.2.IsUnder collection.path entry.1) ∧
      entries.flatMap (fun entry => entry.2.itemsUnder entry.1) = items ∧
      ∀ entry ∈ entries.tail, entry.1.isSome = true
  /-- There is a script for every heading, and one more unless the items start with a heading. -/
  size : collection.scripts.length =
    items.countP Item.isHeading + if items.head?.any Item.isHeading then 0 else 1
  /-- The names of the scripts do not match each other. -/
  distinct : collection.scripts.Pairwise NamesDiffer
  /-- The numbers of the items increase. -/
  numbered : items.Pairwise (·.lineNo < ·.lineNo)
  /-- The numbers of the lines increase, also from one script to the next. -/
  linesNumbered : (collection.scripts.flatMap Script.lines).Pairwise (·.lineNo < ·.lineNo)
  /-- The links of a script are those on its lines. -/
  links : ∀ script ∈ collection.scripts, ∀ path,
    path ∈ script.links ↔
      ∃ link, .link link ∈ script.lines ∧ path = collection.resolve link.target

/-- A collection that has been read holds what the items of its source say. Every cut takes at least
one item, so the cutting ends. -/
theorem holds_of_parse (hread : parse validate text path = .ok collection) :
    ∃ items, Item.ofText text = .ok items ∧ collection.path = path ∧ collection.Holds items ∧
      ∀ item rest, (Section.splitFirst (item :: rest)).2.length < (item :: rest).length := by
  obtain ⟨items, hclassified, rfl, hall, hdistinct⟩ := scripts_of_parse hread
  refine ⟨items, hclassified, rfl, ?_, Section.length_splitFirst_lt⟩
  have hwhole := Section.flatMap_items_ofSource items
  have hnumbered := (Item.numbered_of_ofLines hclassified).1
  obtain ⟨first, later, hcut, hstart, hheaded⟩ := Section.ofSource_eq_cons items
  rw [hcut] at hwhole hall
  constructor
  · refine ⟨(first :: later).map fun part => (part.heading, part.script collection.path),
      ?_, ?_, ?_, ?_⟩
    · rw [List.map_map, hall]
      rfl
    · intro entry hentry
      obtain ⟨part, -, rfl⟩ := List.mem_map.mp hentry
      exact part.isUnder_script collection.path
    · rw [List.flatMap_map]
      exact hwhole
    · intro entry hentry
      obtain ⟨part, hpart, rfl⟩ := List.mem_map.mp hentry
      exact hheaded part hpart
  · rw [hall, ← hstart, ← hwhole, List.flatMap_cons, List.countP_append,
      Section.countP_isHeading_items, Section.countP_isHeading_of_headed hheaded, List.length_map,
      List.length_cons]
    split <;> omega
  · exact hdistinct
  · exact hnumbered
  · have hwithin : ((collection.scripts.flatMap Script.lines).map Item.line).Sublist items := by
      rw [hall, ← hwhole]
      exact Section.lines_sublist_items collection.path (first :: later)
    have hspread := hnumbered.sublist hwithin
    rw [List.pairwise_map] at hspread
    exact hspread
  · intro script hmem target
    rw [hall] at hmem
    obtain ⟨part, -, rfl⟩ := List.mem_map.mp hmem
    exact mem_links_script

/-- A source whose first line stands before any heading. -/
theorem holds_of_parse_inn :
    let text := "Hi.\n# Hall\n[[#Door]]\n# Door"
    let link : Link := ⟨⟨"[[#Door]]", 3⟩, "#Door", "Door"⟩
    let items : List Item := [.line (.speech ⟨⟨"Hi.", 1⟩, "Hi."⟩), .heading ⟨"Hall", 2⟩,
      .line (.link link), .heading ⟨"Door", 4⟩]
    ∃ collection, parse false text "inn" = .ok collection ∧ collection.scripts.length = 3 ∧
      Item.ofText text = .ok items ∧ collection.Holds items := by
  intro text link items
  have hlines : Item.sourceLines "Hi.\n# Hall\n[[#Door]]\n# Door".toList =
      ["Hi.".toList, "# Hall".toList, "[[#Door]]".toList, "# Door".toList] := by cbv
  let sections : List Section := [⟨none, [.speech ⟨⟨"Hi.", 1⟩, "Hi."⟩]⟩,
    ⟨some ⟨"Hall", 2⟩, [.link link]⟩, ⟨some ⟨"Door", 4⟩, []⟩]
  have hclassified : Item.ofText text = .ok (sections.flatMap Section.items) := by
    rw [Item.ofText, hlines]
    rfl
  have hdistinct : (sections.map (Section.script "inn")).Pairwise NamesDiffer := by decide +kernel
  have hread : parse false text "inn" = .ok ⟨"inn", "inn", text, _⟩ :=
    parse_of_sections hclassified (by decide) (by decide) rfl rfl hdistinct
      (absurd · Bool.false_ne_true)
  obtain ⟨others, hsame, -, hholds, -⟩ := holds_of_parse hread
  cases hclassified.symm.trans hsame
  exact ⟨_, hread, rfl, hclassified, hholds⟩

end Collection

end Dialogue
