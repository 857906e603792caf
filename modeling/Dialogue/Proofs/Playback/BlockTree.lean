/-
# Block trees

The tags of blocks structure a script that is itself a plain list of lines. A block tree spells this
structure out: a block is a sequence of plain lines and chains, and a chain is a condition with a
branch, further conditions with theirs, perhaps a branch without a condition, and a closing tag. The
lines of a tree are its flattening.

The main statements say what the search for a tag makes of a flattened tree. It passes over a block
as if the block were not there, it stops at once at a tag that ends a branch, and from inside a
chain it finds the closing tag of that chain.
-/

import Dialogue.Playback.Block
import Dialogue.Proofs.Directive

namespace Dialogue

/-- Whether a line neither starts nor continues nor closes a chain. -/
def Line.isPlain (line : Line) : Bool :=
  match line.tag? with
  | some found => !(found.opensBlock || found.endsBranch)
  | none => true

mutual

/-- A sequence of plain lines and chains. -/
inductive Block where
  /-- Nothing is left. -/
  | done
  /-- A plain line comes first. -/
  | line (line : Line) (hplain : line.isPlain = true) (rest : Block)
  /-- A chain comes first. Its first branch is played if the condition of the opening tag holds. -/
  | chain (tag : Tag) (hopens : tag.opensBlock = true) (body : Block) (others : Branches)
    (rest : Block)

/-- What follows a branch of a chain, up to the end of the chain. -/
inductive Branches where
  /-- The chain is closed. -/
  | endIf (tag : Tag) (hcloses : tag.closesBlock = true)
  /-- A branch without a condition is the last one. -/
  | otherwise (tag : Tag) (hreverses : tag.reversesBlock = true) (body : Block) (closing : Tag)
    (hcloses : closing.closesBlock = true)
  /-- A branch with another condition is followed by the rest of the chain. -/
  | elseIf (tag : Tag) (hretries : tag.retriesBlock = true) (body : Block) (others : Branches)

end

mutual

/-- The lines of a block in the order of the script. -/
def Block.lines : Block → List Line
  | .done => []
  | .line line _ rest => line :: rest.lines
  | .chain tag _ body others rest => .tag tag :: (body.lines ++ (others.lines ++ rest.lines))

/-- The lines of some branches in the order of the script. -/
def Branches.lines : Branches → List Line
  | .endIf tag _ => [.tag tag]
  | .otherwise tag _ body closing _ => .tag tag :: (body.lines ++ [.tag closing])
  | .elseIf tag _ body others => .tag tag :: (body.lines ++ others.lines)

end

/-- The number of lines of a block. -/
def Block.size (block : Block) : Nat :=
  block.lines.length

/-- The number of lines of some branches. -/
def Branches.size (branches : Branches) : Nat :=
  branches.lines.length

namespace Branches

/-- The tag that ends the branch before. -/
def first : Branches → Tag
  | endIf tag _ | otherwise tag _ _ _ _ | elseIf tag _ _ _ => tag

/-- The tag that closes the chain. -/
def closing : Branches → Tag
  | endIf tag _ => tag
  | otherwise _ _ _ tag _ => tag
  | elseIf _ _ _ others => others.closing

/-- The lines after the tag that ends the branch before. -/
def laterLines : Branches → List Line
  | endIf _ _ => []
  | otherwise _ _ body closing _ => body.lines ++ [.tag closing]
  | elseIf _ _ body others => body.lines ++ others.lines

theorem lines_eq_cons (branches : Branches) :
    branches.lines = .tag branches.first :: branches.laterLines := by
  cases branches <;> simp only [Branches.lines, first, laterLines]

theorem size_eq_succ (branches : Branches) : branches.size = branches.laterLines.length + 1 := by
  rw [Branches.size, branches.lines_eq_cons, List.length_cons]

theorem endsBranch_first (branches : Branches) : branches.first.endsBranch = true := by
  cases branches with
  | endIf tag hcloses => simp [first, Tag.endsBranch, hcloses]
  | otherwise tag hreverses body closing hcloses => simp [first, Tag.endsBranch, hreverses]
  | elseIf tag hretries body others => simp [first, Tag.endsBranch, hretries]

end Branches

-- Each of the four tags of a chain has one role, because its name means one directive.

namespace Tag

variable {tag : Tag} {directive : Directive}

theorem endsBranch_iff :
    tag.endsBranch = true ↔
      (Directive.ofName? tag.name = some .otherwise ∨
          Directive.ofName? tag.name = some .elseIfHolds) ∨
        Directive.ofName? tag.name = some .endIf := by
  rw [endsBranch, Bool.or_eq_true, Bool.or_eq_true, reversesBlock_iff, retriesBlock_iff,
    closesBlock_iff]

theorem endsBranch_of_closesBlock (tag : Tag) (hcloses : tag.closesBlock = true) :
    tag.endsBranch = true := by
  rw [endsBranch, hcloses, Bool.or_true]

theorem endsBranch_eq_false_of_opensBlock (hopens : tag.opensBlock = true) :
    tag.endsBranch = false := by
  rw [opensBlock_iff] at hopens
  rw [Bool.eq_false_iff, Ne, endsBranch_iff, hopens]
  decide

theorem closesBlock_eq_false (hknown : Directive.ofName? tag.name = some directive)
    (hother : directive ≠ .endIf) : tag.closesBlock = false := by
  rw [Bool.eq_false_iff, Ne, closesBlock_iff, hknown, Option.some_inj]
  exact hother

theorem retriesBlock_eq_false (hknown : Directive.ofName? tag.name = some directive)
    (hother : directive ≠ .elseIfHolds) : tag.retriesBlock = false := by
  rw [Bool.eq_false_iff, Ne, retriesBlock_iff, hknown, Option.some_inj]
  exact hother

/-- The nesting that a directive adds to. -/
theorem nesting_eq (hknown : Directive.ofName? tag.name = some directive) :
    tag.nesting =
      (if directive = .ifHolds then 1 else 0) - (if directive = .endIf then 1 else 0) := by
  have hopens : tag.opensBlock = true ↔ directive = .ifHolds := by
    rw [opensBlock_iff, hknown, Option.some_inj]
  have hcloses : tag.closesBlock = true ↔ directive = .endIf := by
    rw [closesBlock_iff, hknown, Option.some_inj]
  simp only [nesting, hopens, hcloses]

theorem nesting_of_opensBlock (hopens : tag.opensBlock = true) : tag.nesting = 1 :=
  nesting_eq (opensBlock_iff.mp hopens)

theorem nesting_of_closesBlock (hcloses : tag.closesBlock = true) : tag.nesting = -1 :=
  nesting_eq (closesBlock_iff.mp hcloses)

theorem nesting_of_reversesBlock (hreverses : tag.reversesBlock = true) : tag.nesting = 0 :=
  nesting_eq (reversesBlock_iff.mp hreverses)

theorem nesting_of_retriesBlock (hretries : tag.retriesBlock = true) : tag.nesting = 0 :=
  nesting_eq (retriesBlock_iff.mp hretries)

end Tag

/-- A found tag, seen from a number of lines before the start of the search. -/
def farther (count : Nat) (found : Option (Nat × Tag)) : Option (Nat × Tag) :=
  found.map fun (before, tag) => (before + count, tag)

theorem farther_farther (count more : Nat) (found : Option (Nat × Tag)) :
    farther count (farther more found) = farther (more + count) found := by
  cases found with
  | none => rfl
  | some pair => exact congrArg (fun before => some (before, pair.2)) (Nat.add_assoc _ _ _)

theorem farther_zero (found : Option (Nat × Tag)) : farther 0 found = found := by
  cases found <;> rfl

section Search

variable {wanted : Tag → Bool} {depth : Int} {rest : List Line}

/-- A tag that is not wanted or not outside of all blocks is passed over. -/
theorem seekTag_tag {tag : Tag} (hpasses : ¬ (depth = 0 ∧ wanted tag = true)) :
    seekTag wanted depth (.tag tag :: rest) =
      farther 1 (seekTag wanted (depth + tag.nesting) rest) := by
  rw [seekTag]
  exact if_neg hpasses

/-- Every search for a tag that ends a branch passes over a plain line. -/
theorem seekTag_plain (hends : ∀ tag, wanted tag = true → tag.endsBranch = true) {line : Line}
    (hplain : line.isPlain = true) :
    seekTag wanted depth (line :: rest) = farther 1 (seekTag wanted depth rest) := by
  cases line with
  | tag found =>
      have hinert : found.opensBlock = false ∧ found.endsBranch = false := by
        simpa [Line.isPlain, Line.tag?] using hplain
      have hstays : found.nesting = 0 := by
        have hunending := hinert.2
        simp only [Tag.endsBranch, Bool.or_eq_false_iff] at hunending
        simp [Tag.nesting, hinert.1, hunending.2]
      rw [seekTag_tag, hstays, Int.add_zero]
      rintro ⟨-, hhit⟩
      rw [hends found hhit] at hinert
      cases hinert.2
  | cue _ | speech _ | link _ | quote _ =>
      rw [seekTag]
      rfl

mutual

/-- A search for a tag that ends a branch passes over a block as if it were not there. The two
statements go together: inside a chain the depth is one more than outside. -/
theorem Block.seekTag_lines (hends : ∀ tag, wanted tag = true → tag.endsBranch = true)
    (depth : Int) (houtside : 0 ≤ depth) (rest : List Line) :
    (block : Block) →
      seekTag wanted depth (block.lines ++ rest) =
        farther block.size (seekTag wanted depth rest)
  | .done => by
      rw [Block.size, Block.lines, List.nil_append, List.length_nil, farther_zero]
  | .line line hplain others => by
      rw [Block.size, Block.lines, List.cons_append, seekTag_plain hends hplain,
        Block.seekTag_lines hends depth houtside rest others, farther_farther]
      rfl
  | .chain tag hopens body others after => by
      have hpasses : ¬ (depth = 0 ∧ wanted tag = true) := by
        rintro ⟨-, hhit⟩
        have hstays := Tag.endsBranch_eq_false_of_opensBlock hopens
        rw [hends tag hhit] at hstays
        cases hstays
      rw [Block.size, Block.lines, List.cons_append, seekTag_tag hpasses,
        Tag.nesting_of_opensBlock hopens, List.append_assoc, List.append_assoc,
        Block.seekTag_lines hends (depth + 1) (by omega) _ body,
        Branches.seekTag_lines hends depth houtside _ others,
        Block.seekTag_lines hends depth houtside rest after,
        farther_farther, farther_farther, farther_farther]
      simp only [Block.size, Branches.size, List.length_cons, List.length_append]
      congr 1
      omega

/-- From inside a chain the search passes over what is left of the chain. -/
theorem Branches.seekTag_lines (hends : ∀ tag, wanted tag = true → tag.endsBranch = true)
    (depth : Int) (houtside : 0 ≤ depth) (rest : List Line) :
    (branches : Branches) →
      seekTag wanted (depth + 1) (branches.lines ++ rest) =
        farther branches.size (seekTag wanted depth rest)
  | .endIf tag hcloses => by
      rw [Branches.size, Branches.lines, List.singleton_append, seekTag_tag (by omega),
        Tag.nesting_of_closesBlock hcloses, Int.add_neg_cancel_right]
      rfl
  | .otherwise tag hreverses body closing hcloses => by
      rw [Branches.size, Branches.lines, List.cons_append, seekTag_tag (by omega),
        Tag.nesting_of_reversesBlock hreverses, Int.add_zero, List.append_assoc,
        Block.seekTag_lines hends (depth + 1) (by omega) _ body, List.singleton_append,
        seekTag_tag (by omega), Tag.nesting_of_closesBlock hcloses, Int.add_neg_cancel_right,
        farther_farther, farther_farther]
      simp only [Block.size, List.length_cons, List.length_append, List.length_nil]
      congr 1
      omega
  | .elseIf tag hretries body others => by
      rw [Branches.size, Branches.lines, List.cons_append, seekTag_tag (by omega),
        Tag.nesting_of_retriesBlock hretries, Int.add_zero, List.append_assoc,
        Block.seekTag_lines hends (depth + 1) (by omega) _ body,
        Branches.seekTag_lines hends depth houtside rest others, farther_farther, farther_farther]
      simp only [Block.size, Branches.size, List.length_cons, List.length_append]
      congr 1
      omega

end

/-- A tag that is wanted outside of all blocks is found at once. -/
theorem seekTag_found {tag : Tag} (hhit : wanted tag = true) :
    seekTag wanted 0 (.tag tag :: rest) = some (0, tag) := by
  rw [seekTag]
  exact if_pos ⟨rfl, hhit⟩

/-- After a branch that is not played, the search stops at the tag that ends it. -/
theorem Block.seekTag_endsBranch (body : Block) (branches : Branches) :
    seekTag Tag.endsBranch 0 (body.lines ++ (branches.lines ++ rest)) =
      some (body.size, branches.first) := by
  rw [Block.seekTag_lines (fun _ hhit => hhit) 0 (Int.le_refl 0), branches.lines_eq_cons,
    List.cons_append, seekTag_found branches.endsBranch_first]
  simp [farther]

/-- Once a branch has been played, the search stops at the closing tag of the chain. It passes over
the branches that are left, however many there are. -/
theorem Branches.seekTag_closesBlock :
    (branches : Branches) →
      seekTag Tag.closesBlock 0 (branches.lines ++ rest) =
        some (branches.laterLines.length, branches.closing)
  | .endIf tag hcloses => by
      rw [Branches.lines, List.singleton_append, seekTag_found hcloses]
      rfl
  | .otherwise tag hreverses body closing hcloses => by
      have hpasses : ¬ ((0 : Int) = 0 ∧ tag.closesBlock = true) := by
        rw [Tag.closesBlock_eq_false (Tag.reversesBlock_iff.mp hreverses) (by decide)]
        decide
      rw [Branches.lines, List.cons_append, seekTag_tag hpasses,
        Tag.nesting_of_reversesBlock hreverses, Int.add_zero, List.append_assoc,
        Block.seekTag_lines Tag.endsBranch_of_closesBlock 0 (Int.le_refl 0), List.singleton_append,
        seekTag_found hcloses]
      simp [farther, laterLines, Branches.closing, Block.size]
  | .elseIf tag hretries body others => by
      have hpasses : ¬ ((0 : Int) = 0 ∧ tag.closesBlock = true) := by
        rw [Tag.closesBlock_eq_false (Tag.retriesBlock_iff.mp hretries) (by decide)]
        decide
      rw [Branches.lines, List.cons_append, seekTag_tag hpasses,
        Tag.nesting_of_retriesBlock hretries, Int.add_zero, List.append_assoc,
        Block.seekTag_lines Tag.endsBranch_of_closesBlock 0 (Int.le_refl 0),
        Branches.seekTag_closesBlock others]
      simp only [farther, Option.map_some, laterLines, Branches.closing, Block.size,
        others.lines_eq_cons, List.length_append, List.length_cons]
      congr 2
      omega

/-- The same search, from the line after a tag that only ends a branch. -/
theorem Branches.seekTag_laterLines (branches : Branches) (rest : List Line)
    (hunclosed : branches.first.closesBlock = false) (hlevel : branches.first.nesting = 0) :
    ∃ before, seekTag Tag.closesBlock 0 (branches.laterLines ++ rest) =
        some (before, branches.closing) ∧ before + 1 = branches.laterLines.length := by
  have hfound : seekTag Tag.closesBlock 0 (branches.lines ++ rest) = _ :=
    branches.seekTag_closesBlock
  have hpasses : ¬ ((0 : Int) = 0 ∧ branches.first.closesBlock = true) := by
    rw [hunclosed]
    decide
  rw [branches.lines_eq_cons, List.cons_append, seekTag_tag hpasses, hlevel, Int.add_zero,
    farther, Option.map_eq_some_iff] at hfound
  obtain ⟨⟨before, tag⟩, hhere, hshifted⟩ := hfound
  simp only [Prod.mk.injEq] at hshifted
  obtain ⟨hlength, rfl⟩ := hshifted
  exact ⟨before, hhere, hlength⟩

end Search

end Dialogue
