/-
# Comments

A comment stands between two `%%` marks and may run over several lines. Taking it out leaves its
line breaks behind, so every later character stays on the line it was written on. Marks pair up
from the left; a last mark without a partner is ordinary text, together with all that follows it.
-/

namespace Dialogue.Comment

/-- The text before the first mark and the text after it, if there is a mark. -/
def cutAtMark : List Char → Option (List Char × List Char)
  | '%' :: '%' :: rest => some ([], rest)
  | c :: rest => (cutAtMark rest).map fun (before, after) => (c :: before, after)
  | [] => none

/-- Cutting at a mark takes out the mark and nothing else. -/
theorem eq_append_of_cutAtMark {text before after : List Char}
    (h : cutAtMark text = some (before, after)) : text = before ++ '%' :: '%' :: after := by
  fun_induction cutAtMark text generalizing before after with
  | case1 rest => simp_all
  | case2 c rest _ ih =>
    obtain ⟨⟨b, a⟩, hfound, heq⟩ := Option.map_eq_some_iff.mp h
    simp only [Prod.mk.injEq] at heq
    obtain ⟨rfl, rfl⟩ := heq
    simp [ih hfound]
  | case3 => simp at h

theorem length_lt_of_cutAtMark {text before after : List Char}
    (h : cutAtMark text = some (before, after)) : after.length < text.length := by
  rw [eq_append_of_cutAtMark h]
  simp
  omega

/-- The line breaks of a text. -/
def lineBreaks (text : List Char) : List Char :=
  text.filter (· == '\n')

/-- The text without its comments. -/
def stripChars (text : List Char) : List Char :=
  match _opened : cutAtMark text with
  | none => text
  | some (before, inside) =>
    match _closed : cutAtMark inside with
    | none => text
    | some (comment, after) => before ++ lineBreaks comment ++ stripChars after
termination_by text.length
decreasing_by
  have := length_lt_of_cutAtMark _opened
  have := length_lt_of_cutAtMark _closed
  omega

/-- The text without its comments. -/
def strip (text : String) : String :=
  String.ofList (stripChars text.toList)

@[simp]
theorem cutAtMark_nil : cutAtMark [] = none := rfl

@[simp]
theorem stripChars_nil : stripChars [] = [] := by
  rw [stripChars]
  split <;> simp_all

end Dialogue.Comment
