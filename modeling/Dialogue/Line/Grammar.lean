/-
# The written forms of lines

This module says how a heading, a link, a tag and a cue are written. Each function looks at the
text of one line, without the white space around it, and returns the parts of the form or nothing.
A mark that opens a comment without closing it ends a heading and may follow a link.
-/

import Dialogue.Comment
import Dialogue.Text.Blank
import Dialogue.Text.Uppercase
import Dialogue.Text.WordChar

namespace Dialogue.Grammar

open Text (isBlank isUppercase isWordChar trim trimLeft)

/-- Whether nothing is left of a line but white space and perhaps an open comment on one line. -/
def isFinished (text : List Char) : Bool :=
  match trimLeft text with
  | [] => true
  | '%' :: '%' :: rest => !rest.contains '\n'
  | _ => false

/-- The name of a heading: what follows one to six hashes and white space, up to an open
comment. -/
def heading? (text : List Char) : Option (List Char) :=
  let hashes := (text.takeWhile (· == '#')).length
  match text.dropWhile (· == '#') with
  | c :: rest =>
    if 1 ≤ hashes ∧ hashes ≤ 6 ∧ isBlank c then
      match Comment.cutAtMark rest with
      | some (name, _) => some (trim name)
      | none => some (trim rest)
    else none
  | [] => none

/-- The target of a link and, if it is written, the text to display. -/
def link? : List Char → Option (List Char × Option (List Char))
  | '[' :: '[' :: rest =>
    let target := rest.takeWhile fun c => c != ']' && c != '|'
    match rest.dropWhile fun c => c != ']' && c != '|' with
    | ']' :: ']' :: tail => if isFinished tail then some (target, none) else none
    | '|' :: more =>
      let display := more.takeWhile (· != ']')
      match more.dropWhile (· != ']') with
      | ']' :: ']' :: tail => if isFinished tail then some (target, some display) else none
      | _ => none
    | _ => none
  | _ => none

/-- The name and the arguments of a tag: a hash, a word, and one line of text after white
space. -/
def tag? : List Char → Option (List Char × List Char)
  | '#' :: rest =>
    match rest.takeWhile isWordChar, rest.dropWhile isWordChar with
    | [], _ => none
    | name, [] => some (name, [])
    | name, c :: more =>
      let args := trimLeft more
      if isBlank c && !args.contains '\n' then some (name, trim args) else none
  | _ => none

/-- Whether a character may stand in the name of a speaker. -/
def isNameChar (c : Char) : Bool :=
  isUppercase c || c == '-' || c == '_'

/-- The name that a cue shows, written as the word `as` between white space and a word, and the
text after it. -/
def shownAs? : List Char → Option (List Char × List Char)
  | first :: rest =>
    match trimLeft rest with
    | 'a' :: 's' :: second :: more =>
      if isBlank first && isBlank second then
        match (trimLeft more).takeWhile isWordChar with
        | [] => none
        | name => some (name, (trimLeft more).dropWhile isWordChar)
      else none
    | _ => none
  | [] => none

/-- The attributes of a cue: after a dash, what stands between commas on the rest of the line. -/
def attributes (text : List Char) : List (List Char) :=
  match trimLeft text with
  | '-' :: rest =>
    ((((trimLeft rest).takeWhile (· != '\n')).splitOn ',').map trim).filter (· ≠ [])
  | _ => []

/-- The parts of a cue. -/
structure CueParts where
  /-- The name of the speaker. -/
  identifier : List Char
  /-- The name to show in its place. -/
  shownAs : Option (List Char)
  /-- What is added after a dash. -/
  attributes : List (List Char)

/-- The parts of a cue: a name that ends the line or is followed by white space, a name to show
and attributes. Anything else that follows is left out. -/
def cue? (text : List Char) : Option CueParts :=
  let name := text.takeWhile isNameChar
  let rest := text.dropWhile isNameChar
  if name ≠ [] ∧ rest.head?.all isBlank then
    match shownAs? rest with
    | some (shown, more) => some ⟨name, some shown, attributes more⟩
    | none => some ⟨name, none, attributes rest⟩
  else none

end Dialogue.Grammar
