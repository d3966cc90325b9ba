import PaperHtml.Latex.Command
import PaperHtml.Text.Blank

/-!
# Brace groups

A group is an opening brace, a content in which braces are balanced, and the
closing brace.  A backslash takes the character after it along, so an escaped
brace counts as any other character.
-/

namespace PaperHtml.Latex

open Text

/-- Reads on inside `depth + 1` open groups, up to the brace that closes the outermost:
the text before that brace and the text after it. -/
def closeGroup? : (depth : Nat) → Text → Option (Text × Text)
  | _, [] => none
  | _, ['\\'] => none
  | depth, '\\' :: c :: rest =>
    (closeGroup? depth rest).map fun found => ('\\' :: c :: found.1, found.2)
  | depth, '{' :: rest =>
    (closeGroup? (depth + 1) rest).map fun found => ('{' :: found.1, found.2)
  | 0, '}' :: rest => some ([], rest)
  | depth + 1, '}' :: rest =>
    (closeGroup? depth rest).map fun found => ('}' :: found.1, found.2)
  | depth, c :: rest => (closeGroup? depth rest).map fun found => (c :: found.1, found.2)

/-- The content of the group at the front of a text, and what follows the group. -/
def group? : Text → Option (Text × Text)
  | '{' :: rest => closeGroup? 0 rest
  | _ => none

/-! ## Groups by position -/

/-- A position before the first character of a text. -/
inductive PositionError where
  | outOfRange

/-- The text between two positions; a negative position counts from the end. -/
def between (t : Text) (start stop : Int) : Text :=
  let place (i : Int) : Nat := (if i < 0 then i + t.length else i).toNat
  (t.take (place stop)).drop (place start)

/-- The content of the group at a position and the position behind it.  A negative
position counts from the end; reading from there goes on at the front of the text
when the end is reached. -/
def groupAt? (t : Text) (index : Int) : Except PositionError (Option (Text × Int)) :=
  if index + t.length < 0 then .error .outOfRange
  else
    let ahead :=
      if index < 0 then t.drop (index + t.length).toNat ++ t else t.drop index.toNat
    .ok <| (group? ahead).map fun found =>
      -- behind a negative position the content is what stands between the positions, not what
      -- was read
      let closing := index + 1 + found.1.length
      (if index < 0 then between t (index + 1) closing else found.1, closing + 1)

/-! ## The argument of a command -/

/-- The text from the brace on that opens the argument of a command, after an optional
star, an optional note and blanks. -/
def argumentOpening? (name t : Text) : Option Text :=
  (dropCommand? name t).bind fun rest =>
    match trimStart (dropNote (dropStar rest)) with
    | '{' :: inner => some ('{' :: inner)
    | _ => none

/-- The argument of the first occurrence of a command that has one, with its nested
groups; none if that argument is not closed. -/
def commandArgument? (name t : Text) : Option Text :=
  (Scanner.find? (fun u => (argumentOpening? name u).map fun rest => (rest, rest)) t).bind
    fun opening => (group? opening).map Prod.fst

end PaperHtml.Latex
