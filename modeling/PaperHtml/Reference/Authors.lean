import PaperHtml.Text.Blank
import PaperHtml.Text.Scan

/-!
# Author lists

A bibliography joins the names of several authors by the word `and`, set off by
blanks and in any case.  A reference joins them by commas and an ampersand.
-/

namespace PaperHtml.Reference

open Text

/-- What follows at least one blank and all further ones. -/
def dropBlanks? : Text → Option Text
  | c :: rest => if isBlank c then some (trimStart rest) else none
  | [] => none

/-- What follows the word `and`, in any case. -/
def dropAnd? : Text → Option Text
  | a :: n :: d :: rest =>
    if a.toLower = 'a' ∧ n.toLower = 'n' ∧ d.toLower = 'd' then some rest else none
  | _ => none

/-- The word between two authors with its blanks. -/
def separator : Scanner Unit := fun t =>
  (((dropBlanks? t).bind dropAnd?).bind dropBlanks?).map fun rest => ((), rest)

/-- The names in an author field. -/
def authors (field : Text) : List Text := (Scanner.split separator field).map trim

/-- The names with commas between them and an ampersand before the last. -/
def joinAuthors (names : List Text) : Text :=
  match names with
  | [] => ", & ".toList
  | [name] => name
  | [first, second] => first ++ " & ".toList ++ second
  | names => join ", ".toList names.dropLast ++ ", & ".toList ++ names.getLastD []

/-- An author field as a reference shows it. -/
def formatAuthors (field : Text) : Text := joinAuthors (authors field)

end PaperHtml.Reference
