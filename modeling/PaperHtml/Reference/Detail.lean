import PaperHtml.Reference.Line

/-!
# The details of a reference

The side panel shows everything that is known of one reference, or says that
there is none with the key.
-/

namespace PaperHtml.Reference

open Text Html

/-- A text in an element, with a class if one is given. -/
def inElement (name : String) (classes : String) (content : Text) : Text :=
  let written := if classes.isEmpty then [] else " class=\"".toList ++ classes.toList ++ ['"']
  '<' :: name.toList ++ written ++ '>' :: content ++ '<' :: '/' :: name.toList ++ ['>']

/-- The rows of the table of facts, by label and value. -/
def facts (reference : Citation.Reference) : List (String × Text) :=
  let row (label : String) (value : Option Text) : List (String × Text) :=
    (value.map fun v => (label, v)).toList
  row "Type" (reference.kind.filter fun kind => kind ≠ []) ++
    row "Venue" (venue? reference) ++
    row "Year" (field? "year" reference) ++
    row "Volume" (field? "volume" reference) ++
    row "Number" (field? "number" reference) ++
    row "Pages" (field? "pages" reference) ++
    row "Publisher" (field? "publisher" reference)

/-- A row of the table of facts. -/
def factRow (fact : String × Text) : Text :=
  inElement "dt" "" fact.1.toList ++ inElement "dd" "" (escape fact.2)

/-- Everything that is known of a reference. -/
def detail (reference : Citation.Reference) : Text :=
  let names (field : Text) : Text :=
    inElement "ul" "detail-authors"
      ((authors field).flatMap fun name => inElement "li" "" (escape name))
  let rows := facts reference
  inElement "h3" "detail-title"
      (Citation.mark reference.number ++ ' ' :: escape (title reference)) ++
    (if reference.missing then
      inElement "p" "detail-stub" "No bibliography record for this key.".toList else []) ++
    ((field? "author" reference).map names).getD [] ++
    (if rows = [] then [] else inElement "dl" "" (rows.flatMap factRow)) ++
    ((workLink? reference).map (inElement "p" "")).getD [] ++
    inElement "p" "detail-key" (inElement "code" "" (escape reference.key))

/-- What is shown for a key without a reference. -/
def notFound (key : Text) : Text :=
  inElement "p" "detail-missing" ("Reference not found: ".toList ++ escape key)

end PaperHtml.Reference
