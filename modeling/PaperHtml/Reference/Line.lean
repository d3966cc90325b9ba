import PaperHtml.Citation.Key
import PaperHtml.Citation.Resolve
import PaperHtml.Html.Escape
import PaperHtml.Reference.Authors

/-!
# The list of references

Every reference is shown on one line: number, title, year, authors, venue and a
link, as far as they are known.  The references make a section of their own at
the end of the paper.
-/

namespace PaperHtml.Reference

open Text Citation Html

/-- A field of a reference, unless it is empty. -/
def field? (name : String) (reference : Citation.Reference) : Option Text :=
  reference.fields.filled? name.toList

/-- The title, or the key of a reference without one. -/
def title (reference : Citation.Reference) : Text :=
  (field? "title" reference).getD reference.key

/-- Where the work was published. -/
def venue? (reference : Citation.Reference) : Option Text :=
  (field? "journal" reference).or (field? "booktitle" reference)

/-- The address of the work. -/
def address? (reference : Citation.Reference) : Option Text :=
  match field? "doi" reference with
  | some doi => some ("https://doi.org/".toList ++ doi)
  | none => field? "url" reference

/-- The word shown for the address. -/
def linkLabel (reference : Citation.Reference) : Text :=
  if (field? "doi" reference).isSome then "doi".toList else "link".toList

/-- The link to the work. -/
def workLink? (reference : Citation.Reference) : Option Text :=
  (address? reference).map fun address =>
    "<a href=\"".toList ++ escape address ++
      "\" target=\"_blank\" rel=\"noopener noreferrer\">".toList ++ linkLabel reference ++
      "</a>".toList

/-- A reference on one line. -/
def line (reference : Citation.Reference) : Text :=
  let shown (value : Option Text) (render : Text → Text) : Text := (value.map render).getD []
  "<span class=\"ref-number\">".toList ++ mark reference.number ++
    "</span> <span class=\"ref-title\">".toList ++ escape (title reference) ++
    "</span>".toList ++
    shown (field? "year" reference) (fun year => " (".toList ++ escape year ++ [')']) ++
    shown (field? "author" reference) (fun field => ' ' :: escape (formatAuthors field)) ++
    shown (venue? reference) (fun venue => " — ".toList ++ escape venue) ++
    shown (workLink? reference) (fun link => ' ' :: link)

/-- A reference as an item of the list, at the place that its citations link to. -/
def item (reference : Citation.Reference) : Text :=
  "<li id=\"ref-".toList ++ slug reference.key ++ "\">".toList ++ line reference ++
    "</li>".toList

/-- The section of references. -/
def listing (references : List Citation.Reference) : Text :=
  "<section class=\"references\"><h2 id=\"references\">References</h2><ol>".toList ++
    references.flatMap item ++ "</ol></section>".toList

end PaperHtml.Reference
