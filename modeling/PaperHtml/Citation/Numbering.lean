import PaperHtml.Assoc
import PaperHtml.Citation.Command
import PaperHtml.Latex.Comment

/-!
# Order and numbers of citations

References are numbered by the first citation of each key.  A citation in a
comment line does not count.
-/

namespace PaperHtml.Citation

/-- The number of each cited key. -/
abbrev Numbering := Assoc Int

/-- The members of a list, each at its first place, but for those already seen. -/
def firstPlaces : (seen : List Text) → List Text → List Text
  | _, [] => []
  | seen, key :: rest =>
    if key ∈ seen then firstPlaces seen rest else key :: firstPlaces (key :: seen) rest

/-- The cited keys of a body, in the order of their first citation. -/
def order (body : Text) : List Text :=
  firstPlaces [] (Scanner.findAll command? (Latex.eraseComments body)).flatten

/-- The keys with the numbers that follow `last`. -/
def numberFrom : (last : Nat) → List Text → List (Text × Int)
  | _, [] => []
  | last, key :: rest => (key, (last + 1 : Nat)) :: numberFrom (last + 1) rest

/-- The keys numbered from one on, each by its last place. -/
def numbering (order : List Text) : Numbering := Assoc.ofList (numberFrom 0 order)

end PaperHtml.Citation
