import Mathlib
import PaperHtml.Reference.Detail

/-!
# What the fields of a reference tell

Title, venue, address and facts of a reference are told here from nothing but
what its fields hold under their names.  A field that holds nothing counts as no
field at all, so a text stands for what may be missing, and the empty text for
what is.  The program takes the same from a reference, and everything that is
proved of what it shows is stated in these terms.
-/

namespace PaperHtml.Reference

open Text

/-! ## Told from the fields -/

/-- What a reference holds under a name. -/
def held (name : String) (reference : Citation.Reference) : Text :=
  (Assoc.get? name.toList reference.fields).getD []

/-- The title, and for a work without one the key. -/
def heading (reference : Citation.Reference) : Text :=
  if held "title" reference = [] then reference.key else held "title" reference

/-- The journal, and for a work that is in none the title of the book that it is in. -/
def venue (reference : Citation.Reference) : Text :=
  if held "journal" reference = [] then held "booktitle" reference else held "journal" reference

/-- Where a work is found: what resolves its identifier, and for a work without one its address. -/
def href (reference : Citation.Reference) : Text :=
  if held "doi" reference = [] then held "url" reference
  else "https://doi.org/".toList ++ held "doi" reference

/-- What is shown in place of the address. -/
def hrefLabel (reference : Citation.Reference) : Text :=
  if held "doi" reference = [] then "link".toList else "doi".toList

/-- The facts that are known of a work, by label. -/
def knownFacts (reference : Citation.Reference) : List (String × Text) :=
  [("Type", reference.kind.getD []), ("Venue", venue reference), ("Year", held "year" reference),
    ("Volume", held "volume" reference), ("Number", held "number" reference),
    ("Pages", held "pages" reference), ("Publisher", held "publisher" reference)].filter
      fun fact => fact.2 ≠ []

/-- There is an address if there is an identifier or an address of its own. -/
theorem href_eq_nil_iff {reference : Citation.Reference} :
    href reference = [] ↔ held "doi" reference = [] ∧ held "url" reference = [] := by
  have hresolver : "https://doi.org/".toList ≠ [] := by decide
  unfold href
  split
  · rename_i hdoi
    exact (and_iff_right hdoi).symm
  · rename_i hdoi
    exact ⟨fun h => absurd (List.append_eq_nil_iff.mp h).1 hresolver, fun h => absurd h.1 hdoi⟩

theorem venue_eq_nil_iff {reference : Citation.Reference} :
    venue reference = [] ↔ held "journal" reference = [] ∧ held "booktitle" reference = [] := by
  unfold venue
  split
  · rename_i hjournal
    exact (and_iff_right hjournal).symm
  · rename_i hjournal
    exact ⟨fun h => absurd h hjournal, fun h => absurd h.1 hjournal⟩

/-! ## Taken by the program -/

/-- A text, unless it is empty. -/
def unlessEmpty (t : Text) : Option Text := if t = [] then none else some t

/-- What a text is turned into, unless it is empty. -/
def ifAny {α : Type} (t : Text) (content : Text → List α) : List α :=
  if t = [] then [] else content t

section UnlessEmpty

variable {α : Type}

@[simp]
theorem ifAny_nil (content : Text → List α) : ifAny [] content = [] := rfl

theorem ifAny_of_ne {t : Text} (h : t ≠ []) (content : Text → List α) :
    ifAny t content = content t := if_neg h

/-- What is done to lists, and leaves the empty one empty, can be done to the content. -/
theorem apply_ifAny {β : Type} {f : List α → List β} (hnil : f [] = []) (t : Text)
    (content : Text → List α) : f (ifAny t content) = ifAny t fun t => f (content t) := by
  unfold ifAny
  split
  · exact hnil
  · rfl

theorem getD_map_unlessEmpty (t : Text) (content : Text → List α) :
    ((unlessEmpty t).map content).getD [] = ifAny t content := by
  unfold unlessEmpty ifAny
  split <;> rfl

theorem toList_map_unlessEmpty (t : Text) (content : Text → α) :
    ((unlessEmpty t).map content).toList = ifAny t fun t => [content t] := by
  unfold unlessEmpty ifAny
  split <;> rfl

theorem filter_eq_unlessEmpty (value : Option Text) :
    value.filter (fun t => t ≠ []) = unlessEmpty (value.getD []) := by
  cases value with
  | none => rfl
  | some t => by_cases h : t = [] <;> simp [unlessEmpty, h]

end UnlessEmpty

variable (reference : Citation.Reference)

theorem field?_eq (name : String) : field? name reference = unlessEmpty (held name reference) :=
  filter_eq_unlessEmpty _

theorem title_eq : title reference = heading reference := by
  rw [title, field?_eq, unlessEmpty, heading]
  split <;> rfl

theorem venue?_eq : venue? reference = unlessEmpty (venue reference) := by
  rw [venue?, field?_eq, field?_eq, venue]
  by_cases h : held "journal" reference = [] <;> simp [unlessEmpty, h]

theorem address?_eq : address? reference = unlessEmpty (href reference) := by
  rw [address?, field?_eq, field?_eq, href]
  by_cases h : held "doi" reference = [] <;> simp [unlessEmpty, h]

theorem linkLabel_eq : linkLabel reference = hrefLabel reference := by
  rw [linkLabel, field?_eq, hrefLabel]
  by_cases h : held "doi" reference = [] <;> simp [unlessEmpty, h]

theorem facts_eq : facts reference = knownFacts reference := by
  have hrow (label : String) (t : Text) :
      ((unlessEmpty t).map fun v => (label, v)).toList =
        [(label, t)].filter fun fact => fact.2 ≠ [] := by
    by_cases h : t = [] <;> simp [unlessEmpty, h]
  simp only [facts, field?_eq, venue?_eq, filter_eq_unlessEmpty, hrow, ← List.filter_append]
  rfl

end PaperHtml.Reference
