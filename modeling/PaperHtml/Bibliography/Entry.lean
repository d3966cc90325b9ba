import PaperHtml.Assoc

/-!
# Bibliography entries

An entry of a bibliography file has a kind (`article`, `book`), the key by which
it is cited, and named fields.
-/

namespace PaperHtml.Bibliography

/-- The fields of an entry, by lower case name. -/
abbrev Fields := Assoc Text

/-- One entry of a bibliography. -/
structure Entry where
  kind : Text
  key : Text
  fields : Fields

/-- The first entry with a key. -/
def find? (key : Text) (entries : List Entry) : Option Entry :=
  entries.find? fun entry => entry.key = key

end PaperHtml.Bibliography
