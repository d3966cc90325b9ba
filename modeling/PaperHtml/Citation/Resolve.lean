import PaperHtml.Bibliography.Entry

/-!
# Cited references

Every cited key is looked up in the bibliography.  A key without an entry still
has its number, and stands in with the key as its title.
-/

namespace PaperHtml.Citation

open Bibliography

/-- What is known of a cited key. -/
structure Reference where
  key : Text
  number : Int
  fields : Fields
  kind : Option Text := none
  /-- Whether the bibliography has no entry for the key. -/
  missing : Bool := false

/-- The reference for a cited key. -/
def resolve (entries : List Entry) (number : Int) (key : Text) : Reference :=
  match find? key entries with
  | some entry => { key, number, fields := entry.fields, kind := some entry.kind }
  | none => { key, number, fields := [("title".toList, key)], missing := true }

/-- The references for cited keys, numbered after `last`. -/
def resolveFrom (entries : List Entry) : (last : Nat) → List Text → List Reference
  | _, [] => []
  | last, key :: rest =>
    resolve entries (last + 1 : Nat) key :: resolveFrom entries (last + 1) rest

/-- The references for cited keys, numbered from one on. -/
def resolveAll (entries : List Entry) (order : List Text) : List Reference :=
  resolveFrom entries 0 order

end PaperHtml.Citation
