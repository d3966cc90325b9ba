import Mathlib
import PaperHtml.Page.Panel

/-!
# References that say the same

A reference is shown by what its fields say.  The order in which they were
written does not matter, so entries that differ only in it are shown alike
wherever a reference is shown: on its line, in its details, and in the details
that the page carries along.
-/

namespace PaperHtml

namespace Bibliography

/-- Two entries say the same, perhaps with their fields in another order. -/
structure Entry.Agrees (entry entry' : Entry) : Prop where
  kind : entry.kind = entry'.kind
  fields : ∀ name, entry.fields.get? name = entry'.fields.get? name

end Bibliography

namespace Citation

open Bibliography

/-- Two references of one key say the same, perhaps with their fields in another order. -/
structure Reference.Agrees (reference reference' : Reference) : Prop where
  key : reference.key = reference'.key
  number : reference.number = reference'.number
  kind : reference.kind = reference'.kind
  missing : reference.missing = reference'.missing
  fields : ∀ name, reference.fields.get? name = reference'.fields.get? name

/-! ## References for cited keys -/

variable {entries entries' : List Entry} {order : List Text}

theorem agrees_resolve {key : Text}
    (h : Option.Rel Entry.Agrees (find? key entries) (find? key entries')) (number : Int) :
    (resolve entries number key).Agrees (resolve entries' number key) := by
  unfold resolve
  cases hfound : find? key entries with
  | none =>
      rw [hfound] at h
      cases hother : find? key entries' with
      | none => exact ⟨rfl, rfl, rfl, rfl, fun _ => rfl⟩
      | some entry' =>
          rw [hother] at h
          cases h
  | some entry =>
      rw [hfound] at h
      cases hother : find? key entries' with
      | none =>
          rw [hother] at h
          cases h
      | some entry' =>
          rw [hother] at h
          cases h with
          | some hagrees => exact ⟨rfl, rfl, congrArg some hagrees.kind, rfl, hagrees.fields⟩

/-- References for the same keys are related if those for each key are. -/
theorem forall₂_resolveAll {related : Reference → Reference → Prop}
    (h : ∀ key ∈ order, ∀ number,
      related (resolve entries number key) (resolve entries' number key)) :
    List.Forall₂ related (resolveAll entries order) (resolveAll entries' order) := by
  have hfrom (last : Nat) :
      List.Forall₂ related (resolveFrom entries last order) (resolveFrom entries' last order) := by
    induction order generalizing last with
    | nil => exact .nil
    | cons key rest ih =>
        obtain ⟨hkey, hrest⟩ := List.forall_mem_cons.mp h
        exact .cons (hkey _) (ih hrest (last + 1))
  exact hfrom 0

/-- A reference is resolved from the first entry with its key and nothing else. -/
theorem resolveAll_congr (h : ∀ key ∈ order, find? key entries = find? key entries') :
    resolveAll entries order = resolveAll entries' order := by
  have hsame := @forall₂_resolveAll entries entries' order Eq
  rw [List.forall₂_eq_eq_eq] at hsame
  apply hsame
  intro key hkey number
  unfold resolve
  rw [h key hkey]

end Citation

namespace Reference

open Citation

/-! ## How a reference is shown -/

variable {reference reference' : Citation.Reference}

theorem field?_congr (h : reference.Agrees reference') (name : String) :
    field? name reference = field? name reference' := by
  unfold field? Assoc.filled?
  rw [h.fields]

theorem title_congr (h : reference.Agrees reference') : title reference = title reference' := by
  unfold title
  rw [field?_congr h, h.key]

theorem venue?_congr (h : reference.Agrees reference') : venue? reference = venue? reference' := by
  unfold venue?
  rw [field?_congr h, field?_congr h]

theorem workLink?_congr (h : reference.Agrees reference') :
    workLink? reference = workLink? reference' := by
  have haddress : address? reference = address? reference' := by
    unfold address?
    rw [field?_congr h "doi", field?_congr h "url"]
  have hlabel : linkLabel reference = linkLabel reference' := by
    unfold linkLabel
    rw [field?_congr h]
  unfold workLink?
  rw [haddress, hlabel]

theorem line_congr (h : reference.Agrees reference') : line reference = line reference' := by
  unfold line
  rw [h.number, title_congr h, field?_congr h "year", field?_congr h "author", venue?_congr h,
    workLink?_congr h]

theorem facts_congr (h : reference.Agrees reference') : facts reference = facts reference' := by
  unfold facts
  rw [h.kind, venue?_congr h, field?_congr h "year", field?_congr h "volume",
    field?_congr h "number", field?_congr h "pages", field?_congr h "publisher"]

theorem detail_congr (h : reference.Agrees reference') : detail reference = detail reference' := by
  unfold detail
  rw [h.number, title_congr h, h.missing, field?_congr h "author", facts_congr h,
    workLink?_congr h, h.key]

theorem item_congr (h : reference.Agrees reference') : item reference = item reference' := by
  unfold item
  rw [h.key, line_congr h]

theorem listing_congr {references references' : List Citation.Reference}
    (h : List.Forall₂ Reference.Agrees references references') :
    listing references = listing references' := by
  have hitems : references.flatMap item = references'.flatMap item := by
    induction h with
    | nil => rfl
    | cons hfirst hrest ih => rw [List.flatMap_cons, List.flatMap_cons, item_congr hfirst, ih]
  unfold listing
  rw [hitems]

end Reference

/-! ## The details for the browser -/

namespace Panel

/-- Details under the same names that say the same. -/
def AgreeAt (entry entry' : Text × Citation.Reference) : Prop :=
  entry.1 = entry'.1 ∧ entry.2.Agrees entry'.2

theorem forall₂_insert {table table' : Assoc Citation.Reference}
    (h : List.Forall₂ AgreeAt table table') {key : Text}
    {reference reference' : Citation.Reference} (hagrees : reference.Agrees reference') :
    List.Forall₂ AgreeAt (Assoc.insert key reference table)
      (Assoc.insert key reference' table') := by
  induction h with
  | nil => exact .cons ⟨rfl, hagrees⟩ .nil
  | @cons entry entry' rest rest' hfirst hrest ih =>
      obtain ⟨name, known⟩ := entry
      obtain ⟨name', known'⟩ := entry'
      obtain ⟨rfl, hknown⟩ : name = name' ∧ known.Agrees known' := hfirst
      unfold Assoc.insert
      split
      · exact .cons ⟨rfl, hagrees⟩ hrest
      · exact .cons ⟨rfl, hknown⟩ ih

theorem forall₂_ofReferences {references references' : List Citation.Reference}
    (h : List.Forall₂ Citation.Reference.Agrees references references') :
    List.Forall₂ AgreeAt (ofReferences references).references
      (ofReferences references').references := by
  have hput {table table' : Assoc Citation.Reference} (htable : List.Forall₂ AgreeAt table table') :
      List.Forall₂ AgreeAt
        ((references.map fun reference => (reference.key, reference)).foldl
          (fun table pair => Assoc.insert pair.1 pair.2 table) table)
        ((references'.map fun reference => (reference.key, reference)).foldl
          (fun table pair => Assoc.insert pair.1 pair.2 table) table') := by
    induction h generalizing table table' with
    | nil => exact htable
    | cons hfirst hrest ih =>
        simp only [List.map_cons, List.foldl_cons, hfirst.key]
        exact ih (forall₂_insert htable hfirst)
  exact hput .nil

theorem template_congr {entry entry' : Text × Citation.Reference} (h : AgreeAt entry entry') :
    template entry.1 entry.2 = template entry'.1 entry'.2 := by
  unfold template
  rw [h.1, Reference.detail_congr h.2]

/-- What is put into the page for the browser depends on what the references say. -/
theorem embed_congr {references references' : List Citation.Reference}
    (h : List.Forall₂ Citation.Reference.Agrees references references') (page : Page) :
    (ofReferences references).embed page = (ofReferences references').embed page := by
  have htemplates : ∀ {table table' : Assoc Citation.Reference},
      List.Forall₂ AgreeAt table table' →
        table.flatMap (fun entry => template entry.1 entry.2) =
          table'.flatMap fun entry => template entry.1 entry.2 := by
    intro table table' htable
    induction htable with
    | nil => rfl
    | cons hfirst hrest ih => rw [List.flatMap_cons, List.flatMap_cons, template_congr hfirst, ih]
  have hblock : (ofReferences references).dataBlock = (ofReferences references').dataBlock := by
    unfold dataBlock
    rw [htemplates (forall₂_ofReferences h)]
  unfold embed
  rw [hblock]

end Panel

end PaperHtml
