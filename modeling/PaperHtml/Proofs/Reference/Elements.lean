import Mathlib
import PaperHtml.Proofs.Reference.Fragments

/-!
# The elements of references

The markup of a reference has only names that are read back, and its elements
have no identifiers but for the items of the list.
-/

namespace PaperHtml.Reference

open Text Citation Html Markup

/-! ## All names are read back -/

theorem areAttributes_classAttributes (classes : String) :
    areAttributes (classAttributes classes) = true := by
  have hclass : areAttributeNames ["class".toList] = true := by decide
  unfold classAttributes
  split
  · rfl
  · exact hclass

theorem isPlain_classed {name : String} (hname : isElementName name.toList = true)
    (classes : String) (children : List Markup) :
    isPlain (classed name classes children) = arePlain children := by
  simp [classed, isPlain, hname, areAttributes_classAttributes]

/-- The names of the elements of references are read back. -/
private theorem isElementName_of_mem :
    ∀ name ∈ ["a", "span", "li", "ol", "h2", "section", "h3", "p", "ul", "dl", "dt", "dd", "code"],
      isElementName name.toList = true := by decide

theorem isPlain_workLinkMarkup (reference : Citation.Reference) (address : Text) :
    isPlain (workLinkMarkup reference address) = true := by
  have hname := isElementName_of_mem "a" (by simp)
  have hattributes : areAttributeNames ["href".toList, "target".toList, "rel".toList] = true := by
    decide
  rw [workLinkMarkup, isPlain, hname]
  exact hattributes

theorem arePlain_lineMarkup (reference : Citation.Reference) :
    arePlain (lineMarkup reference) = true := by
  have hshown : ∀ (value : Option Text) (content : Text → Text),
      arePlain ((value.map fun v => Markup.text (content v)).toList) = true := by
    intro value content
    cases value <;> rfl
  have hlink : arePlain (((address? reference).map fun address =>
      [.text [' '], workLinkMarkup reference address]).getD []) = true := by
    cases address? reference with
    | none => rfl
    | some address => simp [arePlain, isPlain, isPlain_workLinkMarkup]
  have hspan := isPlain_classed (isElementName_of_mem "span" (by simp))
  simp only [lineMarkup, arePlain_append, hshown, hlink, arePlain, isPlain, hspan, Bool.and_self]

theorem isPlain_itemMarkup (reference : Citation.Reference) :
    isPlain (itemMarkup reference) = true := by
  have hname := isElementName_of_mem "li" (by simp)
  have hattributes : areAttributeNames ["id".toList] = true := by decide
  rw [itemMarkup, isPlain, hname, arePlain_lineMarkup]
  exact hattributes

theorem isPlain_listingMarkup (references : List Citation.Reference) :
    isPlain (listingMarkup references) = true := by
  have hheading := isElementName_of_mem "h2" (by simp)
  have hlist := isElementName_of_mem "ol" (by simp)
  have hattributes : areAttributeNames ["id".toList] = true := by decide
  have hitems := arePlain_map isPlain_itemMarkup references
  rw [listingMarkup, isPlain_classed (isElementName_of_mem "section" (by simp))]
  simp only [arePlain, isPlain, hheading, hlist, hitems, Bool.and_true, Bool.true_and]
  exact hattributes

theorem arePlain_detailMarkup (reference : Citation.Reference) :
    arePlain (detailMarkup reference) = true := by
  have hp := isPlain_classed (isElementName_of_mem "p" (by simp))
  have hmissing : arePlain (if reference.missing then
      [classed "p" "detail-stub" [.text "No bibliography record for this key.".toList]] else []) =
      true := by
    split
    · simp only [arePlain, hp, isPlain, Bool.and_self]
    · rfl
  have hauthors : arePlain ((field? "author" reference).map fun field =>
      classed "ul" "detail-authors"
        ((authors field).map fun name => classed "li" "" [.text name])).toList = true := by
    have hli := isPlain_classed (isElementName_of_mem "li" (by simp)) ""
    have hul := isPlain_classed (isElementName_of_mem "ul" (by simp))
    cases field? "author" reference with
    | none => rfl
    | some field =>
        have hnames := arePlain_map (f := fun name : Text => classed "li" "" [.text name])
          (fun name => by rw [hli]; rfl) (authors field)
        simp only [Option.map_some, Option.toList_some, arePlain, hul, hnames, Bool.and_self]
  have htable : arePlain (if facts reference = [] then []
      else [classed "dl" "" ((facts reference).flatMap factMarkup)]) = true := by
    have hdl := isPlain_classed (isElementName_of_mem "dl" (by simp)) ""
    have hdt := isPlain_classed (isElementName_of_mem "dt" (by simp)) ""
    have hdd := isPlain_classed (isElementName_of_mem "dd" (by simp)) ""
    have hrows : ∀ rows : List (String × Text), arePlain (rows.flatMap factMarkup) = true := by
      intro rows
      induction rows with
      | nil => rfl
      | cons row rest ih =>
          rw [List.flatMap_cons, arePlain_append, ih]
          simp only [factMarkup, arePlain, hdt, hdd, isPlain, Bool.and_self]
    split
    · rfl
    · simp only [arePlain, hdl, hrows, Bool.and_self]
  have hlink : arePlain ((address? reference).map fun address =>
      classed "p" "" [workLinkMarkup reference address]).toList = true := by
    cases address? reference with
    | none => rfl
    | some address =>
        simp only [Option.map_some, Option.toList_some, arePlain, hp, isPlain_workLinkMarkup,
          Bool.and_self]
  have hh3 := isPlain_classed (isElementName_of_mem "h3" (by simp))
  have hcode := isPlain_classed (isElementName_of_mem "code" (by simp))
  simp only [detailMarkup, arePlain_append, hmissing, hauthors, htable, hlink, arePlain, isPlain,
    hh3, hp, hcode, Bool.and_self]

theorem isPlain_notFoundMarkup (key : Text) : isPlain (notFoundMarkup key) = true := by
  rw [notFoundMarkup, isPlain_classed (isElementName_of_mem "p" (by simp))]
  rfl

theorem parse_detail (reference : Citation.Reference) :
    parse (detail reference) = .ok (built [] [] (detailMarkup reference)) := by
  rw [← sources_detailMarkup, parse_sources (arePlain_detailMarkup reference)]

theorem parse_notFound (key : Text) :
    parse (notFound key) = .ok (built [] [] [notFoundMarkup key]) := by
  rw [← source_notFoundMarkup, parse_source (isPlain_notFoundMarkup key)]

theorem parse_listing (references : List Citation.Reference) :
    parse (listing references) = .ok (built [] [] [listingMarkup references]) := by
  rw [← source_listingMarkup, parse_source (isPlain_listingMarkup references)]

/-! ## The elements of references -/

/-- All elements have one of some names and no identifier. -/
def Anonymous (names : List String) (tags : List Tag) : Prop :=
  ∀ tag ∈ tags, tag.name ∈ names.map String.toList ∧ tag.attribute? "id" = none

section Anonymous

variable {names : List String}

theorem anonymous_append {before after : List Tag} :
    Anonymous names (before ++ after) ↔ Anonymous names before ∧ Anonymous names after := by
  simp only [Anonymous, List.mem_append, or_imp, forall_and]
  tauto

theorem anonymous_element {name : String} (hname : name ∈ names)
    (attributes : List (Text × Option Text)) (hid : "id".toList ∉ attributes.map Prod.fst)
    {children : List Markup} (hchildren : Anonymous names (tagsAmong children)) :
    Anonymous names (tags (.element name.toList attributes children)) := by
  intro tag htag
  rw [tags] at htag
  rcases List.mem_cons.mp htag with rfl | htag
  · refine ⟨List.mem_map_of_mem hname, ?_⟩
    rw [attribute?_keptTag, Assoc.get?_eq_none_iff.mpr hid]
    rfl
  · exact hchildren tag htag

theorem anonymous_classed {name : String} (hname : name ∈ names) (classes : String)
    {children : List Markup} (hchildren : Anonymous names (tagsAmong children)) :
    Anonymous names (tags (classed name classes children)) := by
  refine anonymous_element hname _ ?_ hchildren
  have hclass : "id".toList ∉ ["class".toList] := by decide
  unfold classAttributes
  split
  · simp
  · exact hclass

theorem anonymous_nil : Anonymous names [] := by
  intro tag htag
  cases htag

theorem anonymous_text (content : Text) : Anonymous names (tagsAmong [.text content]) :=
  anonymous_nil

theorem anonymous_singleton {markup : Markup} :
    Anonymous names (tagsAmong [markup]) ↔ Anonymous names (tags markup) := by
  simp [tagsAmong]

theorem anonymous_workLinkMarkup (hname : "a" ∈ names) (reference : Citation.Reference)
    (address : Text) : Anonymous names (tags (workLinkMarkup reference address)) := by
  have hid : "id".toList ∉ ["href".toList, "target".toList, "rel".toList] := by decide
  exact anonymous_element hname
    [("href".toList, some address), ("target".toList, some "_blank".toList),
      ("rel".toList, some "noopener noreferrer".toList)] hid (anonymous_text _)

end Anonymous

/-- A line holds spans and a link only. -/
theorem anonymous_lineMarkup (reference : Citation.Reference) :
    Anonymous ["a", "span"] (tagsAmong (lineMarkup reference)) := by
  have hshown : ∀ (value : Option Text) (content : Text → Text),
      Anonymous ["a", "span"]
        (tagsAmong ((value.map fun v => Markup.text (content v)).toList)) := by
    intro value content
    cases value with
    | none => exact anonymous_nil
    | some v => exact anonymous_text _
  have hlink : Anonymous ["a", "span"] (tagsAmong (((address? reference).map fun address =>
      [.text [' '], workLinkMarkup reference address]).getD [])) := by
    cases address? reference with
    | none => exact anonymous_nil
    | some address =>
        exact anonymous_singleton.mpr (anonymous_workLinkMarkup (by simp) reference address)
  have hspan : ∀ (classes : String) (content : Text),
      Anonymous ["a", "span"] (tags (classed "span" classes [.text content])) :=
    fun classes content => anonymous_classed (by simp) classes (anonymous_text content)
  simp only [lineMarkup, tagsAmong_append, tagsAmong, tags, anonymous_append]
  refine ⟨⟨⟨⟨⟨hspan _ _, anonymous_nil, hspan _ _, anonymous_nil⟩, hshown _ _⟩, hshown _ _⟩,
    hshown _ _⟩, hlink⟩

/-- The names of the elements in the details of a reference. -/
def detailNames : List String := ["h3", "p", "ul", "li", "dl", "dt", "dd", "a", "code"]

theorem anonymous_detailMarkup (reference : Citation.Reference) :
    Anonymous detailNames (tagsAmong (detailMarkup reference)) := by
  have hmissing : Anonymous detailNames (tagsAmong (if reference.missing then
      [classed "p" "detail-stub" [.text "No bibliography record for this key.".toList]]
      else [])) := by
    split
    · exact anonymous_singleton.mpr (anonymous_classed (by decide) _ (anonymous_text _))
    · exact anonymous_nil
  have hauthors : Anonymous detailNames (tagsAmong ((field? "author" reference).map fun field =>
      classed "ul" "detail-authors"
        ((authors field).map fun name => classed "li" "" [.text name])).toList) := by
    cases field? "author" reference with
    | none => exact anonymous_nil
    | some field =>
        refine anonymous_singleton.mpr (anonymous_classed (by decide) _ ?_)
        rw [tagsAmong_map]
        intro tag htag
        obtain ⟨name, -, htag⟩ := List.mem_flatMap.mp htag
        exact anonymous_classed (by decide) _ (anonymous_text name) tag htag
  have htable : Anonymous detailNames (tagsAmong (if facts reference = [] then []
      else [classed "dl" "" ((facts reference).flatMap factMarkup)])) := by
    have hrows : ∀ rows : List (String × Text),
        Anonymous detailNames (tagsAmong (rows.flatMap factMarkup)) := by
      intro rows
      induction rows with
      | nil => exact anonymous_nil
      | cons row rest ih =>
          rw [List.flatMap_cons, tagsAmong_append, anonymous_append]
          refine ⟨?_, ih⟩
          simp only [factMarkup, tagsAmong, anonymous_append]
          exact ⟨anonymous_classed (by decide) _ (anonymous_text _),
            anonymous_classed (by decide) _ (anonymous_text _), anonymous_nil⟩
    split
    · exact anonymous_nil
    · exact anonymous_singleton.mpr (anonymous_classed (by decide) _ (hrows _))
  have hlink : Anonymous detailNames (tagsAmong ((address? reference).map fun address =>
      classed "p" "" [workLinkMarkup reference address]).toList) := by
    cases address? reference with
    | none => exact anonymous_nil
    | some address =>
        refine anonymous_singleton.mpr (anonymous_classed (by decide) _ ?_)
        exact anonymous_singleton.mpr (anonymous_workLinkMarkup (by decide) reference address)
  have hheading : Anonymous detailNames (tags (classed "h3" "detail-title"
      [.text (mark reference.number ++ ' ' :: title reference)])) :=
    anonymous_classed (by decide) _ (anonymous_text _)
  have hkey : Anonymous detailNames
      (tags (classed "p" "detail-key" [classed "code" "" [.text reference.key]])) :=
    anonymous_classed (by decide) _
      (anonymous_singleton.mpr (anonymous_classed (by decide) _ (anonymous_text _)))
  simp only [detailMarkup, tagsAmong_append, anonymous_append, anonymous_singleton]
  exact ⟨⟨⟨⟨⟨hheading, hmissing⟩, hauthors⟩, htable⟩, hlink⟩, hkey⟩

theorem anonymous_notFoundMarkup (key : Text) :
    Anonymous detailNames (tags (notFoundMarkup key)) :=
  anonymous_classed (by decide) _ (anonymous_text _)

end PaperHtml.Reference
