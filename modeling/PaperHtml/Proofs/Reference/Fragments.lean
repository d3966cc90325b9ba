import Mathlib
import PaperHtml.Proofs.Html.Building
import PaperHtml.Reference.Detail

/-!
# References as markup

The list of references and the details of a reference are sources of trees of
markup, whatever the fields of the reference hold.  So they are read back with
every field as a text of its own, and with no element but those named here.
-/

namespace PaperHtml.Reference

open Text Citation Html Markup

/-! ## Texts that need no escaping -/

theorem escape_slug (key : Text) : escape (slug key) = slug key := by
  apply escape_eq_self
  intro c hc hmem
  have hslug := isSlugChar_of_mem_slug hc
  simp only [markupChars, List.mem_cons, List.not_mem_nil, or_false] at hmem
  rcases hmem with rfl | rfl | rfl | rfl | rfl <;> exact absurd hslug (by decide)

theorem escape_mark (number : Int) : escape (mark number) = mark number := by
  apply escape_eq_self
  intro c hc hmem
  have hmark := mark_cases hc
  simp only [markupChars, List.mem_cons, List.not_mem_nil, or_false] at hmem
  rcases hmem with rfl | rfl | rfl | rfl | rfl <;> exact absurd hmark (by decide)

/-! ## Elements with classes -/

/-- The attribute that gives an element a class, if one is given. -/
def classAttributes (classes : String) : List (Text × Option Text) :=
  if classes.isEmpty then [] else [("class".toList, some classes.toList)]

/-- An element with a class, if one is given. -/
def classed (name classes : String) (children : List Markup) : Markup :=
  .element name.toList (classAttributes classes) children

theorem source_classed {name classes : String} (h : escape classes.toList = classes.toList)
    (children : List Markup) :
    source (classed name classes children) = inElement name classes (sources children) := by
  have hclass : " class=\"".toList = ' ' :: "class".toList ++ ['=', '"'] := by decide
  delta classed classAttributes inElement
  simp only [source, startSource, endSource]
  by_cases hempty : classes.isEmpty = true
  · simp [hempty]
  · simp [hempty, attributeSource, valueSource, h, hclass]

/-! ## A reference on one line -/

/-- The link to the work, as markup. -/
def workLinkMarkup (reference : Citation.Reference) (address : Text) : Markup :=
  .element "a".toList
    [("href".toList, some address), ("target".toList, some "_blank".toList),
      ("rel".toList, some "noopener noreferrer".toList)]
    [.text (linkLabel reference)]

/-- A reference on one line, as markup. -/
def lineMarkup (reference : Citation.Reference) : List Markup :=
  let shown (value : Option Text) (content : Text → Text) : List Markup :=
    (value.map fun v => .text (content v)).toList
  [classed "span" "ref-number" [.text (mark reference.number)], .text [' '],
      classed "span" "ref-title" [.text (title reference)]] ++
    shown (field? "year" reference) (fun year => " (".toList ++ year ++ [')']) ++
    shown (field? "author" reference) (fun field => ' ' :: formatAuthors field) ++
    shown (venue? reference) (fun venue => " — ".toList ++ venue) ++
    ((address? reference).map fun address =>
      [.text [' '], workLinkMarkup reference address]).getD []

/-- A reference as an item of the list, as markup. -/
def itemMarkup (reference : Citation.Reference) : Markup :=
  .element "li".toList [("id".toList, some ("ref-".toList ++ slug reference.key))]
    (lineMarkup reference)

/-- The section of references, as markup. -/
def listingMarkup (references : List Citation.Reference) : Markup :=
  classed "section" "references"
    [.element "h2".toList [("id".toList, some "references".toList)]
      [.text "References".toList],
      .element "ol".toList [] (references.map itemMarkup)]

theorem workLink?_eq (reference : Citation.Reference) :
    workLink? reference =
      (address? reference).map fun address => source (workLinkMarkup reference address) := by
  have hopen : "<a href=\"".toList = '<' :: "a".toList ++ ' ' :: "href".toList ++ ['=', '"'] := by
    decide
  have hrest : "\" target=\"_blank\" rel=\"noopener noreferrer\">".toList =
      '"' :: ' ' :: "target".toList ++ '=' :: '"' :: escape "_blank".toList ++ '"' ::
        ' ' :: "rel".toList ++ '=' :: '"' :: escape "noopener noreferrer".toList ++ ['"', '>'] := by
    decide
  have hclose : "</a>".toList = '<' :: '/' :: "a".toList ++ ['>'] := by decide
  have hlabel : escape (linkLabel reference) = linkLabel reference := by
    have hall : escape "doi".toList = "doi".toList ∧ escape "link".toList = "link".toList := by
      decide
    rw [linkLabel]
    split
    · exact hall.1
    · exact hall.2
  delta workLink? workLinkMarkup
  simp only [source, sources, startSource, endSource, attributeSource, valueSource, hopen, hrest,
    hclose, hlabel, List.flatMap_cons, List.flatMap_nil, List.append_assoc, List.cons_append,
    List.nil_append, List.append_nil]

/-- A part of the line is written if there is a value for it. -/
private theorem sources_shown (value : Option Text) (content written : Text → Text)
    (h : ∀ v, escape (content v) = written v) :
    sources ((value.map fun v => Markup.text (content v)).toList) =
      (value.map written).getD [] := by
  cases value with
  | none => rfl
  | some v => simp [sources, source, h]

theorem sources_lineMarkup (reference : Citation.Reference) :
    sources (lineMarkup reference) = line reference := by
  have hnumber : startSource "span".toList (classAttributes "ref-number") =
      "<span class=\"ref-number\">".toList := by decide
  have hbetween : "</span> <span class=\"ref-title\">".toList = endSource "span".toList ++
      ' ' :: startSource "span".toList (classAttributes "ref-title") := by decide
  have hend : "</span>".toList = endSource "span".toList := by decide
  have hspace : escape [' '] = [' '] := by decide
  have hyear := sources_shown (field? "year" reference)
    (fun year => " (".toList ++ year ++ [')']) (fun year => " (".toList ++ escape year ++ [')'])
    (fun year => by
      have hopen : escape " (".toList = " (".toList := by decide
      have hclose : escape [')'] = [')'] := by decide
      rw [escape_append, escape_append, hopen, hclose])
  have hauthors := sources_shown (field? "author" reference)
    (fun field => ' ' :: formatAuthors field) (fun field => ' ' :: escape (formatAuthors field))
    (fun field => by rw [escape_cons]; rfl)
  have hvenue := sources_shown (venue? reference)
    (fun venue => " — ".toList ++ venue) (fun venue => " — ".toList ++ escape venue)
    (fun venue => by
      have hdash : escape " — ".toList = " — ".toList := by decide
      rw [escape_append, hdash])
  have hlink : sources (((address? reference).map fun address =>
      [.text [' '], workLinkMarkup reference address]).getD []) =
        ((workLink? reference).map fun link => ' ' :: link).getD [] := by
    rw [workLink?_eq]
    cases address? reference with
    | none => rfl
    | some address => simp [sources, source, hspace]
  delta line lineMarkup classed
  simp only [sources_append, hyear, hauthors, hvenue, hlink]
  simp only [sources, source, hnumber, hbetween, hend, hspace, escape_mark, List.append_assoc,
    List.append_nil, List.cons_append, List.nil_append]

theorem source_itemMarkup (reference : Citation.Reference) :
    source (itemMarkup reference) = item reference := by
  have hopen : "<li id=\"ref-".toList =
      '<' :: "li".toList ++ ' ' :: "id".toList ++ '=' :: '"' :: escape "ref-".toList := by decide
  have hclose : "\">".toList = ['"', '>'] := by decide
  have hend : "</li>".toList = endSource "li".toList := by decide
  delta item itemMarkup
  simp only [source, sources_lineMarkup, startSource, attributeSource, valueSource, escape_append,
    escape_slug, hopen, hclose, hend, List.flatMap_cons, List.flatMap_nil, List.append_assoc,
    List.cons_append, List.nil_append, List.append_nil]

theorem source_listingMarkup (references : List Citation.Reference) :
    source (listingMarkup references) = listing references := by
  have hopen : "<section class=\"references\"><h2 id=\"references\">References</h2><ol>".toList =
      startSource "section".toList (classAttributes "references") ++
        startSource "h2".toList [("id".toList, some "references".toList)] ++
        escape "References".toList ++ endSource "h2".toList ++ startSource "ol".toList [] := by
    decide
  have hclose : "</ol></section>".toList = endSource "ol".toList ++ endSource "section".toList := by
    decide
  delta listing listingMarkup classed
  simp only [source, sources, sources_map, source_itemMarkup, hopen, hclose, List.append_assoc,
    List.append_nil]

/-! ## The details of a reference -/

/-- A row of the table of facts, as markup. -/
def factMarkup (fact : String × Text) : List Markup :=
  [classed "dt" "" [.text fact.1.toList], classed "dd" "" [.text fact.2]]

/-- Everything that is known of a reference, as markup. -/
def detailMarkup (reference : Citation.Reference) : List Markup :=
  let rows := facts reference
  [classed "h3" "detail-title" [.text (mark reference.number ++ ' ' :: title reference)]] ++
    (if reference.missing then
      [classed "p" "detail-stub" [.text "No bibliography record for this key.".toList]] else []) ++
    ((field? "author" reference).map fun field =>
      classed "ul" "detail-authors"
        ((authors field).map fun name => classed "li" "" [.text name])).toList ++
    (if rows = [] then [] else [classed "dl" "" (rows.flatMap factMarkup)]) ++
    ((address? reference).map fun address =>
      classed "p" "" [workLinkMarkup reference address]).toList ++
    [classed "p" "detail-key" [classed "code" "" [.text reference.key]]]

/-- What is shown for a key without a reference, as markup. -/
def notFoundMarkup (key : Text) : Markup :=
  classed "p" "detail-missing" [.text ("Reference not found: ".toList ++ key)]

/-- The labels of the table of facts. -/
def factLabels : List String :=
  ["Type", "Venue", "Year", "Volume", "Number", "Pages", "Publisher"]

theorem label_mem_of_mem_facts {reference : Citation.Reference} {fact : String × Text}
    (h : fact ∈ facts reference) : fact.1 ∈ factLabels := by
  simp only [facts, List.mem_append, Option.mem_toList, Option.map_eq_some_iff] at h
  rcases h with (((((h | h) | h) | h) | h) | h) | h <;> obtain ⟨value, -, rfl⟩ := h <;>
    simp [factLabels]

private theorem escape_label {reference : Citation.Reference} {fact : String × Text}
    (h : fact ∈ facts reference) : escape fact.1.toList = fact.1.toList := by
  have hall : ∀ label ∈ factLabels, escape label.toList = label.toList := by decide
  exact hall _ (label_mem_of_mem_facts h)

/-- The classes in the details are written as they are. -/
private theorem escape_classes :
    ∀ classes ∈ ["", "detail-title", "detail-stub", "detail-authors", "detail-key",
      "detail-missing"], escape classes.toList = classes.toList := by decide

private theorem sources_facts (reference : Citation.Reference) :
    sources ((facts reference).flatMap factMarkup) = (facts reference).flatMap factRow := by
  have hempty := escape_classes "" (by simp)
  rw [sources_flatMap]
  apply List.flatMap_congr
  intro fact hfact
  simp only [factMarkup, factRow, sources, source_classed hempty, source, escape_label hfact,
    List.append_nil]

private theorem sources_authors (field : Text) :
    source (classed "ul" "detail-authors"
        ((authors field).map fun name => classed "li" "" [.text name])) =
      inElement "ul" "detail-authors"
        ((authors field).flatMap fun name => inElement "li" "" (escape name)) := by
  have hempty := escape_classes "" (by simp)
  have hauthors := escape_classes "detail-authors" (by simp)
  rw [source_classed hauthors, sources_map]
  simp only [source_classed hempty, sources, source, List.append_nil]

theorem sources_detailMarkup (reference : Citation.Reference) :
    sources (detailMarkup reference) = detail reference := by
  have hempty := escape_classes "" (by simp)
  have htitle := escape_classes "detail-title" (by simp)
  have hstub := escape_classes "detail-stub" (by simp)
  have hkey := escape_classes "detail-key" (by simp)
  have hmissing : sources (if reference.missing then
      [classed "p" "detail-stub" [.text "No bibliography record for this key.".toList]] else []) =
      if reference.missing then
        inElement "p" "detail-stub" "No bibliography record for this key.".toList else [] := by
    have hself : escape "No bibliography record for this key.".toList =
        "No bibliography record for this key.".toList := by decide
    split
    · simp only [sources, source, source_classed hstub, hself, List.append_nil]
    · rfl
  have hauthors : sources ((field? "author" reference).map fun field =>
      classed "ul" "detail-authors"
        ((authors field).map fun name => classed "li" "" [.text name])).toList =
      ((field? "author" reference).map fun field =>
        inElement "ul" "detail-authors"
          ((authors field).flatMap fun name => inElement "li" "" (escape name))).getD [] := by
    cases field? "author" reference with
    | none => rfl
    | some field =>
        simp only [Option.map_some, Option.toList_some, Option.getD_some, sources,
          List.append_nil]
        exact sources_authors field
  have htable : sources (if facts reference = [] then []
      else [classed "dl" "" ((facts reference).flatMap factMarkup)]) =
      if facts reference = [] then [] else inElement "dl" "" ((facts reference).flatMap factRow) := by
    split
    · rfl
    · simp only [sources, source_classed hempty, sources_facts, List.append_nil]
  have hlink : sources ((address? reference).map fun address =>
      classed "p" "" [workLinkMarkup reference address]).toList =
      ((workLink? reference).map (inElement "p" "")).getD [] := by
    rw [workLink?_eq]
    cases address? reference with
    | none => rfl
    | some address =>
        simp only [Option.map_some, Option.toList_some, Option.getD_some, sources,
          source_classed hempty, List.append_nil]
  have hheading : escape (mark reference.number ++ ' ' :: title reference) =
      mark reference.number ++ ' ' :: escape (title reference) := by
    rw [escape_append, escape_mark, escape_cons]
    rfl
  delta detail detailMarkup
  simp only [sources_append, hmissing, hauthors, htable, hlink]
  simp only [sources, source, source_classed htitle, source_classed hkey, source_classed hempty,
    hheading, List.append_nil]

theorem source_notFoundMarkup (key : Text) : source (notFoundMarkup key) = notFound key := by
  have hclass := escape_classes "detail-missing" (by simp)
  have hself : escape "Reference not found: ".toList = "Reference not found: ".toList := by decide
  delta notFound notFoundMarkup
  simp only [source_classed hclass, sources, source, escape_append, hself, List.append_nil]

end PaperHtml.Reference
