import Mathlib
import PaperHtml.Proofs.Bibliography.Citable
import PaperHtml.Proofs.Html.Surroundings
import PaperHtml.Proofs.Reference.Elements
import PaperHtml.Proofs.Reference.Fields
import PaperHtml.Proofs.Text.Seams

/-!
# References are read back

A reference is written as source, with its fields escaped, and read back when it
is put into the page.  What comes of it is known node by node: the elements of
its line, of its item in the list and of its details, and in them every field as
a text of its own.  Nothing that a field holds becomes markup.  What is expected is
told from the fields alone (`Reference.Fields`).

There is one exception.  A text that is nothing but blanks is shortened, and one
text of a line can be more than a single space without holding anything else: the
text before the link, if all that is known of the work beside its address is an
author field with nothing in it (`OnlyBlankAuthor`).

## Strategy

All blanks are taken to be single spaces (`Tidy`), which is what the reader of a
bibliography leaves of them (`tidy_of_mem_resolveAll`).

The source is that of a tree, so what comes of it is `built`.  Texts that stand
beside each other grow together (`built_shown`), elements keep apart
(`built_append`).  A text stays as it is if it holds anything but blanks, and each
of the parts between title and link brings something of its own: a parenthesis,
a dash, or the names of the authors.
-/

namespace PaperHtml

namespace Scanner

variable {α : Type}

/-! ## Author lists -/

/-- A text is passed over as a whole, or something is recognised in it. -/
theorem pieces_eq_map_plain_or (scan : Scanner α) (t : Text) :
    pieces scan t = t.map .plain ∨ ∃ a, .hit a ∈ pieces scan t := by
  induction t with
  | nil => exact .inl rfl
  | cons c rest ih =>
      cases hscan : scan (c :: rest) with
      | none =>
          rw [pieces_of_none hscan]
          rcases ih with hplain | ⟨a, ha⟩
          · exact .inl (by rw [hplain, List.map_cons])
          · exact .inr ⟨a, List.mem_cons_of_mem _ ha⟩
      | some found =>
          refine .inr ⟨found.1, ?_⟩
          simp [pieces, piecesFrom, hscan]

theorem length_stretches_pos (stretch : Text) (pieces : List (Piece α)) :
    0 < (stretches stretch pieces).length := by
  induction pieces generalizing stretch with
  | nil => simp [stretches]
  | cons piece rest ih =>
      cases piece with
      | plain c => exact ih (c :: stretch)
      | hit a => simp [stretches]

theorem two_le_length_stretches {a : α} {pieces : List (Piece α)} (h : .hit a ∈ pieces)
    (stretch : Text) : 2 ≤ (stretches stretch pieces).length := by
  induction pieces generalizing stretch with
  | nil => cases h
  | cons piece rest ih =>
      cases piece with
      | plain c =>
          have hrest : .hit a ∈ rest := by simpa using h
          exact ih hrest (c :: stretch)
      | hit b =>
          have hpos := length_stretches_pos [] rest
          rw [stretches, List.length_cons]
          omega

/-- A text that is split has at least two parts, and else it is its only part. -/
theorem split_cases (scan : Scanner α) (t : Text) :
    split scan t = [t] ∨ 2 ≤ (split scan t).length := by
  rcases pieces_eq_map_plain_or scan t with hplain | ⟨a, ha⟩
  · have hwhole : stretches [] (t.map (.plain : Char → Piece α)) = [t] := by
      have happend := stretches_map_plain_append [] t ([] : List (Piece α))
      rwa [List.append_nil, List.append_nil, stretches, List.reverse_reverse] at happend
    exact .inl (by rw [split, hplain, hwhole])
  · exact .inr (two_le_length_stretches ha [])

end Scanner

namespace Reference

open Text Citation Html Markup Builder

/-- Several names have an ampersand before the last. -/
theorem ampersand_mem_joinAuthors {names : List Text} (h : 2 ≤ names.length) :
    '&' ∈ joinAuthors names := by
  match names with
  | [first, second] => simp [joinAuthors]
  | first :: second :: third :: rest => simp [joinAuthors]

/-- Trimming takes nothing away but blanks. -/
theorem mem_trim {t : Text} {c : Char} (hc : c ∈ t) (hblank : isBlank c = false) :
    c ∈ trim t := by
  have hstart {t : Text} (hc : c ∈ t) : c ∈ trimStart t := by
    obtain ⟨gap, hgap, hsplit⟩ := exists_trimStart t
    rw [hsplit, List.mem_append] at hc
    apply hc.resolve_left
    intro hmem
    have hgapBlank := hgap c hmem
    rw [hblank] at hgapBlank
    cases hgapBlank
  have hend : c ∈ trimStart (trimStart t).reverse := hstart (List.mem_reverse.mpr (hstart hc))
  exact List.mem_reverse.mpr hend

/-- An author field shows something, unless there is nothing in it. -/
theorem exists_mem_formatAuthors {field : Text} (h : Collapsed field) (hne : field ≠ [])
    (hspace : field ≠ [' ']) : ∃ c ∈ formatAuthors field, isAsciiBlank c = false := by
  rcases Scanner.split_cases separator field with hone | hmany
  · have hsolid : ∃ c ∈ field, isBlank c = false := by
      by_contra hall
      have hblank : ∀ c ∈ field, isBlank c = true := by simpa using hall
      rcases h.eq_nil_or_space hblank with hnil | hsingle
      · exact hne hnil
      · exact hspace hsingle
    obtain ⟨c, hc, hblank⟩ := hsolid
    have hshown : formatAuthors field = trim field := by
      rw [formatAuthors, authors, hone]
      rfl
    exact ⟨c, hshown ▸ mem_trim hc hblank, isAsciiBlank_of_not_isBlank hblank⟩
  · have hlength : 2 ≤ (authors field).length := by rwa [authors, List.length_map]
    exact ⟨'&', ampersand_mem_joinAuthors hlength, by decide⟩

/-! ## What is shown -/

/-- The number of a reference in brackets. -/
def numberMark (reference : Citation.Reference) : Text := '[' :: ofInt reference.number ++ [']']

/-- The parts of a line between the title and the link. -/
def between (reference : Citation.Reference) : Text :=
  ifAny (held "year" reference) (fun year => " (".toList ++ year ++ [')']) ++
    ifAny (held "author" reference) (fun field => ' ' :: formatAuthors field) ++
    ifAny (venue reference) (fun venue => " — ".toList ++ venue) ++
    ifAny (href reference) fun _ => [' ']

/-- The text of a line. -/
def plainLine (reference : Citation.Reference) : Text :=
  numberMark reference ++ ' ' :: heading reference ++ between reference ++
    ifAny (href reference) fun _ => hrefLabel reference

/-- Nothing stands between the title and the link but an author field with nothing in it. -/
def OnlyBlankAuthor (reference : Citation.Reference) : Prop :=
  held "year" reference = [] ∧ held "author" reference = [' '] ∧
    (held "journal" reference = [] ∧ held "booktitle" reference = []) ∧
    (held "doi" reference ≠ [] ∨ held "url" reference ≠ [])

instance (reference : Citation.Reference) : Decidable (OnlyBlankAuthor reference) :=
  inferInstanceAs (Decidable (_ ∧ _ ∧ _ ∧ _))

/-- What is left of the text between the title and the link. -/
def betweenKept (reference : Citation.Reference) : Text :=
  if OnlyBlankAuthor reference then [' '] else between reference

/-- The tag of an element, with a class if one is given. -/
def partTag (name classes : String) : Tag :=
  ⟨name.toList, if classes.isEmpty then [] else [("class".toList, classes.toList)]⟩

/-- An element, with a class if one is given. -/
def part (name classes : String) (children : List Node) : Node :=
  .element (partTag name classes) children

/-- The tag of the link to the work. -/
def workLinkTag (address : Text) : Tag :=
  ⟨"a".toList, [("href".toList, address), ("target".toList, "_blank".toList),
    ("rel".toList, "noopener noreferrer".toList)]⟩

/-- The link to the work. -/
def workLinkNode (reference : Citation.Reference) (address : Text) : Node :=
  .element (workLinkTag address) (prose (hrefLabel reference))

/-- A reference on one line, as nodes. -/
def lineNodes (reference : Citation.Reference) : List Node :=
  [part "span" "ref-number" (prose (numberMark reference)), .text .prose [' '],
      part "span" "ref-title" (prose (heading reference))] ++
    prose (betweenKept reference) ++
    ifAny (href reference) fun address => [workLinkNode reference address]

/-- The section of references, as nodes. -/
def listingNode (references : List Citation.Reference) : Node :=
  part "section" "references"
    [.element ⟨"h2".toList, [("id".toList, "references".toList)]⟩ (prose "References".toList),
      part "ol" "" (references.map fun reference =>
        .element ⟨"li".toList, [("id".toList, "ref-".toList ++ slug reference.key)]⟩
          (lineNodes reference))]

/-- A row of the table of facts, as nodes. -/
def factNodes (fact : String × Text) : List Node :=
  [part "dt" "" (prose fact.1.toList), part "dd" "" (prose fact.2)]

/-- Everything that is known of a reference, as nodes. -/
def detailNodes (reference : Citation.Reference) : List Node :=
  [part "h3" "detail-title" (prose (numberMark reference ++ ' ' :: heading reference))] ++
    (if reference.missing then
      [part "p" "detail-stub" (prose "No bibliography record for this key.".toList)] else []) ++
    ifAny (held "author" reference) (fun field =>
      [part "ul" "detail-authors" ((authors field).map fun name => part "li" "" (prose name))]) ++
    (if knownFacts reference = [] then []
      else [part "dl" "" ((knownFacts reference).flatMap factNodes)]) ++
    ifAny (href reference) (fun address => [part "p" "" [workLinkNode reference address]]) ++
    [part "p" "detail-key" [part "code" "" (prose reference.key)]]

/-! ## Fields without superfluous blanks -/

/-- The blanks in everything that is known of a reference are single spaces. -/
structure Tidy (reference : Citation.Reference) : Prop where
  key : Collapsed reference.key
  kind : ∀ kind ∈ reference.kind, Collapsed kind
  fields : ∀ field ∈ reference.fields, Collapsed field.2

/-- The references that are resolved from a bibliography are tidy, if the cited keys are. -/
theorem tidy_of_mem_resolveAll {raw : Text} {keys : List Text}
    (hkeys : ∀ key ∈ keys, Collapsed key) {reference : Citation.Reference}
    (h : reference ∈ resolveAll (Bibliography.read raw) keys) : Tidy reference := by
  obtain ⟨number, key, hkey, rfl⟩ := exists_of_mem_resolveAll h
  have hcollapsed := hkeys key hkey
  unfold resolve
  split
  · rename_i entry hfound
    have hread : entry ∈ Bibliography.read raw := List.mem_of_find?_eq_some hfound
    have hkind : Collapsed entry.kind :=
      collapsed_of_not_isBlank (Bibliography.isBlank_of_mem_kind hread)
    refine ⟨hcollapsed, ?_, (Bibliography.isRecord_of_mem_read hread).values⟩
    rintro kind ⟨⟩
    exact hkind
  · refine ⟨hcollapsed, ?_, ?_⟩
    · rintro kind ⟨⟩
    · intro field hfield
      obtain rfl := List.mem_singleton.mp hfield
      exact hcollapsed

section Tidy

variable {reference : Citation.Reference}

theorem Tidy.collapsed_held (h : Tidy reference) (name : String) :
    Collapsed (held name reference) := by
  unfold held
  cases hvalue : Assoc.get? name.toList reference.fields with
  | none => exact collapsed_nil
  | some value => exact h.fields _ (Assoc.mem_of_get? hvalue)

theorem Tidy.collapsed_heading (h : Tidy reference) : Collapsed (heading reference) := by
  unfold heading
  split
  · exact h.key
  · exact h.collapsed_held _

theorem Tidy.collapsed_venue (h : Tidy reference) : Collapsed (venue reference) := by
  unfold venue
  split <;> exact h.collapsed_held _

theorem Tidy.collapsed_kind (h : Tidy reference) : Collapsed (reference.kind.getD []) := by
  cases hkind : reference.kind with
  | none => exact collapsed_nil
  | some kind => exact h.kind kind hkind

/-- What the table of facts shows is the kind, the venue or a field. -/
theorem Tidy.collapsed_fact (h : Tidy reference) {fact : String × Text}
    (hfact : fact ∈ knownFacts reference) : Collapsed fact.2 := by
  have hlisted := List.mem_of_mem_filter hfact
  simp only [List.mem_cons, List.not_mem_nil, or_false] at hlisted
  rcases hlisted with rfl | rfl | rfl | rfl | rfl | rfl | rfl
  · exact h.collapsed_kind
  · exact h.collapsed_venue
  all_goals exact h.collapsed_held _

end Tidy

/-! ## The text between the title and the link -/

/-- The text between the title and the link holds something, or is a single space at most. -/
theorem isKept_between {reference : Citation.Reference} (h : Tidy reference)
    (hblank : ¬ OnlyBlankAuthor reference) : IsKept (between reference) := by
  by_cases hyear : held "year" reference = []
  case neg =>
    have hmem : '(' ∈ between reference := by simp [between, ifAny, hyear]
    exact isKept_of_mem hmem (by decide)
  by_cases hvenue : venue reference = []
  case neg =>
    have hmem : '—' ∈ between reference := by simp [between, ifAny, hvenue]
    exact isKept_of_mem hmem (by decide)
  by_cases hauthor : held "author" reference = []
  case pos =>
    apply isKept_of_collapsed
    simp only [between, hyear, hvenue, hauthor, ifAny_nil, List.nil_append]
    unfold ifAny
    split
    · exact collapsed_nil
    · have hspace : Collapsed [' '] := by decide
      exact hspace
  by_cases hspace : held "author" reference = [' ']
  case neg =>
    obtain ⟨c, hc, hsolid⟩ :=
      exists_mem_formatAuthors (h.collapsed_held "author") hauthor hspace
    have hmem : c ∈ between reference := by simp [between, ifAny, hauthor, hc]
    exact isKept_of_mem hmem hsolid
  -- without a link, one space is left of the author field
  have hhref : href reference = [] := by
    by_contra hne
    rw [href_eq_nil_iff, not_and_or] at hne
    exact hblank ⟨hyear, hspace, venue_eq_nil_iff.mp hvenue, hne⟩
  have hbetween : between reference = [' '] := by
    simp only [between, hyear, hvenue, hspace, hhref, ifAny_nil]
    decide
  exact isKept_of_collapsed (hbetween ▸ by decide)

theorem textNodes_between {around : List Text} (haround : IsOrdinary around)
    {reference : Citation.Reference} (h : Tidy reference) :
    textNodes around (between reference) = prose (betweenKept reference) := by
  unfold betweenKept
  split
  · rename_i hblank
    obtain ⟨hyear, hauthor, hvenue, haddress⟩ := hblank
    have hhref : href reference ≠ [] := by
      rwa [ne_eq, href_eq_nil_iff, not_and_or]
    have hbetween : between reference = [' ', ' '] := by
      simp only [between, hyear, hauthor, venue_eq_nil_iff.mpr hvenue, ifAny_nil,
        ifAny_of_ne hhref]
      decide
    rw [hbetween, textNodes_of_isOrdinary haround]
    rfl
  · exact textNodes_of_isKept haround (isKept_between h ‹_›)

/-! ## Elements -/

/-- The names of the elements that references consist of. -/
def partNames : List String :=
  ["a", "span", "li", "ol", "h2", "section", "h3", "p", "ul", "dl", "dt", "dd", "code"]

/-- The classes of these elements, if any. -/
def partClasses : List String :=
  ["", "ref-number", "ref-title", "references", "detail-title", "detail-stub", "detail-authors",
    "detail-key"]

section Elements

variable {around : List Text} {name classes : String}

theorem isOrdinary_cons (h : IsOrdinary around) (hname : name ∈ partNames) :
    IsOrdinary (name.toList :: around) := by
  have hall : IsOrdinary (partNames.map String.toList) := by decide
  exact h.cons (hall _ (List.mem_map_of_mem hname))

/-- The classes are kept as they are. -/
theorem keptTag_classed (hclasses : classes ∈ partClasses) :
    keptTag name.toList (classAttributes classes) = partTag name classes := by
  have hlist : isWordList name.toList "class".toList = true := by simp [isWordList]
  have hwords : ∀ classes ∈ partClasses, join [' '] (words classes.toList) = classes.toList := by
    decide
  unfold classAttributes partTag
  split
  · rfl
  · show Tag.mk _ [_] = Tag.mk _ [_]
    simp only [Option.getD_some, keptValue, hlist, if_true, hwords classes hclasses]

theorem built_classed (hclasses : classes ∈ partClasses) (children : List Markup) :
    built around [] [classed name classes children] =
      [part name classes (built (name.toList :: around) [] children)] := by
  rw [classed, built_element, keptTag_classed hclasses, part]

/-- A text alone in an element stands there as it is. -/
theorem built_text (h : IsOrdinary around) {content : Text} (hkept : IsKept content) :
    built around [] [.text content] = prose content := by
  rw [built_text_cons, built_nil, List.nil_append, textNodes_of_isKept h hkept]

theorem built_leaf (h : IsOrdinary around) (hname : name ∈ partNames)
    (hclasses : classes ∈ partClasses) {content : Text} (hkept : IsKept content) :
    built around [] [classed name classes [.text content]] =
      [part name classes (prose content)] := by
  rw [built_classed hclasses, built_text (isOrdinary_cons h hname) hkept]

/-- A text grows by what stands behind it, if there is a value for it. -/
theorem built_ifAny (pending value : Text) (content : Text → Text) (rest : List Markup) :
    built around pending ((ifAny value fun v => [Markup.text (content v)]) ++ rest) =
      built around (pending ++ ifAny value content) rest := by
  unfold ifAny
  split
  · rw [List.nil_append, List.append_nil]
  · rfl

/-- The address of the work is kept as it is. -/
theorem built_workLinkMarkup (h : IsOrdinary around) (reference : Citation.Reference)
    (address : Text) :
    built around [] [workLinkMarkup reference address] = [workLinkNode reference address] := by
  have htag : keptTag "a".toList
      [("href".toList, some address), ("target".toList, some "_blank".toList),
        ("rel".toList, some "noopener noreferrer".toList)] = workLinkTag address := by
    have haddress : keptValue "a".toList "href".toList address = address :=
      keptValue_eq_self (by decide) (by decide) address
    have hfixed : keptValue "a".toList "target".toList "_blank".toList = "_blank".toList ∧
        keptValue "a".toList "rel".toList "noopener noreferrer".toList =
          "noopener noreferrer".toList := by
      decide
    show Tag.mk _ [_, _, _] = Tag.mk _ [_, _, _]
    simp only [Option.getD_some, haddress, hfixed]
  have hlabel : IsKept (hrefLabel reference) := by
    have hlabels : Collapsed "doi".toList ∧ Collapsed "link".toList := by decide
    unfold hrefLabel
    split
    · exact isKept_of_collapsed hlabels.2
    · exact isKept_of_collapsed hlabels.1
  have hname : "a" ∈ partNames := List.mem_cons_self ..
  rw [workLinkMarkup, linkLabel_eq, built_element, htag,
    built_text (isOrdinary_cons h hname) hlabel, workLinkNode]

end Elements

/-! ## A reference on one line -/

theorem isKept_numberMark_append (reference : Citation.Reference) (t : Text) :
    IsKept (numberMark reference ++ t) := by
  have hopen : '[' ∈ numberMark reference ++ t := List.mem_cons_self ..
  exact isKept_of_mem hopen (by decide)

/-- The markup of a line, told from the fields. -/
theorem lineMarkup_eq (reference : Citation.Reference) :
    lineMarkup reference =
      [classed "span" "ref-number" [.text (numberMark reference)], .text [' '],
          classed "span" "ref-title" [.text (heading reference)]] ++
        (ifAny (held "year" reference) fun year => [.text (" (".toList ++ year ++ [')'])]) ++
        (ifAny (held "author" reference) fun field => [.text (' ' :: formatAuthors field)]) ++
        (ifAny (venue reference) fun venue => [.text (" — ".toList ++ venue)]) ++
        (ifAny (href reference) fun address =>
          [.text [' '], workLinkMarkup reference address]) := by
  simp only [lineMarkup, field?_eq, title_eq, venue?_eq, address?_eq, toList_map_unlessEmpty,
    getD_map_unlessEmpty]
  rfl

theorem built_lineMarkup {around : List Text} (haround : IsOrdinary around)
    {reference : Citation.Reference} (h : Tidy reference) :
    built around [] (lineMarkup reference) = lineNodes reference := by
  have hspan (classes : String) (hclasses : classes ∈ partClasses) {content : Text}
      (hkept : IsKept content) (pending : Text) (rest : List Markup) :
      built around pending (classed "span" classes [.text content] :: rest) =
        textNodes around pending ++
          part "span" classes (prose content) :: built around [] rest := by
    rw [built_cons_of_isElement rfl, built_leaf haround (by decide) hclasses hkept,
      List.append_assoc, List.singleton_append]
  have hmark : IsKept (numberMark reference) := by
    have happend := isKept_numberMark_append reference []
    rwa [List.append_nil] at happend
  have hnumber := hspan "ref-number" (by decide) hmark
  have htitle := hspan "ref-title" (by decide) (isKept_of_collapsed h.collapsed_heading)
  have hspace : textNodes around [' '] = [.text .prose [' ']] :=
    textNodes_of_isOrdinary haround [' ']
  have hlink (pending : Text) : built around pending (ifAny (href reference) fun address =>
      [.text [' '], workLinkMarkup reference address]) =
      textNodes around (pending ++ ifAny (href reference) fun _ => [' ']) ++
        ifAny (href reference) fun address => [workLinkNode reference address] := by
    unfold ifAny
    split
    · simp [built_nil]
    · rw [built_text_cons, built_cons_of_isElement rfl, built_workLinkMarkup haround]
      simp [built_nil, textNodes]
  rw [lineMarkup_eq]
  delta lineNodes
  simp only [List.append_assoc, List.cons_append, List.nil_append, hnumber, htitle, built_text_cons,
    hspace, built_ifAny, hlink]
  rw [← List.append_assoc, ← textNodes_between haround h, between]
  simp only [List.append_assoc]
  rfl

theorem parse_line {reference : Citation.Reference} (h : Tidy reference) :
    parse (line reference) = .ok (lineNodes reference) := by
  have haround : IsOrdinary [] := by decide
  rw [← sources_lineMarkup, parse_sources (arePlain_lineMarkup reference),
    built_lineMarkup haround h]

/-- A line has a number, a title and a link if there is an address. -/
theorem tagsAmong_lineNodes (reference : Citation.Reference) :
    Node.tagsAmong (lineNodes reference) =
      [partTag "span" "ref-number", partTag "span" "ref-title"] ++
        ifAny (href reference) fun address => [workLinkTag address] := by
  have hlink : Node.tagsAmong (ifAny (href reference) fun address =>
      [workLinkNode reference address]) =
      ifAny (href reference) fun address => [workLinkTag address] := by
    rw [apply_ifAny Node.tagsAmong_nil]
    simp [workLinkNode, Node.tagsAmong_element, tagsAmong_prose]
  simp only [lineNodes, part, List.cons_append, List.nil_append, Node.tagsAmong_element,
    Node.tagsAmong_text, Node.tagsAmong_append, tagsAmong_prose, hlink]

theorem textContents_lineNodes (reference : Citation.Reference) :
    Node.textContents (lineNodes reference) =
      numberMark reference ++ ' ' :: heading reference ++ betweenKept reference ++
        ifAny (href reference) fun _ => hrefLabel reference := by
  have hlink : Node.textContents (ifAny (href reference) fun address =>
      [workLinkNode reference address]) = ifAny (href reference) fun _ => hrefLabel reference := by
    rw [@apply_ifAny _ _ Node.textContents rfl]
    simp [workLinkNode, Node.textContents, Node.textContent, textContents_prose]
  simp [lineNodes, part, textContents_append, Node.textContents, Node.textContent,
    textContents_prose, hlink]

/-! ## The list of references -/

theorem built_itemMarkup {around : List Text} (haround : IsOrdinary around)
    {reference : Citation.Reference} (h : Tidy reference) :
    built around [] [itemMarkup reference] =
      [.element ⟨"li".toList, [("id".toList, "ref-".toList ++ slug reference.key)]⟩
        (lineNodes reference)] := by
  rw [itemMarkup, built_element, keptTag_singleton (by decide) (by decide),
    built_lineMarkup (isOrdinary_cons haround (by decide)) h]

theorem parse_listing_eq {references : List Citation.Reference}
    (h : ∀ reference ∈ references, Tidy reference) :
    parse (listing references) = .ok [listingNode references] := by
  have hsection : IsOrdinary ["section".toList] := by decide
  have hheading : built ["section".toList] []
      [.element "h2".toList [("id".toList, some "references".toList)]
        [.text "References".toList]] =
      [.element ⟨"h2".toList, [("id".toList, "references".toList)]⟩
        (prose "References".toList)] := by
    rw [built_element, keptTag_singleton (by decide) (by decide)]
    rfl
  have hlist : built ["section".toList] [] [.element "ol".toList [] (references.map itemMarkup)] =
      [part "ol" "" (references.map fun reference =>
        .element ⟨"li".toList, [("id".toList, "ref-".toList ++ slug reference.key)]⟩
          (lineNodes reference))] := by
    have haround : IsOrdinary ["ol".toList, "section".toList] := by decide
    rw [built_element, built_map (fun _ => rfl) fun reference hreference =>
      built_itemMarkup haround (h reference hreference)]
    rfl
  have hbuilt : built [] [] [listingMarkup references] = [listingNode references] := by
    rw [listingMarkup, built_classed (by decide), built_cons_of_isElement rfl, hheading, hlist]
    rfl
  rw [parse_listing, hbuilt]

/-! ## The details of a reference -/

/-- The rows of the table of facts have a label and a value each. -/
theorem built_facts {around : List Text} (haround : IsOrdinary around)
    {reference : Citation.Reference} (h : Tidy reference) :
    built around [] ((knownFacts reference).flatMap factMarkup) =
      (knownFacts reference).flatMap factNodes := by
  have hlabels : ∀ label ∈ factLabels, Collapsed label.toList := by decide
  have hrows (rows : List (String × Text)) (hrows : rows ⊆ knownFacts reference) :
      built around [] (rows.flatMap factMarkup) = rows.flatMap factNodes := by
    induction rows with
    | nil => rfl
    | cons fact rest ih =>
        obtain ⟨hfact, hrest⟩ := List.cons_subset.mp hrows
        have hfacts : fact ∈ facts reference := by rwa [facts_eq]
        have hlabel := isKept_of_collapsed (hlabels _ (label_mem_of_mem_facts hfacts))
        have hvalue := isKept_of_collapsed (h.collapsed_fact hfact)
        have hrow : built around [] (factMarkup fact) = factNodes fact := by
          rw [factMarkup, built_cons_of_isElement rfl,
            built_leaf haround (by decide) (by decide) hlabel,
            built_leaf haround (by decide) (by decide) hvalue]
          rfl
        rw [List.flatMap_cons, List.flatMap_cons, built_append rfl, hrow, ih hrest]
  exact hrows (knownFacts reference) (List.Subset.refl _)

/-- The names of the authors have an item each. -/
theorem built_authors (field : Text) :
    built [] [] [classed "ul" "detail-authors"
      ((authors field).map fun name => classed "li" "" [.text name])] =
      [part "ul" "detail-authors" ((authors field).map fun name => part "li" "" (prose name))] := by
  have haround : IsOrdinary ["ul".toList] := by decide
  rw [built_classed (by decide)]
  congr 2
  refine built_map (fun _ => rfl) fun name hname => ?_
  obtain ⟨written, -, rfl⟩ := List.mem_map.mp hname
  exact built_leaf haround (by decide) (by decide) (isKept_trim written)

/-- The markup of the details, told from the fields. -/
theorem detailMarkup_eq (reference : Citation.Reference) :
    detailMarkup reference =
      [classed "h3" "detail-title" [.text (numberMark reference ++ ' ' :: heading reference)]] ++
        (if reference.missing then
          [classed "p" "detail-stub" [.text "No bibliography record for this key.".toList]]
          else []) ++
        (ifAny (held "author" reference) fun field =>
          [classed "ul" "detail-authors"
            ((authors field).map fun name => classed "li" "" [.text name])]) ++
        (if knownFacts reference = [] then []
          else [classed "dl" "" ((knownFacts reference).flatMap factMarkup)]) ++
        (ifAny (href reference) fun address =>
          [classed "p" "" [workLinkMarkup reference address]]) ++
        [classed "p" "detail-key" [classed "code" "" [.text reference.key]]] := by
  simp only [detailMarkup, field?_eq, title_eq, address?_eq, facts_eq, toList_map_unlessEmpty]
  rfl

theorem parse_detail_eq {reference : Citation.Reference} (h : Tidy reference) :
    parse (detail reference) = .ok (detailNodes reference) := by
  have hnil : IsOrdinary [] := by decide
  have hheading : built [] [] [classed "h3" "detail-title"
      [.text (numberMark reference ++ ' ' :: heading reference)]] =
      [part "h3" "detail-title" (prose (numberMark reference ++ ' ' :: heading reference))] :=
    built_leaf hnil (by decide) (by decide) (isKept_numberMark_append reference _)
  have hmissing : built [] [] (if reference.missing then
      [classed "p" "detail-stub" [.text "No bibliography record for this key.".toList]] else []) =
      if reference.missing then
        [part "p" "detail-stub" (prose "No bibliography record for this key.".toList)] else [] := by
    have hstub : Collapsed "No bibliography record for this key.".toList := by decide
    split
    · exact built_leaf hnil (by decide) (by decide) (isKept_of_collapsed hstub)
    · rfl
  have hauthors : built [] [] (ifAny (held "author" reference) fun field =>
      [classed "ul" "detail-authors"
        ((authors field).map fun name => classed "li" "" [.text name])]) =
      ifAny (held "author" reference) fun field =>
        [part "ul" "detail-authors"
          ((authors field).map fun name => part "li" "" (prose name))] :=
    (apply_ifAny rfl _ _).trans (by simp only [built_authors])
  have htable : built [] [] (if knownFacts reference = [] then []
      else [classed "dl" "" ((knownFacts reference).flatMap factMarkup)]) =
      if knownFacts reference = [] then []
        else [part "dl" "" ((knownFacts reference).flatMap factNodes)] := by
    split
    · rfl
    · rw [built_classed (by decide), built_facts (by decide) h]
  have hanchor (address : Text) : built [] [] [classed "p" "" [workLinkMarkup reference address]] =
      [part "p" "" [workLinkNode reference address]] := by
    rw [built_classed (by decide), built_workLinkMarkup (by decide)]
  have hlink : built [] [] (ifAny (href reference) fun address =>
      [classed "p" "" [workLinkMarkup reference address]]) =
      ifAny (href reference) fun address => [part "p" "" [workLinkNode reference address]] :=
    (apply_ifAny rfl _ _).trans (by simp only [hanchor])
  have hkey : built [] [] [classed "p" "detail-key" [classed "code" "" [.text reference.key]]] =
      [part "p" "detail-key" [part "code" "" (prose reference.key)]] := by
    rw [built_classed (by decide),
      built_leaf (by decide) (by decide) (by decide) (isKept_of_collapsed h.key)]
  rw [parse_detail, detailMarkup_eq]
  delta detailNodes
  simp only [List.append_assoc]
  rw [built_append rfl, built_append (by split <;> rfl),
    built_append (by unfold ifAny; split <;> rfl), built_append (by split <;> rfl),
    built_append (by unfold ifAny; split <;> rfl), hheading, hmissing, hauthors, htable, hlink,
    hkey]

/-! ## Whatever the fields hold -/

/-- Whatever the fields of references hold, as long as their blanks are single spaces, nothing in
them becomes markup.  The list has one item for each reference, in order, and the details have a
text for each value.  A line has a number, a title and a link if there is an address, and its text
is the number, the title and the other parts, one after another.  Only where nothing but an author
field with nothing in it stands between the title and the link, one space of two is lost. -/
theorem fields_are_texts {references : List Citation.Reference}
    (h : ∀ reference ∈ references, Tidy reference) :
    parse (listing references) = .ok [listingNode references] ∧
    ∀ reference ∈ references,
      parse (line reference) = .ok (lineNodes reference) ∧
      Node.tagsAmong (lineNodes reference) =
        [partTag "span" "ref-number", partTag "span" "ref-title"] ++
          (if held "doi" reference = [] ∧ held "url" reference = [] then []
          else [workLinkTag (href reference)]) ∧
      Node.textContents (lineNodes reference) =
        (if OnlyBlankAuthor reference then
          numberMark reference ++ ' ' :: heading reference ++ ' ' :: hrefLabel reference
        else plainLine reference) ∧
      parse (detail reference) = .ok (detailNodes reference) := by
  refine ⟨parse_listing_eq h, fun reference hmem => ?_⟩
  refine ⟨parse_line (h reference hmem), ?_, ?_, parse_detail_eq (h reference hmem)⟩
  · rw [tagsAmong_lineNodes, ifAny]
    simp only [href_eq_nil_iff]
  · rw [textContents_lineNodes, betweenKept]
    split
    · rename_i hblank
      have hhref : href reference ≠ [] := by
        rw [ne_eq, href_eq_nil_iff, not_and_or]
        exact hblank.2.2.2
      rw [ifAny_of_ne hhref]
      simp
    · rfl

/-- References whose fields look like markup, the first with two venues and two addresses. -/
def misleading : List Citation.Reference :=
  [{ key := "<k>".toList, number := 1, kind := some "</dl>".toList,
      fields := [("title".toList, "&lt;b> A&amp".toList), ("author".toList, "<i> And \"B\"".toList),
        ("booktitle".toList, "C".toList), ("journal".toList, "</span> D".toList),
        ("url".toList, "http://h".toList), ("doi".toList, "\"><script>".toList)] },
    { key := "<k>".toList, number := 2, missing := true,
      fields := [("booktitle".toList, "<p>".toList), ("url".toList, "?a&lt;\"b".toList),
        ("pages".toList, "1</dd>".toList), ("volume".toList, "&#50;".toList)] }]

theorem misleading_fields_are_texts :
    (∀ reference ∈ misleading, Tidy reference) ∧
    (misleading.map fun reference => (parse (line reference)).map Node.textContents) =
      [.ok "[1] &lt;b> A&amp <i> & \"B\" — </span> D doi".toList,
        .ok "[2] <k> — <p> link".toList] ∧
    (misleading.map fun reference => (parse (line reference)).map fun nodes =>
      (Node.tagsAmong nodes).filterMap (Tag.attribute? "href")) =
      [.ok ["https://doi.org/\"><script>".toList], .ok ["?a&lt;\"b".toList]] ∧
    (misleading.map fun reference => parse (detail reference)) =
      [.ok [part "h3" "detail-title" (prose "[1] &lt;b> A&amp".toList),
          part "ul" "detail-authors"
            [part "li" "" (prose "<i>".toList), part "li" "" (prose "\"B\"".toList)],
          part "dl" "" [part "dt" "" (prose "Type".toList), part "dd" "" (prose "</dl>".toList),
            part "dt" "" (prose "Venue".toList), part "dd" "" (prose "</span> D".toList)],
          part "p" "" [.element (workLinkTag "https://doi.org/\"><script>".toList)
            (prose "doi".toList)],
          part "p" "detail-key" [part "code" "" (prose "<k>".toList)]],
        .ok [part "h3" "detail-title" (prose "[2] <k>".toList),
          part "p" "detail-stub" (prose "No bibliography record for this key.".toList),
          part "dl" "" [part "dt" "" (prose "Venue".toList), part "dd" "" (prose "<p>".toList),
            part "dt" "" (prose "Volume".toList), part "dd" "" (prose "&#50;".toList),
            part "dt" "" (prose "Pages".toList), part "dd" "" (prose "1</dd>".toList)],
          part "p" "" [.element (workLinkTag "?a&lt;\"b".toList) (prose "link".toList)],
          part "p" "detail-key" [part "code" "" (prose "<k>".toList)]]] := by
  have htidy : ∀ reference ∈ misleading, Tidy reference := by
    have hall : misleading.all fun reference => Collapsed reference.key ∧
        (∀ kind ∈ reference.kind, Collapsed kind) ∧
        ∀ field ∈ reference.fields, Collapsed field.2 := by decide
    intro reference hmem
    obtain ⟨hkey, hkind, hfields⟩ := of_decide_eq_true (List.all_eq_true.mp hall reference hmem)
    exact ⟨hkey, hkind, hfields⟩
  obtain ⟨-, hread⟩ := fields_are_texts htidy
  have hlines : (misleading.map fun reference => parse (line reference)) =
      misleading.map fun reference => .ok (lineNodes reference) :=
    List.map_congr_left fun reference hmem => (hread reference hmem).1
  have hdetails : (misleading.map fun reference => parse (detail reference)) =
      misleading.map fun reference => .ok (detailNodes reference) :=
    List.map_congr_left fun reference hmem => (hread reference hmem).2.2.2
  have hmapped {β : Type} (f : List Node → β) :
      (misleading.map fun reference => (parse (line reference)).map f) =
        misleading.map fun reference => .ok (f (lineNodes reference)) := by
    have hmap := congrArg (List.map (Except.map f)) hlines
    rwa [List.map_map, List.map_map] at hmap
  rw [hmapped, hmapped, hdetails]
  refine ⟨htidy, ?_, ?_, ?_⟩ <;> decide +kernel

/-- A reference with an address and an author field with nothing in it. -/
def unnamed : Citation.Reference :=
  { key := ['k'], number := 1, kind := some "misc".toList,
    fields := [("author".toList, [' ']), ("doi".toList, ['x'])] }

theorem unnamed_loses_space :
    (Bibliography.read
      "@misc\x7bk,\n  author = \x7b \x7d,\n  doi = \x7bx\x7d\n\x7d".toList).map
        Bibliography.Entry.fields = [unnamed.fields] ∧
    Tidy unnamed ∧
    (parse (line unnamed)).map Node.textContents = .ok "[1] k doi".toList ∧
    (parse (line unnamed)).map Node.textContents ≠ .ok (plainLine unnamed) := by
  have hread : (Bibliography.read
      "@misc\x7bk,\n  author = \x7b \x7d,\n  doi = \x7bx\x7d\n\x7d".toList).map
        Bibliography.Entry.fields = [unnamed.fields] := by decide +kernel
  have htidy : Tidy unnamed := ⟨by decide, by decide, by decide⟩
  have htext : (parse (line unnamed)).map Node.textContents = .ok "[1] k doi".toList := by
    rw [parse_line htidy, Except.map, textContents_lineNodes]
    decide +kernel
  have hplain : plainLine unnamed = "[1] k  doi".toList := by decide +kernel
  refine ⟨hread, htidy, htext, ?_⟩
  rw [htext, hplain]
  decide
end Reference

end PaperHtml
