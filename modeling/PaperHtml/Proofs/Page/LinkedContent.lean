import Mathlib
import PaperHtml.Proofs.Page.Writes
import PaperHtml.Proofs.Reference.Anchors

/-!
# Links of citations in the content

The link of a citation goes into the content as source, its key escaped into an
attribute.  Whatever the key holds, it comes back as it was: in the anchor, where
a pass over all anchors leaves it alone, and in the side panel, which keeps every
key once however often it looks for them.

## Strategy

The source of the content is read as the tokens of a tree whose texts are plain,
although nothing is escaped in them (`read_rest`).  So the content is known node by
node, and both passes are about the tags of its anchors, which are all of one
kind (`citationTag`).
-/

namespace PaperHtml

open Text Html Html.Node Html.Markup Citation

namespace Reference

/-! ## The anchor of a citation -/

/-- The tag of the anchor of a citation: it is marked as one, leads to the place of its
reference and knows its key. -/
def citationTag (key : Text) : Tag :=
  ⟨"a".toList, [("class".toList, citationClass), ("href".toList, placeMark ++ slug key),
    (keyAttribute, key)]⟩

theorem linkTag_markdown (key : Text) : linkTag .markdown key = citationTag key := rfl

theorem classes_citationTag (key : Text) : classes (citationTag key) = [citationClass] := by
  have hclass : (citationTag key).attribute? "class" = some citationClass := by
    show Assoc.get? "class".toList [_, _, _] = _
    rw [Assoc.get?, if_pos rfl]
  have hwords : words citationClass = [citationClass] := by decide
  rw [classes, hclass, Option.map_some, Option.getD_some, hwords]

theorem isCitation_citationTag (key : Text) : isCitation (citationTag key) = true := by
  have hname : (citationTag key).isNamed "a" = true := beq_self_eq_true _
  rw [isCitation, hname, classes_citationTag]
  simp

theorem citedKey?_citationTag {key : Text} (h : key ≠ []) :
    citedKey? (citationTag key) = some key := by
  have hclass : "class".toList ≠ keyAttribute := by decide
  have hplace : "href".toList ≠ keyAttribute := by decide
  have hkey : Assoc.get? keyAttribute (citationTag key).attributes = some key := by
    rw [citationTag, Assoc.get?, if_neg hclass, Assoc.get?, if_neg hplace, Assoc.get?, if_pos rfl]
  simp [citedKey?, Assoc.filled?, hkey, h]

/-- Nothing is missing that annotating would add. -/
theorem annotateTag_citationTag (order : List Text) {key : Text} (h : key ≠ []) :
    annotateTag order (citationTag key) = citationTag key := by
  have hmarked : withClass (citationTag key) = citationTag key := by
    rw [withClass, classes_citationTag]
    simp
  have hplace : place? (citationTag key) = some (slug key) := place?_linkTag .markdown key
  simp only [annotateTag, hplace, hmarked]
  unfold withKey
  rw [citedKey?_citationTag h]
  cases keyAt? order (slug key) <;> rfl

/-! ## The keys that are found -/

/-- The keys of the citations in a tree, as often as they are cited. -/
def citedIn (nodes : List Node) : List Text :=
  (tagsAmong nodes).filterMap fun tag => if isCitation tag then citedKey? tag else none

/-- Keys are added to those that are known, each where it comes first. -/
theorem citedKeys_eq (known : List Text) (nodes : List Node) :
    citedKeys known nodes =
      known ++ ((citedIn nodes).filter fun key => key ∉ known).eraseDups := by
  have hadd (keys known : List Text) :
      keys.foldl (fun keys key => if key ∈ keys then keys else keys ++ [key]) known =
        known ++ (keys.filter fun key => key ∉ known).eraseDups := by
    induction keys generalizing known with
    | nil => simp
    | cons key rest ih =>
        by_cases hkey : key ∈ known
        · rw [List.foldl_cons, if_pos hkey, ih, List.filter_cons_of_neg (by simpa using hkey)]
        · have hrest : (rest.filter fun other => other ∉ known ++ [key]) =
              (rest.filter fun other => other ∉ known).filter fun other => !(other == key) := by
            rw [List.filter_filter]
            refine List.filter_congr fun other _ => ?_
            by_cases hother : other = key <;> simp [hother]
          rw [List.foldl_cons, if_neg hkey, ih, List.filter_cons_of_pos (by simpa using hkey),
            List.eraseDups_cons, hrest, List.append_assoc, List.singleton_append]
  exact hadd (citedIn nodes) known

/-- Looking for keys a second time finds no others. -/
theorem citedKeys_of_subset {known : List Text} {nodes : List Node}
    (h : ∀ key ∈ citedIn nodes, key ∈ known) : citedKeys known nodes = known := by
  have hnone : ((citedIn nodes).filter fun key => key ∉ known) = [] := by
    simpa [List.filter_eq_nil_iff] using h
  rw [citedKeys_eq, hnone]
  simp

theorem citedKeys_nil (nodes : List Node) : citedKeys [] nodes = (citedIn nodes).eraseDups := by
  have hall : ((citedIn nodes).filter fun key => key ∉ ([] : List Text)) = citedIn nodes := by simp
  rw [citedKeys_eq, hall, List.nil_append]

end Reference

namespace Page

open Reference

/-! ## Content with links -/

/-- A text in which no markup begins. -/
structure PlainText where
  text : Text
  plain : ∀ c ∈ text, c ≠ '<' ∧ c ≠ '&'

/-- A key that is cited, with its number. -/
structure CitedKey where
  key : Text
  number : Int
  key_ne_nil : key ≠ []

/-- A text with the links of citations in it, and a text behind each. -/
structure LinkedText where
  opening : PlainText
  rest : List (CitedKey × PlainText)

/-- The link of a citation. -/
def CitedKey.link (cited : CitedKey) : Text :=
  Citation.link .markdown cited.key (slug cited.key) (some cited.number)

/-- The anchor of a citation, which shows its number. -/
def CitedKey.anchor (cited : CitedKey) : Node :=
  .element (citationTag cited.key) [.text .prose (mark cited.number)]

namespace LinkedText

variable (linked : LinkedText)

/-- A text with links as source. -/
def source : Text :=
  linked.opening.text ++ linked.rest.flatMap fun part => part.1.link ++ part.2.text

/-- The nodes of a text with links: an anchor for each, and the texts between them. -/
def nodes : List Node :=
  textNodes [] linked.opening.text ++
    linked.rest.flatMap fun part => part.1.anchor :: textNodes [] part.2.text

/-- The keys that are cited, as often as they are. -/
def keys : List Text := linked.rest.map fun part => part.1.key

/-- A text with links as markup. -/
def markups : List Markup :=
  .text linked.opening.text ::
    linked.rest.flatMap fun part =>
      [linkMarkup .markdown part.1.key part.1.number, .text part.2.text]

end LinkedText

/-! ## Reading it -/

theorem PlainText.read (plain : PlainText) (t : Text) (b : Builder) :
    b.read (plain.text ++ t) = (b.take (.text plain.text)).read t := by
  refine Builder.read_plain (fun c hc => ?_) t b
  obtain ⟨hbracket, hampersand⟩ := plain.plain c hc
  simp [Builder.isRunning, hbracket, hampersand]

theorem CitedKey.read (cited : CitedKey) (t : Text) (b : Builder) :
    b.read (cited.link ++ t) =
      ((tokens (linkMarkup .markdown cited.key cited.number)).foldl Builder.take b).read t := by
  have hlink : cited.link = Markup.source (linkMarkup .markdown cited.key cited.number) :=
    (source_linkMarkup .markdown cited.key cited.number).symm
  rw [hlink, read_source _ (isPlain_linkMarkup .markdown cited.key cited.number)]

private theorem read_rest (rest : List (CitedKey × PlainText)) (b : Builder) :
    b.read (rest.flatMap fun part => part.1.link ++ part.2.text) =
      (tokensAmong (rest.flatMap fun part =>
        [linkMarkup .markdown part.1.key part.1.number, .text part.2.text])).foldl
          Builder.take b := by
  induction rest generalizing b with
  | nil => rfl
  | cons part rest ih =>
      rw [List.flatMap_cons, List.append_assoc, CitedKey.read, PlainText.read, ih]
      simp [tokensAmong, Markup.tokens]

private theorem arePlain_rest (rest : List (CitedKey × PlainText)) :
    arePlain (rest.flatMap fun part =>
      [linkMarkup .markdown part.1.key part.1.number, .text part.2.text]) = true := by
  induction rest with
  | nil => rfl
  | cons part rest ih =>
      simp only [List.flatMap_cons, arePlain_append, arePlain, isPlain, isPlain_linkMarkup, ih,
        Bool.and_self]

private theorem built_rest (pending : Text) (rest : List (CitedKey × PlainText)) :
    built [] pending (rest.flatMap fun part =>
        [linkMarkup .markdown part.1.key part.1.number, .text part.2.text]) =
      textNodes [] pending ++
        rest.flatMap fun part => part.1.anchor :: textNodes [] part.2.text := by
  induction rest generalizing pending with
  | nil => simp [built_nil]
  | cons part rest ih =>
      rw [List.flatMap_cons, List.cons_append, linkMarkup, built_element_cons, keptTag_link,
        built_mark, List.singleton_append, built_text_cons, List.nil_append, ih, linkTag_markdown,
        List.flatMap_cons, CitedKey.anchor, List.cons_append]

/-- The source of a text with links is read back as its nodes. -/
theorem LinkedText.parse_source (linked : LinkedText) :
    parse linked.source = .ok linked.nodes := by
  have hplain : arePlain linked.markups = true := arePlain_rest linked.rest
  have hread : Builder.read linked.source {} =
      (tokensAmong linked.markups).foldl Builder.take {} := by
    rw [source, PlainText.read, read_rest]
    rfl
  rw [parse_of_read hplain hread, markups, built_text_cons, List.nil_append, built_rest, nodes]

theorem LinkedText.tagsAmong_nodes (linked : LinkedText) :
    tagsAmong linked.nodes = linked.rest.map fun part => citationTag part.1.key := by
  rw [nodes, Node.tagsAmong_append, tagsAmong_textNodes, List.nil_append]
  induction linked.rest with
  | nil => rfl
  | cons part rest ih =>
      rw [List.flatMap_cons, List.cons_append, CitedKey.anchor, tagsAmong_element,
        Node.tagsAmong_append, tagsAmong_textNodes, ih]
      simp

theorem LinkedText.citedIn_nodes (linked : LinkedText) : citedIn linked.nodes = linked.keys := by
  rw [citedIn, tagsAmong_nodes, List.filterMap_map, keys]
  refine List.filterMap_eq_map_iff_forall_eq_some.mpr fun part _ => ?_
  simp [isCitation_citationTag, citedKey?_citationTag part.1.key_ne_nil]

/-- No link has an identifier. -/
theorem LinkedText.without_nodes (linked : LinkedText) (id : Text) :
    Without (Tag.hasId id) linked.nodes := by
  have hid : ∀ name ∈ ["class".toList, "href".toList, keyAttribute], name ≠ "id".toList := by decide
  rw [Without, tagsAmong_nodes, List.any_eq_false]
  intro tag htag
  obtain ⟨part, -, rfl⟩ := List.mem_map.mp htag
  have hnone : (citationTag part.1.key).attribute? "id" = none := by
    show Assoc.get? "id".toList [_, _, _] = none
    rw [Assoc.get?, if_neg (hid _ (by simp)), Assoc.get?, if_neg (hid _ (by simp)), Assoc.get?,
      if_neg (hid _ (by simp)), Assoc.get?]
  simp [Tag.hasId, hnone]

end Page

/-! ## Looking for citations again and again -/

namespace Layout

variable {l : Layout}

theorem Apart.of_keeps {l' : Layout} (h : l.Apart) (hkeeps : l.Keeps l') : l'.Apart :=
  ⟨hkeeps.head h.head, hkeeps.status ▸ h.status⟩

theorem Apart.childrenOf_content (h : l.Apart) : l.page.childrenOf Page.contentId = l.content := by
  rw [Page.childrenOf, h.find?_content]

/-- Details for the browser that are put into the page leave content alone that has none. -/
theorem Apart.exists_embed (h : l.Apart) (hcontent : Without (Tag.hasId Page.dataId) l.content)
    (panel : Panel) :
    ∃ l' : Layout, panel.embed l.page = l'.page ∧ l'.Apart ∧ l'.content = l.content := by
  obtain ⟨l', htakes, hkeeps, hkept⟩ := Layout.exists_embed l panel
  refine ⟨l', htakes.page h.status hkeeps.status, h.of_keeps hkeeps, ?_⟩
  rcases hkept with hsame | hremoved
  · exact hsame
  · rw [hcontent.removeAmong?_eq_none] at hremoved
    cases hremoved

/-- Each time the panel looks for citations, it finds those of the content. -/
theorem Apart.handlers_iterate (h : l.Apart) (hcontent : Without (Tag.hasId Page.dataId) l.content)
    (panel : Panel) (n : Nat) :
    ((fun state : Panel × Page => state.1.attach state.2)^[n] (panel, l.page)).1.handlers =
      (fun known => Reference.citedKeys known l.content)^[n] panel.handlers := by
  induction n generalizing panel l with
  | zero => rfl
  | succ n ih =>
      obtain ⟨l', hembed, hapart, hsame⟩ := h.exists_embed hcontent panel
      have hattach : panel.attach l.page =
          ({ panel with handlers := Reference.citedKeys panel.handlers l.content }, l'.page) := by
        rw [Panel.attach, h.childrenOf_content, hembed]
      rw [Function.iterate_succ_apply, hattach, ih hapart (hsame ▸ hcontent), hsame,
        Function.iterate_succ_apply]

end Layout

namespace Page

open Reference

/-- Links of citations in the content, with plain text between them, become one anchor each, with
the class, the place and the very key of the citation.  Annotating changes none of them, whatever
the order of the keys, and a panel finds each key once, however often it looks for them. -/
theorem links_kept (title : Text) (operations : List Operation) (linked : LinkedText)
    (references : List Citation.Reference) :
    let page := (after title operations).setContent linked.source
    let content := page.childrenOf contentId
    content = linked.nodes ∧
    tagsAmong content = linked.rest.map (fun part => citationTag part.1.key) ∧
    (∀ key, classes (citationTag key) = [citationClass]) ∧
    (∀ order, annotate order content = (linked.rest.length, content)) ∧
    ∀ n, ((fun state : Panel × Page => state.1.attach state.2)^[n + 1]
      (Panel.ofReferences references, page)).1.handlers = linked.keys.eraseDups := by
  intro page content
  obtain ⟨l, hpage, hbare⟩ := Layout.exists_bare_after title operations
  let filled : Layout := { l with content := linked.nodes }
  have hfilled : page = filled.page := by
    show (after title operations).setContent linked.source = filled.page
    rw [hpage, hbare.apart.setContent, parsed_of_parse linked.parse_source]
  have hapart : filled.Apart := hbare.apart.with_content linked.nodes
  have hcontent : content = linked.nodes := by
    show page.childrenOf contentId = linked.nodes
    rw [hfilled, hapart.childrenOf_content]
  refine ⟨hcontent, by rw [hcontent, linked.tagsAmong_nodes], classes_citationTag,
    fun order => ?_, fun n => ?_⟩
  · have hkept : ∀ tag ∈ tagsAmong linked.nodes, annotateTag order tag = tag := by
      rw [linked.tagsAmong_nodes]
      intro tag htag
      obtain ⟨part, -, rfl⟩ := List.mem_map.mp htag
      exact annotateTag_citationTag order part.1.key_ne_nil
    have hplace (key : Text) : (place? (citationTag key)).isSome = true := by
      rw [← linkTag_markdown, place?_linkTag]
      rfl
    rw [hcontent, annotate, mapTagsAmong_eq_self hkept, linked.tagsAmong_nodes, List.filter_map]
    simp [Function.comp_def, hplace]
  · have hfound (m : Nat) : (fun known => citedKeys known linked.nodes)^[m] linked.keys.eraseDups =
        linked.keys.eraseDups := by
      apply Function.iterate_fixed
      apply citedKeys_of_subset
      rw [linked.citedIn_nodes]
      exact fun key => List.mem_eraseDups.mpr
    rw [hfilled, hapart.handlers_iterate (linked.without_nodes dataId), Function.iterate_succ_apply]
    show (fun known => citedKeys known linked.nodes)^[n] (citedKeys [] linked.nodes) = _
    rw [citedKeys_nil, linked.citedIn_nodes, hfound n]

/-- A key that looks like the end of an attribute, cited twice, and another one. -/
def misleadingLinks : LinkedText :=
  let quoted : CitedKey := ⟨"a\"><b>&lt;".toList, 1, by decide⟩
  { opening := ⟨"See ".toList, by simp⟩
    rest := [(quoted, ⟨" > ".toList, by simp⟩), (⟨"x".toList, 2, by decide⟩, ⟨"; ".toList, by simp⟩),
      (quoted, ⟨[], by simp⟩)] }

theorem links_kept_of_misleading :
    let page := (Page.empty "Paper".toList).setContent misleadingLinks.source
    let content := page.childrenOf contentId
    let link (href key : String) (number : Int) : Node :=
      .element ⟨"a".toList, [("class".toList, "citation".toList), ("href".toList, href.toList),
        ("data-cite-key".toList, key.toList)]⟩ [.text .prose (mark number)]
    content = [.text .prose "See ".toList, link "#ref-a-b-lt-" "a\"><b>&lt;" 1,
        .text .prose " > ".toList, link "#ref-x" "x" 2, .text .prose "; ".toList,
        link "#ref-a-b-lt-" "a\"><b>&lt;" 1] ∧
      annotate ["A B LT ".toList] content = (3, content) ∧
      ((Panel.ofReferences []).attach page).1.handlers = ["a\"><b>&lt;".toList, "x".toList] := by
  intro page content link
  have hbegin : after "Paper".toList [] = Page.empty "Paper".toList := rfl
  obtain ⟨hcontent, -, -, hannotated, hhandlers⟩ :=
    links_kept "Paper".toList [] misleadingLinks []
  have hattached := hhandlers 0
  rw [hbegin] at hcontent hannotated hattached
  rw [Nat.zero_add, Function.iterate_one] at hattached
  dsimp only at hattached
  have hkeys : misleadingLinks.keys.eraseDups = ["a\"><b>&lt;".toList, "x".toList] := by
    decide +kernel
  refine ⟨hcontent.trans ?_, hannotated _, hattached.trans hkeys⟩
  decide +kernel

end Page

end PaperHtml
