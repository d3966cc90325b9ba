import Mathlib
import PaperHtml.Citation.Link
import PaperHtml.Proofs.Reference.Annotation
import PaperHtml.Proofs.Reference.Elements

/-!
# Citations and their references

The link of a citation is read back as an anchor that leads to a place named by
the slug of its key.  Annotating finds the key again by that slug, and the items
of the list are named by the slugs of their keys.  So all three agree on a key
that shares its slug with no other.
-/

namespace PaperHtml.Reference

open Text Citation Html Markup
open Html.Node (Without)

/-! ## Links read back -/

/-- The attributes of the anchor that a link becomes.  Markdown leaves the link as it is; the
engine for LaTeX makes an anchor that knows only where it leads. -/
def linkAttributes (style : LinkStyle) (key : Text) : List (Text × Option Text) :=
  match style with
  | .markdown =>
    [("class".toList, some citationClass), ("href".toList, some (placeMark ++ slug key)),
      (keyAttribute, some key)]
  | .latex => [("href".toList, some (placeMark ++ slug key))]

/-- The anchor that a link becomes, as markup. -/
def linkMarkup (style : LinkStyle) (key : Text) (number : Int) : Markup :=
  .element "a".toList (linkAttributes style key) [.text (mark number)]

/-- The tag of the anchor that a link becomes. -/
def linkTag (style : LinkStyle) (key : Text) : Tag :=
  ⟨"a".toList, readAttributes (linkAttributes style key)⟩

/-- The anchor that a link becomes. -/
def linkNode (style : LinkStyle) (key : Text) (number : Int) : Node :=
  .element (linkTag style key) [.text .prose (mark number)]

/-- The HTML that the link of a citation stands for.  The engine for LaTeX makes an anchor of
a `\href`, with the same address and the same text. -/
def linkHtml (style : LinkStyle) (key : Text) (number : Option Int) : Text :=
  match style, number with
  | .latex, some n =>
    "<a href=\"".toList ++ placeMark ++ slug key ++ "\">".toList ++ mark n ++ "</a>".toList
  | style, number => link style key (slug key) number

private theorem escape_place (key : Text) :
    escape (placeMark ++ slug key) = placeMark ++ slug key := by
  have hmark : escape placeMark = placeMark := by decide
  rw [escape_append, hmark, escape_slug]

theorem source_linkMarkup (style : LinkStyle) (key : Text) (number : Int) :
    source (linkMarkup style key number) = linkHtml style key (some number) := by
  have hopen : "<a class=\"citation\" href=\"#ref-".toList =
      '<' :: "a".toList ++ ' ' :: "class".toList ++ '=' :: '"' :: escape citationClass ++
        '"' :: ' ' :: "href".toList ++ '=' :: '"' :: placeMark := by decide
  have hplain : "<a href=\"".toList = '<' :: "a".toList ++ ' ' :: "href".toList ++ ['=', '"'] := by
    decide
  have hkey : "\" data-cite-key=\"".toList = '"' :: ' ' :: keyAttribute ++ ['=', '"'] := by decide
  have hend : "\">".toList = ['"', '>'] := by decide
  have hclose : "</a>".toList = endSource "a".toList := by decide
  cases style with
  | markdown =>
      delta linkMarkup linkAttributes linkHtml link
      simp only [source, sources, startSource, attributeSource, valueSource, escape_place,
        escape_mark, hopen, hkey, hend, hclose, List.flatMap_cons, List.flatMap_nil,
        List.append_assoc, List.cons_append, List.nil_append, List.append_nil]
  | latex =>
      delta linkMarkup linkAttributes linkHtml
      simp only [source, sources, startSource, attributeSource, valueSource, escape_place,
        escape_mark, hplain, hend, hclose, List.flatMap_cons, List.flatMap_nil,
        List.append_assoc, List.cons_append, List.nil_append, List.append_nil]

theorem keptTag_link (style : LinkStyle) (key : Text) :
    keptTag "a".toList (linkAttributes style key) = linkTag style key := by
  have hclass : Builder.keptValue "a".toList "class".toList citationClass = citationClass := by
    decide
  have hother : ∀ name ∈ ["href".toList, keyAttribute], ∀ value,
      Builder.keptValue "a".toList name value = value := by
    intro name hmem value
    have hlist : ∀ name ∈ ["href".toList, keyAttribute],
        Builder.isWordList "a".toList name = false := by decide
    exact keptValue_eq_self (hlist name hmem) (fun h => absurd h.1 (by decide)) value
  have hplace := hother _ (List.mem_cons_self ..) (placeMark ++ slug key)
  cases style with
  | markdown =>
      have hkey := hother keyAttribute (by simp) key
      show Tag.mk _ [_, _, _] = Tag.mk _ [_, _, _]
      simp only [Option.getD_some, hclass, hplace, hkey]
  | latex =>
      show Tag.mk _ [_] = Tag.mk _ [_]
      simp only [Option.getD_some, hplace]

theorem isPlain_linkMarkup (style : LinkStyle) (key : Text) (number : Int) :
    isPlain (linkMarkup style key number) = true := by
  have hname : isElementName "a".toList = true := by decide
  have hnames : areAttributeNames ["class".toList, "href".toList, keyAttribute] = true ∧
      areAttributeNames ["href".toList] = true := by decide
  have hattributes : areAttributes (linkAttributes style key) = true := by
    cases style with
    | markdown => exact hnames.1
    | latex => exact hnames.2
  rw [linkMarkup, isPlain, hname, hattributes]
  rfl

/-- A number in its brackets is not blank. -/
theorem built_mark (number : Int) :
    built ["a".toList] [] [.text (mark number)] = [.text .prose (mark number)] := by
  have hopen : Builder.isAsciiBlank '[' = false := by decide
  rw [built_text_cons, built_nil, List.nil_append, mark, List.cons_append, textNodes,
    if_neg (List.cons_ne_nil _ _), keptText, List.all_cons, hopen]
  rfl

/-- The anchor of a link shows the number of its reference. -/
theorem parse_linkHtml (style : LinkStyle) (key : Text) (number : Int) :
    parse (linkHtml style key (some number)) = .ok [linkNode style key number] := by
  rw [← source_linkMarkup, parse_source (isPlain_linkMarkup style key number), linkMarkup,
    built_element, keptTag_link, built_mark, linkNode]

/-! ## Keys found by their slugs -/

/-- No other key of an order has the slug of a key. -/
def HasOwnSlug (order : List Text) (key : Text) : Prop :=
  ∀ other ∈ order, slug other = slug key → other = key

theorem keyAt?_slug {order : List Text} {key : Text} (hown : HasOwnSlug order key)
    (hkey : key ∈ order) : keyAt? order (slug key) = some key := by
  cases hfound : keyAt? order (slug key) with
  | none =>
      have hne := List.find?_eq_none.mp hfound key hkey
      simp at hne
  | some other =>
      have hslug : slug other = slug key := by simpa using List.find?_some hfound
      rw [hown other (List.mem_of_find?_eq_some hfound) hslug]

/-- The anchor of a link leads to the place of its reference. -/
theorem attribute?_href_linkTag (style : LinkStyle) (key : Text) :
    (linkTag style key).attribute? "href" = some (placeMark ++ slug key) := by
  have hclass : "class".toList ≠ "href".toList := by decide
  cases style with
  | markdown =>
      show Assoc.get? "href".toList [_, _, _] = _
      rw [Assoc.get?, if_neg hclass, Assoc.get?, if_pos rfl, Option.getD_some]
  | latex =>
      show Assoc.get? "href".toList [_] = _
      rw [Assoc.get?, if_pos rfl, Option.getD_some]

theorem place?_linkTag (style : LinkStyle) (key : Text) :
    place? (linkTag style key) = some (slug key) := by
  have hname : Tag.isNamed "a" (linkTag style key) = true := beq_self_eq_true _
  rw [place?, if_pos hname, attribute?_href_linkTag, Option.bind_some, dropPrefix?_append]

/-- The anchor of a link is marked as a citation, if it is not marked already. -/
theorem attribute?_class_withClass_linkTag (style : LinkStyle) (key : Text) :
    (withClass (linkTag style key)).attribute? "class" = some citationClass := by
  have hplace : "href".toList ≠ "class".toList := by decide
  cases style with
  | markdown =>
      have hclass : (linkTag .markdown key).attribute? "class" = some citationClass := by
        show Assoc.get? "class".toList [_, _, _] = _
        rw [Assoc.get?, if_pos rfl, Option.getD_some]
      have hwords : (words citationClass).contains citationClass = true := by decide
      rw [withClass, classes, hclass, Option.map_some, Option.getD_some, if_pos hwords, hclass]
  | latex =>
      have hclass : (linkTag .latex key).attribute? "class" = none := by
        show Assoc.get? "class".toList [_] = _
        rw [Assoc.get?, if_neg hplace, Assoc.get?]
      have hjoin : join [' '] ([] ++ [citationClass]) = citationClass := by decide
      rw [withClass, classes, hclass, Option.map_none, Option.getD_none, if_neg (by simp),
        attribute?_insert, if_pos rfl, hjoin]

/-- A citation has the key it is told, if it has none or the same. -/
theorem attribute?_withKey_self {tag : Tag} {key : Text}
    (h : ∀ other, tag.attribute? "data-cite-key" = some other → other = key) :
    (withKey (some key) tag).attribute? "data-cite-key" = some key := by
  unfold withKey
  cases hcited : citedKey? tag with
  | none => exact (Assoc.get?_insert ..).trans (if_pos rfl)
  | some other =>
      simp only [citedKey?, Assoc.filled?, Option.filter_eq_some_iff] at hcited
      rw [← h other hcited.1]
      exact hcited.1

theorem attribute?_key_linkTag {style : LinkStyle} {key other : Text}
    (h : (linkTag style key).attribute? "data-cite-key" = some other) : other = key := by
  have hclass : "class".toList ≠ "data-cite-key".toList := by decide
  have hplace : "href".toList ≠ "data-cite-key".toList := by decide
  have hkey : keyAttribute = "data-cite-key".toList := rfl
  cases style with
  | markdown =>
      change Assoc.get? "data-cite-key".toList [_, _, _] = _ at h
      rw [Assoc.get?, if_neg hclass, Assoc.get?, if_neg hplace, Assoc.get?, if_pos hkey,
        Option.getD_some, Option.some.injEq] at h
      exact h.symm
  | latex =>
      change Assoc.get? "data-cite-key".toList [_] = _ at h
      rw [Assoc.get?, if_neg hplace, Assoc.get?] at h
      cases h

/-- An annotated anchor leads where it led before. -/
theorem attribute?_href_annotateTag_linkTag (order : List Text) (style : LinkStyle) (key : Text) :
    (annotateTag order (linkTag style key)).attribute? "href" = some (placeMark ++ slug key) := by
  have hclass : "class".toList ≠ "href".toList := by decide
  have hkeyAttribute : keyAttribute ≠ "href".toList := by decide
  rw [attribute?_annotateTag _ _ hclass hkeyAttribute, attribute?_href_linkTag]

/-- An annotated anchor is marked as a citation and told the key it stands for. -/
theorem annotateTag_linkTag {order : List Text} {key : Text} (hown : HasOwnSlug order key)
    (hkey : key ∈ order) (style : LinkStyle) :
    isCitation (annotateTag order (linkTag style key)) = true ∧
      (annotateTag order (linkTag style key)).attribute? "data-cite-key" = some key := by
  have hannotated : annotateTag order (linkTag style key) =
      withKey (some key) (withClass (linkTag style key)) := by
    simp only [annotateTag, place?_linkTag, keyAt?_slug hown hkey]
  constructor
  · have hname : Tag.isNamed "a" (annotateTag order (linkTag style key)) = true := by
      rw [Tag.isNamed, name_annotateTag]
      exact beq_self_eq_true _
    have hwords : (words citationClass).contains citationClass = true := by decide
    have hclass : keyAttribute ≠ "class".toList := by decide
    rw [isCitation, hname, hannotated, classes, attribute?_withKey _ _ hclass,
      attribute?_class_withClass_linkTag, Option.map_some, Option.getD_some, hwords]
    rfl
  · have hclass : "class".toList ≠ "data-cite-key".toList := by decide
    rw [hannotated]
    apply attribute?_withKey_self
    intro other hother
    rw [attribute?_withClass _ hclass] at hother
    exact attribute?_key_linkTag hother

/-! ## The items of the list -/

/-- The identifiers of the list items among some nodes, in order. -/
def itemIds (nodes : List Node) : List (Option Text) :=
  ((Node.tagsAmong nodes).filter (Tag.isNamed "li")).map (Tag.attribute? "id")

private theorem filter_tags_itemMarkup (reference : Citation.Reference) :
    (tags (itemMarkup reference)).filter (Tag.isNamed "li") =
      [keptTag "li".toList [("id".toList, some ("ref-".toList ++ slug reference.key))]] := by
  have hline : (tagsAmong (lineMarkup reference)).filter (Tag.isNamed "li") = [] := by
    have hnames : ∀ name ∈ ["a", "span"].map String.toList, (name == "li".toList) = false := by
      decide
    rw [List.filter_eq_nil_iff]
    intro tag htag
    rw [Tag.isNamed, hnames _ (anonymous_lineMarkup reference tag htag).1]
    exact Bool.false_ne_true
  have hitem : Tag.isNamed "li" (keptTag "li".toList
      [("id".toList, some ("ref-".toList ++ slug reference.key))]) = true := beq_self_eq_true _
  rw [itemMarkup, tags, List.filter_cons_of_pos hitem, hline]

/-- The items of the list are named by the slugs of the keys, and there are no other items. -/
theorem itemIds_listing (references : List Citation.Reference) :
    itemIds (parsed (listing references)) =
      references.map fun reference => some ("ref-".toList ++ slug reference.key) := by
  have hnames : ∀ name ∈ ["section".toList, "h2".toList, "ol".toList],
      (name == "li".toList) = false := by decide
  have hother : ∀ name ∈ ["section".toList, "h2".toList, "ol".toList], ∀ attributes,
      Tag.isNamed "li" (keptTag name attributes) = false := fun name hname _ => hnames name hname
  have hid : ∀ id, (keptTag "li".toList [("id".toList, some id)]).attribute? "id" = some id :=
    attribute?_id_keptTag (by decide)
  have hitems : ((references.flatMap fun reference => tags (itemMarkup reference)).filter
      (Tag.isNamed "li")).map (Tag.attribute? "id") =
        references.map fun reference => some ("ref-".toList ++ slug reference.key) := by
    induction references with
    | nil => rfl
    | cons reference rest ih =>
        rw [List.flatMap_cons, List.filter_append, List.map_append, ih, filter_tags_itemMarkup,
          List.map_singleton, hid, List.map_cons, List.singleton_append]
  rw [itemIds, parsed_of_parse (parse_listing references), tagsAmong_built, listingMarkup, classed]
  simp only [tagsAmong, tags, tagsAmong_map, List.append_nil, List.nil_append, List.cons_append,
    List.filter_cons, hother _ (List.mem_cons_self ..),
    hother "h2".toList (by simp), hother "ol".toList (by simp), Bool.false_eq_true, if_false, hitems]

/-- An anchor is a citation of a key, and its address is the identifier of one item only, the one
at a place. -/
structure LeadsTo (items : List (Option Text)) (place : Nat) (key : Text) (tag : Tag) : Prop where
  citation : isCitation tag = true
  key : tag.attribute? "data-cite-key" = some key
  address : ∃ id, tag.attribute? "href" = some ('#' :: id) ∧
    ∀ other, items[other]? = some (some id) ↔ other = place

/-- The items with the address of a key are those of the keys with its slug. -/
private theorem getElem?_itemIds {references : List Citation.Reference} {place : Nat} {key : Text} :
    (itemIds (parsed (listing references)))[place]? = some (some ("ref-".toList ++ slug key)) ↔
      ∃ other, (references.map Reference.key)[place]? = some other ∧ slug other = slug key := by
  rw [itemIds_listing, List.getElem?_map, List.getElem?_map]
  cases references[place]? with
  | none => simp
  | some reference => simp

/-- The annotated link of a cited key leads to the item of its reference, if and only if no other
cited key has its slug. -/
theorem leadsTo_annotateTag_iff {references : List Citation.Reference} {order : List Text}
    (horder : references.map Reference.key = order) (hnodup : order.Nodup) {place : Nat}
    {key : Text} (hplace : order[place]? = some key) (style : LinkStyle) :
    LeadsTo (itemIds (parsed (listing references))) place key
      (annotateTag order (linkTag style key)) ↔ HasOwnSlug order key := by
  have haddress := attribute?_href_annotateTag_linkTag order style key
  have hmark : placeMark = '#' :: "ref-".toList := rfl
  constructor
  · rintro ⟨-, -, id, hid, honly⟩ other hother hslug
    rw [haddress, hmark, Option.some.injEq, List.cons_append, List.cons.injEq] at hid
    obtain ⟨place', hplace'⟩ := List.mem_iff_getElem?.mp hother
    have hsame : place' = place := by
      apply (honly place').mp
      rw [← hid.2, getElem?_itemIds, horder]
      exact ⟨other, hplace', hslug⟩
    rw [hsame, hplace] at hplace'
    exact (Option.some.inj hplace').symm
  · intro hown
    obtain ⟨hcitation, hkey⟩ := annotateTag_linkTag hown (List.mem_of_getElem? hplace) style
    refine ⟨hcitation, hkey, "ref-".toList ++ slug key, haddress, ?_⟩
    intro place'
    rw [getElem?_itemIds, horder]
    constructor
    · rintro ⟨other, hother, hslug⟩
      obtain ⟨hlt, -⟩ := List.getElem?_eq_some_iff.mp hother
      rw [hown other (List.mem_of_getElem? hother) hslug, ← hplace] at hother
      exact (List.getElem?_inj hlt hnodup).mp hother
    · rintro rfl
      exact ⟨key, hplace, rfl⟩

end PaperHtml.Reference
