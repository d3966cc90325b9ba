import Mathlib
import PaperHtml.Proofs.Html.Selecting
import PaperHtml.Proofs.Text.Words
import PaperHtml.Reference.Anchor

/-!
# Annotated anchors

Marking an anchor as a citation and telling it its key changes two of its
attributes and nothing else.  What becomes of every tag of a tree is said without
the functions that do it (`AnnotatedAs`), and a second pass finds nothing to do.

## Strategy

The two changes are followed one by one: through each of them the look-up of every
attribute, and the attributes that neither of them sets as a list.  An anchor leads
where it led, so a second pass meets the same anchors; its class is there by then,
since classes that are joined are the words of what they are joined to
(`words_join`), and so is its key, even if that is empty.
-/

namespace PaperHtml.Assoc

variable {α : Type}

/-- The same value is set twice as once. -/
@[simp] theorem insert_insert (name : Text) (value : α) (table : Assoc α) :
    insert name value (insert name value table) = insert name value table := by
  induction table with
  | nil => simp [insert]
  | cons pair rest ih =>
      obtain ⟨n, a⟩ := pair
      by_cases h : n = name <;> simp [insert, h, ih]

/-- Attributes of other names stay where they are. -/
theorem filter_insert {name : Text} {p : Text × α → Bool} (h : ∀ value, p (name, value) = false)
    (value : α) (table : Assoc α) : (insert name value table).filter p = table.filter p := by
  induction table with
  | nil => simp [insert, h]
  | cons pair rest ih =>
      obtain ⟨n, a⟩ := pair
      by_cases hn : n = name
      · simp [insert, hn, h]
      · simp [insert, hn, List.filter_cons, ih]

end PaperHtml.Assoc

namespace PaperHtml.Reference

open Text Citation Html Html.Node

theorem attribute?_insert (tag : Tag) (name asked : String) (value : Text) :
    Tag.attribute? asked { tag with attributes := tag.attributes.insert name.toList value } =
      if name.toList = asked.toList then some value else tag.attribute? asked :=
  Assoc.get?_insert ..

theorem attribute?_withClass (tag : Tag) {asked : String}
    (hasked : "class".toList ≠ asked.toList) :
    (withClass tag).attribute? asked = tag.attribute? asked := by
  unfold withClass
  split
  · rfl
  · rw [attribute?_insert, if_neg hasked]

theorem attribute?_withKey (key : Option Text) (tag : Tag) {asked : String}
    (hasked : keyAttribute ≠ asked.toList) :
    (withKey key tag).attribute? asked = tag.attribute? asked := by
  unfold withKey
  split
  · exact (Assoc.get?_insert ..).trans (if_neg hasked)
  · rfl

theorem attribute?_annotateTag (order : List Text) (tag : Tag) {asked : String}
    (hclass : "class".toList ≠ asked.toList) (hkey : keyAttribute ≠ asked.toList) :
    (annotateTag order tag).attribute? asked = tag.attribute? asked := by
  unfold annotateTag
  split
  · rw [attribute?_withKey _ _ hkey, attribute?_withClass tag hclass]
  · rfl

theorem name_annotateTag (order : List Text) (tag : Tag) :
    (annotateTag order tag).name = tag.name := by
  unfold annotateTag withKey withClass
  split
  · split <;> split <;> rfl
  · rfl

theorem hasId_annotateTag (order : List Text) (tag : Tag) (id : Text) :
    (annotateTag order tag).hasId id = tag.hasId id := by
  have hclass : "class".toList ≠ "id".toList := by decide
  have hkey : keyAttribute ≠ "id".toList := by decide
  rw [Tag.hasId, attribute?_annotateTag order tag hclass hkey, Tag.hasId]

/-- Annotated nodes have the elements that the nodes had. -/
theorem tagsAmong_annotate (order : List Text) (nodes : List Node) :
    tagsAmong (annotate order nodes).2 = (tagsAmong nodes).map (annotateTag order) :=
  tagsAmong_mapTagsAmong ..

/-! ## What annotation makes of a tag -/

/-- An anchor whose address is the mark of references and a slug. -/
structure PointsTo (tag : Tag) (place : Text) : Prop where
  anchor : tag.isNamed "a" = true
  address : tag.attribute? "href" = some (placeMark ++ place)

/-- Whether an element is an anchor whose address begins with the mark of references. -/
def pointsToReference (tag : Tag) : Bool :=
  tag.isNamed "a" && (tag.attribute? "href").any (startsWith placeMark)

/-- The first key of a list with a slug. -/
structure IsFirstAt (order : List Text) (place key : Text) : Prop where
  slug : slug key = place
  first : ∃ before after, order = before ++ key :: after ∧
    ∀ other ∈ before, Citation.slug other ≠ place

/-- The attributes that annotation never sets. -/
def otherAttributes (tag : Tag) : Assoc Text :=
  tag.attributes.filter fun pair => pair.1 ≠ "class".toList ∧ pair.1 ≠ keyAttribute

/-- What becomes of an anchor that leads to the reference at a place. -/
structure CitesAs (order : List Text) (place : Text) (tag tag' : Tag) : Prop where
  name : tag'.name = tag.name
  classes : classes tag' =
    classes tag ++ if citationClass ∈ classes tag then [] else [citationClass]
  marked : citationClass ∈ Reference.classes tag →
    tag'.attribute? "class" = tag.attribute? "class"
  unmarked : citationClass ∉ Reference.classes tag →
    tag'.attribute? "class" = some (join [' '] (Reference.classes tag ++ [citationClass]))
  known : ∀ key ≠ [], tag.attribute? "data-cite-key" = some key →
    tag'.attribute? "data-cite-key" = some key
  told : (∀ key ≠ [], tag.attribute? "data-cite-key" ≠ some key) →
    ∀ key, IsFirstAt order place key → tag'.attribute? "data-cite-key" = some key
  untold : (∀ key ∈ order, slug key ≠ place) →
    tag'.attribute? "data-cite-key" = tag.attribute? "data-cite-key"
  others : otherAttributes tag' = otherAttributes tag

/-- What becomes of a tag: an anchor that leads to a reference cites it, and every other tag is
left as it is. -/
inductive AnnotatedAs (order : List Text) : Tag → Tag → Prop where
  | anchor {tag tag' : Tag} {place : Text} (hplace : PointsTo tag place)
      (hcites : CitesAs order place tag tag') : AnnotatedAs order tag tag'
  | other {tag : Tag} (hplace : ∀ place, ¬ PointsTo tag place) : AnnotatedAs order tag tag

variable {order : List Text} {place : Text}

theorem place?_eq_some_iff {tag : Tag} : place? tag = some place ↔ PointsTo tag place := by
  unfold place?
  constructor
  · intro h
    split at h
    · rename_i hname
      obtain ⟨address, haddress, hdrop⟩ := Option.bind_eq_some_iff.mp h
      rw [dropPrefix?_eq_some_iff.mp hdrop] at haddress
      exact ⟨hname, haddress⟩
    · cases h
  · rintro ⟨hname, haddress⟩
    rw [if_pos hname, haddress, Option.bind_some, dropPrefix?_append]

theorem isSome_place? (tag : Tag) : (place? tag).isSome = pointsToReference tag := by
  unfold place? pointsToReference
  by_cases hname : tag.isNamed "a" = true
  · rw [if_pos hname, hname, Bool.true_and]
    cases tag.attribute? "href" <;> rfl
  · simp [hname]

theorem keyAt?_eq_some_iff {key : Text} :
    keyAt? order place = some key ↔ IsFirstAt order place key := by
  rw [keyAt?, List.find?_eq_some_iff_append]
  constructor
  · rintro ⟨hslug, before, after, horder, hbefore⟩
    exact ⟨by simpa using hslug, before, after, horder, by simpa using hbefore⟩
  · rintro ⟨hslug, before, after, horder, hbefore⟩
    exact ⟨by simpa using hslug, before, after, horder, by simpa using hbefore⟩

theorem keyAt?_eq_none_iff : keyAt? order place = none ↔ ∀ key ∈ order, slug key ≠ place := by
  simp [keyAt?]

/-! ## The two changes -/

theorem isWord_of_mem_classes {tag : Tag} {w : Text} (hw : w ∈ classes tag) : IsWord w := by
  unfold classes at hw
  cases hclass : tag.attribute? "class" with
  | none => simp [hclass] at hw
  | some value =>
      rw [hclass, Option.map_some, Option.getD_some] at hw
      exact isWord_of_mem_words hw

theorem attribute?_class_withClass {tag : Tag} (h : citationClass ∉ classes tag) :
    (withClass tag).attribute? "class" = some (join [' '] (classes tag ++ [citationClass])) := by
  have hnew : ¬ (classes tag).contains citationClass = true := by
    rwa [List.contains_iff_mem]
  rw [withClass, if_neg hnew, attribute?_insert, if_pos rfl]

theorem classes_withClass (tag : Tag) :
    classes (withClass tag) =
      classes tag ++ if citationClass ∈ classes tag then [] else [citationClass] := by
  by_cases hmarked : citationClass ∈ classes tag
  · rw [withClass, if_pos (List.contains_iff_mem.mpr hmarked), if_pos hmarked, List.append_nil]
  · have hwords : ∀ w ∈ classes tag ++ [citationClass], IsWord w := by
      intro w hw
      rcases List.mem_append.mp hw with hw | hw
      · exact isWord_of_mem_classes hw
      · rw [List.mem_singleton.mp hw]
        decide
    unfold classes
    rw [attribute?_class_withClass hmarked, Option.map_some, Option.getD_some, words_join hwords]
    exact congrArg _ (if_neg hmarked).symm

theorem classes_withKey (key : Option Text) (tag : Tag) :
    classes (withKey key tag) = classes tag := by
  have hclass : keyAttribute ≠ "class".toList := by decide
  unfold classes
  rw [attribute?_withKey key tag hclass]

theorem withClass_eq_self {tag : Tag} (h : citationClass ∈ classes tag) :
    withClass tag = tag := by
  rw [withClass, if_pos (List.contains_iff_mem.mpr h)]

theorem otherAttributes_withClass (tag : Tag) :
    otherAttributes (withClass tag) = otherAttributes tag := by
  unfold withClass
  split
  · rfl
  · exact Assoc.filter_insert (by simp) _ _

theorem otherAttributes_withKey (key : Option Text) (tag : Tag) :
    otherAttributes (withKey key tag) = otherAttributes tag := by
  unfold withKey
  split
  · exact Assoc.filter_insert (by simp) _ _
  · rfl

theorem citedKey?_eq_some_iff {tag : Tag} {key : Text} :
    citedKey? tag = some key ↔ tag.attribute? "data-cite-key" = some key ∧ key ≠ [] := by
  unfold citedKey? Assoc.filled?
  rw [Option.filter_eq_some_iff, decide_eq_true_eq]
  exact Iff.rfl

theorem withKey_of_citedKey? {tag : Tag} {key : Text} (h : citedKey? tag = some key)
    (told : Option Text) : withKey told tag = tag := by
  unfold withKey
  rw [h]
  cases told <;> rfl

theorem withKey_of_no_citedKey {tag : Tag} (h : citedKey? tag = none) (key : Text) :
    withKey (some key) tag = { tag with attributes := tag.attributes.insert keyAttribute key } := by
  unfold withKey
  rw [h]

theorem attribute?_key_withKey {tag : Tag} (h : citedKey? tag = none) (key : Text) :
    (withKey (some key) tag).attribute? "data-cite-key" = some key := by
  rw [withKey_of_no_citedKey h]
  exact (Assoc.get?_insert ..).trans (if_pos rfl)

/-- A citation that has been told a key is told the same key in vain, also if it is empty. -/
theorem withKey_withKey (key : Option Text) (tag : Tag) :
    withKey key (withKey key tag) = withKey key tag := by
  cases key with
  | none => rfl
  | some key =>
      cases hagain : citedKey? (withKey (some key) tag) with
      | some known => rw [withKey_of_citedKey? hagain]
      | none =>
          cases hcited : citedKey? tag with
          | some known => rw [withKey_of_citedKey? hcited, withKey_of_citedKey? hcited]
          | none =>
              rw [withKey_of_no_citedKey hagain, withKey_of_no_citedKey hcited,
                Assoc.insert_insert]

/-! ## Both together -/

theorem annotateTag_of_pointsTo {tag : Tag} (h : PointsTo tag place) :
    annotateTag order tag = withKey (keyAt? order place) (withClass tag) := by
  unfold annotateTag
  rw [place?_eq_some_iff.mpr h]

theorem citesAs_annotateTag {tag : Tag} (h : PointsTo tag place) :
    CitesAs order place tag (annotateTag order tag) := by
  have hclass : "class".toList ≠ "data-cite-key".toList := by decide
  have hkey : keyAttribute ≠ "class".toList := by decide
  have hcited : (withClass tag).attribute? "data-cite-key" = tag.attribute? "data-cite-key" :=
    attribute?_withClass tag hclass
  rw [annotateTag_of_pointsTo h]
  constructor
  · rw [← annotateTag_of_pointsTo h, name_annotateTag]
  · rw [classes_withKey, classes_withClass]
  · intro hmarked
    rw [attribute?_withKey _ _ hkey, withClass_eq_self hmarked]
  · intro hunmarked
    rw [attribute?_withKey _ _ hkey, attribute?_class_withClass hunmarked]
  · intro key hne hknown
    rw [← hcited] at hknown
    rwa [withKey_of_citedKey? (citedKey?_eq_some_iff.mpr ⟨hknown, hne⟩)]
  · intro hnone key hfirst
    have hunknown : citedKey? (withClass tag) = none := by
      rw [Option.eq_none_iff_forall_ne_some]
      intro known hknown
      obtain ⟨hattribute, hne⟩ := citedKey?_eq_some_iff.mp hknown
      exact hnone known hne (hcited ▸ hattribute)
    rw [keyAt?_eq_some_iff.mpr hfirst, attribute?_key_withKey hunknown]
  · intro hnone
    rw [keyAt?_eq_none_iff.mpr hnone]
    exact hcited
  · rw [otherAttributes_withKey, otherAttributes_withClass]

theorem annotatedAs_annotateTag (order : List Text) (tag : Tag) :
    AnnotatedAs order tag (annotateTag order tag) := by
  cases hplace : place? tag with
  | some place =>
      have hpoints := place?_eq_some_iff.mp hplace
      exact .anchor hpoints (citesAs_annotateTag hpoints)
  | none =>
      have hsame : annotateTag order tag = tag := by
        unfold annotateTag
        rw [hplace]
      rw [hsame]
      refine .other fun place hpoints => ?_
      rw [place?_eq_some_iff.mpr hpoints] at hplace
      cases hplace

/-- An annotated tag leads where it led. -/
theorem place?_annotateTag (order : List Text) (tag : Tag) :
    place? (annotateTag order tag) = place? tag := by
  have hclass : "class".toList ≠ "href".toList := by decide
  have hkey : keyAttribute ≠ "href".toList := by decide
  unfold place?
  rw [Tag.isNamed, name_annotateTag, ← Tag.isNamed, attribute?_annotateTag order tag hclass hkey]

theorem annotateTag_annotateTag (order : List Text) (tag : Tag) :
    annotateTag order (annotateTag order tag) = annotateTag order tag := by
  cases hplace : place? tag with
  | some place =>
      have hpoints := place?_eq_some_iff.mp hplace
      have hagain : PointsTo (annotateTag order tag) place := by
        rwa [← place?_eq_some_iff, place?_annotateTag]
      have hmarked : citationClass ∈ classes (annotateTag order tag) := by
        rw [(citesAs_annotateTag hpoints).classes]
        split
        · rename_i hmarked
          exact List.mem_append_left _ hmarked
        · exact List.mem_append_right _ (List.mem_singleton_self _)
      rw [annotateTag_of_pointsTo hagain, withClass_eq_self hmarked, annotateTag_of_pointsTo hpoints,
        withKey_withKey]
  | none =>
      have hagain := (place?_annotateTag order tag).trans hplace
      conv_lhs => rw [annotateTag, hagain]

/-- Annotation tells the number of the anchors that lead to a reference, marks each of them and
tells it its key, leaves all else in the tree as it is, and changes nothing when it is done again. -/
theorem annotate_tree (order : List Text) (nodes : List Node) :
    (annotate order nodes).1 = (tagsAmong nodes).countP pointsToReference ∧
    Retagged (AnnotatedAs order) nodes (annotate order nodes).2 ∧
    annotate order (annotate order nodes).2 = annotate order nodes := by
  refine ⟨?_, retagged_mapTagsAmong (annotatedAs_annotateTag order) nodes, ?_⟩
  · unfold annotate
    simp only [isSome_place?, List.countP_eq_length_filter]
  · have hcount : (annotate order (annotate order nodes).2).1 = (annotate order nodes).1 := by
      show (List.filter _ (tagsAmong (annotate order nodes).2)).length = _
      rw [tagsAmong_annotate, List.filter_map, List.length_map]
      simp only [annotate, Function.comp_def, place?_annotateTag]
    have hnodes : (annotate order (annotate order nodes).2).2 = (annotate order nodes).2 := by
      refine mapTagsAmong_eq_self fun tag htag => ?_
      rw [tagsAmong_annotate] at htag
      obtain ⟨tag, -, rfl⟩ := List.mem_map.mp htag
      exact annotateTag_annotateTag order tag
    exact Prod.ext hcount hnodes

end PaperHtml.Reference
