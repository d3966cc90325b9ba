import Mathlib
import PaperHtml.Proofs.Html.Markup
import PaperHtml.Proofs.Html.Selecting

/-!
# Trees are read back

The source of a tree of markup is read back as the nodes of the tree.  They
differ from the tree only where neighbouring texts grow together, empty texts
vanish and blank texts are shortened.

## Strategy

`Markup.built` gives the nodes that come of a tree.  The tokens of a tree put
these nodes into whatever element is open: `flush_foldl_tokens`, by recursion on
the tree, where an element is opened, filled by the tokens of its children and
closed again.  Nothing but the pending text is carried from one node to the
next.
-/

namespace PaperHtml.Html

open Text

namespace Markup

/-! ## Building a tree -/

/-- The tag of an element as it is kept. -/
def keptTag (name : Text) (attributes : List (Text × Option Text)) : Tag :=
  ⟨name, (readAttributes attributes).map fun p => (p.1, Builder.keptValue name p.1 p.2)⟩

/-- A value that is no list of words is kept as it is. -/
theorem keptValue_eq_self {element name : Text} (hlist : Builder.isWordList element name = false)
    (hcharset : ¬ (element = "meta".toList ∧ name = "charset".toList)) (value : Text) :
    Builder.keptValue element name value = value := by
  rw [Builder.keptValue, hlist, if_neg Bool.false_ne_true, if_neg hcharset]

theorem keptTag_singleton {element name : Text} (hlist : Builder.isWordList element name = false)
    (hcharset : ¬ (element = "meta".toList ∧ name = "charset".toList)) (value : Text) :
    keptTag element [(name, some value)] = ⟨element, [(name, value)]⟩ := by
  have hvalue := keptValue_eq_self hlist hcharset value
  show Tag.mk _ [_] = Tag.mk _ [_]
  simp only [Option.getD_some, hvalue]

/-- What a text is inside the elements around it. -/
def textKind (around : List Text) : TextKind :=
  if around.any Builder.embeddingNames.contains then .embedded else .prose

/-- A text as it is kept inside the elements around it. -/
def keptText (around : List Text) (content : Text) : Text :=
  if !around.any Builder.blankKeepingNames.contains && content.all Builder.isAsciiBlank then
    if content.contains '\n' then ['\n'] else [' ']
  else content

/-- The node of a text, unless it is empty. -/
def textNodes (around : List Text) (content : Text) : List Node :=
  if content = [] then [] else [.text (textKind around) (keptText around content)]

mutual

/-- The nodes that come of a text or an element, and the text after them that goes on.  The
names of the elements around it are given, and the text before it. -/
def builtOne (around : List Text) (pending : Text) : Markup → List Node × Text
  | .text content => ([], pending ++ content)
  | .element name attributes children =>
    (textNodes around pending ++
      [.element (keptTag name attributes) (built (name :: around) [] children)], [])

/-- The nodes that come of several texts and elements. -/
def built (around : List Text) (pending : Text) : List Markup → List Node
  | [] => textNodes around pending
  | markup :: rest =>
    (builtOne around pending markup).1 ++ built around (builtOne around pending markup).2 rest

end

theorem built_nil (around : List Text) (pending : Text) :
    built around pending [] = textNodes around pending := rfl

theorem built_text_cons (around : List Text) (pending content : Text) (rest : List Markup) :
    built around pending (.text content :: rest) = built around (pending ++ content) rest := rfl

theorem built_element_cons (around : List Text) (pending name : Text)
    (attributes : List (Text × Option Text)) (children rest : List Markup) :
    built around pending (.element name attributes children :: rest) =
      textNodes around pending ++
        .element (keptTag name attributes) (built (name :: around) [] children) ::
          built around [] rest := by
  simp [built, builtOne]

end Markup

namespace Builder

open Markup

/-- The names of the open elements, the innermost first. -/
def around (b : Builder) : List Text := b.opened.map fun o => o.tag.name

/-- Nodes put into the innermost open element, one after another. -/
def addAll (nodes : List Node) (b : Builder) : Builder := nodes.foldl (fun b node => b.add node) b

theorem addAll_append (before after : List Node) (b : Builder) :
    b.addAll (before ++ after) = (b.addAll before).addAll after := by
  simp [addAll]

theorem addAll_cons (node : Node) (nodes : List Node) (b : Builder) :
    b.addAll (node :: nodes) = (b.add node).addAll nodes := rfl

@[simp] theorem around_add (node : Node) (b : Builder) : (b.add node).around = b.around := by
  unfold add around
  cases b.opened <;> rfl

@[simp] theorem closedVoids_add (node : Node) (b : Builder) :
    (b.add node).closedVoids = b.closedVoids := by
  unfold add
  cases b.opened <;> rfl

@[simp] theorem pending_add (node : Node) (b : Builder) : (b.add node).pending = b.pending := by
  unfold add
  cases b.opened <;> rfl

@[simp] theorem rejected_add (node : Node) (b : Builder) :
    (b.add node).rejected = b.rejected := by
  unfold add
  cases b.opened <;> rfl

@[simp] theorem around_addAll (nodes : List Node) (b : Builder) :
    (b.addAll nodes).around = b.around := by
  induction nodes generalizing b with
  | nil => rfl
  | cons node rest ih => rw [addAll_cons, ih, around_add]

@[simp] theorem closedVoids_addAll (nodes : List Node) (b : Builder) :
    (b.addAll nodes).closedVoids = b.closedVoids := by
  induction nodes generalizing b with
  | nil => rfl
  | cons node rest ih => rw [addAll_cons, ih, closedVoids_add]

@[simp] theorem pending_addAll (nodes : List Node) (b : Builder) :
    (b.addAll nodes).pending = b.pending := by
  induction nodes generalizing b with
  | nil => rfl
  | cons node rest ih => rw [addAll_cons, ih, pending_add]

@[simp] theorem rejected_addAll (nodes : List Node) (b : Builder) :
    (b.addAll nodes).rejected = b.rejected := by
  induction nodes generalizing b with
  | nil => rfl
  | cons node rest ih => rw [addAll_cons, ih, rejected_add]

theorem with_pending_nil {b : Builder} (h : b.pending = []) : { b with pending := [] } = b := by
  rw [← h]

/-- Nodes put into an open element are its last children. -/
theorem addAll_of_opened {b : Builder} {o : Opened} {outer : List Opened}
    (h : b.opened = o :: outer) (nodes : List Node) :
    b.addAll nodes =
      { b with opened := { o with children := nodes.reverse ++ o.children } :: outer } := by
  induction nodes generalizing b o with
  | nil => simp [addAll, ← h]
  | cons node rest ih =>
      have hadd : b.add node =
          { b with opened := { o with children := node :: o.children } :: outer } := by
        rw [add, h]
      rw [addAll_cons, hadd, ih rfl]
      simp

/-- Nodes put outside of all elements. -/
theorem addAll_of_opened_nil {b : Builder} (h : b.opened = []) (nodes : List Node) :
    b.addAll nodes = { b with done := nodes.reverse ++ b.done } := by
  induction nodes generalizing b with
  | nil => simp [addAll]
  | cons node rest ih =>
      have hadd : b.add node = { b with done := node :: b.done } := by
        rw [add, h]
      rw [addAll_cons, hadd, @ih { b with done := node :: b.done } h]
      simp

/-- The pending text becomes the node of a text. -/
theorem flush_eq_addAll (b : Builder) :
    b.flush = { b with pending := [] }.addAll (textNodes b.around b.pending) := by
  unfold flush
  by_cases h : b.pending = []
  · rw [if_pos h, textNodes, if_pos h]
    obtain ⟨pending, opened, done, closedVoids, rejected⟩ := b
    subst h
    rfl
  · have hkind : (if b.isInside embeddingNames then TextKind.embedded else .prose) =
        textKind b.around := by
      simp [isInside, textKind, around, Function.comp_def]
    have hkept : b.kept b.pending = keptText b.around b.pending := by
      simp [kept, isInside, keptText, around, Function.comp_def]
    rw [if_neg h, textNodes, if_neg h]
    simp only [hkind, hkept]
    rfl

@[simp] theorem closedVoids_flush (b : Builder) : b.flush.closedVoids = b.closedVoids := by
  rw [flush_eq_addAll, closedVoids_addAll]

@[simp] theorem rejected_flush (b : Builder) : b.flush.rejected = b.rejected := by
  rw [flush_eq_addAll, rejected_addAll]

/-- An end tag closes the element that was opened last, if it has its name. -/
theorem take_endTag {b : Builder} {tag : Tag} (hvoids : tag.name ∉ b.closedVoids)
    {children : List Node} {outer : List Opened}
    (h : b.flush.opened = ⟨tag, children⟩ :: outer) :
    b.take (.endTag tag.name) =
      { b.flush with opened := outer }.add (.element tag children.reverse) := by
  have hcontains : b.closedVoids.contains tag.name = false := by simpa using hvoids
  have hfound : b.flush.opened.findIdx? (fun o => o.tag.name = tag.name) = some 0 := by
    simp [h, List.findIdx?_cons]
  rw [take, hcontains]
  simp only [Bool.false_eq_true, if_false]
  rw [closeTo, hfound]
  simp only [closeMany, close, h]

theorem take_startTag {name : Text} (hname : isElementName name = true)
    (attributes : List (Text × Option Text)) (b : Builder) :
    b.take (.startTag ⟨name, readAttributes attributes, false⟩) =
      { b.flush with opened := ⟨keptTag name attributes, []⟩ :: b.flush.opened } := by
  obtain ⟨-, hvoid⟩ := isElementName_iff.mp hname
  rw [take]
  simp only [hvoid, Bool.false_eq_true, if_false]
  rfl

@[simp] theorem pending_flush (b : Builder) : b.flush.pending = [] := by
  rw [flush_eq_addAll, pending_addAll]

@[simp] theorem around_flush (b : Builder) : b.flush.around = b.around := by
  rw [flush_eq_addAll, around_addAll]
  rfl

/-- The tokens of an element put it into the innermost open element, if those of its children
put them into the element itself. -/
private theorem foldl_tokens_element {name : Text} (hname : isElementName name = true)
    (attributes : List (Text × Option Text)) {children : List Markup}
    (hchildren : ∀ b : Builder, (∀ name ∈ b.closedVoids, isVoid name = true) →
      ((tokensAmong children).foldl take b).flush =
        { b with pending := [] }.addAll (built b.around b.pending children))
    {b : Builder} (hvoids : ∀ name ∈ b.closedVoids, isVoid name = true) :
    (Markup.tokens (.element name attributes children)).foldl take b =
      b.flush.add
        (.element (keptTag name attributes) (built (name :: b.around) [] children)) := by
  let inner : Builder :=
    { b.flush with opened := ⟨keptTag name attributes, []⟩ :: b.flush.opened }
  have hinnerVoids : inner.closedVoids = b.closedVoids := closedVoids_flush b
  have hinnerAround : inner.around = name :: b.around := by
    rw [← around_flush b]
    rfl
  have hinnerPending : inner.pending = [] := pending_flush b
  have hbuilt : ((tokensAmong children).foldl take inner).flush =
      { inner with opened :=
          ⟨keptTag name attributes, (built (name :: b.around) [] children).reverse⟩ ::
            b.flush.opened } := by
    rw [hchildren inner (hinnerVoids ▸ hvoids), with_pending_nil hinnerPending, hinnerAround, hinnerPending,
      addAll_of_opened (show inner.opened = _ :: b.flush.opened from rfl), List.append_nil, hinnerPending]
  have hclosed : name ∉ ((tokensAmong children).foldl take inner).closedVoids := by
    rw [← closedVoids_flush, hbuilt]
    show name ∉ inner.closedVoids
    intro hmem
    rw [hinnerVoids] at hmem
    exact Bool.false_ne_true ((isElementName_iff.mp hname).2.symm.trans (hvoids _ hmem))
  have hopened : ((tokensAmong children).foldl take inner).flush.opened =
      ⟨keptTag name attributes, (built (name :: b.around) [] children).reverse⟩ ::
        b.flush.opened := by
    rw [hbuilt]
  have hend := @take_endTag _ (keptTag name attributes) hclosed _ _ hopened
  rw [Markup.tokens, List.foldl_cons, List.foldl_append, take_startTag hname attributes b,
    List.foldl_cons, List.foldl_nil]
  rw [hbuilt, List.reverse_reverse] at hend
  exact hend

/-- The tokens of a tree put its nodes into the innermost open element. -/
theorem flush_foldl_tokens (markups : List Markup) (h : arePlain markups = true) (b : Builder)
    (hvoids : ∀ name ∈ b.closedVoids, isVoid name = true) :
    ((tokensAmong markups).foldl take b).flush =
      { b with pending := [] }.addAll (built b.around b.pending markups) := by
  match markups with
  | [] =>
      rw [built_nil]
      exact flush_eq_addAll b
  | .text content :: rest =>
      have hrest : arePlain rest = true := by simpa [arePlain, isPlain] using h
      rw [built_text_cons]
      exact flush_foldl_tokens rest hrest (b.take (.text content)) hvoids
  | .element name attributes children :: rest =>
      simp only [arePlain, isPlain, Bool.and_eq_true] at h
      obtain ⟨⟨⟨hname, -⟩, hchildren⟩, hrest⟩ := h
      have helement := foldl_tokens_element hname attributes (flush_foldl_tokens children hchildren)
        hvoids
      have hlast := flush_foldl_tokens rest hrest
        (b.flush.add (.element (keptTag name attributes) (built (name :: b.around) [] children)))
        (by simpa using hvoids)
      rw [tokensAmong, List.foldl_append, helement, hlast, with_pending_nil (by simp),
        built_element_cons, addAll_append, addAll_cons, ← flush_eq_addAll]
      simp only [around_add, around_flush, pending_add, pending_flush]

/-- The tokens of an element put it into the innermost open element, behind the pending text. -/
theorem foldl_tokens_of_isPlain {name : Text} {attributes : List (Text × Option Text)}
    {children : List Markup} (h : isPlain (.element name attributes children) = true) {b : Builder}
    (hvoids : ∀ name ∈ b.closedVoids, isVoid name = true) :
    (Markup.tokens (.element name attributes children)).foldl take b =
      b.flush.add
        (.element (keptTag name attributes) (built (name :: b.around) [] children)) := by
  simp only [isPlain, Bool.and_eq_true] at h
  obtain ⟨⟨hname, -⟩, hchildren⟩ := h
  exact foldl_tokens_element hname attributes (flush_foldl_tokens children hchildren) hvoids

end Builder

/-- A source that is read as the tokens of a tree is read back as its nodes. -/
theorem parse_of_read {source : Text} {markups : List Markup} (h : Markup.arePlain markups = true)
    (hread : Builder.read source {} = (Markup.tokensAmong markups).foldl Builder.take {}) :
    parse source = .ok (Markup.built [] [] markups) := by
  have hbuilt := Builder.flush_foldl_tokens markups h {} (fun _ hmem => absurd hmem List.not_mem_nil)
  have haccepted : (Builder.read source {}).rejected = none := by
    rw [hread, ← Builder.rejected_flush, hbuilt, Builder.rejected_addAll]
  rw [parse_eq_finish haccepted, hread, Builder.finish, hbuilt, Builder.addAll_of_opened_nil rfl]
  simp [Builder.closeMany, Builder.around]

/-- The source of a tree is read back as the nodes of the tree. -/
theorem parse_sources {markups : List Markup} (h : Markup.arePlain markups = true) :
    parse (Markup.sources markups) = .ok (Markup.built [] [] markups) := by
  have hread := Markup.read_sources markups h [] {}
  rw [List.append_nil, Builder.read_nil] at hread
  exact parse_of_read h hread

/-- The source of one element or text is read back as its nodes. -/
theorem parse_source {markup : Markup} (h : Markup.isPlain markup = true) :
    parse (Markup.source markup) = .ok (Markup.built [] [] [markup]) := by
  have hplain : Markup.arePlain [markup] = true := by
    rw [Markup.arePlain, h]
    rfl
  rw [← parse_sources hplain, Markup.sources, Markup.sources, List.append_nil]

/-! ## Tags of a tree -/

namespace Markup

theorem built_element (around : List Text) (name : Text)
    (attributes : List (Text × Option Text)) (children : List Markup) :
    built around [] [.element name attributes children] =
      [.element (keptTag name attributes) (built (name :: around) [] children)] := by
  rw [built_element_cons, built_nil, textNodes, if_pos rfl]
  rfl

/-- Whether a markup is an element. -/
def isElement : Markup → Bool
  | .text _ => false
  | .element .. => true

/-- An element keeps what is before it and what is behind it apart. -/
theorem built_cons_of_isElement {markup : Markup} (h : markup.isElement = true)
    (around : List Text) (pending : Text) (rest : List Markup) :
    built around pending (markup :: rest) =
      textNodes around pending ++ built around [] [markup] ++ built around [] rest := by
  cases markup with
  | text content => cases h
  | element name attributes children =>
      rw [built_element_cons, built_element, List.append_assoc, List.singleton_append]

/-- What stands behind elements is read back on its own. -/
theorem built_append {before : List Markup} (h : before.all isElement = true)
    (around : List Text) (after : List Markup) :
    built around [] (before ++ after) = built around [] before ++ built around [] after := by
  induction before with
  | nil => rfl
  | cons markup rest ih =>
      obtain ⟨hfirst, hrest⟩ := Bool.and_eq_true_iff.mp h
      have hcons := built_cons_of_isElement hfirst around []
      rw [List.cons_append, hcons (rest ++ after), hcons rest, ih hrest]
      simp only [List.append_assoc]

/-- Elements that come of the same data are read back one by one. -/
theorem built_map {α : Type} {f : α → Markup} {node : α → Node} {around : List Text}
    {items : List α} (helement : ∀ item, (f item).isElement = true)
    (h : ∀ item ∈ items, built around [] [f item] = [node item]) :
    built around [] (items.map f) = items.map node := by
  induction items with
  | nil => rfl
  | cons item rest ih =>
      obtain ⟨hitem, hrest⟩ := List.forall_mem_cons.mp h
      rw [List.map_cons, built_cons_of_isElement (helement item), hitem, ih hrest]
      rfl

mutual

/-- The tags at or below a text or an element, as they are kept. -/
def tags : Markup → List Tag
  | .text _ => []
  | .element name attributes children => keptTag name attributes :: tagsAmong children

/-- The tags at or below several texts and elements, as they are kept. -/
def tagsAmong : List Markup → List Tag
  | [] => []
  | markup :: rest => tags markup ++ tagsAmong rest

end

theorem tagsAmong_textNodes (around : List Text) (content : Text) :
    Node.tagsAmong (textNodes around content) = [] := by
  unfold textNodes
  split
  · rfl
  · exact Node.tagsAmong_text ..

/-- The nodes of a tree have the tags of the tree. -/
theorem tagsAmong_built (around : List Text) (pending : Text) (markups : List Markup) :
    Node.tagsAmong (built around pending markups) = tagsAmong markups := by
  match markups with
  | [] =>
      rw [built_nil]
      exact tagsAmong_textNodes around pending
  | .text content :: rest =>
      rw [built_text_cons, tagsAmong_built around (pending ++ content) rest]
      simp [tagsAmong, tags]
  | .element name attributes children :: rest =>
      rw [built_element_cons, Node.tagsAmong_append, tagsAmong_textNodes, List.nil_append,
        Node.tagsAmong_element, tagsAmong_built (name :: around) [] children,
        tagsAmong_built around [] rest]
      simp [tagsAmong, tags]

theorem tagsAmong_append (before after : List Markup) :
    tagsAmong (before ++ after) = tagsAmong before ++ tagsAmong after := by
  induction before with
  | nil => rfl
  | cons markup rest ih => simp [tagsAmong, ih]

theorem sources_append (before after : List Markup) :
    sources (before ++ after) = sources before ++ sources after := by
  induction before with
  | nil => rfl
  | cons markup rest ih => simp [sources, ih]

theorem arePlain_append (before after : List Markup) :
    arePlain (before ++ after) = (arePlain before && arePlain after) := by
  induction before with
  | nil => rfl
  | cons markup rest ih => simp [arePlain, ih, Bool.and_assoc]

theorem sources_map {α : Type} (f : α → Markup) (items : List α) :
    sources (items.map f) = items.flatMap fun item => source (f item) := by
  induction items with
  | nil => rfl
  | cons item rest ih => simp [sources, ih]

theorem sources_flatMap {α : Type} (f : α → List Markup) (items : List α) :
    sources (items.flatMap f) = items.flatMap fun item => sources (f item) := by
  induction items with
  | nil => rfl
  | cons item rest ih => simp [sources_append, ih]

theorem arePlain_map {α : Type} {f : α → Markup} (h : ∀ item, isPlain (f item) = true)
    (items : List α) : arePlain (items.map f) = true := by
  induction items with
  | nil => rfl
  | cons item rest ih => simp [arePlain, h item, ih]

theorem tagsAmong_map {α : Type} (f : α → Markup) (items : List α) :
    tagsAmong (items.map f) = items.flatMap fun item => tags (f item) := by
  induction items with
  | nil => rfl
  | cons item rest ih => simp [tagsAmong, ih]

/-- The value of an attribute of an element that is read back. -/
theorem attribute?_keptTag (name : Text) (attributes : List (Text × Option Text))
    (asked : String) :
    (keptTag name attributes).attribute? asked =
      (Assoc.get? asked.toList attributes).map fun value =>
        Builder.keptValue name asked.toList (value.getD []) := by
  unfold keptTag readAttributes Tag.attribute?
  induction attributes with
  | nil => rfl
  | cons given rest ih =>
      obtain ⟨key, value⟩ := given
      by_cases h : key = asked.toList
      · subst h
        simp [Assoc.get?]
      · simpa [Assoc.get?, h] using ih

/-- The identifier of an element whose only attribute it is. -/
theorem attribute?_id_keptTag {name : Text} (hname : Builder.isWordList name "id".toList = false)
    (id : Text) :
    (keptTag name [("id".toList, some id)]).attribute? "id" = some id := by
  have hcharset : "id".toList ≠ "charset".toList := by decide
  rw [keptTag_singleton hname (fun h => hcharset h.2), Tag.attribute?, Assoc.get?, if_pos rfl]

end Markup

end PaperHtml.Html
