import Mathlib
import PaperHtml.Proofs.Page.Frame

/-!
# The layout of a page

Every change of a page through its parts is a change of its layout.

## Strategy

A part is found where the frame has it, as long as nothing before it hides an
element with the same identifier: `Layout.Apart` is enough for the status line
and the content, and `Layout.Sound` for all else; in between, `Layout.Steady`
says that whatever else is hit does not stand outside the content.  So a change
of a part changes one of the five lists of the layout.  Blocks at the end of the body are the
exception: an element of the head that is called `body` takes them first.  The
head and the end of the body are therefore looked at together, as
`Layout.outer`, and followed by `Added` and `Removed`.
-/

namespace PaperHtml

open Html Html.Node Page

namespace Layout

/-- Nothing before them is taken for the status line or the content. -/
structure Apart (l : Layout) : Prop where
  head : Without isMain l.head
  status : Without isOwn l.status

/-- Nothing before the content is taken for one of the parts. -/
structure Steady (l : Layout) : Prop where
  outer : Without isFrame l.outer
  status : Without isOwn l.status

/-- Nothing but the parts themselves has an identifier of the page, and there is at most one
element of each kind that the page makes for itself. -/
structure Sound (l : Layout) : Prop extends Steady l where
  content : Without isOwn l.content
  panel : Without isOwn l.panel
  data : (tagsAmong l.outer).countP (Tag.hasId dataId) ≤ 1
  script : (tagsAmong l.outer).countP (Tag.hasId scriptId) ≤ 1

variable {l : Layout} {α : Type} {change : List Text → List Node → α × List Node}

theorem Steady.head_without (h : l.Steady) {id : Text} (hid : id ∈ frameIds) :
    Without (Tag.hasId id) l.head :=
  (without_append.mp h.outer).1.mono fun _ => isFrame_of_hasId hid

theorem Steady.apart (h : l.Steady) : l.Apart :=
  ⟨(without_append.mp h.outer).1.mono fun _ => isFrame_of_isMain, h.status⟩

theorem Apart.head_without (h : l.Apart) {id : Text} (hid : id ∈ [statusId, contentId]) :
    Without (Tag.hasId id) l.head :=
  h.head.mono fun _ => isMain_of_hasId hid

theorem Apart.status_without (h : l.Apart) {id : Text} (hid : id ∈ ownIds) :
    Without (Tag.hasId id) l.status :=
  h.status.mono fun _ => isOwn_of_hasId hid

theorem Sound.content_without (h : l.Sound) {id : Text} (hid : id ∈ ownIds) :
    Without (Tag.hasId id) l.content :=
  h.content.mono fun _ => isOwn_of_hasId hid

theorem Sound.panel_without (h : l.Sound) {id : Text} (hid : id ∈ ownIds) :
    Without (Tag.hasId id) l.panel :=
  h.panel.mono fun _ => isOwn_of_hasId hid

theorem Sound.main_without (h : l.Sound) {id : Text} (hid : id ∈ [dataId, scriptId]) :
    Without (Tag.hasId id) l.main := by
  have hown : id ∈ ownIds := List.mem_append_right _ hid
  obtain ⟨-, -, -, hmain⟩ := hasId_around id
  obtain ⟨hstatus, hcontent, hpanel⟩ := hasId_part id
  obtain ⟨hstatusId, hcontentId, hpanelId⟩ := ids_differ.2.2.2.2 id hid
  simp only [main, newline, without_text, without_element, hmain, hstatus, hcontent, hpanel,
    hstatusId, hcontentId, hpanelId, decide_false, h.apart.status_without hown, h.content_without hown,
    h.panel_without hown, true_and]
  exact ⟨without_nil, without_nil⟩

/-! ## Changing a part -/

/-- The names of the elements around the content, the innermost first. -/
def contentAround : List Text := ["div", "main", "body", "html"].map String.toList

theorem updateAmong?_status (h : Without (Tag.hasId statusId) l.head) :
    ∃ around, updateAmong? (Tag.hasId statusId) change [] l.nodes =
      some ((change around l.status).1,
        { l with status := (change around l.status).2 }.nodes) := by
  have hhead : ∀ around, updateAmong? (Tag.hasId statusId) change around l.head = none :=
    h.updateAmong?_eq_none
  obtain ⟨hhtml, hheadTag, hbody, hmain⟩ := hasId_around statusId
  obtain ⟨hstatus, -, -⟩ := hasId_part statusId
  refine ⟨["p", "main", "body", "html"].map String.toList, ?_⟩
  simp only [nodes, main, newline, updateAmong?_text, updateAmong?_element, updateAmong?_append,
    hhtml, hheadTag, hbody, hmain, hstatus, hhead, updateAmong?_nil, Option.map_some,
    Option.map_none, decide_true, Bool.false_eq_true, if_true, if_false]
  rfl

theorem updateAmong?_content (hhead : Without (Tag.hasId contentId) l.head)
    (hbefore : Without (Tag.hasId contentId) l.status) :
    updateAmong? (Tag.hasId contentId) change [] l.nodes =
      some ((change contentAround l.content).1,
        { l with content := (change contentAround l.content).2 }.nodes) := by
  have hhead : ∀ around, updateAmong? (Tag.hasId contentId) change around l.head = none :=
    hhead.updateAmong?_eq_none
  have hbefore : ∀ around, updateAmong? (Tag.hasId contentId) change around l.status = none :=
    hbefore.updateAmong?_eq_none
  obtain ⟨hhtml, hheadTag, hbody, hmain⟩ := hasId_around contentId
  obtain ⟨hstatus, hcontent, -⟩ := hasId_part contentId
  simp only [nodes, main, newline, updateAmong?_text, updateAmong?_element, updateAmong?_append,
    hhtml, hheadTag, hbody, hmain, hstatus, ids_differ.1, hcontent, hhead, hbefore, updateAmong?_nil,
    Option.map_some, Option.map_none, decide_true, decide_false, Bool.false_eq_true, if_true,
    if_false]
  rfl

theorem updateAmong?_panel (hhead : Without (Tag.hasId panelId) l.head)
    (hbefore : Without (Tag.hasId panelId) l.status)
    (hbetween : Without (Tag.hasId panelId) l.content) :
    ∃ around, updateAmong? (Tag.hasId panelId) change [] l.nodes =
      some ((change around l.panel).1,
        { l with panel := (change around l.panel).2 }.nodes) := by
  obtain ⟨-, hnotStatus, hnotContent, -⟩ := ids_differ
  have hhead : ∀ around, updateAmong? (Tag.hasId panelId) change around l.head = none :=
    hhead.updateAmong?_eq_none
  have hbefore : ∀ around, updateAmong? (Tag.hasId panelId) change around l.status = none :=
    hbefore.updateAmong?_eq_none
  have hbetween : ∀ around, updateAmong? (Tag.hasId panelId) change around l.content = none :=
    hbetween.updateAmong?_eq_none
  obtain ⟨hhtml, hheadTag, hbody, hmain⟩ := hasId_around panelId
  obtain ⟨hstatus, hcontent, hpanel⟩ := hasId_part panelId
  refine ⟨["aside", "body", "html"].map String.toList, ?_⟩
  simp only [nodes, main, newline, updateAmong?_text, updateAmong?_element, updateAmong?_append,
    hhtml, hheadTag, hbody, hmain, hstatus, hnotStatus, hnotContent, hcontent, hpanel, hhead, hbefore,
    hbetween, updateAmong?_nil, Option.map_some, Option.map_none, decide_true, decide_false,
    Bool.false_eq_true, if_true, if_false]
  rfl

theorem updateAmong?_head :
    ∃ around, updateAmong? (Tag.isNamed "head") change [] l.nodes =
      some ((change around l.head).1, { l with head := (change around l.head).2 }.nodes) := by
  have hhtml : htmlTag.isNamed "head" = false := by decide
  have hhead : headTag.isNamed "head" = true := by decide
  refine ⟨["head", "html"].map String.toList, ?_⟩
  simp only [nodes, newline, updateAmong?_text, updateAmong?_element, hhtml, hhead,
    Option.map_some, Bool.false_eq_true, if_true, if_false]
  rfl

theorem updateAmong?_body (h : Without (Tag.isNamed "body") l.head) (block : List Node) :
    updateAmong? (Tag.isNamed "body") (adding block) [] l.nodes =
      some ((), { l with tail := l.tail ++ block }.nodes) := by
  have hhtml : htmlTag.isNamed "body" = false := by decide
  have hhead : headTag.isNamed "body" = false := by decide
  have hbody : bodyTag.isNamed "body" = true := by decide
  have hnone : ∀ around, updateAmong? (Tag.isNamed "body") (adding block) around l.head = none :=
    h.updateAmong?_eq_none
  simp only [nodes, newline, updateAmong?_text, updateAmong?_element, hhtml, hhead, hbody, hnone,
    adding, Option.map_some, Bool.false_eq_true, if_true, if_false, List.append_assoc]
  rfl

/-- A block at the end of the body is put into the first element called so, which may be one
of the head, whatever the status line holds. -/
theorem exists_updateAmong?_body (l : Layout) (block : List Node) :
    ∃ l' : Layout,
      (∀ status, updateAmong? (Tag.isNamed "body") (adding block) [] { l with status }.nodes =
        some ((), { l' with status }.nodes)) ∧
      l'.status = l.status ∧ l'.content = l.content ∧ l'.panel = l.panel ∧
      (l'.head = l.head ∨ Added (Tag.isNamed "body") block l.head l'.head) ∧
      Added (Tag.isNamed "body") block l.outer l'.outer := by
  have hhtml : htmlTag.isNamed "body" = false := by decide
  have hhead : headTag.isNamed "body" = false := by decide
  have hbody : bodyTag.isNamed "body" = true := by decide
  cases hfound : updateAmong? (Tag.isNamed "body") (adding block)
      (["head", "html"].map String.toList) l.head with
  | some found =>
      obtain ⟨u, head⟩ := found
      have hadded := added_of_updateAmong? hfound
      refine ⟨{ l with head }, fun status => ?_, rfl, rfl, rfl, .inr hadded,
        hadded.append_right [.element bodyTag l.tail]⟩
      have hfound' : updateAmong? (Tag.isNamed "body") (adding block)
          (headTag.name :: htmlTag.name :: []) l.head = some (u, head) := hfound
      simp only [nodes, newline, updateAmong?_text, updateAmong?_element, hhtml, hhead, hfound',
        Option.map_some, Bool.false_eq_true, if_false]
      rfl
  | none =>
      have hwithout := without_of_updateAmong?_eq_none hfound
      exact ⟨{ l with tail := l.tail ++ block },
        fun status => @updateAmong?_body { l with status } hwithout block, rfl, rfl, rfl, .inl rfl,
        (Added.here l.tail [] hbody).append_left l.head⟩

/-- An element that the page has made for itself is taken away, if there is one. -/
theorem exists_removeAmong? (h : l.Sound) {id : Text} (hid : id ∈ [dataId, scriptId]) :
    (Without (Tag.hasId id) l.outer ∧ removeAmong? (Tag.hasId id) l.nodes = none) ∨
    ∃ l' : Layout, removeAmong? (Tag.hasId id) l.nodes = some l'.nodes ∧
      l'.status = l.status ∧ l'.content = l.content ∧ l'.panel = l.panel ∧
      Removed (Tag.hasId id) l.outer l'.outer := by
  have hown : id ∈ ownIds := List.mem_append_right _ hid
  obtain ⟨hhtml, hhead, hbody, -⟩ := hasId_around id
  have hmain := (h.main_without hid).removeAmong?_eq_none
  cases hfound : removeAmong? (Tag.hasId id) l.head with
  | some head =>
      refine .inr ⟨{ l with head }, ?_, rfl, rfl, rfl,
        (removed_of_removeAmong? hfound).append_right [.element bodyTag l.tail]⟩
      simp only [nodes, newline, removeAmong?_text, removeAmong?_element, hhtml, hhead, hfound,
        Option.map_some, Bool.false_eq_true, if_false]
      rfl
  | none =>
      cases hlast : removeAmong? (Tag.hasId id) l.tail with
      | some tail =>
          refine .inr ⟨{ l with tail }, ?_, rfl, rfl, rfl,
            (Removed.inside bodyTag [] (removed_of_removeAmong? hlast)).append_left l.head⟩
          simp only [nodes, newline, removeAmong?_text, removeAmong?_element, removeAmong?_append,
            hhtml, hhead, hbody, hmain, hfound, hlast, Option.map_some, Bool.false_eq_true, if_false]
          rfl
      | none =>
          refine .inl ⟨?_, ?_⟩
          · rw [outer, without_append, without_element]
            exact ⟨without_of_removeAmong?_eq_none hfound, hbody,
              without_of_removeAmong?_eq_none hlast, without_nil⟩
          · simp only [nodes, newline, removeAmong?_text, removeAmong?_element,
              removeAmong?_append, hhtml, hhead, hbody, hmain, hfound, hlast, Option.map_none,
              removeAmong?_nil, Bool.false_eq_true, if_false]

end Layout

end PaperHtml
