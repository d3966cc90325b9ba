import Mathlib
import PaperHtml.Html.Printer
import PaperHtml.Proofs.Html.Selecting

/-!
# Changes that show in what is written

Two ways to fill the same element are told apart by the length of what is
written, and so are some nodes and what is left of them when an element is taken
away.

## Strategy

What is written around the first element found does not depend on its children,
so that it is written as a front, the element and a back
(`exists_printAll_update`).  For an element taken away the length goes down at
its place and stays everywhere else.
-/

namespace PaperHtml.Html.Node

variable {p : Tag → Bool}

theorem print_element (raw : Bool) (tag : Tag) (children : List Node) :
    print raw (.element tag children) = print false (.element tag children) := rfl

/-- An element with something in it has an end tag, even if its name does not ask for one. -/
theorem print_element_of_ne_nil (tag : Tag) {children : List Node} (h : children ≠ []) :
    print false (.element tag children) =
      '<' :: tag.name ++ printAttributes tag.attributes ++
        '>' :: printAll (isRawParent tag.name) children ++ '<' :: '/' :: tag.name ++ ['>'] := by
  have hempty : children.isEmpty = false := List.isEmpty_eq_false_iff.mpr h
  rw [print, hempty, Bool.and_false, if_neg Bool.false_ne_true]

/-! ## An element filled anew -/

/-- What is written before and behind an element that is found does not depend on what it is filled
with. -/
theorem exists_printAll_update {nodes : List Node} (h : ¬ Without p nodes) (raw : Bool) :
    ∃ front tag back, ∀ (around : List Text) (new : List Node), ∃ changed,
      updateAmong? p (fun _ _ => ((), new)) around nodes = some ((), changed) ∧ changed ≠ [] ∧
        printAll raw changed = front ++ print false (.element tag new) ++ back := by
  induction nodes using forest generalizing raw with
  | nil => exact absurd without_nil h
  | text kind content rest ih =>
      rw [without_text] at h
      obtain ⟨front, tag, back, hupdate⟩ := ih h raw
      refine ⟨printText raw kind content ++ front, tag, back, fun around new => ?_⟩
      obtain ⟨changed, hchanged, -, hprint⟩ := hupdate around new
      refine ⟨.text kind content :: changed, ?_, List.cons_ne_nil _ _, ?_⟩
      · rw [updateAmong?_text, hchanged]
        rfl
      · rw [printAll, hprint, print]
        simp only [List.append_assoc]
  | element tag children rest ihChildren ih =>
      by_cases htag : p tag = true
      · refine ⟨[], tag, printAll raw rest, fun around new => ?_⟩
        refine ⟨.element tag new :: rest, ?_, List.cons_ne_nil _ _, rfl⟩
        rw [updateAmong?_element, if_pos htag]
      · by_cases hchildren : Without p children
        · have hrest : ¬ Without p rest := fun hrest =>
            h (without_element.mpr ⟨Bool.not_eq_true _ ▸ htag, hchildren, hrest⟩)
          obtain ⟨front, found, back, hupdate⟩ := ih hrest raw
          refine ⟨print false (.element tag children) ++ front, found, back, fun around new => ?_⟩
          obtain ⟨changed, hchanged, -, hprint⟩ := hupdate around new
          refine ⟨.element tag children :: changed, ?_, List.cons_ne_nil _ _, ?_⟩
          · rw [updateAmong?_element, if_neg htag, hchildren.updateAmong?_eq_none, hchanged]
            rfl
          · rw [printAll, hprint, print_element raw]
            simp only [List.append_assoc]
        · obtain ⟨front, found, back, hupdate⟩ := ihChildren hchildren (isRawParent tag.name)
          refine ⟨'<' :: tag.name ++ printAttributes tag.attributes ++ '>' :: front, found,
            back ++ '<' :: '/' :: tag.name ++ ['>'] ++ printAll raw rest, fun around new => ?_⟩
          obtain ⟨changed, hchanged, hne, hprint⟩ := hupdate (tag.name :: around) new
          refine ⟨.element tag changed :: rest, ?_, List.cons_ne_nil _ _, ?_⟩
          · rw [updateAmong?_element, if_neg htag, hchanged]
          · rw [printAll, print_element raw, print_element_of_ne_nil tag hne, hprint]
            simp only [List.append_assoc, List.cons_append]

/-- Of two ways to fill an element, the one with more in it is written longer. -/
theorem length_print_lt (tag : Tag) {few many : List Node} (hmany : many ≠ [])
    (h : (printAll (isRawParent tag.name) few).length <
      (printAll (isRawParent tag.name) many).length) :
    (print false (.element tag few)).length < (print false (.element tag many)).length := by
  rw [print_element_of_ne_nil tag hmany, print]
  split
  · simp only [List.length_append, List.length_cons, List.length_nil]
    omega
  · simp only [List.length_append, List.length_cons, List.length_nil]
    omega

/-! ## An element taken away -/

theorem length_printAll_lt_of_removed {nodes changed : List Node} (h : Removed p nodes changed)
    (raw : Bool) : (printAll raw changed).length < (printAll raw nodes).length := by
  induction h generalizing raw with
  | @here tag children rest h =>
      have hprint : 0 < (print raw (.element tag children)).length := by
        rw [print]
        split <;> simp
      rw [printAll, List.length_append]
      omega
  | @inside tag children found rest h ih =>
      have hne : children ≠ [] := by
        rintro rfl
        cases h
      have hprint := length_print_lt tag hne (ih (isRawParent tag.name))
      simp only [printAll, List.length_append, print_element raw]
      omega
  | after node h ih =>
      have hrest := ih raw
      simp only [printAll, List.length_append]
      omega

end PaperHtml.Html.Node
