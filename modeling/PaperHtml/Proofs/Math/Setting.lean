import Mathlib
import PaperHtml.Math.Typeset
import PaperHtml.Proofs.Html.Selecting

/-!
# What setting formulas adds to a page

Setting the formulas of a page leaves its elements as they are and adds only
those of the converted formulas.
-/

namespace PaperHtml.Math

open Text Html Html.Node

variable {convert : Converter} {p : Tag → Bool}

/-- No converted formula has an element that `p` holds of. -/
def ConvertsWithout (convert : Converter) (p : Tag → Bool) : Prop :=
  ∀ display formula markup, convert display formula = .ok markup → Without p (parsed markup)

theorem without_setPieces (hconvert : ConvertsWithout convert p) (stretch : Text)
    (pieces : List (Piece Span)) : Without p (setPieces convert stretch pieces).nodes := by
  induction pieces generalizing stretch with
  | nil => exact without_text.mpr without_nil
  | cons piece rest ih =>
      cases piece with
      | plain c => exact ih (c :: stretch)
      | hit span =>
          rw [setPieces]
          cases hmarkup : convert span.display span.formula with
          | error reason => exact ih (span.source.reverse ++ stretch)
          | ok markup =>
              have hwithout := hconvert _ _ _ hmarkup
              dsimp only
              split
              · next nodes hnodes =>
                  rw [parsed_of_parse hnodes] at hwithout
                  rw [List.cons_append, without_text, without_append]
                  exact ⟨hwithout, ih []⟩
              · exact without_nil

theorem without_setText (hconvert : ConvertsWithout convert p) (t : Text) :
    Without p (setText convert t).nodes := by
  simp only [setText]
  split
  · exact without_text.mpr without_nil
  · exact without_setPieces hconvert _ _

theorem without_setNodes_cons {node : Node} {rest : List Node}
    (hnode : Without p (setNode convert node).nodes) (h : Without p rest)
    (hrest : Without p (setNodes convert rest).nodes) :
    Without p (setNodes convert (node :: rest)).nodes := by
  rw [setNodes]
  dsimp only
  split
  · exact without_append.mpr ⟨hnode, h⟩
  · exact without_append.mpr ⟨hnode, hrest⟩

theorem without_setNodes (hconvert : ConvertsWithout convert p) {nodes : List Node}
    (h : Without p nodes) : Without p (setNodes convert nodes).nodes := by
  induction nodes using forest with
  | nil => exact without_nil
  | text kind content rest ih =>
      rw [without_text] at h
      refine without_setNodes_cons ?_ h (ih h)
      unfold setNode
      split
      · exact without_setText hconvert _
      · exact without_text.mpr without_nil
      · contradiction
  | element tag children rest ihChildren ih =>
      obtain ⟨htag, hchildren, hrest⟩ := without_element.mp h
      refine without_setNodes_cons ?_ hrest (ih hrest)
      rw [setNode]
      split
      · exact without_element.mpr ⟨htag, hchildren, without_nil⟩
      · exact without_element.mpr ⟨htag, ihChildren hchildren, without_nil⟩

/-- The formulas below an element are set without an element that `p` holds of. -/
theorem without_setBelow (hconvert : ConvertsWithout convert p) (around : List Text)
    {nodes : List Node} (h : Without p nodes) :
    Without p (setBelow convert around nodes).nodes := by
  unfold setBelow
  split
  · exact h
  · exact without_setNodes hconvert h

end PaperHtml.Math
