import Mathlib
import PaperHtml.Html.Printer
import PaperHtml.Proofs.Html.Building
import PaperHtml.Proofs.Text.Collapsing

/-!
# What stands around a tree

The same source is read inside different elements: alone, as an item of a list or
in a template.  What comes of it depends on these elements in two ways only.  They
decide what kind of text it is, and whether blank texts are shortened.  The first
does not show in what is written, and neither matters for a text that is not
blank, or that is a single space.
-/

namespace PaperHtml.Html.Markup

open Text Builder

variable {around around' : List Text}

/-! ## Different surroundings -/

/-- Two surroundings keep blank texts alike. -/
def KeepAlike (around around' : List Text) : Prop :=
  around.any blankKeepingNames.contains = around'.any blankKeepingNames.contains

theorem KeepAlike.cons (h : KeepAlike around around') (name : Text) :
    KeepAlike (name :: around) (name :: around') := by
  unfold KeepAlike at h ⊢
  rw [List.any_cons, List.any_cons, h]

theorem keptText_congr (h : KeepAlike around around') (content : Text) :
    keptText around content = keptText around' content := by
  rw [keptText, keptText, h]

theorem printAll_append (raw : Bool) (before after : List Node) :
    Node.printAll raw (before ++ after) = Node.printAll raw before ++ Node.printAll raw after := by
  induction before with
  | nil => rfl
  | cons node rest ih => rw [List.cons_append, Node.printAll, Node.printAll, ih, List.append_assoc]

/-- A text is written in the same way in a template and elsewhere. -/
theorem printAll_textNodes_congr (h : KeepAlike around around') (raw : Bool) (content : Text) :
    Node.printAll raw (textNodes around content) =
      Node.printAll raw (textNodes around' content) := by
  have hkind (around : List Text) (t : Text) :
      printText raw (textKind around) t = if raw then t else escapeMarkup t := by
    rw [textKind]
    split <;> rfl
  unfold textNodes
  split
  · rfl
  · simp only [Node.printAll, Node.print, hkind, keptText_congr h]

/-- A tree is written in the same way wherever blank texts are kept alike. -/
theorem printAll_built_congr {around around' : List Text} (h : KeepAlike around around')
    (raw : Bool) (pending : Text) (markups : List Markup) (hplain : arePlain markups = true) :
    Node.printAll raw (built around pending markups) =
      Node.printAll raw (built around' pending markups) := by
  match markups with
  | [] =>
      rw [built_nil, built_nil]
      exact printAll_textNodes_congr h raw pending
  | .text content :: rest =>
      rw [built_text_cons, built_text_cons]
      exact printAll_built_congr h raw (pending ++ content) rest hplain
  | .element name attributes children :: rest =>
      simp only [arePlain, isPlain, Bool.and_eq_true] at hplain
      obtain ⟨⟨⟨hname, -⟩, hchildren⟩, hrest⟩ := hplain
      have hvoid : isVoid (keptTag name attributes).name = false := (isElementName_iff.mp hname).2
      have htext := printAll_textNodes_congr h raw pending
      have hinside := printAll_built_congr (h.cons name)
        (isRawParent (keptTag name attributes).name) [] children hchildren
      have hbehind := printAll_built_congr h raw [] rest hrest
      rw [built_element_cons, built_element_cons, printAll_append, printAll_append, htext]
      simp only [Node.printAll, Node.print, hvoid, Bool.false_and, Bool.false_eq_true, if_false,
        hinside, hbehind]

/-! ## Ordinary surroundings -/

/-- Elements whose texts are prose and lose blanks. -/
def IsOrdinary (around : List Text) : Prop :=
  ∀ name ∈ around, name ∉ embeddingNames ∧ name ∉ blankKeepingNames

instance (around : List Text) : Decidable (IsOrdinary around) :=
  inferInstanceAs (Decidable (∀ name ∈ around, _))

theorem IsOrdinary.cons (h : IsOrdinary around) {name : Text}
    (hname : name ∉ embeddingNames ∧ name ∉ blankKeepingNames) : IsOrdinary (name :: around) :=
  List.forall_mem_cons.mpr ⟨hname, h⟩

/-- The node of a text as it is, unless it is empty. -/
def prose (content : Text) : List Node :=
  if content = [] then [] else [.text .prose content]

theorem textContents_prose (content : Text) : Node.textContents (prose content) = content := by
  unfold prose
  split
  · rename_i h
    exact h.symm
  · simp [Node.textContents, Node.textContent]

theorem textContents_append (before after : List Node) :
    Node.textContents (before ++ after) = Node.textContents before ++ Node.textContents after := by
  induction before with
  | nil => rfl
  | cons node rest ih =>
      rw [List.cons_append, Node.textContents, Node.textContents, ih, List.append_assoc]

theorem tagsAmong_prose (content : Text) : Node.tagsAmong (prose content) = [] := by
  unfold prose
  split <;> rfl

/-- A text that is not blank, or is a single space. -/
def IsKept (content : Text) : Prop :=
  content ≠ [] → content.all isAsciiBlank = true → content = [' ']

theorem isBlank_of_isAsciiBlank {c : Char} (h : isAsciiBlank c = true) : isBlank c = true := by
  simp only [isAsciiBlank, decide_eq_true_eq, List.mem_cons, List.not_mem_nil, or_false] at h
  rcases h with rfl | rfl | rfl | rfl | rfl <;> decide

theorem isAsciiBlank_of_not_isBlank {c : Char} (h : isBlank c = false) :
    isAsciiBlank c = false := by
  apply Bool.eq_false_iff.mpr
  intro hascii
  rw [isBlank_of_isAsciiBlank hascii] at h
  cases h

theorem isKept_of_collapsed {content : Text} (h : Collapsed content) : IsKept content := by
  intro hne hblank
  exact (h.eq_nil_or_space fun c hc =>
    isBlank_of_isAsciiBlank (List.all_eq_true.mp hblank c hc)).resolve_left hne

theorem isKept_of_mem {content : Text} {c : Char} (hc : c ∈ content)
    (hblank : isAsciiBlank c = false) : IsKept content := by
  intro _ hall
  rw [List.all_eq_true.mp hall c hc] at hblank
  cases hblank

theorem isKept_nil : IsKept [] := fun hne => absurd rfl hne

/-- A trimmed text is not blank, unless it is empty. -/
theorem isKept_trim (content : Text) : IsKept (trim content) := by
  cases htrim : trim content with
  | nil => exact isKept_nil
  | cons c rest =>
      obtain ⟨behind, hsplit⟩ := trimEnd_isPrefix (trimStart content)
      have hstart : trimStart content = c :: (rest ++ behind) := by
        rw [← hsplit, show trimEnd (trimStart content) = c :: rest from htrim, List.cons_append]
      have hsolid := isAsciiBlank_of_not_isBlank (isBlank_head_trimStart hstart)
      exact isKept_of_mem (List.mem_cons_self ..) hsolid

/-- Ordinary elements do not matter to the texts in them. -/
theorem textNodes_of_isOrdinary (h : IsOrdinary around) (content : Text) :
    textNodes around content = textNodes [] content := by
  have hkind : around.any embeddingNames.contains = false := by
    simpa [List.any_eq_false] using fun name hname => (h name hname).1
  have halike : KeepAlike around [] := by
    simpa [KeepAlike, List.any_eq_false] using fun name hname => (h name hname).2
  rw [textNodes, textNodes, keptText_congr halike, textKind, hkind]
  rfl

theorem textNodes_of_isKept (h : IsOrdinary around) {content : Text} (hkept : IsKept content) :
    textNodes around content = prose content := by
  rw [textNodes_of_isOrdinary h]
  unfold textNodes prose
  split
  · rfl
  · rename_i hne
    have htext : keptText [] content = content := by
      unfold keptText
      split
      · rename_i hblank
        have hspace := hkept hne (Bool.and_eq_true_iff.mp hblank).2
        subst hspace
        rfl
      · rfl
    rw [htext]
    rfl

end PaperHtml.Html.Markup
