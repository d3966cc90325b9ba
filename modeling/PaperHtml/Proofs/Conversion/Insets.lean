import PaperHtml.Proofs.Conversion.Fences
import PaperHtml.Proofs.Conversion.Styling
import PaperHtml.Proofs.Math.SideBySide

/-!
# Formulas and fenced blocks in styled prose

Setting fonts and addresses acts on the prose of a text alone.  What becomes of the
prose depends on the prose, and on where formulas and blocks of which kind stand
in it, but not on what they hold; and they come out as they went in
(`textStyles_keeps_insets`).

## Strategy

A block parts the text, and the two sides are set by themselves.  On a side there
are formulas only.  They are tokens while the fonts are set, and the numbers of
the tokens are given by the kinds of the formulas, so the pieces around them are
found before anything is said of the formulas (`exists_styleAround`).  The
theorem goes from block to block.
-/

namespace PaperHtml.Conversion.Markdown

open Text Math

/-! ## Insets -/

/-- What stands between pieces of prose: a formula of a kind, or a fenced block. -/
inductive InsetKind where
  | formula (kind : FormulaKind)
  | block
  deriving DecidableEq

namespace InsetKind

/-- An inset as it is written. -/
def enclose : InsetKind → Text → Text
  | formula kind, inner => kind.enclose inner
  | block, inner => fencedText inner

/-- Whether an inset is a formula. -/
def isFormula : InsetKind → Bool
  | formula _ => true
  | block => false

end InsetKind

/-- A text that holds no delimiter of a formula or a block and nothing that looks like a token. -/
structure IsChunk (t : Text) : Prop where
  dollar_not_mem : '$' ∉ t
  fence_not_mem : '`' ∉ t
  unmarked : TextPart.Unmarked t
  opening_absent : ¬ ['\\', '['] <:+: t
  closing_absent : ¬ ['\\', ']'] <:+: t

instance (t : Text) : Decidable (IsChunk t) :=
  decidable_of_iff ('$' ∉ t ∧ '`' ∉ t ∧ TextPart.Unmarked t ∧ ¬ ['\\', '['] <:+: t ∧
      ¬ ['\\', ']'] <:+: t)
    ⟨fun h => ⟨h.1, h.2.1, h.2.2.1, h.2.2.2.1, h.2.2.2.2⟩,
      fun h => ⟨h.dollar_not_mem, h.fence_not_mem, h.unmarked, h.opening_absent, h.closing_absent⟩⟩

/-- What an inset may hold: a formula is not empty and holds no delimiter, and one with single
dollars no line feed either; a block holds no backtick. -/
def InsetKind.Holds : InsetKind → Text → Prop
  | formula kind, inner => inner ≠ [] ∧ IsChunk inner ∧ (kind = .inline → '\n' ∉ inner)
  | block, inner => '`' ∉ inner

/-- Chunks of prose with places for insets between them; a formula and another one behind it have
some prose between them. -/
inductive IsSkeleton : (first : Text) → List InsetKind → (behind : List Text) → Prop
  | nil {first : Text} (hfirst : IsChunk first) : IsSkeleton first [] []
  | cons {first piece : Text} {kind : InsetKind} {kinds : List InsetKind} {behind : List Text}
      (hfirst : IsChunk first)
      (hapart : kind.isFormula = true → kinds.head?.any InsetKind.isFormula = true → piece ≠ [])
      (hrest : IsSkeleton piece kinds behind) :
      IsSkeleton first (kind :: kinds) (piece :: behind)

/-- Insets as they are written. -/
def insets (kinds : List InsetKind) (inners : List Text) : List Text :=
  List.zipWith InsetKind.enclose kinds inners

variable {first : Text} {kinds : List InsetKind} {behind inners : List Text}

namespace IsSkeleton

theorem length_behind (h : IsSkeleton first kinds behind) : behind.length = kinds.length := by
  induction h with
  | nil => rfl
  | cons hfirst hapart hrest ih => exact congrArg Nat.succ ih

theorem isChunk_first (h : IsSkeleton first kinds behind) : IsChunk first := by
  cases h with
  | nil hfirst => exact hfirst
  | cons hfirst => exact hfirst

theorem isChunk_behind (h : IsSkeleton first kinds behind) : ∀ piece ∈ behind, IsChunk piece := by
  induction h with
  | nil => exact List.forall_mem_nil _
  | cons hfirst hapart hrest ih => exact List.forall_mem_cons.mpr ⟨hrest.isChunk_first, ih⟩

/-- Chunks are parted at an inset. -/
theorem exists_of_append {before : List InsetKind} {kind : InsetKind} {later : List InsetKind}
    (h : IsSkeleton first (before ++ kind :: later) behind) :
    ∃ front piece back, behind = front ++ piece :: back ∧ IsSkeleton first before front ∧
      IsSkeleton piece later back := by
  induction before generalizing first behind with
  | nil =>
      cases h with
      | @cons _ piece _ _ back hfirst hapart hrest =>
          exact ⟨[], piece, back, rfl, .nil hfirst, hrest⟩
  | cons other before ih =>
      cases h with
      | cons hfirst hapart hrest =>
          obtain ⟨front, piece, back, rfl, hfront, hback⟩ := ih hrest
          refine ⟨_ :: front, piece, back, rfl, .cons hfirst (fun hother hnext => ?_) hfront, hback⟩
          refine hapart hother ?_
          cases before with
          | nil => simp at hnext
          | cons => exact hnext

end IsSkeleton

/-! ## Prose with formulas -/

theorem fits_of_holds {kind : FormulaKind} {inner : Text}
    (h : (InsetKind.formula kind).Holds inner) : kind.Fits inner := by
  obtain ⟨hne, hchunk, hfeed⟩ := h
  cases kind with
  | display => exact hchunk.dollar_not_mem
  | brackets => exact ⟨hchunk.dollar_not_mem, hchunk.closing_absent⟩
  | inline => exact ⟨hne, hchunk.dollar_not_mem, hfeed rfl, hchunk.opening_absent⟩

theorem unmarked_of_holds {formulas : List FormulaKind}
    (h : List.Forall₂ InsetKind.Holds (formulas.map .formula) inners) :
    ∀ inner ∈ inners, TextPart.Unmarked inner := by
  induction formulas generalizing inners with
  | nil =>
      cases h
      exact List.forall_mem_nil _
  | cons kind formulas ih =>
      cases h with
      | cons hinner hrest => exact List.forall_mem_cons.mpr ⟨hinner.2.1.unmarked, ih hrest⟩

theorem fence_not_mem_of_holds {formulas : List FormulaKind}
    (h : List.Forall₂ InsetKind.Holds (formulas.map .formula) inners) :
    ∀ formula ∈ enclosed formulas inners, '`' ∉ formula := by
  induction formulas generalizing inners with
  | nil => exact List.forall_mem_nil _
  | cons kind formulas ih =>
      cases h with
      | cons hinner hrest =>
          refine List.forall_mem_cons.mpr ⟨?_, ih hrest⟩
          have hfence := hinner.2.1.fence_not_mem
          cases kind <;>
            simp [FormulaKind.enclose, FormulaKind.opening, FormulaKind.closing, hfence]

/-- Formulas between chunks stand side by side. -/
theorem sideBySide_of_isSkeleton {formulas : List FormulaKind}
    (h : IsSkeleton first (formulas.map .formula) behind)
    (hinners : List.Forall₂ InsetKind.Holds (formulas.map .formula) inners) :
    SideBySide first formulas inners behind := by
  induction formulas generalizing first behind inners with
  | nil =>
      cases h with
      | nil hfirst =>
          cases hinners
          exact .nil ⟨hfirst.dollar_not_mem, hfirst.opening_absent⟩
  | cons kind formulas ih =>
      cases h with
      | cons hfirst hapart hrest =>
          cases hinners with
          | cons hinner hinners =>
              refine .cons ⟨hfirst.dollar_not_mem, hfirst.opening_absent⟩ (fits_of_holds hinner) ?_
                (ih hrest hinners)
              rintro - hformulas
              obtain ⟨next, formulas, rfl⟩ := List.exists_cons_of_ne_nil hformulas
              exact hapart rfl rfl

theorem insets_map_formula (formulas : List FormulaKind) (inners : List Text) :
    insets (formulas.map .formula) inners = enclosed formulas inners := by
  rw [insets, List.zipWith_map_left]
  rfl

theorem unmarked_gapped (hfirst : TextPart.Unmarked first)
    (hbehind : ∀ piece ∈ behind, TextPart.Unmarked piece) :
    TextPart.Unmarked (gapped '$' first behind) := by
  induction behind generalizing first with
  | nil => simpa [gapped] using hfirst
  | cons piece behind ih =>
      obtain ⟨hpiece, hrest⟩ := List.forall_mem_cons.mp hbehind
      have hmore := ih hpiece hrest
      refine ⟨fun hat => ?_, fun hword => ?_⟩
      · rw [gapped_cons, List.mem_append, List.mem_cons] at hat
        rcases hat with hhere | heq | hlater
        · exact hfirst.at_not_mem hhere
        · exact absurd heq (by decide)
        · exact hmore.at_not_mem hlater
      · rw [gapped_cons] at hword
        rcases infix_append_cons (by decide) hword with hhere | hlater
        · exact hfirst.word_absent hhere
        · exact hmore.word_absent hlater

/-- The pieces that fonts make of prose with formulas in it are the same for all formulas of the
same kinds. -/
theorem exists_styleAround {formulas : List FormulaKind}
    (h : IsSkeleton first (formulas.map .formula) behind) :
    ∃ first' behind', behind'.length = behind.length ∧
      ∀ inners, List.Forall₂ InsetKind.Holds (formulas.map .formula) inners →
        styleAround (interleave first (enclosed formulas inners) behind) =
          interleave first' (enclosed formulas inners) behind' := by
  have hlength : behind.length = formulas.length := by simpa using h.length_behind
  have hfirst := h.isChunk_first
  have hbehind := h.isChunk_behind
  obtain ⟨first', behind', hlength', hfirst', hbehind', hstyled⟩ :=
    keepsTokens_styleProse.exists_interleave hfirst.dollar_not_mem
      (fun piece hpiece => (hbehind piece hpiece).dollar_not_mem)
      (unmarked_gapped hfirst.unmarked fun piece hpiece => (hbehind piece hpiece).unmarked)
  refine ⟨first', behind', hlength', fun inners hinners => ?_⟩
  have hside := sideBySide_of_isSkeleton h hinners
  have hnumbers : (numbering (firstNumber formulas) formulas).length = behind.length := by
    rw [length_numbering, hlength]
  have hguard := hside.guard_eq
  calc styleAround (interleave first (enclosed formulas inners) behind)
      = restore (spansOf formulas inners)
          (styleProse (interleave first (tokens formulas) behind)) := by
        rw [styleAround, hguard]
    _ = restore (spansOf formulas inners) (interleave first' (tokens formulas) behind') :=
        congrArg (restore _) (hstyled _ hnumbers)
    _ = interleave first' (enclosed formulas inners) behind' :=
        hside.restore_eq (unmarked_of_holds hinners) hfirst' hbehind' (hlength'.trans hlength)

/-! ## Prose with formulas and blocks -/

/-- There is a first block unless all insets are formulas. -/
theorem exists_first_block (kinds : List InsetKind) :
    ∃ formulas : List FormulaKind, kinds = formulas.map .formula ∨
      ∃ later, kinds = formulas.map .formula ++ .block :: later := by
  induction kinds with
  | nil => exact ⟨[], .inl rfl⟩
  | cons kind kinds ih =>
      cases kind with
      | block => exact ⟨[], .inr ⟨kinds, rfl⟩⟩
      | formula kind =>
          obtain ⟨formulas, rfl | ⟨later, rfl⟩⟩ := ih
          · exact ⟨kind :: formulas, .inl rfl⟩
          · exact ⟨kind :: formulas, .inr ⟨later, rfl⟩⟩

/-- Prose with formulas holds no backtick. -/
theorem fence_not_mem_of_formulas {formulas : List FormulaKind}
    (h : IsSkeleton first (formulas.map .formula) behind)
    (hinners : List.Forall₂ InsetKind.Holds (formulas.map .formula) inners) :
    '`' ∉ interleave first (enclosed formulas inners) behind := by
  intro hmem
  rcases mem_interleave hmem with hfirst | ⟨formula, hformula, hmem⟩ | ⟨piece, hpiece, hmem⟩
  · exact h.isChunk_first.fence_not_mem hfirst
  · exact fence_not_mem_of_holds hinners formula hformula hmem
  · exact (h.isChunk_behind piece hpiece).fence_not_mem hmem

theorem exists_of_forall₂_append {kind : InsetKind} {before later : List InsetKind}
    (h : List.Forall₂ InsetKind.Holds (before ++ kind :: later) inners) :
    ∃ held inner heldBehind, inners = held ++ inner :: heldBehind ∧
      List.Forall₂ InsetKind.Holds before held ∧ kind.Holds inner ∧
      List.Forall₂ InsetKind.Holds later heldBehind := by
  have hflip := h.flip
  have hheld := (List.forall₂_take_append inners before _ hflip).flip
  have hdrop := (List.forall₂_drop_append inners before _ hflip).flip
  obtain ⟨inner, heldBehind, hinner, hrest, hsplit⟩ := List.forall₂_cons_left_iff.mp hdrop
  refine ⟨inners.take before.length, inner, heldBehind, ?_, hheld, hinner, hrest⟩
  rw [← hsplit, List.take_append_drop]

/-- Setting fonts and addresses keeps formulas and fenced blocks as they are and where they are, and
what it makes of the prose around them does not depend on what they hold. -/
theorem textStyles_keeps_insets (first : Text) (kinds : List InsetKind) (behind : List Text)
    (h : IsSkeleton first kinds behind) :
    ∃ first' behind', behind'.length = behind.length ∧
      ∀ inners, List.Forall₂ InsetKind.Holds kinds inners →
        textStyles (interleave first (insets kinds inners) behind) =
          interleave first' (insets kinds inners) behind' := by
  induction hlength : kinds.length using Nat.strong_induction_on
    generalizing first kinds behind with
  | h length ih =>
      obtain ⟨formulas, rfl | ⟨later, rfl⟩⟩ := exists_first_block kinds
      · obtain ⟨first', behind', hbehind', hstyled⟩ := exists_styleAround h
        refine ⟨first', behind', hbehind', fun inners hinners => ?_⟩
        rw [insets_map_formula, textStyles_of_not_mem (fence_not_mem_of_formulas h hinners)]
        exact hstyled inners hinners
      · obtain ⟨front, piece, back, rfl, hbefore, hback⟩ := h.exists_of_append
        have hfront := hbefore.length_behind
        obtain ⟨first', front', hfront', hstyled⟩ := exists_styleAround hbefore
        have hshorter : later.length < length := by
          rw [← hlength, List.length_append, List.length_cons]
          omega
        obtain ⟨piece', back', hback', hrest⟩ := ih later.length hshorter piece later back hback rfl
        refine ⟨first', front' ++ piece' :: back', by simp [hfront', hback'],
          fun inners hinners => ?_⟩
        -- what the insets hold is parted in the same place
        obtain ⟨held, inner, heldBehind, rfl, hheld, hinner, hheldBehind⟩ :=
          exists_of_forall₂_append hinners
        have hheldLength := hheld.length_eq
        have hwritten :
            insets (formulas.map .formula ++ .block :: later) (held ++ inner :: heldBehind) =
              enclosed formulas held ++ fencedText inner :: insets later heldBehind := by
          rw [insets, List.zipWith_append hheldLength, ← insets_map_formula]
          rfl
        have henclosed : (enclosed formulas held).length = front.length := by
          rw [enclosed, List.length_zipWith, hfront]
          simpa using hheldLength.le
        rw [hwritten, interleave_append henclosed, interleave_append (henclosed.trans hfront'.symm),
          ← hstyled held hheld, ← hrest heldBehind hheldBehind]
        have hfence := fence_not_mem_of_formulas hbefore hheld
        rw [textStyles_fencedText (fenceApart_of_not_mem hfence) hinner,
          textStyles_of_not_mem hfence]

/-- Bold type begins in front of a formula and ends behind another one, and a block stands where
emphasis has begun and never ends.  Whatever the formulas and the block hold, the prose around them
becomes the same. -/
theorem textStyles_keeps_insets_across :
    let kinds : List InsetKind := [.formula .inline, .formula .display, .block, .formula .brackets]
    let behind : List Text := [" or ".toList, "\x7d and \\emph\x7b".toList, [], " so".toList]
    let plain : List Text := ["x".toList, "y".toList, "".toList, "z".toList]
    let styled : List Text := ["\\emph\x7bx\x7d".toList, "\x7d".toList,
      "\\url\x7bz\x7d\n".toList, "\\textbf\x7b".toList]
    IsSkeleton "\\textbf\x7bsee ".toList kinds behind ∧
      List.Forall₂ InsetKind.Holds kinds plain ∧ List.Forall₂ InsetKind.Holds kinds styled ∧
      ∃ first' behind',
        "**see $x$ or $$y$$** and \\emph\x7b``````\\[z\\] so".toList =
          interleave first' (insets kinds plain) behind' ∧
        textStyles ("\\textbf\x7bsee $\\emph\x7bx\x7d$ or $$\x7d$$\x7d and " ++
            "\\emph\x7b```\\url\x7bz\x7d\n```\\[\\textbf\x7b\\] so").toList =
          interleave first' (insets kinds styled) behind' := by
  intro kinds behind plain styled
  have hlast : IsSkeleton [] [.formula .brackets] [" so".toList] :=
    .cons (by decide) (by decide) (.nil (by decide))
  have hblock : IsSkeleton "\x7d and \\emph\x7b".toList [.block, .formula .brackets]
      [[], " so".toList] := .cons (by decide) (by decide) hlast
  have hskeleton : IsSkeleton "\\textbf\x7bsee ".toList kinds behind :=
    .cons (by decide) (fun _ _ => by decide) (.cons (by decide) (fun _ _ => by decide) hblock)
  have hplain : List.Forall₂ InsetKind.Holds kinds plain := by
    simp only [kinds, plain, List.forall₂_cons, List.forall₂_nil_left_iff, InsetKind.Holds]
    decide
  have hstyled : List.Forall₂ InsetKind.Holds kinds styled := by
    simp only [kinds, styled, List.forall₂_cons, List.forall₂_nil_left_iff, InsetKind.Holds]
    decide
  obtain ⟨first', behind', -, hkept⟩ := textStyles_keeps_insets _ kinds behind hskeleton
  refine ⟨hskeleton, hplain, hstyled, first', behind', ?_, ?_⟩
  · rw [← hkept plain hplain]
    decide +kernel
  · rw [← hkept styled hstyled]
    rfl

end PaperHtml.Conversion.Markdown
