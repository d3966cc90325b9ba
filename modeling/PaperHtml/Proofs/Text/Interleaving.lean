import Mathlib
import PaperHtml.Text.Basic

/-!
# Texts with something between their pieces

Formulas between pieces of prose, the tokens that stand for them, and the pieces
with a single character in the place of each token are three texts of one shape:
pieces that alternate with something else (`interleave`).

## Strategy

What stands between the pieces is put in for a character that no piece holds
(`fillGaps`).  A text with gaps is an ordinary text, and every text is one: it is
parted at the character (`exists_gapped`).  So a change of the pieces can be
carried out on the text with gaps, before they are filled.
-/

namespace PaperHtml.Text

/-! ## Pieces and what stands between them -/

/-- A text of pieces, of which `first` is the first, with other texts between them. -/
def interleave (first : Text) : (between behind : List Text) → Text
  | middle :: between, piece :: behind => first ++ (middle ++ interleave piece between behind)
  | _, _ => first

@[simp] theorem interleave_nil (first : Text) : interleave first [] [] = first := rfl

@[simp] theorem interleave_cons (first middle piece : Text) (between behind : List Text) :
    interleave first (middle :: between) (piece :: behind) =
      first ++ (middle ++ interleave piece between behind) := rfl

/-- A text of pieces is parted at one of the texts between them. -/
theorem interleave_append {between behind : List Text} (h : between.length = behind.length)
    (first middle piece : Text) (later laterBehind : List Text) :
    interleave first (between ++ middle :: later) (behind ++ piece :: laterBehind) =
      interleave first between behind ++ (middle ++ interleave piece later laterBehind) := by
  induction between generalizing first behind with
  | nil =>
      obtain rfl : behind = [] := List.length_eq_zero_iff.mp h.symm
      rfl
  | cons other between ih =>
      cases behind with
      | nil => simp at h
      | cons next behind =>
          have hrest := ih (Nat.succ.inj h) next
          simp only [List.cons_append, interleave_cons, hrest, List.append_assoc]

/-- A character of such a text stands in a piece or between two. -/
theorem mem_interleave {first : Text} {between behind : List Text} {c : Char}
    (h : c ∈ interleave first between behind) :
    c ∈ first ∨ (∃ middle ∈ between, c ∈ middle) ∨ ∃ piece ∈ behind, c ∈ piece := by
  induction between generalizing first behind with
  | nil => exact .inl (by simpa [interleave] using h)
  | cons middle between ih =>
      cases behind with
      | nil => exact .inl (by simpa [interleave] using h)
      | cons piece behind =>
          rw [interleave_cons, List.mem_append, List.mem_append] at h
          rcases h with hfirst | hmiddle | hrest
          · exact .inl hfirst
          · exact .inr (.inl ⟨middle, List.mem_cons_self .., hmiddle⟩)
          · rcases ih hrest with hpiece | ⟨other, hother, hc⟩ | ⟨other, hother, hc⟩
            · exact .inr (.inr ⟨piece, List.mem_cons_self .., hpiece⟩)
            · exact .inr (.inl ⟨other, List.mem_cons_of_mem _ hother, hc⟩)
            · exact .inr (.inr ⟨other, List.mem_cons_of_mem _ hother, hc⟩)

/-! ## Pieces with gaps between them -/

/-- A text of pieces with one and the same character between them. -/
def gapped (gap : Char) (first : Text) (behind : List Text) : Text :=
  first ++ behind.flatMap (gap :: ·)

theorem gapped_cons (gap : Char) (first piece : Text) (behind : List Text) :
    gapped gap first (piece :: behind) = first ++ gap :: gapped gap piece behind := rfl

theorem first_infix_gapped (gap : Char) (first : Text) (behind : List Text) :
    first <:+: gapped gap first behind := (List.prefix_append _ _).isInfix

theorem piece_infix_gapped (gap : Char) (first : Text) {behind : List Text} {piece : Text}
    (h : piece ∈ behind) : piece <:+: gapped gap first behind := by
  obtain ⟨before, after, rfl⟩ := List.append_of_mem h
  refine ⟨first ++ before.flatMap (gap :: ·) ++ [gap], after.flatMap (gap :: ·), ?_⟩
  simp [gapped]

/-- Every text consists of pieces without the character, as many as there are places of it and one
more. -/
theorem exists_gapped (gap : Char) (t : Text) :
    ∃ first behind, t = gapped gap first behind ∧ gap ∉ first ∧ (∀ piece ∈ behind, gap ∉ piece) ∧
      behind.length = t.count gap := by
  induction t with
  | nil => exact ⟨[], [], rfl, List.not_mem_nil, List.forall_mem_nil _, rfl⟩
  | cons c t ih =>
      obtain ⟨first, behind, ht, hfirst, hbehind, hlength⟩ := ih
      by_cases hc : c = gap
      · refine ⟨[], first :: behind, ?_, List.not_mem_nil,
          List.forall_mem_cons.mpr ⟨hfirst, hbehind⟩, ?_⟩
        · rw [gapped_cons, List.nil_append, ← ht, hc]
        · rw [hc, List.count_cons_self, List.length_cons, hlength]
      · refine ⟨c :: first, behind, ?_, ?_, hbehind, ?_⟩
        · rw [ht]
          rfl
        · rw [List.mem_cons, not_or]
          exact ⟨Ne.symm hc, hfirst⟩
        · rw [List.count_cons_of_ne hc, hlength]

theorem count_gapped {gap : Char} {first : Text} {behind : List Text} (hfirst : gap ∉ first)
    (hbehind : ∀ piece ∈ behind, gap ∉ piece) :
    (gapped gap first behind).count gap = behind.length := by
  induction behind generalizing first with
  | nil => simpa [gapped] using List.count_eq_zero.mpr hfirst
  | cons piece behind ih =>
      obtain ⟨hpiece, hrest⟩ := List.forall_mem_cons.mp hbehind
      rw [gapped_cons, List.count_append, List.count_eq_zero.mpr hfirst, List.count_cons_self,
        ih hpiece hrest, List.length_cons, Nat.zero_add]

/-! ## Filling the gaps -/

/-- The places of a character filled from left to right, as far as there is something to fill them
with. -/
def fillGaps (gap : Char) : (fillings : List Text) → Text → Text
  | _, [] => []
  | fillings, c :: rest =>
    if c = gap then fillings.headD [gap] ++ fillGaps gap fillings.tail rest
    else c :: fillGaps gap fillings rest

variable {gap : Char}

theorem fillGaps_gap (gap : Char) (filling : Text) (fillings : List Text) (rest : Text) :
    fillGaps gap (filling :: fillings) (gap :: rest) = filling ++ fillGaps gap fillings rest := by
  simp [fillGaps]

theorem fillGaps_cons {c : Char} (h : c ≠ gap) (fillings : List Text) (rest : Text) :
    fillGaps gap fillings (c :: rest) = c :: fillGaps gap fillings rest := by
  simp [fillGaps, h]

/-- The fillings that are left behind a text are those for the gaps that follow it. -/
theorem fillGaps_append (fillings : List Text) (t rest : Text) :
    fillGaps gap fillings (t ++ rest) =
      fillGaps gap fillings t ++ fillGaps gap (fillings.drop (t.count gap)) rest := by
  induction t generalizing fillings with
  | nil => rfl
  | cons c t ih =>
      by_cases hc : c = gap
      · subst hc
        rw [List.cons_append, fillGaps, if_pos rfl, ih, fillGaps, if_pos rfl, List.count_cons_self,
          List.drop_tail, List.append_assoc]
      · rw [List.cons_append, fillGaps_cons hc, fillGaps_cons hc, ih, List.count_cons_of_ne hc,
          List.cons_append]

theorem fillGaps_of_not_mem {t : Text} (h : gap ∉ t) (fillings : List Text) :
    fillGaps gap fillings t = t := by
  induction t with
  | nil => rfl
  | cons c t ih =>
      rw [List.mem_cons, not_or] at h
      rw [fillGaps_cons (Ne.symm h.1), ih h.2]

/-- A stretch without gaps stays, and all fillings are left for what follows it. -/
theorem fillGaps_append_of_not_mem {t : Text} (h : gap ∉ t) (fillings : List Text) (rest : Text) :
    fillGaps gap fillings (t ++ rest) = t ++ fillGaps gap fillings rest := by
  rw [fillGaps_append, fillGaps_of_not_mem h, List.count_eq_zero.mpr h, List.drop_zero]

/-- Gaps between pieces filled. -/
theorem fillGaps_gapped {first : Text} {behind fillings : List Text} (hfirst : gap ∉ first)
    (hbehind : ∀ piece ∈ behind, gap ∉ piece) (hlength : fillings.length = behind.length) :
    fillGaps gap fillings (gapped gap first behind) = interleave first fillings behind := by
  induction behind generalizing first fillings with
  | nil =>
      obtain rfl : fillings = [] := List.length_eq_zero_iff.mp hlength
      rw [gapped, List.flatMap_nil, List.append_nil, fillGaps_of_not_mem hfirst, interleave_nil]
  | cons piece behind ih =>
      obtain ⟨hpiece, hrest⟩ := List.forall_mem_cons.mp hbehind
      obtain ⟨filling, fillings, rfl⟩ := List.exists_cons_of_length_eq_add_one hlength
      rw [gapped_cons, fillGaps_append_of_not_mem hfirst, fillGaps_gap,
        ih hpiece hrest (Nat.succ.inj hlength), interleave_cons]

/-- A mark of other characters than those of the fillings stands at the front only where it stood
before the gaps were filled. -/
theorem prefix_of_prefix_fillGaps {mark t : Text} {fillings : List Text} (hgap : gap ∉ mark)
    (hne : ∀ filling ∈ fillings, filling ≠ [])
    (hforeign : ∀ filling ∈ fillings, ∀ c ∈ filling, c ∉ mark)
    (h : mark <+: fillGaps gap fillings t) : mark <+: t := by
  induction mark generalizing t with
  | nil => exact List.nil_prefix
  | cons m mark ih =>
      cases t with
      | nil => simp [fillGaps] at h
      | cons c t =>
          by_cases hc : c = gap
          · -- a filling begins with a character that is not in the mark
            exfalso
            subst hc
            cases fillings with
            | nil =>
                rw [fillGaps, if_pos rfl] at h
                have hfront : m = c := (List.cons_prefix_cons.mp h).1
                exact hgap (hfront ▸ List.mem_cons_self ..)
            | cons filling fillings =>
                obtain ⟨d, filling, rfl⟩ :=
                  List.exists_cons_of_ne_nil (hne filling (List.mem_cons_self ..))
                rw [fillGaps_gap, List.cons_append, List.cons_prefix_cons] at h
                exact hforeign _ (List.mem_cons_self ..) d (List.mem_cons_self ..)
                  (h.1 ▸ List.mem_cons_self ..)
          · rw [fillGaps_cons hc, List.cons_prefix_cons] at h
            rw [List.cons_prefix_cons]
            refine ⟨h.1, ih (fun hmem => hgap (List.mem_cons_of_mem _ hmem)) ?_ h.2⟩
            exact fun filling hfilling d hd hmem =>
              hforeign filling hfilling d hd (List.mem_cons_of_mem _ hmem)

/-- A character that is in no filling was there before the gaps were filled. -/
theorem mem_of_mem_fillGaps {t : Text} {fillings : List Text} {c : Char}
    (hc : ∀ filling ∈ fillings, c ∉ filling) (h : c ∈ fillGaps gap fillings t) : c ∈ t := by
  induction t generalizing fillings with
  | nil => simp [fillGaps] at h
  | cons d t ih =>
      by_cases hd : d = gap
      · subst hd
        cases fillings with
        | nil =>
            rw [fillGaps, if_pos rfl, List.mem_append] at h
            rcases h with hhere | hlater
            · exact List.mem_cons.mpr (.inl (by simpa using hhere))
            · exact List.mem_cons_of_mem _ (ih (List.forall_mem_nil _) hlater)
        | cons filling fillings =>
            obtain ⟨hfilling, hrest⟩ := List.forall_mem_cons.mp hc
            rw [fillGaps_gap, List.mem_append] at h
            exact List.mem_cons_of_mem _ (ih hrest (h.resolve_left hfilling))
      · rw [fillGaps_cons hd, List.mem_cons] at h
        rcases h with rfl | hlater
        · exact List.mem_cons_self ..
        · exact List.mem_cons_of_mem _ (ih hc hlater)

end PaperHtml.Text
