import Mathlib
import PaperHtml.Proofs.Text.Scanning

/-!
# How often a mark occurs

A mark that occurs once in a text is found where it stands, so it makes no
difference whether its first occurrence or every one is replaced.
-/

namespace PaperHtml.Text

/-- How often `mark` occurs in a text, at any place. -/
def occurrences (mark t : Text) : Nat := t.tails.countP (startsWith mark)

variable {mark : Text}

theorem startsWith_iff {t : Text} : startsWith mark t = true ↔ mark <+: t := by
  rw [startsWith, Option.isSome_iff_exists]
  constructor
  · rintro ⟨rest, hrest⟩
    exact ⟨rest, (dropPrefix?_eq_some_iff.mp hrest).symm⟩
  · rintro ⟨rest, rfl⟩
    exact ⟨rest, dropPrefix?_append mark rest⟩

theorem occurrences_nil (hmark : mark ≠ []) : occurrences mark [] = 0 := by
  obtain ⟨c, mark, rfl⟩ := List.exists_cons_of_ne_nil hmark
  rfl

theorem occurrences_cons (mark : Text) (c : Char) (t : Text) :
    occurrences mark (c :: t) =
      occurrences mark t + if startsWith mark (c :: t) then 1 else 0 := by
  rw [occurrences, List.tails, List.countP_cons]
  rfl

theorem occurrences_cons_of_begins {c : Char} {t : Text} (h : mark <+: c :: t) :
    occurrences mark (c :: t) = occurrences mark t + 1 := by
  rw [occurrences_cons, startsWith_iff.mpr h, if_pos rfl]

theorem occurrences_cons_of_not_begins {c : Char} {t : Text} (h : ¬ mark <+: c :: t) :
    occurrences mark (c :: t) = occurrences mark t := by
  rw [occurrences_cons, if_neg fun hstarts => h (startsWith_iff.mp hstarts), Nat.add_zero]

theorem occurrences_le_append (before t : Text) :
    occurrences mark t ≤ occurrences mark (before ++ t) := by
  induction before with
  | nil => exact Nat.le_refl _
  | cons c before ih =>
      rw [List.cons_append, occurrences_cons]
      omega

theorem occurrences_pos (hmark : mark ≠ []) (before after : Text) :
    0 < occurrences mark (before ++ (mark ++ after)) := by
  refine Nat.lt_of_lt_of_le ?_ (occurrences_le_append before (mark ++ after))
  obtain ⟨c, mark, rfl⟩ := List.exists_cons_of_ne_nil hmark
  have hhere : c :: mark <+: c :: (mark ++ after) := List.prefix_append (c :: mark) after
  rw [List.cons_append, occurrences_cons_of_begins hhere]
  omega

/-- Characters that begin no occurrence do not count. -/
theorem occurrences_append_of_not_begins {front rest : Text}
    (h : ∀ back, back <:+ front → back ≠ [] → ¬ mark <+: back ++ rest) :
    occurrences mark (front ++ rest) = occurrences mark rest := by
  induction front with
  | nil => rfl
  | cons c front ih =>
      obtain ⟨hhere, hbehind⟩ := of_forall_suffix_cons h
      rw [List.cons_append] at hhere ⊢
      rw [occurrences_cons_of_not_begins hhere]
      exact ih hbehind

/-! ## A mark that occurs once -/

/-- A mark that occurs once occurs nowhere else: not where the text in front of it begins, and
not in what follows. -/
private theorem occursOnce_cons (hmark : mark ≠ []) {c : Char} {before after : Text}
    (h : occurrences mark (c :: before ++ (mark ++ after)) = 1) :
    ¬ mark <+: c :: before ++ (mark ++ after) ∧
      occurrences mark (before ++ (mark ++ after)) = 1 := by
  have hlater := occurrences_pos hmark before after
  rw [List.cons_append] at h ⊢
  by_cases hhere : mark <+: c :: (before ++ (mark ++ after))
  · rw [occurrences_cons_of_begins hhere] at h
    omega
  · rw [occurrences_cons_of_not_begins hhere] at h
    exact ⟨hhere, h⟩

private theorem occurrences_after_eq_zero (hmark : mark ≠ []) {after : Text}
    (h : occurrences mark (mark ++ after) = 1) : occurrences mark after = 0 := by
  obtain ⟨c, rest, rfl⟩ := List.exists_cons_of_ne_nil hmark
  have hmore := @occurrences_le_append (c :: rest) rest after
  have hhere : c :: rest <+: c :: (rest ++ after) := List.prefix_append (c :: rest) after
  rw [List.cons_append, occurrences_cons_of_begins hhere] at h
  omega

theorem cut?_of_occurrences_eq_one (hmark : mark ≠ []) {before after : Text}
    (h : occurrences mark (before ++ (mark ++ after)) = 1) :
    cut? mark (before ++ (mark ++ after)) = some (before, after) := by
  induction before with
  | nil =>
      have hne : mark ++ after ≠ [] := List.append_ne_nil_of_left_ne_nil hmark after
      obtain ⟨c, rest, hfirst⟩ := List.exists_cons_of_ne_nil hne
      rw [List.nil_append, hfirst, cut?_cons, ← hfirst, dropPrefix?_append]
  | cons c before ih =>
      obtain ⟨hhere, hlater⟩ := occursOnce_cons hmark h
      have hnone : dropPrefix? mark (c :: before ++ (mark ++ after)) = none := by
        rw [← Option.not_isSome_iff_eq_none]
        exact fun hstarts => hhere (startsWith_iff.mp hstarts)
      rw [List.cons_append] at hnone ⊢
      rw [cut?_cons, hnone, ih hlater, Option.map_some]

/-- A mark that occurs once is what is replaced first. -/
theorem replaceFirst_of_occurrences_eq_one (hmark : mark ≠ []) (new : Text) {before after : Text}
    (h : occurrences mark (before ++ (mark ++ after)) = 1) :
    replaceFirst mark new (before ++ (mark ++ after)) = before ++ (new ++ after) := by
  rw [replaceFirst, cut?_of_occurrences_eq_one hmark h]
  exact List.append_assoc before new after

private theorem literal_of_not_begins {new t : Text} (h : ¬ mark <+: t) :
    Scanner.literal mark new t = none := by
  rw [Scanner.literal, Option.map_eq_none_iff, ← Option.not_isSome_iff_eq_none]
  exact fun hstarts => h (startsWith_iff.mp hstarts)

private theorem replaceAll_cons_of_not_begins {new t : Text} {c : Char} (h : ¬ mark <+: c :: t) :
    replaceAll mark new (c :: t) = c :: replaceAll mark new t := by
  rw [replaceAll, Scanner.substitute, Scanner.pieces_of_none (literal_of_not_begins h)]
  rfl

theorem replaceAll_of_occurrences_eq_zero {new t : Text} (h : occurrences mark t = 0) :
    replaceAll mark new t = t := by
  induction t with
  | nil => rfl
  | cons c t ih =>
      by_cases hhere : mark <+: c :: t
      · rw [occurrences_cons_of_begins hhere] at h
        omega
      · rw [occurrences_cons_of_not_begins hhere] at h
        rw [replaceAll_cons_of_not_begins hhere, ih h]

/-- A mark that occurs once is all that is replaced. -/
theorem replaceAll_of_occurrences_eq_one (hmark : mark ≠ []) (new : Text) {before after : Text}
    (h : occurrences mark (before ++ (mark ++ after)) = 1) :
    replaceAll mark new (before ++ (mark ++ after)) = before ++ (new ++ after) := by
  induction before with
  | nil =>
      have hrest := occurrences_after_eq_zero hmark h
      obtain ⟨c, rest, rfl⟩ := List.exists_cons_of_ne_nil hmark
      have hfound : Scanner.literal (c :: rest) new (c :: rest ++ after) = some (new, after) := by
        rw [Scanner.literal, dropPrefix?_append, Option.map_some]
      have hbehind := @replaceAll_of_occurrences_eq_zero (c :: rest) new after hrest
      rw [replaceAll, Scanner.substitute] at hbehind ⊢
      rw [List.nil_append, Scanner.pieces_of_some hfound, List.flatMap_cons, hbehind,
        List.nil_append]
  | cons c before ih =>
      obtain ⟨hhere, hlater⟩ := occursOnce_cons hmark h
      rw [List.cons_append] at hhere ⊢
      rw [replaceAll_cons_of_not_begins hhere, ih hlater, List.cons_append]

end PaperHtml.Text
