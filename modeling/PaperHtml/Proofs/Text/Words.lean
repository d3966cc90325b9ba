import Mathlib
import PaperHtml.Text.Blank

/-!
# Words between blanks

The words of a text are its parts between runs of blanks.  Words that are put
together with spaces between them are found again.
-/

namespace PaperHtml.Text

/-- A part of a text that stands between blanks. -/
structure IsWord (w : Text) : Prop where
  ne_nil : w ≠ []
  solid : ∀ c ∈ w, isBlank c = false

instance (w : Text) : Decidable (IsWord w) :=
  decidable_of_iff (w ≠ [] ∧ w.all (fun c => !isBlank c) = true)
    ⟨fun h => ⟨h.1, fun c hc => by simpa using List.all_eq_true.mp h.2 c hc⟩,
      fun h => ⟨h.ne_nil, List.all_eq_true.mpr fun c hc => by simp [h.solid c hc]⟩⟩

theorem words_cons_of_isBlank {c : Char} (hc : isBlank c = true) (t : Text) :
    words (c :: t) = words t := by
  cases t <;> simp [words, hc]

/-- A word that a blank or the end of the text follows is over. -/
theorem words_cons_of_atEnd {c : Char} {t : Text} (hc : isBlank c = false)
    (ht : ∀ d ∈ t.head?, isBlank d = true) : words (c :: t) = [c] :: words t := by
  cases t with
  | nil => simp [words, hc]
  | cons d t =>
      have hd : isBlank d = true := ht d rfl
      simp [words, hc, hd]

theorem words_cons_cons {c d : Char} {t w : Text} {ws : List Text} (hc : isBlank c = false)
    (hd : isBlank d = false) (h : words (d :: t) = w :: ws) :
    words (c :: d :: t) = (c :: w) :: ws := by
  rw [words, h]
  simp [hc, hd]

/-- A word reaches up to the first blank. -/
theorem words_append {w t : Text} (hw : IsWord w) (ht : ∀ c ∈ t.head?, isBlank c = true) :
    words (w ++ t) = w :: words t := by
  induction w with
  | nil => exact absurd rfl hw.ne_nil
  | cons c w ih =>
      obtain ⟨hc, hrest⟩ := List.forall_mem_cons.mp hw.solid
      cases w with
      | nil => exact words_cons_of_atEnd hc ht
      | cons d w =>
          have hd : isBlank d = false := hrest d (List.mem_cons_self ..)
          exact words_cons_cons hc hd (ih ⟨List.cons_ne_nil _ _, hrest⟩)

theorem isWord_of_mem_words {w t : Text} (h : w ∈ words t) : IsWord w := by
  induction t generalizing w with
  | nil => cases h
  | cons c t ih =>
      by_cases hblank : isBlank c = true
      · rw [words_cons_of_isBlank hblank] at h
        exact ih h
      have hc : isBlank c = false := by simpa using hblank
      have hsingle : IsWord [c] := ⟨List.cons_ne_nil _ _, by simpa using hc⟩
      by_cases hend : ∀ d ∈ t.head?, isBlank d = true
      · rw [words_cons_of_atEnd hc hend] at h
        rcases List.mem_cons.mp h with rfl | h
        · exact hsingle
        · exact ih h
      -- the first word behind the character is lengthened by it
      cases t with
      | nil => simp at hend
      | cons d t =>
          have hd : isBlank d = false := by simpa using hend
          cases hwords : words (d :: t) with
          | nil =>
              rw [words, hwords] at h
              simp only [hc, hd, Bool.false_eq_true, if_false, List.mem_singleton] at h
              exact h ▸ hsingle
          | cons first others =>
              rw [words_cons_cons hc hd hwords] at h
              rw [hwords] at ih
              rcases List.mem_cons.mp h with rfl | h
              · have hfirst := ih (List.mem_cons_self ..)
                exact ⟨List.cons_ne_nil _ _, List.forall_mem_cons.mpr ⟨hc, hfirst.solid⟩⟩
              · exact ih (List.mem_cons_of_mem _ h)

/-- Words with spaces between them are the words of the text that they make. -/
theorem words_join {ws : List Text} (h : ∀ w ∈ ws, IsWord w) : words (join [' '] ws) = ws := by
  unfold join
  induction ws with
  | nil => rfl
  | cons w ws ih =>
      obtain ⟨hw, hws⟩ := List.forall_mem_cons.mp h
      cases ws with
      | nil =>
          have halone := words_append hw (t := []) (by simp)
          rw [List.append_nil] at halone
          simpa [words] using halone
      | cons v ws =>
          rw [List.intercalate_cons_cons, List.append_assoc, words_append hw (by simp; decide),
            List.singleton_append, words_cons_of_isBlank (by decide), ih hws]

end PaperHtml.Text
