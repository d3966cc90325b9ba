import PaperHtml.Text.Basic

/-!
# Escaping for HTML

Text becomes content or a quoted attribute value of HTML by writing the five
characters that mean something there as character references.
-/

namespace PaperHtml.Html

/-- The character reference for a character with a meaning in HTML, else the character. -/
def escapeChar : Char → Text
  | '&' => "&amp;".toList
  | '<' => "&lt;".toList
  | '>' => "&gt;".toList
  | '"' => "&quot;".toList
  | '\'' => "&#x27;".toList
  | c => [c]

/-- A text that stands for itself in content and in quoted attribute values. -/
def escape (t : Text) : Text := t.flatMap escapeChar

theorem escape_nil : escape [] = [] := rfl

theorem escape_cons (c : Char) (t : Text) : escape (c :: t) = escapeChar c ++ escape t := rfl

theorem escape_append (s t : Text) : escape (s ++ t) = escape s ++ escape t := by
  simp [escape]

/-- The characters that have a meaning in HTML. -/
def markupChars : List Char := ['&', '<', '>', '"', '\'']

theorem escapeChar_of_not_mem {c : Char} (h : c ∉ markupChars) : escapeChar c = [c] := by
  simp only [markupChars, List.mem_cons, List.not_mem_nil, or_false, not_or] at h
  obtain ⟨hamp, hless, hgreater, hdouble, hsingle⟩ := h
  unfold escapeChar
  split <;> simp_all

/-- A text without such characters is written as it is. -/
theorem escape_eq_self {t : Text} (h : ∀ c ∈ t, c ∉ markupChars) : escape t = t := by
  induction t with
  | nil => rfl
  | cons c rest ih =>
      rw [escape_cons, escapeChar_of_not_mem (h c (List.mem_cons_self ..)),
        ih fun d hd => h d (List.mem_cons_of_mem _ hd)]
      rfl

/-- No reference that is written holds a quotation mark. -/
theorem quote_not_mem_escape (t : Text) : '"' ∉ escape t := by
  induction t with
  | nil => simp [escape_nil]
  | cons c rest ih =>
      rw [escape_cons, List.mem_append, not_or]
      refine ⟨?_, ih⟩
      by_cases hc : c ∈ markupChars
      · simp only [markupChars, List.mem_cons, List.not_mem_nil, or_false] at hc
        rcases hc with rfl | rfl | rfl | rfl | rfl <;> decide
      · have hne : '"' ≠ c := by
          rintro rfl
          exact hc (by decide)
        simpa [escapeChar_of_not_mem hc] using hne

end PaperHtml.Html
