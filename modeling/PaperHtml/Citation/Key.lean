import PaperHtml.Text.Blank
import PaperHtml.Text.Lowercase

/-!
# Citation keys

A citation names its references by keys.  The place of a reference on the page
is named by the slug of its key, which holds only characters that need no
escaping anywhere; keys that differ only in what the slug drops share one.
-/

namespace PaperHtml.Citation

open Text

/-- A character that a slug keeps. -/
def isSlugChar (c : Char) : Bool :=
  ('a' ≤ c && c ≤ 'z') || ('0' ≤ c && c ≤ '9') || c == '_' || c == '-'

/-- Every run of characters that a slug does not keep made one hyphen; `inRun` tells that
a run has begun. -/
def slugFrom : (inRun : Bool) → Text → Text
  | _, [] => []
  | inRun, c :: rest =>
    if isSlugChar c then c :: slugFrom false rest
    else if inRun then slugFrom true rest
    else '-' :: slugFrom true rest

/-- The name of a reference's place on the page. -/
def slug (key : Text) : Text := slugFrom false (lower key)

theorem isSlugChar_of_mem_slugFrom {c : Char} {inRun : Bool} {t : Text}
    (hc : c ∈ slugFrom inRun t) : isSlugChar c = true := by
  induction t generalizing inRun with
  | nil => simp [slugFrom] at hc
  | cons d rest ih =>
      rw [slugFrom] at hc
      split at hc
      · rename_i hd
        rcases List.mem_cons.mp hc with heq | hc
        · rwa [heq]
        · exact ih hc
      · split at hc
        · exact ih hc
        · rcases List.mem_cons.mp hc with heq | hc
          · rw [heq]
            decide
          · exact ih hc

/-- A slug holds only characters that it keeps. -/
theorem isSlugChar_of_mem_slug {c : Char} {key : Text} (hc : c ∈ slug key) :
    isSlugChar c = true :=
  isSlugChar_of_mem_slugFrom hc

/-- The keys of a comma separated list, trimmed, without empty ones. -/
def splitKeys (list : Text) : List Text :=
  ((splitOn ',' list).map trim).filter fun key => key ≠ []

/-- The number of a reference as it is shown, in brackets. -/
def mark (number : Int) : Text := '[' :: ofInt number ++ [']']

theorem mark_cases {c : Char} {number : Int} (hc : c ∈ mark number) :
    c.isDigit = true ∨ c = '-' ∨ c = '[' ∨ c = ']' := by
  simp only [mark, List.cons_append, List.mem_cons, List.mem_append, List.not_mem_nil,
    or_false] at hc
  rcases hc with hopen | hnumber | hclose
  · exact .inr (.inr (.inl hopen))
  · rcases isDigit_or_minus_of_mem_ofInt hnumber with hdigit | hminus
    · exact .inl hdigit
    · exact .inr (.inl hminus)
  · exact .inr (.inr (.inr hclose))

end PaperHtml.Citation
