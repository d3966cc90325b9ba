import PaperHtml.Text.Basic

/-!
# Blank characters

A blank is a character of white space in the sense of Unicode, or one of the
four separators U+001C to U+001F.  Trimming, collapsing and every pattern that
allows white space use this one class.
-/

namespace PaperHtml

/-- White space: the ASCII blanks, the four separators and the Unicode spaces. -/
def isBlank (c : Char) : Bool :=
  let n := c.toNat
  (9 ≤ n && n ≤ 13) || (28 ≤ n && n ≤ 32) || n == 0x85 || n == 0xA0 || n == 0x1680 ||
    (0x2000 ≤ n && n ≤ 0x200A) || n == 0x2028 || n == 0x2029 || n == 0x202F || n == 0x205F ||
    n == 0x3000

namespace Text

/-- The text without the blanks at its front. -/
def trimStart (t : Text) : Text := t.dropWhile isBlank

/-- The text without the blanks at its end. -/
def trimEnd (t : Text) : Text := (t.reverse.dropWhile isBlank).reverse

/-- The text without the blanks at either end. -/
def trim (t : Text) : Text := trimEnd (trimStart t)

theorem trimStart_eq_self {t : Text} (h : ∀ c rest, t = c :: rest → isBlank c = false) :
    trimStart t = t := by
  cases t with
  | nil => rfl
  | cons c rest => simp [trimStart, h c rest rfl]

theorem isBlank_head_trimStart {t rest : Text} {c : Char} (h : trimStart t = c :: rest) :
    isBlank c = false := by
  have hhead := List.head?_dropWhile_not isBlank t
  simp only [trimStart] at h
  rw [h] at hhead
  simpa using hhead

@[simp] theorem trimStart_trimStart (t : Text) : trimStart (trimStart t) = trimStart t :=
  trimStart_eq_self fun _ _ => isBlank_head_trimStart

@[simp] theorem trimEnd_trimEnd (t : Text) : trimEnd (trimEnd t) = trimEnd t := by
  have h := trimStart_trimStart t.reverse
  simp only [trimStart] at h
  simp only [trimEnd, List.reverse_reverse, h]

theorem trimEnd_isPrefix (t : Text) : trimEnd t <+: t := by
  have h := List.dropWhile_suffix (l := t.reverse) isBlank
  rw [← List.reverse_prefix, List.reverse_reverse] at h
  exact h

/-- Trimming once is enough. -/
@[simp] theorem trim_trim (t : Text) : trim (trim t) = trim t := by
  have hstart : trimStart (trimEnd (trimStart t)) = trimEnd (trimStart t) := by
    apply trimStart_eq_self
    intro c rest h
    obtain ⟨tail, htail⟩ := trimEnd_isPrefix (trimStart t)
    rw [h] at htail
    exact isBlank_head_trimStart htail.symm
  rw [trim, trim, hstart, trimEnd_trimEnd]

theorem trim_subset (t : Text) : trim t ⊆ t := fun _ h =>
  (List.dropWhile_suffix (l := t) isBlank).subset ((trimEnd_isPrefix _).subset h)

/-- Whether the text holds blanks only. -/
def isBlankText (t : Text) : Bool := t.all isBlank

/-- Every run of blanks made one space; `inRun` tells that a run has begun. -/
def collapseFrom : (inRun : Bool) → Text → Text
  | _, [] => []
  | inRun, c :: rest =>
    if isBlank c then
      if inRun then collapseFrom true rest else ' ' :: collapseFrom true rest
    else c :: collapseFrom false rest

/-- Every run of blanks made one space. -/
def collapseBlanks (t : Text) : Text := collapseFrom false t

/-- The parts between runs of blanks, without empty parts. -/
def words : Text → List Text
  | [] => []
  | c :: rest =>
    if isBlank c then words rest
    else
      match rest with
      | [] => [[c]]
      | d :: _ =>
        if isBlank d then [c] :: words rest
        else
          match words rest with
          | [] => [[c]]
          | w :: ws => (c :: w) :: ws

end Text

/-- Every blank of the ASCII class is one here. -/
theorem isBlank_of_isWhitespace {c : Char} (h : c.isWhitespace = true) : isBlank c = true := by
  simp only [Char.isWhitespace, Bool.or_eq_true, decide_eq_true_eq] at h
  rcases h with ((h | h) | h) | h <;> subst h <;> decide

end PaperHtml
