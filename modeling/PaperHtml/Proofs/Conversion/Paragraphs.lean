import Mathlib
import PaperHtml.Proofs.Conversion.Fences

/-!
# Comments and paragraphs

The text of a comment goes and its line end stays, so a comment between two lines
leaves a blank line there, and a blank line ends a paragraph.  This file counts
the blank lines that comments leave in a body that has none.

## Strategy

The limit on line feeds leaves one of several empty lines that stand together.
In terms of lines it drops an empty line behind an empty line, which is what
`List.destutter` does (`limitLineFeeds_unlines_concat`).  So of each run of
comments one blank line is left, where the run begins (`commentStarts`).
-/

namespace PaperHtml.Conversion

open Text Latex

/-- The number of blank lines of a text. -/
def blankLines (t : Text) : Nat := (lines t).countP isBlankText

/-- The number of comments that stand directly below a line that is none. -/
def commentStarts (ls : List Text) : Nat :=
  (ls.zip ls.tail).countP fun pair => !isCommentLine pair.1 && isCommentLine pair.2

/-! ## Trimmed lines -/

/-- Trimming at the front does not reach beyond a first line that is not blank. -/
theorem trimStart_unlines_cons {first : Text} (h : isBlankText first = false)
    (below : List Text) :
    trimStart (unlines (first :: below)) = unlines (trimStart first :: below) := by
  have hparted (line : Text) : unlines (line :: below) = line ++ unlines ([] :: below) := by
    simpa using unlines_parted [] below line []
  have hstop : List.dropWhile isBlank first ≠ [] := trimStart_ne_nil h
  rw [hparted, hparted (trimStart first), trimStart, List.dropWhile_append, trimStart]
  simp [hstop]

/-- Nor at the end beyond a last line that is not blank. -/
theorem trimEnd_unlines_concat {last : Text} (h : isBlankText last = false)
    (above : List Text) :
    trimEnd (unlines (above ++ [last])) = unlines (above ++ [trimEnd last]) := by
  have hparted (line : Text) : unlines (above ++ [line]) = unlines (above ++ [[]]) ++ line := by
    simpa using unlines_parted above [] [] line
  rw [hparted, hparted (trimEnd last), trimEnd_append, if_neg (trimEnd_ne_nil h)]

/-- Trimming leaves as many blank lines as there are if neither the first line nor the last one is
blank. -/
theorem blankLines_trim {first last : Text} {inner : List Text}
    (hfeed : ∀ line ∈ first :: (inner ++ [last]), '\n' ∉ line)
    (hfirst : isBlankText first = false) (hlast : isBlankText last = false) :
    blankLines (trim (unlines (first :: (inner ++ [last])))) = inner.countP isBlankText := by
  have hfeed' : ∀ line ∈ trimStart first :: (inner ++ [trimEnd last]), '\n' ∉ line := by
    intro line hline
    rw [List.mem_cons, List.mem_append, List.mem_singleton] at hline
    rcases hline with rfl | hline | rfl
    · exact fun hmem => hfeed first (by simp) ((List.dropWhile_suffix _).subset hmem)
    · exact hfeed line (by simp [hline])
    · exact fun hmem => hfeed last (by simp) ((trimEnd_isPrefix last).subset hmem)
  rw [trim, trimStart_unlines_cons hfirst, ← List.cons_append, trimEnd_unlines_concat hlast,
    blankLines, List.cons_append, lines_unlines (List.cons_ne_nil _ _) hfeed', List.countP_cons,
    List.countP_append, List.countP_singleton, isBlankText_trimStart, isBlankText_trimEnd, hfirst,
    hlast]
  simp

/-! ## Empty lines that stand together -/

/-- Two lines that are not both empty. -/
def Parted (line next : Text) : Prop := line ≠ [] ∨ next ≠ []

instance : DecidableRel Parted := fun _ _ => inferInstanceAs (Decidable (_ ∨ _))

/-- At a line that is not empty it does not matter how many line feeds stand in front. -/
theorem limitLineFeeds_unlines_cons {line : Text} (hne : line ≠ []) (hfeed : '\n' ∉ line)
    (count other : Nat) (below : List Text) :
    limitLineFeeds count (unlines (line :: below)) =
      limitLineFeeds other (unlines (line :: below)) := by
  have hparted : unlines (line :: below) = line ++ unlines ([] :: below) := by
    simpa using unlines_parted [] below line []
  rw [hparted, Markdown.limitLineFeeds_line hne hfeed, Markdown.limitLineFeeds_line hne hfeed]

/-- The limit on line feeds leaves one of the empty lines that stand together, if another line
stands behind them. -/
theorem limitLineFeeds_unlines_concat {line last : Text} {inner : List Text}
    (hfeed : ∀ l ∈ line :: (inner ++ [last]), '\n' ∉ l) (hlast : last ≠ []) :
    limitLineFeeds 1 (unlines (line :: (inner ++ [last]))) =
      unlines (inner.destutter' Parted line ++ [last]) := by
  have hfull {line : Text} (hne : line ≠ []) (hfeed : '\n' ∉ line) (below : Text) :
      limitLineFeeds 1 (line ++ '\n' :: below) = line ++ '\n' :: limitLineFeeds 1 below := by
    rw [Markdown.limitLineFeeds_line hne hfeed]
    rfl
  induction inner generalizing line with
  | nil =>
      have hkept (count : Nat) : limitLineFeeds count last = last := by
        simpa [limitLineFeeds] using
          Markdown.limitLineFeeds_line hlast (hfeed last (by simp)) count []
      rw [List.nil_append, List.destutter'_nil, List.singleton_append,
        unlines_cons line (List.cons_ne_nil _ _), unlines_singleton]
      by_cases hline : line = []
      · simp [hline, limitLineFeeds, hkept]
      · rw [hfull hline (hfeed line (by simp)), hkept]
  | cons next inner ih =>
      obtain ⟨hfirst, hrest⟩ := List.forall_mem_cons.mp hfeed
      have hbelow (l : Text) : l :: (inner ++ [last]) ≠ [] := List.cons_ne_nil _ _
      rw [List.cons_append, unlines_cons line (hbelow next)]
      by_cases hline : line = []
      · subst hline
        by_cases hnext : next = []
        · -- the second of two empty lines goes
          subst hnext
          have hone : ¬ Parted [] [] := by simp [Parted]
          rw [List.destutter'_cons_neg _ hone, ← ih hrest, unlines_cons [] (by simp)]
          simp [limitLineFeeds]
        · have hparted : Parted [] next := .inr hnext
          rw [List.destutter'_cons_pos _ hparted, List.cons_append,
            unlines_cons [] (by simp), ← ih hrest, List.nil_append, List.nil_append]
          exact congrArg ('\n' :: ·)
            (limitLineFeeds_unlines_cons hnext (hrest next (by simp)) 2 1 _)
      · have hparted : Parted line next := .inl hline
        rw [List.destutter'_cons_pos _ hparted, List.cons_append, unlines_cons line (by simp),
          ← ih hrest, hfull hline hfirst]

/-! ## Comments -/

/-- A comment line made empty. -/
def erased (line : Text) : Text := if isCommentLine line then [] else line

theorem erased_eq_self {line : Text} (h : isCommentLine line = false) : erased line = line :=
  if_neg (by simp [h])

theorem eraseComments_eq (t : Text) : eraseComments t = unlines ((lines t).map erased) := rfl

theorem isBlankText_erased {line : Text} (h : isBlankText line = false) :
    isBlankText (erased line) = isCommentLine line := by
  by_cases hcomment : isCommentLine line = true
  · simp [erased, hcomment, isBlankText]
  · simp [erased, hcomment, h]

theorem parted_erased_iff {line next : Text} (hline : isBlankText line = false)
    (hnext : isBlankText next = false) :
    Parted (erased line) (erased next) ↔
      (isCommentLine line && isCommentLine next) = false := by
  have hempty {l : Text} (hl : isBlankText l = false) :
      erased l ≠ [] ↔ isCommentLine l = false := by
    have hne : l ≠ [] := fun heq => by simp [heq, isBlankText] at hl
    simp [erased, hne]
  rw [Parted, hempty hline, hempty hnext, Bool.and_eq_false_iff]

@[simp] theorem commentStarts_singleton (line : Text) : commentStarts [line] = 0 := rfl

theorem commentStarts_cons_cons (line next : Text) (ls : List Text) :
    commentStarts (line :: next :: ls) = commentStarts (next :: ls) +
      if !isCommentLine line && isCommentLine next then 1 else 0 := by
  rw [commentStarts, List.tail_cons, List.zip_cons_cons, List.countP_cons]
  rfl

/-- No comment begins at a last line that is none. -/
theorem commentStarts_concat {last : Text} (hlast : isCommentLine last = false)
    (ls : List Text) : commentStarts (ls ++ [last]) = commentStarts ls := by
  induction ls with
  | nil => rfl
  | cons line ls ih =>
      cases ls with
      | nil => simp [commentStarts_cons_cons, hlast]
      | cons next ls =>
          rw [List.cons_append, List.cons_append, commentStarts_cons_cons, commentStarts_cons_cons,
            ← List.cons_append, ih]

/-- Behind a line that is no comment, a comment begins somewhere if there is any. -/
theorem commentStarts_eq_zero_iff {line : Text} (hline : isCommentLine line = false)
    (ls : List Text) :
    commentStarts (line :: ls) = 0 ↔ ∀ l ∈ ls, isCommentLine l = false := by
  induction ls generalizing line with
  | nil => simp
  | cons next ls ih =>
      rw [commentStarts_cons_cons, List.forall_mem_cons]
      cases hnext : isCommentLine next
      · simp [ih hnext]
      · simp [hline]

/-- Of each run of comments one empty line is left. -/
theorem countP_destutter'_erased {line : Text} {ls : List Text}
    (h : ∀ l ∈ line :: ls, isBlankText l = false) :
    ((ls.map erased).destutter' Parted (erased line)).countP isBlankText =
      commentStarts (line :: ls) + if isCommentLine line then 1 else 0 := by
  induction ls generalizing line with
  | nil =>
      rw [List.map_nil, List.destutter'_nil, List.countP_singleton,
        isBlankText_erased (h line (by simp)), commentStarts_singleton, Nat.zero_add]
  | cons next ls ih =>
      obtain ⟨hline, hrest⟩ := List.forall_mem_cons.mp h
      have hparted := parted_erased_iff hline (hrest next (by simp))
      rw [commentStarts_cons_cons, List.map_cons]
      by_cases hboth : (isCommentLine line && isCommentLine next) = true
      · -- the two lines leave one empty line, which is the first of them as well as the second
        obtain ⟨hfirst, hsecond⟩ := Bool.and_eq_true_iff.mp hboth
        have hsame : erased line = erased next := by simp [erased, hfirst, hsecond]
        rw [List.destutter'_cons_neg _ (by simp [hparted, hboth]), hsame, ih hrest]
        simp [hfirst, hsecond]
      · rw [List.destutter'_cons_pos _ (hparted.mpr (by simpa using hboth)), List.countP_cons,
          ih hrest, isBlankText_erased hline]
        cases hfirst : isCommentLine line
        · simp
        · have hsecond : isCommentLine next = false := by simpa [hfirst] using hboth
          simp [hsecond]

/-- Destuttering keeps the first element. -/
theorem exists_destutter'_eq_cons {α : Type} (R : α → α → Prop) [DecidableRel R] (a : α)
    (l : List α) : ∃ rest, l.destutter' R a = a :: rest := by
  induction l with
  | nil => exact ⟨[], rfl⟩
  | cons b l ih =>
      by_cases h : R a b
      · exact ⟨_, List.destutter'_cons_pos _ h⟩
      · rwa [List.destutter'_cons_neg _ h]

/-! ## Blank lines that comments leave -/

variable {body : Text}

theorem not_mem_erased {line : Text} (h : line ∈ (lines body).map erased) : '\n' ∉ line := by
  obtain ⟨source, hsource, rfl⟩ := List.mem_map.mp h
  rw [erased]
  split
  · exact List.not_mem_nil
  · exact not_mem_of_mem_splitOn hsource

/-- Each comment leaves a blank line. -/
theorem blankLines_eraseComments (hblank : ∀ line ∈ lines body, isBlankText line = false) :
    blankLines (eraseComments body) = (lines body).countP isCommentLine := by
  have hne : (lines body).map erased ≠ [] := by simp [lines, splitOn_ne_nil]
  rw [eraseComments_eq, blankLines, lines_unlines hne fun _ => not_mem_erased, List.countP_map]
  exact List.countP_congr fun line hline => by
    rw [Function.comp_apply, isBlankText_erased (hblank line hline)]

/-- Each run of comments between two lines leaves a blank line where blank lines are made one. -/
theorem blankLines_collapseBlankLines_of_lines {first last : Text} {inner : List Text}
    (hlines : lines body = first :: (inner ++ [last]))
    (hblank : ∀ line ∈ lines body, isBlankText line = false)
    (hfirst : isCommentLine first = false) (hlast : isCommentLine last = false) :
    blankLines (collapseBlankLines (eraseComments body)) = commentStarts (lines body) := by
  have hfeed := fun line => @not_mem_erased body line
  rw [hlines, List.map_cons, List.map_append, List.map_singleton, erased_eq_self hfirst,
    erased_eq_self hlast] at hfeed
  rw [hlines] at hblank
  have hfirst' : isBlankText first = false := hblank first (by simp)
  have hlast' : isBlankText last = false := hblank last (by simp)
  obtain ⟨rest, hrest⟩ := exists_destutter'_eq_cons Parted first (inner.map erased)
  have hkept : ∀ l ∈ first :: (rest ++ [last]), '\n' ∉ l := by
    intro l hl
    refine hfeed l ?_
    have hsublist := (inner.map erased).destutter'_sublist Parted first
    rw [hrest] at hsublist
    exact (hsublist.append (.refl [last])).subset hl
  have hcount : rest.countP isBlankText = commentStarts (first :: inner) := by
    have hall := countP_destutter'_erased fun l hl =>
      hblank l (List.cons_subset_cons first (List.subset_append_left inner [last]) hl)
    rw [erased_eq_self hfirst, hrest, List.countP_cons, hfirst', hfirst] at hall
    simpa using hall
  calc blankLines (collapseBlankLines (eraseComments body))
      = blankLines (trim (limitLineFeeds 1 (unlines (first :: (inner.map erased ++ [last]))))) := by
        rw [eraseComments_eq, hlines, List.map_cons, List.map_append, List.map_singleton,
          erased_eq_self hfirst, erased_eq_self hlast, collapseBlankLines,
          limitLineFeeds_unlines_cons (ne_nil_of_not_isBlankText hfirst') (hfeed first (by simp))
            0 1]
    _ = blankLines (trim (unlines (first :: (rest ++ [last])))) := by
        rw [limitLineFeeds_unlines_concat hfeed (ne_nil_of_not_isBlankText hlast'), hrest,
          List.cons_append]
    _ = rest.countP isBlankText := blankLines_trim hkept hfirst' hlast'
    _ = commentStarts (first :: (inner ++ [last])) := by
        rw [hcount, ← List.cons_append, commentStarts_concat hlast]
    _ = commentStarts (lines body) := by rw [hlines]

/-- A single line stays one. -/
theorem blankLines_collapseBlankLines_of_line {line : Text} (hlines : lines body = [line])
    (hblank : isBlankText line = false) (hcomment : isCommentLine line = false) :
    blankLines (collapseBlankLines (eraseComments body)) = 0 := by
  have hfeed : '\n' ∉ line := not_mem_of_mem_splitOn (hlines ▸ by simp : line ∈ lines body)
  have hlimit : limitLineFeeds 0 line = line := by
    simpa [limitLineFeeds] using
      Markdown.limitLineFeeds_line (ne_nil_of_not_isBlankText hblank) hfeed 0 []
  have htrim : lines (trim line) = [trim line] :=
    splitOn_of_not_mem fun hmem => hfeed (trim_subset line hmem)
  rw [eraseComments_eq, hlines, List.map_singleton, unlines_singleton, erased_eq_self hcomment,
    collapseBlankLines, hlimit, blankLines, htrim, List.countP_singleton, trim,
    isBlankText_trimEnd, isBlankText_trimStart, hblank, if_neg Bool.false_ne_true]

/-- A body without blank lines whose first and last lines are no comments: each of its comments
leaves a blank line on the way into plain LaTeX, and each run of comments does on the way into
Markdown, where blank lines are made one.  So a path begins without a blank line exactly if the body
has no comments. -/
theorem comments_split_paragraphs (numbers : Citation.Numbering) {body : Text}
    (hblank : ∀ line ∈ lines body, isBlankText line = false)
    (hfirst : ∀ line ∈ (lines body).head?, isCommentLine line = false)
    (hlast : ∀ line ∈ (lines body).getLast?, isCommentLine line = false) :
    let markdown := collapseBlankLines (runPasses ((markdownPasses numbers).take 1) body)
    let latex := runPasses ((plainPasses numbers).take 1) body
    (blankLines markdown = commentStarts (lines body) ∧
      blankLines latex = (lines body).countP isCommentLine) ∧
    (blankLines markdown = 0 ↔ ∀ line ∈ lines body, isCommentLine line = false) ∧
    (blankLines latex = 0 ↔ ∀ line ∈ lines body, isCommentLine line = false) := by
  intro markdown latex
  have hlatex : blankLines latex = (lines body).countP isCommentLine :=
    blankLines_eraseComments hblank
  have hstarts : blankLines markdown = commentStarts (lines body) ∧
      (commentStarts (lines body) = 0 ↔ ∀ line ∈ lines body, isCommentLine line = false) := by
    cases hlines : lines body with
    | nil => exact absurd hlines (splitOn_ne_nil '\n' body)
    | cons first below =>
        rw [hlines] at hfirst hlast
        have hhead : isCommentLine first = false := hfirst first rfl
        refine ⟨?_, by simp [commentStarts_eq_zero_iff, hhead]⟩
        rcases List.eq_nil_or_concat' below with rfl | ⟨inner, last, rfl⟩
        · have hfull : isBlankText first = false := hblank first (by simp [hlines])
          exact blankLines_collapseBlankLines_of_line hlines hfull hhead
        · have hend : isCommentLine last = false :=
            hlast last (by rw [← List.cons_append, List.getLast?_concat]; rfl)
          exact (blankLines_collapseBlankLines_of_lines hlines hblank hhead hend).trans
            (congrArg commentStarts hlines)
  refine ⟨⟨hstarts.1, hlatex⟩, ?_, ?_⟩
  · rw [hstarts.1, hstarts.2]
  · rw [hlatex, List.countP_eq_zero]
    simp

/-- A paragraph with two runs of comments. -/
def interruptedParagraph : Text := unlines [['a'], "%b".toList, ['%'], " c".toList, ['%'], ['d']]

theorem comments_split_paragraphs_of_interruptedParagraph :
    let body := interruptedParagraph
    blankLines (collapseBlankLines (runPasses ((markdownPasses []).take 1) body)) = 2 ∧
      blankLines (runPasses ((plainPasses []).take 1) body) = 3 := by
  intro body
  have hsplit := @comments_split_paragraphs [] body (by decide) (by decide) (by decide)
  exact ⟨hsplit.1.1.trans (by decide), hsplit.1.2.trans (by decide)⟩

/-- A comment between two lines of a paragraph leaves a blank line between them on either path. -/
theorem comment_splits_paragraph :
    let body := unlines [['a'], "%c".toList, ['b']]
    let markdown := collapseBlankLines (runPasses ((markdownPasses []).take 1) body)
    let latex := runPasses ((plainPasses []).take 1) body
    (∀ line ∈ lines body, isBlankText line = false) ∧
      markdown = unlines [['a'], [], ['b']] ∧ latex = unlines [['a'], [], ['b']] ∧
      ¬ (blankLines markdown = 0 ∧ blankLines latex = 0) := by
  decide

end PaperHtml.Conversion
