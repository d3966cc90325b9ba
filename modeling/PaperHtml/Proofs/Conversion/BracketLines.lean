import PaperHtml.Proofs.Conversion.Arguments
import PaperHtml.Proofs.Conversion.Prose

/-!
# Lines of a closing bracket

Where a text opens no heading in two columns, the pass for such headings still
takes every line away that is a closing bracket, whatever the bracket closes, and
it changes nothing else that is printed.

## Strategy

Without the opening mark the pass is about lines alone (`lines_stripTwoColumn`).
A bracket line and the blank lines behind it are made one empty line
(`BracketsErased`), so what is left of the lines that are not blank is found line
by line, whether or not a bracket line was just met.
-/

namespace PaperHtml.Conversion

open Text Latex

theorem isBracketLine_nil : isBracketLine [] = false := rfl

/-- Lines are left as they are only where none of them is a closing bracket. -/
theorem eraseBracketLines_eq_self_iff {ls : List Text} :
    eraseBracketLines false ls = ls ↔ ∀ line ∈ ls, isBracketLine line = false := by
  refine ⟨fun h => ?_, eraseBracketLines_eq_self⟩
  induction ls with
  | nil => exact List.forall_mem_nil _
  | cons line ls ih =>
      rw [eraseBracketLines] at h
      split at h
      · rename_i hline
        obtain ⟨rfl, -⟩ := List.cons.inj h
        exact absurd hline (by simp [isBracketLine_nil])
      · rename_i hline
        have hrest : eraseBracketLines false ls = ls := by simpa using h
        exact List.forall_mem_cons.mpr ⟨Bool.eq_false_iff.mpr hline, ih hrest⟩

/-- Of the lines that are not blank, those of a closing bracket are left out. -/
theorem filter_eraseBracketLines (dropping : Bool) (ls : List Text) :
    (eraseBracketLines dropping ls).filter (fun line => !isBlankText line) =
      ls.filter fun line => !isBlankText line && !isBracketLine line := by
  induction ls generalizing dropping with
  | nil => rfl
  | cons line ls ih =>
      rw [eraseBracketLines]
      cases hbracket : isBracketLine line with
      | true =>
          have hempty : isBlankText [] = true := rfl
          simp [hempty, hbracket, ih]
      | false => cases hblank : isBlankText line <;> cases dropping <;> simp [hbracket, hblank, ih]

/-! ## What becomes of the lines -/

/-- Every line of a closing bracket is made empty and the blank lines right behind it are left out;
all other lines, blank or not, stay as they are. -/
inductive BracketsErased : List Text → List Text → Prop
  | nil : BracketsErased [] []
  | kept {line : Text} {ls ls' : List Text} (hline : isBracketLine line = false)
      (hrest : BracketsErased ls ls') : BracketsErased (line :: ls) (line :: ls')
  | erased {line : Text} {blanks ls ls' : List Text} (hline : isBracketLine line = true)
      (hblanks : ∀ blank ∈ blanks, isBlankText blank = true)
      (hbehind : ∀ next ∈ ls.head?, isBlankText next = false) (hrest : BracketsErased ls ls') :
      BracketsErased (line :: (blanks ++ ls)) ([] :: ls')

theorem isBracketLine_of_isBlankText {line : Text} (h : isBlankText line = true) :
    isBracketLine line = false := by
  unfold isBracketLine
  split
  · rw [isBlankText, List.all_cons] at h
    exact absurd (Bool.and_eq_true_iff.mp h).1 (by decide)
  · rfl

/-- Behind a bracket line the blank lines are dropped first. -/
theorem eraseBracketLines_true (ls : List Text) :
    eraseBracketLines true ls = eraseBracketLines false (ls.dropWhile isBlankText) := by
  induction ls with
  | nil => rfl
  | cons line ls ih =>
      cases hblank : isBlankText line with
      | true =>
          simp [eraseBracketLines, isBracketLine_of_isBlankText hblank, hblank, ih]
      | false => simp [eraseBracketLines, hblank]

theorem bracketsErased_eraseBracketLines (ls : List Text) :
    BracketsErased ls (eraseBracketLines false ls) := by
  induction hlength : ls.length using Nat.strong_induction_on generalizing ls with
  | h length ih =>
      cases ls with
      | nil => exact .nil
      | cons line ls =>
          cases hline : isBracketLine line with
          | false =>
              have hrest := ih ls.length (by simp [← hlength]) ls rfl
              simpa [eraseBracketLines, hline] using hrest.kept hline
          | true =>
              let later := ls.dropWhile isBlankText
              have hshorter : later.length < length := by
                have hle := (List.dropWhile_suffix isBlankText (l := ls)).length_le
                rw [← hlength, List.length_cons]
                exact Nat.lt_succ_of_le hle
              have hblanks : ∀ blank ∈ ls.takeWhile isBlankText, isBlankText blank = true :=
                fun blank hmem => List.mem_takeWhile_imp hmem
              have hbehind : ∀ next ∈ later.head?, isBlankText next = false := by
                intro next hnext
                have hnot := List.head?_dropWhile_not isBlankText ls
                rw [Option.mem_def.mp hnext] at hnot
                simpa using hnot
              have herased := (ih later.length hshorter later rfl).erased hline hblanks hbehind
              rw [List.takeWhile_append_dropWhile] at herased
              simpa [eraseBracketLines, hline, eraseBracketLines_true] using herased

theorem eraseBracketLines_ne_nil {ls : List Text} (h : ls ≠ []) :
    eraseBracketLines false ls ≠ [] := by
  obtain ⟨line, ls, rfl⟩ := List.exists_cons_of_ne_nil h
  rw [eraseBracketLines]
  split <;> simp

/-- Without the opening of a heading in two columns nothing happens but to lines. -/
theorem lines_stripTwoColumn {t : Text} (h : ¬ "\\twocolumn[".toList <:+: t) :
    lines (stripTwoColumn t) = eraseBracketLines false (lines t) := by
  have hfree : FreeOf (Reader.literal "\\twocolumn[".toList []).commands t :=
    List.forall_mem_singleton.mpr h
  have hreplaced : replaceAll "\\twocolumn[".toList [] t = t :=
    ArgumentReader.substitute_of_freeOf hfree
  have hfeed : ∀ line ∈ eraseBracketLines false (lines t), '\n' ∉ line := by
    intro line hline
    rcases mem_eraseBracketLines hline with rfl | hmem
    · exact List.not_mem_nil
    · exact not_mem_of_mem_splitOn hmem
  have hne : lines t ≠ [] := splitOn_ne_nil '\n' t
  rw [stripTwoColumn, hreplaced, lines_unlines (eraseBracketLines_ne_nil hne) hfeed]

/-- Where no heading in two columns is opened, a text is left as it is if and only if no line of it
is a closing bracket; whatever such a bracket closes, its line is emptied, and all the other lines
with something on them stay in their order.  Of the blank lines only those right behind such a line
are lost. -/
theorem stripTwoColumn_eq_self_iff {t : Text} (h : ¬ "\\twocolumn[".toList <:+: t) :
    (stripTwoColumn t = t ↔ ∀ line ∈ lines t, isBracketLine line = false) ∧
      (lines (stripTwoColumn t)).filter (fun line => !isBlankText line) =
        (lines t).filter (fun line => !isBlankText line && !isBracketLine line) ∧
      BracketsErased (lines t) (lines (stripTwoColumn t)) := by
  have hlines := lines_stripTwoColumn h
  refine ⟨?_, by rw [hlines, filter_eraseBracketLines],
    hlines ▸ bracketsErased_eraseBracketLines (lines t)⟩
  rw [← eraseBracketLines_eq_self_iff, ← hlines]
  refine ⟨congrArg lines, fun heq => ?_⟩
  rw [← unlines_lines (stripTwoColumn t), heq, unlines_lines]

/-- Brackets that do not begin a line, or that something stands behind, are no matter. -/
theorem stripTwoColumn_optional_bracket :
    let t := "\\item[\n  a\n  ] x\n[b\n] y".toList
    (¬ "\\twocolumn[".toList <:+: t) ∧ stripTwoColumn t = t := by
  refine ⟨by decide +kernel, ?_⟩
  exact (stripTwoColumn_eq_self_iff (by decide +kernel)).1.mpr (by decide +kernel)

/-- A bracket that closes the options of a list is taken for the end of a heading in two columns,
and the list then loses the text up to the next bracket. -/
theorem stripTwoColumn_list_options :
    let t := "\\begin{itemize}[noitemsep\n]\n\\item a [b] c\n\\end{itemize}".toList
    (¬ "\\twocolumn[".toList <:+: t) ∧
      stripTwoColumn t = "\\begin{itemize}[noitemsep\n\n\\item a [b] c\n\\end{itemize}".toList ∧
      Markdown.lists t = "\n- a [b] c\n".toList ∧
      Markdown.lists (stripTwoColumn t) = " c\n".toList := by
  decide +kernel

end PaperHtml.Conversion
