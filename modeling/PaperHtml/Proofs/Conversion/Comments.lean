import Mathlib
import PaperHtml.Latex.Document
import PaperHtml.Proofs.Conversion.Prose

/-!
# Documents that differ in their comments

The text of a comment does not matter, unless a mark of the document stands in
it.  The body is cut out of a document with its comments, and these are taken
away later, so that a comment can open the document or close it.

## Strategy

Two documents are followed line by line (`SameButComments.by_lines`).  What is
left of them when their comments are taken away is the same, and they still
differ in nothing but comments when they are trimmed, or cut at a mark that they
hold in the same line (`SameButComments.cut?`).  The body ends at the first mark
that closes the document and begins at the first one in front of it that opens
the document (`body_eq`): two cuts and a trim.
-/

namespace PaperHtml.Latex

open Text

/-! ## Documents line by line -/

/-- Lines that are equal, or comments both. -/
def SameLine (line other : Text) : Prop :=
  line = other ∨ (isCommentLine line = true ∧ isCommentLine other = true)

instance : DecidableRel SameLine := fun line other =>
  inferInstanceAs (Decidable (line = other ∨ _))

/-- Documents that have the same lines but for the text of their comments. -/
def SameButComments (t other : Text) : Prop := List.Forall₂ SameLine (lines t) (lines other)

instance : DecidableRel SameButComments := fun t other =>
  inferInstanceAs (Decidable (List.Forall₂ SameLine (lines t) (lines other)))

theorem SameLine.refl (line : Text) : SameLine line line := .inl rfl

theorem SameLine.symm {line other : Text} (h : SameLine line other) : SameLine other line :=
  h.imp Eq.symm And.symm

/-- Lines of which one is no comment are equal. -/
theorem SameLine.eq {line other : Text} (h : SameLine line other)
    (hline : isCommentLine line = false) : line = other := by
  rcases h with rfl | ⟨hcomment, -⟩
  · rfl
  · rw [hline] at hcomment
    cases hcomment

namespace SameButComments

variable {t other : Text}

theorem refl (t : Text) : SameButComments t t := List.forall₂_same.mpr fun line _ => .refl line

theorem append {rest more : Text} (h : SameButComments t other)
    (hrest : SameButComments rest more) :
    SameButComments (t ++ '\n' :: rest) (other ++ '\n' :: more) := by
  unfold SameButComments lines at *
  rw [splitOn_append, splitOn_append]
  exact List.rel_append h hrest

theorem of_line {line line' : Text} (hline : '\n' ∉ line) (hline' : '\n' ∉ line')
    (h : SameLine line line') : SameButComments line line' := by
  unfold SameButComments lines
  rw [splitOn_of_not_mem hline, splitOn_of_not_mem hline']
  exact .cons h .nil

/-- Documents that differ in their comments, line by line from the last one up. -/
@[elab_as_elim]
theorem by_lines {motive : (t other : Text) → SameButComments t other → Prop}
    (last : ∀ line line' (hline : '\n' ∉ line) (hline' : '\n' ∉ line') (h : SameLine line line'),
      motive line line' (of_line hline hline' h))
    (more : ∀ line line' t other (hline : '\n' ∉ line) (hline' : '\n' ∉ line')
      (h : SameLine line line') (hbelow : SameButComments t other), motive t other hbelow →
      motive (line ++ '\n' :: t) (line' ++ '\n' :: other)
        ((of_line hline hline' h).append hbelow))
    (h : SameButComments t other) : motive t other h := by
  have hlines {ls others : List Text} (hsame : List.Forall₂ SameLine ls others) (hne : ls ≠ [])
      (hls : ∀ line ∈ ls, '\n' ∉ line) (hothers : ∀ line ∈ others, '\n' ∉ line) :
      ∃ h, motive (unlines ls) (unlines others) h := by
    induction hsame with
    | nil => exact absurd rfl hne
    | @cons line line' ls others hline hsame ih =>
        rw [List.forall_mem_cons] at hls hothers
        cases hsame with
        | nil =>
            rw [unlines_singleton, unlines_singleton]
            exact ⟨_, last line line' hls.1 hothers.1 hline⟩
        | cons hnext hsame =>
            obtain ⟨hbelow, hmotive⟩ := ih (List.cons_ne_nil _ _) hls.2 hothers.2
            rw [unlines_cons line (List.cons_ne_nil _ _), unlines_cons line' (List.cons_ne_nil _ _)]
            exact ⟨_, more line line' _ _ hls.1 hothers.1 hline hbelow hmotive⟩
  obtain ⟨hwhole, hmotive⟩ := hlines h (splitOn_ne_nil _ _) (fun _ => not_mem_of_mem_splitOn)
    fun _ => not_mem_of_mem_splitOn
  simp only [unlines_lines] at hmotive
  exact hmotive

theorem eraseComments_eq (h : SameButComments t other) : eraseComments t = eraseComments other := by
  have hlines {ls others : List Text} (hsame : List.Forall₂ SameLine ls others) :
      ls.map (fun line => if isCommentLine line then [] else line) =
        others.map fun line => if isCommentLine line then [] else line := by
    induction hsame with
    | nil => rfl
    | @cons line line' ls others hline _ ih =>
        rw [List.map_cons, List.map_cons, ih]
        rcases hline with rfl | ⟨hcomment, hcomment'⟩
        · rfl
        · rw [if_pos hcomment, if_pos hcomment']
  rw [eraseComments, eraseComments, hlines h]

end SameButComments

/-! ## Trimming -/

theorem exists_of_isCommentLine {line : Text} (h : isCommentLine line = true) :
    ∃ rest, line = '%' :: rest := by
  cases line with
  | nil => cases h
  | cons c rest =>
      obtain rfl : c = '%' := by simpa [isCommentLine] using h
      exact ⟨rest, rfl⟩

theorem trimStart_of_isCommentLine {line : Text} (h : isCommentLine line = true) (rest : Text) :
    trimStart (line ++ rest) = line ++ rest := by
  obtain ⟨more, rfl⟩ := exists_of_isCommentLine h
  exact trimStart_cons (by decide) _

theorem isCommentLine_trimEnd {line : Text} (h : isCommentLine line = true) :
    isCommentLine (trimEnd line) = true := by
  obtain ⟨rest, rfl⟩ := exists_of_isCommentLine h
  rw [← List.singleton_append, trimEnd_append]
  split <;> rfl

theorem SameLine.trimEnd {line other : Text} (h : SameLine line other) :
    SameLine (trimEnd line) (trimEnd other) := by
  rcases h with rfl | ⟨hcomment, hcomment'⟩
  · exact .refl _
  · exact .inr ⟨isCommentLine_trimEnd hcomment, isCommentLine_trimEnd hcomment'⟩

namespace SameButComments

variable {t other : Text}

theorem trimStart (h : SameButComments t other) :
    SameButComments (trimStart t) (trimStart other) := by
  induction h using by_lines with
  | last line line' hline hline' h =>
      rcases h with rfl | ⟨hcomment, hcomment'⟩
      · exact refl _
      · have hkept := trimStart_of_isCommentLine hcomment []
        have hkept' := trimStart_of_isCommentLine hcomment' []
        rw [List.append_nil] at hkept hkept'
        rw [hkept, hkept']
        exact of_line hline hline' (.inr ⟨hcomment, hcomment'⟩)
  | more line line' t other hline hline' h hbelow ih =>
      rcases h with rfl | ⟨hcomment, hcomment'⟩
      · unfold Text.trimStart at ih ⊢
        rw [List.dropWhile_append, List.dropWhile_append]
        split
        · exact ih
        · exact (refl _).append hbelow
      · rw [trimStart_of_isCommentLine hcomment, trimStart_of_isCommentLine hcomment']
        exact (of_line hline hline' (.inr ⟨hcomment, hcomment'⟩)).append hbelow

theorem eq_nil (h : SameButComments [] other) : other = [] := by
  obtain ⟨line, rest, hline, hrest, hother⟩ := List.forall₂_cons_left_iff.mp h
  obtain rfl := List.forall₂_nil_left_iff.mp hrest
  rw [← unlines_lines other, hother, unlines_singleton]
  exact (hline.eq rfl).symm

theorem symm (h : SameButComments t other) : SameButComments other t :=
  List.Forall₂.flip (h.imp fun _ _ => SameLine.symm)

theorem trimEnd (h : SameButComments t other) :
    SameButComments (trimEnd t) (trimEnd other) := by
  have hkept {line : Text} (hline : '\n' ∉ line) : '\n' ∉ Text.trimEnd line := fun hmem =>
    hline ((trimEnd_isPrefix line).subset hmem)
  induction h using by_lines with
  | last line line' hline hline' h => exact of_line (hkept hline) (hkept hline') h.trimEnd
  | more line line' t other hline hline' h hbelow ih =>
      rw [trimEnd_append_lineFeed, trimEnd_append_lineFeed]
      by_cases hblank : Text.trimEnd t = []
      · rw [if_pos hblank, if_pos (hblank ▸ ih).eq_nil]
        exact of_line (hkept hline) (hkept hline') h.trimEnd
      · have hblank' : Text.trimEnd other ≠ [] := fun hempty => hblank (hempty ▸ ih.symm).eq_nil
        rw [if_neg hblank, if_neg hblank']
        exact (of_line hline hline' h).append ih

theorem trim (h : SameButComments t other) : SameButComments (trim t) (trim other) :=
  h.trimStart.trimEnd

end SameButComments

/-! ## Marks in the same place -/

/-- Whether one of two lines holds the mark. -/
def eitherHolds (mark : Text) (pair : Text × Text) : Bool := holds mark pair.1 || holds mark pair.2

/-- The first line in which one of two documents holds the mark is the same in both. -/
def MarkedAlike (mark t other : Text) : Prop :=
  ∀ pair ∈ ((lines t).zip (lines other)).find? (eitherHolds mark), pair.1 = pair.2

instance (mark t other : Text) : Decidable (MarkedAlike mark t other) :=
  inferInstanceAs
    (Decidable (∀ pair ∈ ((lines t).zip (lines other)).find? (eitherHolds mark), pair.1 = pair.2))

variable {mark line line' t other : Text}

theorem eitherHolds_iff {pair : Text × Text} :
    eitherHolds mark pair = true ↔ mark <:+: pair.1 ∨ mark <:+: pair.2 := by
  rw [eitherHolds, Bool.or_eq_true, holds_iff, holds_iff]

theorem MarkedAlike.refl (mark t : Text) : MarkedAlike mark t t := by
  intro pair hpair
  obtain ⟨place, hplace, rfl⟩ := List.mem_iff_getElem.mp (List.mem_of_find?_eq_some hpair)
  rw [List.getElem_zip]

/-- Where one of the first lines holds the mark, these lines decide. -/
theorem markedAlike_of_lines {below below' : List Text} (ht : lines t = line :: below)
    (hother : lines other = line' :: below') (hmark : mark <:+: line ∨ mark <:+: line') :
    MarkedAlike mark t other ↔ line = line' := by
  have hheld : eitherHolds mark (line, line') = true := eitherHolds_iff.mpr hmark
  rw [MarkedAlike, ht, hother, List.zip_cons_cons, List.find?_cons_of_pos hheld]
  simp

/-- First lines without the mark do not matter. -/
theorem markedAlike_of_below {rest rest' : Text} (ht : lines t = line :: lines rest)
    (hother : lines other = line' :: lines rest') (hmark : ¬ (mark <:+: line ∨ mark <:+: line')) :
    MarkedAlike mark t other ↔ MarkedAlike mark rest rest' := by
  have hheld : ¬ eitherHolds mark (line, line') = true := mt eitherHolds_iff.mp hmark
  rw [MarkedAlike, ht, hother, List.zip_cons_cons, List.find?_cons_of_neg hheld]
  rfl

namespace SameButComments

/-- Documents that differ in their comments are cut alike at a mark that they hold in the same
place, and what they hold in the same place, they hold so in front of the mark. -/
theorem cut? (hfeed : '\n' ∉ mark) (hne : mark ≠ []) (h : SameButComments t other)
    (hmarked : MarkedAlike mark t other) :
    (cut? mark t = none ∧ cut? mark other = none) ∨
      ∃ before after before' after', cut? mark t = some (before, after) ∧
        cut? mark other = some (before', after') ∧ SameButComments before before' ∧
        SameButComments after after' ∧
        ∀ found, MarkedAlike found t other → MarkedAlike found before before' := by
  induction h using by_lines with
  | last line line' hline hline' h =>
      by_cases hmark : mark <:+: line ∨ mark <:+: line'
      · obtain rfl := (markedAlike_of_lines (splitOn_of_not_mem hline) (splitOn_of_not_mem hline')
          hmark).mp hmarked
        obtain ⟨⟨before, after⟩, hfound⟩ := exists_cut? (or_self_iff.mp hmark)
        exact .inr ⟨before, after, before, after, hfound, hfound, refl _, refl _,
          fun found _ => .refl found before⟩
      · rw [not_or] at hmark
        exact .inl ⟨cut?_eq_none_iff.mpr hmark.1, cut?_eq_none_iff.mpr hmark.2⟩
  | more line line' t other hline hline' h hbelow ih =>
      by_cases hmark : mark <:+: line ∨ mark <:+: line'
      · obtain rfl := (markedAlike_of_lines (lines_append_cons hline t)
          (lines_append_cons hline' other) hmark).mp hmarked
        obtain ⟨⟨before, after⟩, hfound⟩ := exists_cut? (or_self_iff.mp hmark)
        exact .inr ⟨before, _, before, _, cut?_append_of_some hfound _,
          cut?_append_of_some hfound _, refl _, (refl _).append hbelow,
          fun found _ => .refl found before⟩
      · have hrest := ih ((markedAlike_of_below (lines_append_cons hline t)
          (lines_append_cons hline' other) hmark).mp hmarked)
        rw [not_or] at hmark
        rw [cut?_append_cons hfeed hne hmark.1, cut?_append_cons hfeed hne hmark.2]
        rcases hrest with ⟨hcut, hcut'⟩ |
          ⟨before, after, before', after', hcut, hcut', hbefore, hafter, hkept⟩
        · exact .inl ⟨by rw [hcut, Option.map_none], by rw [hcut', Option.map_none]⟩
        · rw [hcut, hcut', Option.map_some, Option.map_some]
          refine .inr ⟨_, _, _, _, rfl, rfl, (of_line hline hline' h).append hbefore, hafter, ?_⟩
          intro found hfound
          by_cases hheld : found <:+: line ∨ found <:+: line'
          · rw [markedAlike_of_lines (lines_append_cons hline _) (lines_append_cons hline' _) hheld]
              at hfound ⊢
            exact hfound
          · rw [markedAlike_of_below (lines_append_cons hline _) (lines_append_cons hline' _) hheld]
              at hfound ⊢
            exact hkept found hfound

end SameButComments

/-! ## The body -/

/-- The mark that closes the document is looked for in front of the mark that opens it and behind
it, for it does not lie across. -/
theorem cut?_endDocument_append {before : Text} (h : ¬ endDocument <:+: before) (after : Text) :
    cut? endDocument (before ++ beginDocument ++ after) =
      (cut? endDocument after).map fun found => (before ++ beginDocument ++ found.1, found.2) := by
  have hbefore : cut? endDocument (before ++ (beginDocument ++ after)) =
      (cut? endDocument (beginDocument ++ after)).map fun found => (before ++ found.1, found.2) :=
    cut?_append_cons_first (by decide) h _
  have hname : cut? endDocument (beginDocument.tail ++ after) =
      (cut? endDocument after).map fun found => (beginDocument.tail ++ found.1, found.2) :=
    cut?_append_of_not_mem (by decide) after
  have hbegin : cut? endDocument (beginDocument ++ after) =
      (cut? endDocument after).map fun found => (beginDocument ++ found.1, found.2) := by
    have hstep := cut?_cons endDocument '\\' (beginDocument.tail ++ after)
    rw [hname, Option.map_map] at hstep
    exact hstep
  rw [List.append_assoc, hbefore, hbegin, Option.map_map]
  simp only [Function.comp_def, List.append_assoc]

/-- The body ends at the first mark that closes the document, and begins behind the first one in
front of that mark that opens it. -/
theorem body_eq (t : Text) : body t =
    match cut? endDocument t with
    | none => t
    | some (upTo, _) =>
      match cut? beginDocument upTo with
      | none => t
      | some (_, inner) => Text.trim inner := by
  have hbackslash : '\\' ∉ "begin{document}".toList := by decide
  cases hbegin : cut? beginDocument t with
  | none =>
      simp only [body, hbegin]
      cases hend : cut? endDocument t with
      | none => rfl
      | some found =>
          have hnone : cut? beginDocument found.1 = none := by
            rw [cut?_eq_none_iff] at hbegin ⊢
            exact fun hopened => hbegin (infix_of_infix_before hend hopened)
          simp only [hnone]
  | some found =>
      obtain ⟨before, after⟩ := found
      obtain ⟨ht, hno⟩ := (cut?_eq_some_iff hbackslash).mp hbegin
      by_cases hheld : endDocument <:+: before
      · -- the document is closed before it is opened
        obtain ⟨found, hfound⟩ := exists_cut? hheld
        have hend : cut? endDocument t = some (found.1, found.2 ++ (beginDocument ++ after)) := by
          rw [ht, List.append_assoc]
          exact cut?_append_of_some hfound _
        have hnone : cut? beginDocument found.1 = none :=
          cut?_eq_none_iff.mpr fun hopened => hno (infix_of_infix_before hfound hopened)
        simp only [body, hbegin, hend, hnone, holds_iff.mpr hheld, if_true]
      · have hend := cut?_endDocument_append hheld after
        have hnot : holds endDocument before = false := by
          rw [← Bool.not_eq_true, holds_iff]
          exact hheld
        simp only [body, hbegin, hnot, Bool.false_eq_true, if_false]
        change t = before ++ beginDocument ++ after at ht
        rw [ht, hend]
        cases hinner : cut? endDocument after with
        | none => rfl
        | some found =>
            have hcut : cut? beginDocument (before ++ beginDocument ++ found.1) =
                some (before, found.1) := (cut?_eq_some_iff hbackslash).mpr ⟨rfl, hno⟩
            simp only [Option.map_some, hcut]

/-- Documents that differ in their comments have bodies that do, if they hold the marks of the
document in the same places. -/
theorem SameButComments.body (h : SameButComments t other)
    (hbegin : MarkedAlike beginDocument t other) (hend : MarkedAlike endDocument t other) :
    SameButComments (body t) (body other) := by
  rw [body_eq, body_eq]
  rcases h.cut? (by decide) (by decide) hend with
    ⟨hnone, hnone'⟩ | ⟨upTo, rest, upTo', rest', hsome, hsome', hupTo, -, hkept⟩
  · simp only [hnone, hnone']
    exact h
  · simp only [hsome, hsome']
    rcases hupTo.cut? (by decide) (by decide) (hkept _ hbegin) with
      ⟨hnone, hnone'⟩ | ⟨_, inner, _, inner', hsome, hsome', -, hinner, -⟩
    · simp only [hnone, hnone']
      exact h
    · simp only [hsome, hsome']
      exact hinner.trim

end PaperHtml.Latex

namespace PaperHtml.Conversion

open Text Latex

/-- The text of comments does not matter: documents that differ in nothing else cite the same keys
in the same order, and their bodies become the same Markdown and the same plain LaTeX.  This holds
if either mark of the document is first found in a line that they share, or if neither document is
cut at its marks. -/
theorem comments_do_not_matter {t other : Text} (h : SameButComments t other)
    (hmarks : (MarkedAlike beginDocument t other ∧ MarkedAlike endDocument t other) ∨
      (body t = t ∧ body other = other)) (numbers : Citation.Numbering) :
    Citation.order (body t) = Citation.order (body other) ∧
      toMarkdown numbers (body t) = toMarkdown numbers (body other) ∧
      toPlainLatex numbers (body t) = toPlainLatex numbers (body other) := by
  have herased : eraseComments (body t) = eraseComments (body other) := by
    rcases hmarks with ⟨hbegin, hend⟩ | ⟨ht, hother⟩
    · exact (h.body hbegin hend).eraseComments_eq
    · rw [ht, hother]
      exact h.eraseComments_eq
  refine ⟨?_, ?_, ?_⟩
  · rw [Citation.order, Citation.order, herased]
  · rw [toMarkdown_eq_innerPasses, toMarkdown_eq_innerPasses, herased]
  · rw [toPlainLatex_eq_innerPasses, toPlainLatex_eq_innerPasses, herased]

/-- A citation of one key. -/
def citing (key : Char) : Text := "\\cite".toList ++ braced [key]

/-- A document with a comment in front of its body, one in it and one behind it. -/
def commented (front inner back : Text) : Text :=
  unlines ['%' :: front, beginDocument, '%' :: inner, citing 'a', endDocument, '%' :: back]

/-- Comments may quote a mark of the document below the mark itself, and any mark in a document that
is not closed. -/
theorem comments_do_not_matter_of_quotes :
    let quoting := commented (citing 'z') (beginDocument ++ citing 'z') endDocument
    let unclosed := unlines ['%' :: beginDocument, citing 'a']
    (Citation.order (body quoting) = Citation.order (body (commented [] [] [])) ∧
      Citation.order (body (commented [] [] [])) = [['a']]) ∧
    toMarkdown [(['a'], 1)] (body unclosed) =
      toMarkdown [(['a'], 1)] (body (unlines [['%'], citing 'a'])) := by
  intro quoting unclosed
  have hquoting : SameButComments quoting (commented [] [] []) := by decide +kernel
  have hmarks : MarkedAlike beginDocument quoting (commented [] [] []) ∧
      MarkedAlike endDocument quoting (commented [] [] []) := by decide +kernel
  have hunclosed : SameButComments unclosed (unlines [['%'], citing 'a']) := by decide +kernel
  have hwhole : body unclosed = unclosed ∧
      body (unlines [['%'], citing 'a']) = unlines [['%'], citing 'a'] := by decide +kernel
  obtain ⟨horder, -, -⟩ := comments_do_not_matter hquoting (.inl hmarks) []
  obtain ⟨-, hmarkdown, -⟩ := comments_do_not_matter hunclosed (.inr hwhole) [(['a'], 1)]
  exact ⟨⟨horder, by decide +kernel⟩, hmarkdown⟩

/-- A mark in a comment opens the document in front of its body, so that a citation in the comment
counts, or closes it within, so that the rest of the body is lost. -/
theorem comment_opens_or_closes_document :
    let plain := commented [] [] []
    let opened := commented (beginDocument ++ citing 'z') [] []
    let closed := commented [] endDocument []
    (SameButComments plain opened ∧ SameButComments plain closed) ∧
    (Citation.order (body plain) = [['a']] ∧ Citation.order (body opened) = [['z'], ['a']] ∧
      Citation.order (body closed) = []) ∧
    (toMarkdown [] (body plain) ≠ toMarkdown [] (body opened) ∧
      toMarkdown [] (body plain) ≠ toMarkdown [] (body closed)) ∧
    (toPlainLatex [] (body plain) ≠ toPlainLatex [] (body opened) ∧
      toPlainLatex [] (body plain) ≠ toPlainLatex [] (body closed)) := by
  decide +kernel

end PaperHtml.Conversion
