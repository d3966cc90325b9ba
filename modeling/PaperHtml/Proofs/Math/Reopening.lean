import Mathlib
import PaperHtml.Proofs.Math.Restoring
import PaperHtml.Proofs.Text.Occurrences

/-!
# Guarding loses nothing

All formulas of a text can be put back, whatever was taken into what, if the
last one taken is put back first: `restore` goes through the formulas in the
other order, and for that `restore_guard_eq_iff` says when it succeeds.

## Strategy

A guarded text and its spans show a forest of parts (`Stands`), in which every
number is given once.  A token occurs in a shown text as often as an outermost
formula has its number (`occurrences_shownAll`), and the outermost formulas of
all spans and of the text are all formulas (`count_numbers`), so every token
occurs once.

Among the formulas that are left, the one with the greatest number is in no
other one.  Its token can be replaced by its span, and what it held has smaller
numbers.  That is the step of `reopen_shownAll`, an induction on how many
formulas are left.
-/

namespace PaperHtml.Math

open Text TextPart

namespace TextPart

/-- The numbers of the outermost formulas. -/
def outerNumbers : List TextPart → List Nat
  | [] => []
  | .char _ :: rest => outerNumbers rest
  | .formula number _ :: rest => number :: outerNumbers rest

/-- Every formula is outermost among the parts or in just one other formula. -/
theorem count_numbers (n : Nat) (parts : List TextPart) :
    (numbers parts).count n =
      (outerNumbers parts).count n +
        ((formulasAmong parts).map fun entry => (outerNumbers entry.2).count n).sum := by
  match parts with
  | [] => rfl
  | .char c :: rest =>
      have hrest := count_numbers n rest
      simpa [numbers, formulasAmong, formulas, outerNumbers] using hrest
  | .formula number inner :: rest =>
      have hinner := count_numbers n inner
      have hrest := count_numbers n rest
      simp only [numbers_formula_cons, formulasAmong, formulas, outerNumbers, List.cons_append,
        List.count_cons, List.count_append, List.map_cons, List.map_append, List.sum_cons,
        List.sum_append]
      omega

/-! ## How often a token is shown -/

private theorem shown_ne_nil (part : TextPart) : shown part ≠ [] := by
  cases part with
  | char c => exact List.cons_ne_nil c []
  | formula number inner => exact token_ne_nil number

/-- A shown text begins with a token only if its first part is the formula. -/
private theorem exists_of_token_begins {parts : List TextPart} {n : Nat}
    (hclean : Unmarked (sources parts)) (h : token n <+: shownAll parts) :
    ∃ inner rest, parts = .formula n inner :: rest := by
  obtain ⟨after, hafter⟩ := h
  have hshown : shownAll parts = [] ++ (token n ++ after) := hafter.symm
  obtain ⟨first, inner, second, rfl, hfirst, -⟩ := exists_formula_of_shownAll_eq hclean hshown
  cases first with
  | nil => exact ⟨inner, second, rfl⟩
  | cons part first =>
      rw [shownAll_cons] at hfirst
      exact absurd (List.append_eq_nil_iff.mp hfirst).1 (shown_ne_nil part)

/-- No token begins inside another one. -/
private theorem not_token_prefix_inside {number n : Nat} {inner rest : List TextPart}
    (hclean : Unmarked (sources (.formula number inner :: rest))) {front back : Text}
    (htoken : token number = front ++ back) (hfront : front ≠ []) (hback : back ≠ []) :
    ¬ token n <+: back ++ shownAll rest := by
  rintro ⟨after, hafter⟩
  have hshown : shownAll (.formula number inner :: rest) = front ++ (token n ++ after) := by
    rw [shownAll_cons, shown, htoken, hafter, List.append_assoc]
  obtain ⟨first, held, second, hparts, hfirst, -⟩ := exists_formula_of_shownAll_eq hclean hshown
  cases first with
  | nil => exact hfront hfirst.symm
  | cons part first =>
      -- all of the first token would have to be in front of its own end
      obtain rfl : part = .formula number inner := (List.cons.inj hparts).1.symm
      have hlength := congrArg List.length hfirst
      have hwhole := congrArg List.length htoken
      have hsome := List.length_pos_of_ne_nil hback
      rw [shownAll_cons, shown, List.length_append] at hlength
      rw [List.length_append] at hwhole
      omega

/-- A token is shown as often as an outermost formula has its number. -/
theorem occurrences_shownAll (n : Nat) {parts : List TextPart} (hclean : Unmarked (sources parts)) :
    occurrences (token n) (shownAll parts) = (outerNumbers parts).count n := by
  induction parts with
  | nil => exact occurrences_nil (token_ne_nil n)
  | cons part rest ih =>
      have hrest := ih (hclean.within (List.suffix_append _ _).isInfix)
      cases part with
      | char c =>
          have hhere : ¬ token n <+: c :: shownAll rest := by
            intro htoken
            obtain ⟨inner, others, hparts⟩ := exists_of_token_begins hclean htoken
            cases hparts
          rw [shownAll_cons, shown, List.singleton_append, occurrences_cons_of_not_begins hhere,
            hrest]
          rfl
      | formula number inner =>
          obtain ⟨c, more, htoken⟩ := List.exists_cons_of_ne_nil (token_ne_nil number)
          have hbehind : occurrences (token n) (more ++ shownAll rest) =
              (outerNumbers rest).count n := by
            rw [← hrest]
            refine occurrences_append_of_not_begins ?_
            rintro back ⟨front, rfl⟩ hback
            exact @not_token_prefix_inside number n inner rest hclean (c :: front) back htoken
              (List.cons_ne_nil _ _) hback
          have hshown :
              shownAll (.formula number inner :: rest) = c :: (more ++ shownAll rest) := by
            rw [shownAll_cons, shown, htoken, List.cons_append]
          rw [outerNumbers, List.count_cons, ← hbehind, hshown]
          by_cases hsame : number = n
          · have hhere : token n <+: c :: (more ++ shownAll rest) := by
              rw [← List.cons_append, ← htoken, hsame]
              exact List.prefix_append _ _
            rw [occurrences_cons_of_begins hhere, hsame, beq_self_eq_true, if_pos rfl]
          · have hhere : ¬ token n <+: c :: (more ++ shownAll rest) := by
              rw [← hshown]
              intro hprefix
              obtain ⟨held, others, hparts⟩ := exists_of_token_begins hclean hprefix
              exact hsame (TextPart.formula.inj (List.cons.inj hparts).1).1
            rw [occurrences_cons_of_not_begins hhere, if_neg (by simpa using hsame), Nat.add_zero]

end TextPart

/-! ## The spans of a guarded text -/

/-- The spans are the formulas, each as it is shown. -/
theorem Stands.spans_perm {guarded : Guarded} {parts : List TextPart} (h : Stands guarded parts) :
    ((formulasAmong parts).map fun entry => shownAll entry.2).Perm guarded.spans := by
  have hspan : ∀ entry ∈ formulasAmong parts,
      (guarded.spans[entry.1]?).getD [] = shownAll entry.2 := by
    intro entry hentry
    rw [h.span_eq entry.1 entry.2 hentry, Option.getD_some]
  have hplaces : (List.range guarded.spans.length).map (fun n => (guarded.spans[n]?).getD []) =
      guarded.spans := by
    apply List.ext_getElem (by simp)
    intro place hplace hlt
    simp [hlt]
  have hperm := h.numbers_perm.map fun n => (guarded.spans[n]?).getD []
  rw [hplaces, numbers, List.map_map] at hperm
  exact (List.map_congr_left hspan) ▸ hperm

/-- Every number that was given is the token of one place in the text and the spans. -/
theorem Stands.occurrences_token {guarded : Guarded} {parts : List TextPart}
    (h : Stands guarded parts) (hclean : Unmarked (sources parts)) (n : Nat) :
    occurrences (token n) guarded.text + (guarded.spans.map (occurrences (token n))).sum =
      if n < guarded.spans.length then 1 else 0 := by
  have hspans : (guarded.spans.map (occurrences (token n))).sum =
      ((formulasAmong parts).map fun entry => (outerNumbers entry.2).count n).sum := by
    rw [← (h.spans_perm.map (occurrences (token n))).sum_eq, List.map_map]
    congr 1
    refine List.map_congr_left fun entry hentry => ?_
    exact occurrences_shownAll n (hclean.within (sources_infix_of_mem hentry))
  calc occurrences (token n) guarded.text + (guarded.spans.map (occurrences (token n))).sum
      = (numbers parts).count n := by
        rw [h.text_eq, occurrences_shownAll n hclean, hspans, count_numbers]
    _ = (List.range guarded.spans.length).count n := h.numbers_perm.count_eq n
    _ = if n < guarded.spans.length then 1 else 0 := by
        split
        · rename_i hlt
          exact List.count_eq_one_of_mem List.nodup_range (List.mem_range.mpr hlt)
        · rename_i hlt
          exact List.count_eq_zero_of_not_mem fun hmem => hlt (List.mem_range.mp hmem)

/-- A span shows only formulas that were taken before it. -/
theorem Stands.lt_of_token_infix {guarded : Guarded} {parts : List TextPart}
    (h : Stands guarded parts) (hclean : Unmarked (sources parts)) {place n : Nat} {span : Text}
    (hspan : guarded.spans[place]? = some span) (htoken : token n <:+: span) : n < place := by
  have hplace : place ∈ numbers parts :=
    h.numbers_perm.mem_iff.mpr (List.mem_range.mpr (List.getElem?_eq_some_iff.mp hspan).1)
  obtain ⟨⟨place, inner⟩, hmem, rfl⟩ := List.mem_map.mp hplace
  obtain rfl : span = shownAll inner :=
    Option.some.inj (hspan.symm.trans (h.span_eq place inner hmem))
  obtain ⟨before, after, hshown⟩ := htoken
  rw [List.append_assoc] at hshown
  obtain ⟨first, held, second, rfl, -, -⟩ :=
    exists_formula_of_shownAll_eq (hclean.within (sources_infix_of_mem hmem)) hshown.symm
  have hheld : .formula n held ∈ first ++ .formula n held :: second := by simp
  exact h.number_lt place _ hmem n (mem_numbers_of_mem hheld)

/-! ## All formulas put back -/

/-- The formulas put back from the last to the first. -/
def reopen (replace : (mark new t : Text) → Text) (spans : List Text) (t : Text) : Text :=
  spans.zipIdx.foldr (fun entry t => replace (token entry.2) entry.1 t) t

theorem reopen_append_singleton (replace : (mark new t : Text) → Text) (spans : List Text)
    (span t : Text) :
    reopen replace (spans ++ [span]) t =
      reopen replace spans (replace (token spans.length) span t) := by
  simp [reopen, List.zipIdx_append]

variable {spans : List Text}

/-- The last of the formulas that are left is in no other one. -/
private theorem exists_outermost {parts : List TextPart} (h : Restorable spans parts) {left : Nat}
    (hleft : (numbers parts).Perm (List.range (left + 1))) :
    ∃ first inner second, parts = first ++ .formula left inner :: second := by
  have hmem : left ∈ numbers parts := hleft.mem_iff.mpr (List.mem_range.mpr (Nat.lt_succ_self left))
  obtain ⟨⟨n, inner⟩, hentry, rfl⟩ := List.mem_map.mp hmem
  obtain ⟨outer, held, houter, hsame | hheld⟩ := mem_formulasAmong_iff.mp hentry
  · obtain ⟨rfl, rfl⟩ := Prod.mk.inj hsame
    obtain ⟨first, second, rfl⟩ := List.append_of_mem houter
    exact ⟨first, inner, second, rfl⟩
  · -- a formula that holds the last one would have a greater number
    have hgreater := h.number_lt outer held (mem_formulasAmong_of_mem houter) n
      (List.mem_map.mpr ⟨_, hheld, rfl⟩)
    have hleast := List.mem_range.mp (hleft.mem_iff.mp (mem_numbers_of_mem houter))
    simp only at hgreater hleast
    omega

private theorem Restorable.occurrences_token {number : Nat} {first inner second : List TextPart}
    (h : Restorable spans (first ++ .formula number inner :: second)) :
    occurrences (token number) (shownAll first ++ (token number ++ shownAll second)) = 1 := by
  have hpos := occurrences_pos (token_ne_nil number) (shownAll first) (shownAll second)
  have hcount := count_numbers number (first ++ .formula number inner :: second)
  have honce := List.nodup_iff_count_le_one.mp h.nodup number
  have hshown := occurrences_shownAll number h.clean
  rw [shownAll_append, shownAll_cons, shown] at hshown
  omega

/-- With the formulas that are left put back, the last of them first, a shown text is the text
itself; `replace` need only be right where the mark occurs once. -/
theorem reopen_shownAll {replace : (mark new t : Text) → Text}
    (hreplace : ∀ mark new before after, mark ≠ [] →
      occurrences mark (before ++ (mark ++ after)) = 1 →
        replace mark new (before ++ (mark ++ after)) = before ++ (new ++ after))
    (left : Nat) {parts : List TextPart} (h : Restorable spans parts)
    (hleft : (numbers parts).Perm (List.range left)) :
    reopen replace (spans.take left) (shownAll parts) = sources parts := by
  induction left generalizing parts with
  | zero =>
      have hnone : ∀ number inner, .formula number inner ∉ parts := by
        intro number inner hmem
        exact absurd (hleft.mem_iff.mp (mem_numbers_of_mem hmem)) (by simp)
      rw [eq_map_char_of_no_formula hnone, shownAll_map_char, sources_map_char]
      rfl
  | succ left ih =>
      obtain ⟨first, inner, second, rfl⟩ := exists_outermost h hleft
      have hspan := h.span_eq left inner (mem_formulasAmong_of_mem (by simp))
      obtain ⟨hlt, hspan⟩ := List.getElem?_eq_some_iff.mp hspan
      have htake : spans.take (left + 1) = spans.take left ++ [shownAll inner] := by
        rw [List.take_succ_eq_append_getElem hlt, hspan]
      have hopened : replace (token left) (shownAll inner)
          (shownAll (first ++ .formula left inner :: second)) =
            shownAll (first ++ (inner ++ second)) := by
        rw [shownAll_append, shownAll_cons, shown,
          hreplace _ _ _ _ (token_ne_nil left) h.occurrences_token, shownAll_append,
          shownAll_append]
      have hfewer : (numbers (first ++ (inner ++ second))).Perm (List.range left) := by
        rw [numbers_append, numbers_formula_cons, List.cons_append, List.range_succ] at hleft
        rw [numbers_append, numbers_append]
        exact (List.perm_middle.symm.trans (hleft.trans List.perm_append_comm)).cons_inv
      have hlength : (spans.take left).length = left := List.length_take_of_le hlt.le
      rw [htake, reopen_append_singleton, hlength, hopened, ih h.opened hfewer]
      simp [sources, source]

/-- In what guarding has made of a text every formula is shown once, by its token; a span shows
only formulas that were taken before it; and with the formulas put back from the last to the first,
the text is there again. -/
theorem reopen_guard {t : Text} (ht : Unmarked t) :
    let guarded := guard t
    (∀ number, occurrences (token number) guarded.text +
        (guarded.spans.map (occurrences (token number))).sum =
          if number < guarded.spans.length then 1 else 0) ∧
      (∀ place span, guarded.spans[place]? = some span →
        ∀ number, token number <:+: span → number < place) ∧
      ∀ replace ∈ [replaceFirst, replaceAll], reopen replace guarded.spans guarded.text = t := by
  intro guarded
  obtain ⟨parts, rfl, hstands⟩ := exists_stands_guard t
  refine ⟨hstands.occurrences_token ht, ?_, ?_⟩
  · intro place span hspan number htoken
    exact hstands.lt_of_token_infix ht hspan htoken
  · intro replace hmem
    have hreplace : ∀ mark new before after, mark ≠ [] →
        occurrences mark (before ++ (mark ++ after)) = 1 →
          replace mark new (before ++ (mark ++ after)) = before ++ (new ++ after) := by
      intro mark new before after hmark honce
      simp only [List.mem_cons, List.not_mem_nil, or_false] at hmem
      rcases hmem with rfl | rfl
      · exact replaceFirst_of_occurrences_eq_one hmark new honce
      · exact replaceAll_of_occurrences_eq_one hmark new honce
    have hback := reopen_shownAll hreplace _ (hstands.restorable ht) hstands.numbers_perm
    rwa [List.take_length, ← hstands.text_eq] at hback

/-- A formula taken into another one is put back as well. -/
theorem reopen_guard_nested :
    let t := "\\[ $$x$$ \\] $y$".toList
    Unmarked t ∧
      (guard t).spans = ["$$x$$".toList, "\\[ @@MATH0@@ \\]".toList, "$y$".toList] ∧
      ∀ replace ∈ [replaceFirst, replaceAll],
        reopen replace (guard t).spans (guard t).text = t := by
  intro t
  have clean : Unmarked t := ⟨by decide, by decide⟩
  exact ⟨clean, by decide +kernel, (reopen_guard clean).2.2⟩

end PaperHtml.Math
