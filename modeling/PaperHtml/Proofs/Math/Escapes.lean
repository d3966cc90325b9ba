import PaperHtml.Proofs.Math.FormulaFree
import PaperHtml.Proofs.Text.Seams

/-!
# Escaped delimiters

In LaTeX an odd number of backslashes in front of a dollar makes it a plain
character, and behind one a backslash bracket is a line break with a length.
Guarding knows no escapes: it takes whatever stands between two delimiters of a
kind.  So escaped delimiters are left alone as long as no two of them pair up
(`spans_eq_nil_iff_of_isEscaped`).

## Strategy

Nothing is taken out of a text exactly if no formula of any kind stands in it
(`spans_eq_nil_iff`).  An escaped dollar has a backslash in front of it, so no two
of them stand side by side, and what is left to say of dollars is about lines: two
of them enclose a formula exactly if they stand in one line.
-/

namespace PaperHtml.Math

open Text TextPart

variable {t : Text}

/-! ## Texts from which nothing is taken -/

/-- Nothing is taken out of a text exactly if no formula stands in it. -/
theorem spans_eq_nil_iff : (guard t).spans = [] ↔ FormulaFree t := by
  constructor
  · intro h
    obtain ⟨parts, hsources, hstands⟩ := exists_stands_guard t
    have hnumbers : numbers parts = [] := by
      have hperm := hstands.numbers_perm
      rw [h] at hperm
      exact hperm.eq_nil
    have hnone : ∀ number inner, .formula number inner ∉ parts := by
      intro number inner hmem
      have hnumber := mem_numbers_of_mem hmem
      rw [hnumbers] at hnumber
      exact List.not_mem_nil hnumber
    have htext : (guard t).text = t := by
      rw [hstands.text_eq, eq_map_char_of_no_formula hnone, shownAll_map_char, hsources]
    exact htext ▸ formulaFree_guard t
  · intro h
    rw [h.guard_eq_self]

/-- Two dollars enclose a formula exactly if they stand in one line. -/
theorem inlineFree_iff :
    (∀ inner, '$' ∉ inner → '\n' ∉ inner → ¬ '$' :: inner ++ ['$'] <:+: t) ↔
      ∀ line ∈ lines t, line.count '$' ≤ 1 := by
  constructor
  · intro h line hline
    by_contra hmany
    have hfirst : '$' ∈ line := List.count_pos_iff.mp (by omega)
    obtain ⟨before, rest, rfl, hbefore⟩ := List.eq_append_cons_of_mem hfirst
    have hsecond : '$' ∈ rest := by
      rw [List.count_append, List.count_cons_self, List.count_eq_zero.mpr hbefore] at hmany
      exact List.count_pos_iff.mp (by omega)
    obtain ⟨inner, after, rfl, hinner⟩ := List.eq_append_cons_of_mem hsecond
    have hfeed := not_mem_of_mem_splitOn hline
    refine h inner hinner (fun hmem => hfeed (by simp [hmem])) ?_
    have hwhole := infix_unlines_of_mem hline
    rw [unlines_lines] at hwhole
    exact List.IsInfix.trans ⟨before, after, by simp⟩ hwhole
  · intro h inner _ hfeed hmark
    have hmarkFeed : '\n' ∉ '$' :: inner ++ ['$'] := by simp [hfeed]
    obtain ⟨line, hline, hinfix⟩ := (infix_iff_exists_line hmarkFeed).mp hmark
    have hcount := hinfix.sublist.count_le '$'
    have hatMost := h line hline
    rw [List.cons_append, List.count_cons_self, List.count_append,
      List.count_singleton_self] at hcount
    omega

/-! ## Escapes -/

/-- How many backslashes stand at the end of a text. -/
def backslashesAtEnd (t : Text) : Nat := (t.reverse.takeWhile (· = '\\')).length

/-- Every dollar and every opening bracket with its backslash stands behind an odd number of
backslashes. -/
def IsEscaped (t : Text) : Prop :=
  ∀ place < t.length, ['$'] <+: t.drop place ∨ ['\\', '['] <+: t.drop place →
    Odd (backslashesAtEnd (t.take place))

instance (t : Text) : Decidable (IsEscaped t) :=
  inferInstanceAs (Decidable (∀ place < t.length,
    ['$'] <+: t.drop place ∨ ['\\', '['] <+: t.drop place → Odd (backslashesAtEnd (t.take place))))

theorem IsEscaped.odd_of_dollar {before after : Text} (h : IsEscaped (before ++ '$' :: after)) :
    Odd (backslashesAtEnd before) := by
  have hplace := h before.length (by simp)
  rw [List.drop_left, List.take_left] at hplace
  exact hplace (.inl ⟨after, rfl⟩)

/-- No two escaped dollars stand side by side. -/
theorem IsEscaped.not_double (h : IsEscaped t) : ¬ ['$', '$'] <:+: t := by
  rintro ⟨before, after, rfl⟩
  have hsplit : before ++ ['$', '$'] ++ after = (before ++ ['$']) ++ '$' :: after := by simp
  rw [hsplit] at h
  have hodd := h.odd_of_dollar
  have hnone : backslashesAtEnd (before ++ ['$']) = 0 := by simp [backslashesAtEnd]
  rw [hnone] at hodd
  exact absurd hodd (by decide)

theorem IsEscaped.formulaFree_iff (h : IsEscaped t) :
    FormulaFree t ↔ (∀ line ∈ lines t, line.count '$' ≤ 1) ∧
      ∀ inner, ¬ ['\\', '['] ++ inner ++ ['\\', ']'] <:+: t := by
  rw [← inlineFree_iff]
  constructor
  · intro hfree
    exact ⟨hfree.inline, hfree.brackets⟩
  · rintro ⟨hinline, hbrackets⟩
    refine ⟨fun inner hinner => h.not_double ?_, hbrackets, hinline⟩
    rw [List.append_assoc] at hinner
    exact (List.prefix_append ['$', '$'] _).isInfix.trans hinner

/-- Nothing is taken out of a text whose dollars and opening brackets are all escaped exactly if
no two dollars stand in one line and no closing bracket stands behind an opening one; and a text
out of which nothing is taken is left as it is. -/
theorem spans_eq_nil_iff_of_isEscaped (h : IsEscaped t) :
    ((guard t).spans = [] ↔ (∀ line ∈ lines t, line.count '$' ≤ 1) ∧
      ∀ inner, ¬ ['\\', '['] ++ inner ++ ['\\', ']'] <:+: t) ∧
    ((guard t).spans = [] → (guard t).text = t) := by
  refine ⟨spans_eq_nil_iff.trans h.formulaFree_iff, fun hnone => ?_⟩
  rw [(spans_eq_nil_iff.mp hnone).guard_eq_self]

/-- Prices on two lines and a line break with a length are left as they are. -/
theorem spans_eq_nil_of_prices :
    let t := "from \\$5 \\\\[2pt] on,\n\\\\\\$6 at most".toList
    IsEscaped t ∧ (∀ line ∈ lines t, line.count '$' ≤ 1) ∧
      (∀ inner, ¬ ['\\', '['] ++ inner ++ ['\\', ']'] <:+: t) ∧
      (guard t).spans = [] ∧ (guard t).text = t := by
  intro t
  have hescaped : IsEscaped t := by decide
  have hlines : ∀ line ∈ lines t, line.count '$' ≤ 1 := by decide
  have hbrackets : ∀ inner, ¬ ['\\', '['] ++ inner ++ ['\\', ']'] <:+: t := by
    intro inner hinner
    have hmark : ['\\', ']'] <:+: t := (List.suffix_append _ _).isInfix.trans hinner
    exact absurd hmark (by decide)
  obtain ⟨hiff, hkept⟩ := spans_eq_nil_iff_of_isEscaped hescaped
  have hnone := hiff.mpr ⟨hlines, hbrackets⟩
  exact ⟨hescaped, hlines, hbrackets, hnone, hkept hnone⟩

/-- Two prices in one line are taken for the ends of a formula, and a line break with a length for
the beginning of one. -/
theorem escaped_delimiters_taken :
    let prices := "\\$5 and \\$6".toList
    let breaks := "x \\\\[2pt] y \\]".toList
    (IsEscaped prices ∧ guard prices = ⟨"\\@@MATH0@@6".toList, ["$5 and \\$".toList]⟩ ∧
      guard prices ≠ ⟨prices, []⟩) ∧
    (IsEscaped breaks ∧ guard breaks = ⟨"x \\@@MATH0@@".toList, ["\\[2pt] y \\]".toList]⟩ ∧
      guard breaks ≠ ⟨breaks, []⟩) := by
  intro prices breaks
  exact ⟨⟨by decide, by decide +kernel, by decide +kernel⟩,
    ⟨by decide, by decide +kernel, by decide +kernel⟩⟩

end PaperHtml.Math
