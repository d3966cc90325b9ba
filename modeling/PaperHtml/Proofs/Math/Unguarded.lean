import Mathlib
import PaperHtml.Math.Guard
import PaperHtml.Proofs.Text.Scanning

/-!
# Texts without formulas

A kind of formula that does not occur in a text is guarded by leaving the text
as it is, so a text in which none of them occurs comes out of `guard` as it went
in (`FormulaFree.guard_eq_self`).
-/

namespace PaperHtml.Math

open Text

/-- A text in which no formula of any kind stands. -/
structure FormulaFree (t : Text) : Prop where
  display : ∀ inner, ¬ ['$', '$'] ++ inner ++ ['$', '$'] <:+: t
  brackets : ∀ inner, ¬ ['\\', '['] ++ inner ++ ['\\', ']'] <:+: t
  inline : ∀ inner, '$' ∉ inner → '\n' ∉ inner → ¬ '$' :: inner ++ ['$'] <:+: t

variable {t : Text}

/-! ## Passes that find nothing -/

theorem stash_map_plain (number : Nat) (t : Text) : stash number (t.map .plain) = t := by
  have happend := stash_map_plain_append number t []
  rwa [List.append_nil, stash, List.append_nil] at happend

theorem guardKind_of_plain {t : Text} {scan : Scanner Text}
    (h : Scanner.pieces scan t = t.map .plain) : guardKind ⟨t, []⟩ scan = ⟨t, []⟩ := by
  have hfound : Scanner.findAll scan t = [] := by simp [Scanner.findAll, h, List.filterMap_map]
  simp only [guardKind, List.length_nil, h, stash_map_plain, hfound, List.append_nil]

theorem pieces_delimited_eq_map_plain {opening closing : Text}
    (h : ∀ inner, ¬ opening ++ inner ++ closing <:+: t) :
    Scanner.pieces (delimited opening closing) t = t.map .plain := by
  apply Scanner.pieces_eq_map_plain
  intro back hback
  rw [Option.eq_none_iff_forall_ne_some]
  rintro ⟨formula, after⟩ hfound
  obtain ⟨inner, rfl, hsplit⟩ := exists_of_delimited hfound
  exact h inner ((hsplit ▸ List.prefix_append _ after).isInfix.trans hback.isInfix)

theorem pieces_delimited {opening : Text} (h : ¬ opening <:+: t) (closing : Text) :
    Scanner.pieces (delimited opening closing) t = t.map .plain := by
  apply pieces_delimited_eq_map_plain
  intro inner hinner
  rw [List.append_assoc] at hinner
  exact h ((List.prefix_append opening _).isInfix.trans hinner)

/-! ## Single dollars -/

theorem inlineDollars_eq_none {c : Char} (h : c ≠ '$') (t : Text) : inlineDollars (c :: t) = none := by
  unfold inlineDollars
  split
  · rename_i heq
    exact absurd (List.cons.inj heq).1 h
  · rfl

theorem takeWhile_inline {inner : Text} (hdollar : '$' ∉ inner) (hfeed : '\n' ∉ inner)
    (after : Text) :
    (inner ++ '$' :: after).takeWhile (fun c => decide (c ≠ '$' ∧ c ≠ '\n')) = inner := by
  have hinner : ∀ c ∈ inner, decide (c ≠ '$' ∧ c ≠ '\n') = true := fun c hc =>
    decide_eq_true ⟨ne_of_mem_of_not_mem hc hdollar, ne_of_mem_of_not_mem hc hfeed⟩
  rw [List.takeWhile_append_of_pos hinner]
  simp

theorem inlineDollars_append {inner : Text} (hdollar : '$' ∉ inner) (hfeed : '\n' ∉ inner)
    (after : Text) :
    inlineDollars ('$' :: (inner ++ '$' :: after)) = some ('$' :: inner ++ ['$'], after) := by
  simp only [inlineDollars, takeWhile_inline hdollar hfeed, List.drop_left]

/-- What is recognised between single dollars is a beginning of the text without a line feed. -/
theorem exists_of_inlineDollars {t formula after : Text}
    (h : inlineDollars t = some (formula, after)) :
    ∃ inner, '$' ∉ inner ∧ '\n' ∉ inner ∧ formula = '$' :: inner ++ ['$'] ∧ t = formula ++ after := by
  unfold inlineDollars at h
  split at h
  · rename_i rest
    dsimp only at h
    split at h
    · rename_i following heq
      obtain ⟨rfl, rfl⟩ := Prod.mk.inj (Option.some.inj h)
      have hinner : ∀ c ∈ rest.takeWhile fun c => decide (c ≠ '$' ∧ c ≠ '\n'),
          c ≠ '$' ∧ c ≠ '\n' := fun c hc => by simpa using List.mem_takeWhile_imp hc
      have hsplit := List.prefix_iff_eq_append.mp
        (List.takeWhile_prefix (l := rest) fun c => decide (c ≠ '$' ∧ c ≠ '\n'))
      rw [heq] at hsplit
      refine ⟨_, fun hmem => (hinner _ hmem).1 rfl, fun hmem => (hinner _ hmem).2 rfl, rfl, ?_⟩
      rw [List.append_assoc]
      exact congrArg ('$' :: ·) hsplit.symm
    · simp at h
  · simp at h

theorem pieces_inlineDollars_eq_map_plain
    (h : ∀ inner, '$' ∉ inner → '\n' ∉ inner → ¬ '$' :: inner ++ ['$'] <:+: t) :
    Scanner.pieces inlineDollars t = t.map .plain := by
  apply Scanner.pieces_eq_map_plain
  intro back hback
  rw [Option.eq_none_iff_forall_ne_some]
  rintro ⟨formula, after⟩ hfound
  obtain ⟨inner, hdollar, hfeed, rfl, hsplit⟩ := exists_of_inlineDollars hfound
  exact h inner hdollar hfeed ((hsplit ▸ List.prefix_append _ after).isInfix.trans hback.isInfix)

/-! ## Guarding -/

/-- In a text without formulas there is nothing to guard. -/
theorem FormulaFree.guard_eq_self (h : FormulaFree t) : guard t = ⟨t, []⟩ := by
  rw [guard, delimiters, List.foldl_cons, guardKind_of_plain (pieces_delimited_eq_map_plain h.display),
    List.foldl_cons, guardKind_of_plain (pieces_delimited_eq_map_plain h.brackets), List.foldl_cons,
    guardKind_of_plain (pieces_inlineDollars_eq_map_plain h.inline), List.foldl_nil]

/-- A text without the characters that delimiters begin with has no formula to guard. -/
theorem guard_eq_self (hdollar : '$' ∉ t) (hbackslash : '\\' ∉ t) : guard t = ⟨t, []⟩ := by
  have habsent {c : Char} {mark : Text} (hc : c ∉ t) : ¬ c :: mark <:+: t := fun hmark =>
    hc (hmark.subset (List.mem_cons_self ..))
  have hfree : FormulaFree t := ⟨fun _ => habsent hdollar, fun _ => habsent hbackslash,
    fun _ _ _ => habsent hdollar⟩
  exact hfree.guard_eq_self

end PaperHtml.Math
