import PaperHtml.Proofs.Math.Guarding

/-!
# When restoring undoes guarding

`restore` puts the formulas back in the order in which they were taken.  A
formula that was taken into a later one is then not there to be put back: its
token shows up only when the later one is opened, and by then its turn is over.

## Strategy

`restoreFrom_shownAll` says what restoring does to any shown forest: it opens
every outermost formula, and only by one level.  The invariant that carries the
induction is `Restorable`; opening a formula keeps it, since the formulas inside
have smaller numbers and are passed over.  Restoring is therefore the identity
exactly if no formula holds another one (`restore_guard_eq_iff`).
-/

namespace PaperHtml.Math

open Text TextPart

/-- Parts whose formulas can be told apart and are the given spans. -/
structure Restorable (spans : List Text) (parts : List TextPart) : Prop where
  clean : Unmarked (sources parts)
  nodup : (numbers parts).Nodup
  span_eq : ∀ number inner, (number, inner) ∈ formulasAmong parts →
    spans[number]? = some (shownAll inner)
  number_lt : ∀ number inner, (number, inner) ∈ formulasAmong parts →
    ∀ n ∈ numbers inner, n < number

theorem Stands.restorable {guarded : Guarded} {parts : List TextPart} (h : Stands guarded parts)
    (hclean : Unmarked (sources parts)) : Restorable guarded.spans parts :=
  ⟨hclean, h.numbers_perm.nodup_iff.mpr List.nodup_range, h.span_eq, h.number_lt⟩

variable {spans : List Text}

/-! ## One formula put back -/

theorem Restorable.opened {number : Nat} {first inner second : List TextPart}
    (h : Restorable spans (first ++ .formula number inner :: second)) :
    Restorable spans (first ++ (inner ++ second)) := by
  have hsubset : formulasAmong (first ++ (inner ++ second)) ⊆
      formulasAmong (first ++ .formula number inner :: second) := by
    intro entry hentry
    simp only [formulasAmong_append, formulasAmong, formulas, List.mem_append,
      List.mem_cons] at hentry ⊢
    tauto
  refine ⟨?_, ?_, fun n ps hmem => h.span_eq n ps (hsubset hmem),
    fun n ps hmem => h.number_lt n ps (hsubset hmem)⟩
  · simpa [sources, source] using h.clean
  · have hnodup := h.nodup
    simp only [numbers_append, numbers_formula_cons] at hnodup ⊢
    exact hnodup.sublist ((List.sublist_cons_self _ _).append_left _)

/-- No other formula beside an outermost formula has its number. -/
theorem Restorable.alone {number : Nat} {first inner second : List TextPart}
    (h : Restorable spans (first ++ .formula number inner :: second)) :
    (∀ others, .formula number others ∉ first) ∧ ∀ others, .formula number others ∉ second := by
  have hnodup := h.nodup
  rw [numbers_append, numbers_formula_cons, List.cons_append, List.nodup_middle,
    List.nodup_cons] at hnodup
  have hnumber := hnodup.1
  simp only [List.mem_append, not_or] at hnumber
  exact ⟨fun _ hmem => hnumber.1 (mem_numbers_of_mem hmem),
    fun _ hmem => hnumber.2.2 (mem_numbers_of_mem hmem)⟩

/-- An outermost formula is put back in the place of its token. -/
theorem replaceFirst_formula {number : Nat} {first inner second : List TextPart}
    (h : Restorable spans (first ++ .formula number inner :: second)) :
    replaceFirst (token number) (shownAll inner)
        (shownAll (first ++ .formula number inner :: second)) =
      shownAll (first ++ (inner ++ second)) := by
  have hshown : shownAll (first ++ .formula number inner :: second) =
      shownAll first ++ (token number ++ shownAll second) := by
    rw [shownAll_append, shownAll_cons, shown]
  cases hcut : cut? (token number) (shownAll (first ++ .formula number inner :: second)) with
  | none =>
      rw [hshown] at hcut
      exact absurd hcut (cut?_append_ne_none _ _ _)
  | some found =>
      obtain ⟨before, after⟩ := found
      have hfound := cut?_eq_some hcut
      rw [List.append_assoc] at hfound
      obtain ⟨first', inner', second', hparts, rfl, rfl⟩ :=
        exists_formula_of_shownAll_eq h.clean hfound
      -- the number is given once, so this is the formula meant
      obtain ⟨hfirst, hsecond⟩ := h.alone
      obtain ⟨rfl, -, rfl⟩ :=
        (List.append_cons_inj_of_notMem (hfirst inner') (hsecond inner')).mp hparts
      rw [replaceFirst, hcut]
      simp

/-- A formula that is not outermost is not put back. -/
theorem replaceFirst_of_not_mem {number : Nat} {parts : List TextPart} (new : Text)
    (hclean : Unmarked (sources parts)) (h : ∀ inner, .formula number inner ∉ parts) :
    replaceFirst (token number) new (shownAll parts) = shownAll parts := by
  cases hcut : cut? (token number) (shownAll parts) with
  | none => rw [replaceFirst, hcut]
  | some found =>
      have hfound := cut?_eq_some hcut
      rw [List.append_assoc] at hfound
      obtain ⟨first, inner, second, rfl, -, -⟩ := exists_formula_of_shownAll_eq hclean hfound
      exact absurd (by simp) (h inner)

/-! ## All formulas put back -/

/-- A formula numbered at least `next` opened by one level. -/
def openedFrom (next : Nat) : TextPart → List TextPart
  | .char c => [.char c]
  | .formula number inner => if next ≤ number then inner else [.formula number inner]

private theorem flatMap_openedFrom_eq_self {next : Nat} {parts : List TextPart}
    (h : ∀ number inner, .formula number inner ∈ parts → number < next) :
    parts.flatMap (openedFrom next) = parts := by
  induction parts with
  | nil => rfl
  | cons part rest ih =>
      rw [List.flatMap_cons, ih fun n ps hmem => h n ps (List.mem_cons_of_mem _ hmem)]
      cases part with
      | char c => rfl
      | formula number inner =>
          have hlt := h number inner (List.mem_cons_self ..)
          simp [openedFrom, Nat.not_le.mpr hlt]

private theorem flatMap_openedFrom_succ {next : Nat} {parts : List TextPart}
    (h : ∀ inner, .formula next inner ∉ parts) :
    parts.flatMap (openedFrom (next + 1)) = parts.flatMap (openedFrom next) := by
  refine List.flatMap_congr fun part hpart => ?_
  cases part with
  | char c => rfl
  | formula number inner =>
      have hne : next ≠ number := fun e => h inner (e ▸ hpart)
      simp only [openedFrom, Nat.succ_le_iff, hne.le_iff_lt]

private theorem number_lt_of_mem {number : Nat} {inner parts : List TextPart}
    (h : Restorable spans parts) (hmem : .formula number inner ∈ parts) :
    number < spans.length := by
  have hspan := h.span_eq number inner (mem_formulasAmong_of_mem hmem)
  exact (List.getElem?_eq_some_iff.mp hspan).1

/-- Restoring opens the outermost formulas from a number on, each by one level. -/
theorem restoreFrom_shownAll (next : Nat) {parts : List TextPart} (h : Restorable spans parts) :
    restoreFrom next (spans.drop next) (shownAll parts) =
      shownAll (parts.flatMap (openedFrom next)) := by
  induction hleft : spans.length - next generalizing next parts with
  | zero =>
      have hle : spans.length ≤ next := by omega
      rw [List.drop_eq_nil_of_le hle, restoreFrom, flatMap_openedFrom_eq_self]
      exact fun number inner hmem => (number_lt_of_mem h hmem).trans_le hle
  | succ left ih =>
      have hlt : next < spans.length := by omega
      rw [List.drop_eq_getElem_cons hlt, restoreFrom]
      by_cases hmem : ∃ inner, .formula next inner ∈ parts
      · obtain ⟨inner, hmem⟩ := hmem
        obtain ⟨first, second, rfl⟩ := List.append_of_mem hmem
        have hentry := mem_formulasAmong_of_mem hmem
        have hspan : spans[next] = shownAll inner := by
          simpa [hlt] using h.span_eq next inner hentry
        rw [hspan, replaceFirst_formula h, ih (next + 1) h.opened (by omega)]
        obtain ⟨hfirst, hsecond⟩ := h.alone
        -- what the formula holds has smaller numbers, whose turn is over
        have hinner : inner.flatMap (openedFrom (next + 1)) = inner :=
          flatMap_openedFrom_eq_self fun number ps hps =>
            (h.number_lt next inner hentry number (mem_numbers_of_mem hps)).trans
              (Nat.lt_succ_self next)
        rw [List.flatMap_append, List.flatMap_append, List.flatMap_append, List.flatMap_cons,
          flatMap_openedFrom_succ hfirst, flatMap_openedFrom_succ hsecond, hinner]
        simp [openedFrom]
      · have hnone : ∀ inner, .formula next inner ∉ parts := fun inner hinner =>
          hmem ⟨inner, hinner⟩
        rw [replaceFirst_of_not_mem _ h.clean hnone, ih (next + 1) h (by omega),
          flatMap_openedFrom_succ hnone]

/-! ## The round trip -/

private theorem sources_flatMap_openedFrom_zero (parts : List TextPart) :
    sources (parts.flatMap (openedFrom 0)) = sources parts := by
  induction parts with
  | nil => rfl
  | cons part rest ih =>
      cases part <;> simp [openedFrom, sources, source, ih]

/-- No formula shows up after opening by one level exactly if no formula holds another. -/
private theorem no_formula_opened_iff {parts : List TextPart} :
    (∀ number inner, .formula number inner ∉ parts.flatMap (openedFrom 0)) ↔
      ∀ outer held, (outer, held) ∈ formulasAmong parts →
        ∀ number inner, .formula number inner ∉ held := by
  constructor
  · intro h outer held hmem number inner hheld
    obtain ⟨top, topParts, htop, hentry⟩ := mem_formulasAmong_iff.mp hmem
    have hopened : ∀ n ps, .formula n ps ∉ topParts := fun n ps hps =>
      h n ps (List.mem_flatMap.mpr ⟨_, htop, by simpa [openedFrom] using hps⟩)
    rcases hentry with heq | hentry
    · obtain ⟨rfl, rfl⟩ := Prod.mk.inj heq
      exact hopened number inner hheld
    · obtain ⟨n, ps, hps, -⟩ := mem_formulasAmong_iff.mp hentry
      exact hopened n ps hps
  · intro h number inner hmem
    obtain ⟨part, hpart, hopened⟩ := List.mem_flatMap.mp hmem
    cases part with
    | char c => simp [openedFrom] at hopened
    | formula outer held =>
        exact h outer held (mem_formulasAmong_of_mem hpart) number inner
          (by simpa [openedFrom] using hopened)

/-- A restored text holds an at sign exactly if a formula is still not put back. -/
private theorem shownAll_eq_sources_iff {parts : List TextPart} (hclean : Unmarked (sources parts)) :
    shownAll parts = sources parts ↔ ∀ number inner, .formula number inner ∉ parts := by
  constructor
  · intro h number inner hmem
    exact hclean.at_not_mem (h ▸ at_mem_shownAll hmem)
  · intro h
    rw [eq_map_char_of_no_formula h, shownAll_map_char, sources_map_char]

/-- Restoring what guarding has made of a text gives the text back exactly if no formula
was taken into another one: then no span holds a token. -/
theorem restore_guard_eq_iff {t : Text} (ht : Unmarked t) :
    restore (guard t).spans (guard t).text = t ↔
      ∀ span ∈ (guard t).spans, ∀ number, ¬ token number <:+: span := by
  obtain ⟨parts, rfl, hstands⟩ := exists_stands_guard t
  have hrestorable := hstands.restorable ht
  have hrestored : restore (guard (sources parts)).spans (guard (sources parts)).text =
      shownAll (parts.flatMap (openedFrom 0)) := by
    rw [restore, hstands.text_eq]
    simpa using restoreFrom_shownAll 0 hrestorable
  have hsources := sources_flatMap_openedFrom_zero parts
  have hopened : shownAll (parts.flatMap (openedFrom 0)) = sources parts ↔
      ∀ number inner, .formula number inner ∉ parts.flatMap (openedFrom 0) := by
    rw [← hsources] at ht
    rw [← shownAll_eq_sources_iff ht, hsources]
  rw [hrestored, hopened, no_formula_opened_iff]
  constructor
  · intro h span hspan number htoken
    obtain ⟨place, hplace⟩ := List.getElem?_of_mem hspan
    have hnumber : place ∈ numbers parts :=
      hstands.numbers_perm.mem_iff.mpr
        (List.mem_range.mpr (List.getElem?_eq_some_iff.mp hplace).1)
    obtain ⟨⟨place, held⟩, hmem, rfl⟩ := List.mem_map.mp hnumber
    obtain rfl : span = shownAll held :=
      Option.some.inj (hplace.symm.trans (hstands.span_eq place held hmem))
    -- a span without formulas is a piece of the text itself
    have hplain : Unmarked (sources held) := ht.within (sources_infix_of_mem hmem)
    rw [(shownAll_eq_sources_iff hplain).mpr (h place held hmem)] at htoken
    exact hplain.at_not_mem (htoken.subset (at_mem_token number))
  · intro h outer held hmem number inner hheld
    have hspan := List.mem_of_getElem? (hstands.span_eq outer held hmem)
    obtain ⟨before, after, rfl⟩ := List.append_of_mem hheld
    refine h _ hspan number ⟨shownAll before, shownAll after, ?_⟩
    simp [shown]

/-- A formula in dollars inside brackets is taken first and is not put back. -/
theorem restore_guard_nested :
    Unmarked "\\[ $$x$$ \\]".toList ∧
      restore (guard "\\[ $$x$$ \\]".toList).spans (guard "\\[ $$x$$ \\]".toList).text ≠
        "\\[ $$x$$ \\]".toList :=
  ⟨⟨by decide, by decide⟩, by decide +kernel⟩

/-- Formulas of all three kinds side by side are put back. -/
theorem restore_guard_side_by_side :
    Unmarked "$$x$$ \\[y\\] $z$".toList ∧
      (restore (guard "$$x$$ \\[y\\] $z$".toList).spans (guard "$$x$$ \\[y\\] $z$".toList).text =
          "$$x$$ \\[y\\] $z$".toList ↔
        ∀ span ∈ (guard "$$x$$ \\[y\\] $z$".toList).spans, ∀ number, ¬ token number <:+: span) :=
  have clean : Unmarked "$$x$$ \\[y\\] $z$".toList := ⟨by decide, by decide⟩
  ⟨clean, restore_guard_eq_iff clean⟩

end PaperHtml.Math
