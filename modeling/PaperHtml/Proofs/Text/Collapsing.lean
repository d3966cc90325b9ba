import Mathlib
import PaperHtml.Proofs.Text.Scanning

/-!
# Collapsed texts

Collapsing makes every run of blanks one space.  What it leaves are the texts
whose only blanks are single spaces, and these it does not change.

Blanks at an end of a text are a run as any other, so collapsing never takes them
away: it leaves a space there (`collapseBlanks_padded`), and a collapsed text is
trimmed if and only if the text was (`trim_collapseBlanks_eq_self_iff`).
-/

namespace PaperHtml.Text

/-- A text whose only blanks are single spaces. -/
structure Collapsed (t : Text) : Prop where
  space : ∀ c ∈ t, isBlank c = true → c = ' '
  single : ¬ [' ', ' '] <:+: t

instance (t : Text) : Decidable (Collapsed t) :=
  decidable_of_iff
    ((t.all fun c => decide (isBlank c = true → c = ' ')) = true ∧ ¬ [' ', ' '] <:+: t)
    ⟨fun h => ⟨fun c hc => of_decide_eq_true (List.all_eq_true.mp h.1 c hc), h.2⟩,
      fun h => ⟨List.all_eq_true.mpr fun c hc => decide_eq_true (h.space c hc), h.single⟩⟩

theorem collapsed_nil : Collapsed [] := by decide

theorem collapsed_of_not_isBlank {t : Text} (h : ∀ c ∈ t, isBlank c = false) : Collapsed t := by
  refine ⟨fun c hc hblank => ?_, fun hpair => ?_⟩
  · rw [h c hc] at hblank
    cases hblank
  · have hspace : ' ' ∈ t := hpair.subset (List.mem_cons_self ..)
    exact absurd (h ' ' hspace) (by decide)

/-- Two spaces at the front of a text are its first character and the one behind it. -/
private theorem pair_prefix_cons {c : Char} {t : Text} :
    [' ', ' '] <+: c :: t ↔ c = ' ' ∧ t.head? = some ' ' := by
  cases t with
  | nil => simp
  | cons d rest => simp [List.cons_prefix_cons, eq_comm]

theorem collapsed_cons {c : Char} {t : Text} :
    Collapsed (c :: t) ↔
      (isBlank c = true → c = ' ') ∧ (c = ' ' → t.head? ≠ some ' ') ∧ Collapsed t := by
  constructor
  · intro h
    refine ⟨h.space c (List.mem_cons_self ..), fun hc hhead => ?_,
      fun d hd => h.space d (List.mem_cons_of_mem _ hd), fun hpair => ?_⟩
    · exact h.single (pair_prefix_cons.mpr ⟨hc, hhead⟩).isInfix
    · exact h.single (hpair.trans (List.suffix_cons c t).isInfix)
  · rintro ⟨hc, hnext, ht⟩
    refine ⟨fun d hd hblank => ?_, fun hpair => ?_⟩
    · rcases List.mem_cons.mp hd with rfl | hd
      · exact hc hblank
      · exact ht.space d hd hblank
    · rcases List.infix_cons_iff.mp hpair with hfront | hinside
      · obtain ⟨hspace, hhead⟩ := pair_prefix_cons.mp hfront
        exact hnext hspace hhead
      · exact ht.single hinside

/-- A collapsed text is not changed, and neither is one that goes on behind a space. -/
theorem collapseFrom_of_collapsed {t : Text} (h : Collapsed t) :
    collapseFrom false t = t ∧ (t.head? ≠ some ' ' → collapseFrom true t = t) := by
  induction t with
  | nil => exact ⟨rfl, fun _ => rfl⟩
  | cons c t ih =>
      obtain ⟨hspace, hnext, ht⟩ := collapsed_cons.mp h
      obtain ⟨hfalse, htrue⟩ := ih ht
      by_cases hc : isBlank c = true
      · obtain rfl := hspace hc
        simp [collapseFrom, hc, htrue (hnext rfl)]
      · simp [collapseFrom, hc, hfalse]

theorem collapseBlanks_of_collapsed {t : Text} (h : Collapsed t) : collapseBlanks t = t :=
  (collapseFrom_of_collapsed h).1

/-- What is left of a text is collapsed, and begins with no space inside a run of blanks. -/
private theorem collapsed_collapseFrom (inRun : Bool) (t : Text) :
    Collapsed (collapseFrom inRun t) ∧
      (inRun = true → (collapseFrom inRun t).head? ≠ some ' ') := by
  induction t generalizing inRun with
  | nil => exact ⟨collapsed_nil, by simp [collapseFrom]⟩
  | cons c t ih =>
      by_cases hc : isBlank c = true
      · cases inRun with
        | true => simpa [collapseFrom, hc] using ih true
        | false =>
            obtain ⟨hcollapsed, hhead⟩ := ih true
            simpa [collapseFrom, hc, collapsed_cons] using ⟨hhead rfl, hcollapsed⟩
      · have hspace : c ≠ ' ' := by
          rintro rfl
          exact hc (by decide)
        simpa [collapseFrom, hc, collapsed_cons, hspace] using (ih false).1

/-- Collapsing leaves no blanks but single spaces. -/
theorem collapsed_collapseBlanks (t : Text) : Collapsed (collapseBlanks t) :=
  (collapsed_collapseFrom false t).1

/-- A collapsed text of blanks is a space at most. -/
theorem Collapsed.eq_nil_or_space {t : Text} (h : Collapsed t)
    (hblank : ∀ c ∈ t, isBlank c = true) : t = [] ∨ t = [' '] := by
  match t with
  | [] => exact .inl rfl
  | [c] => exact .inr (by rw [h.space c (by simp) (hblank c (by simp))])
  | c :: d :: rest =>
      have hc := h.space c (by simp) (hblank c (by simp))
      have hd := h.space d (by simp) (hblank d (by simp))
      exact absurd ⟨[], rest, by simp [hc, hd]⟩ h.single

/-! ## Texts beside blanks -/

theorem not_mem_of_isBlankText {gap : Text} (hgap : isBlankText gap = true) {c : Char}
    (hc : isBlank c = false) : c ∉ gap := fun hmem => by
  rw [List.all_eq_true.mp hgap c hmem] at hc
  cases hc

/-- Whether a text ends inside a run of blanks, if it begins inside of one or not. -/
def inRunAfter (inRun : Bool) (t : Text) : Bool := t.foldl (fun _ c => isBlank c) inRun

theorem collapseFrom_append (inRun : Bool) (t u : Text) :
    collapseFrom inRun (t ++ u) = collapseFrom inRun t ++ collapseFrom (inRunAfter inRun t) u := by
  induction t generalizing inRun with
  | nil => rfl
  | cons c t ih =>
      by_cases hc : isBlank c = true
      · cases inRun <;> simp [collapseFrom, inRunAfter, hc, ih]
      · simp [collapseFrom, inRunAfter, hc, ih]

/-- The last character decides whether a text ends inside a run. -/
theorem inRunAfter_eq (inRun : Bool) (t : Text) :
    inRunAfter inRun t = (t.getLast?.map isBlank).getD inRun := by
  induction t generalizing inRun with
  | nil => rfl
  | cons c t ih =>
      have hstep : inRunAfter inRun (c :: t) = inRunAfter (isBlank c) t := rfl
      rw [hstep, ih, List.getLast?_cons]
      cases t.getLast? <;> rfl

theorem collapseFrom_of_blank {gap : Text} (h : isBlankText gap = true) (inRun : Bool) :
    collapseFrom inRun gap = if gap = [] ∨ inRun = true then [] else [' '] := by
  have hrun (gap : Text) (h : isBlankText gap = true) : collapseFrom true gap = [] := by
    induction gap with
    | nil => rfl
    | cons c gap ih =>
        rw [isBlankText, List.all_cons, Bool.and_eq_true] at h
        rw [collapseFrom, if_pos h.1, if_pos rfl, ih h.2]
  cases inRun with
  | true => simp [hrun gap h]
  | false =>
      cases gap with
      | nil => rfl
      | cons c gap =>
          rw [isBlankText, List.all_cons, Bool.and_eq_true] at h
          simp [collapseFrom, h.1, hrun gap h.2]

/-- A character that is no blank stays where it is. -/
theorem collapseBlanks_append_cons {c : Char} (hc : isBlank c = false) (t rest : Text) :
    collapseBlanks (t ++ c :: rest) = collapseBlanks t ++ c :: collapseBlanks rest := by
  rw [collapseBlanks, collapseFrom_append, collapseFrom, if_neg (by simp [hc])]
  rfl

theorem collapseBlanks_gap_append {gap : Text} (h : isBlankText gap = true) (t : Text) :
    collapseBlanks (gap ++ t) =
      (if gap = [] ∨ t.head?.any isBlank = true then [] else [' ']) ++ collapseBlanks t := by
  unfold collapseBlanks
  cases gap with
  | nil => simp
  | cons c gap =>
      have hrun : inRunAfter false (c :: gap) = true := by
        rw [inRunAfter_eq, List.getLast?_eq_some_getLast (List.cons_ne_nil _ _), Option.map_some,
          Option.getD_some]
        exact List.all_eq_true.mp h _ (List.getLast_mem _)
      rw [collapseFrom_append, collapseFrom_of_blank h, hrun]
      cases t with
      | nil => simp [collapseFrom]
      | cons d t => by_cases hd : isBlank d = true <;> simp [collapseFrom, hd]

theorem collapseBlanks_append_gap {gap : Text} (h : isBlankText gap = true) (t : Text) :
    collapseBlanks (t ++ gap) =
      collapseBlanks t ++ if gap = [] ∨ t.getLast?.any isBlank = true then [] else [' '] := by
  have hrun : inRunAfter false t = t.getLast?.any isBlank := by
    rw [inRunAfter_eq]
    cases t.getLast? <;> rfl
  rw [collapseBlanks, collapseFrom_append, collapseFrom_of_blank h, hrun]
  rfl

/-- Blanks put at the ends of a text do not show if and only if there are none, or others beside
them. -/
theorem collapseBlanks_padded {front back : Text} (hfront : isBlankText front = true)
    (hback : isBlankText back = true) (t : Text) :
    collapseBlanks (front ++ (t ++ back)) = collapseBlanks t ↔
      (front = [] ∨ t.head?.any isBlank = true) ∧ (back = [] ∨ t.getLast?.any isBlank = true) := by
  rw [collapseBlanks_gap_append hfront, collapseBlanks_append_gap hback]
  have hsame (before after t : Text) : before ++ (t ++ after) = t ↔ before = [] ∧ after = [] := by
    constructor
    · intro h
      have hlength := congrArg List.length h
      simp only [List.length_append] at hlength
      exact ⟨List.length_eq_zero_iff.mp (by omega), List.length_eq_zero_iff.mp (by omega)⟩
    · rintro ⟨rfl, rfl⟩
      simp
  have hgap (p : Prop) [Decidable p] : (if p then [] else [' '] : Text) = [] ↔ p := by
    split <;> simp_all
  rw [hsame, hgap, hgap]
  cases t with
  | nil => cases back <;> simp
  | cons c t => rw [List.cons_append, List.head?_cons, List.head?_cons]

theorem collapseBlanks_eq_nil_iff {t : Text} : collapseBlanks t = [] ↔ t = [] := by
  constructor
  · intro h
    cases t with
    | nil => rfl
    | cons c t => by_cases hc : isBlank c = true <;> simp [collapseBlanks, collapseFrom, hc] at h
  · rintro rfl
    rfl

/-! ## Trimmed texts -/

theorem trim_eq_self {t : Text} (hhead : ∀ c ∈ t.head?, isBlank c = false)
    (hlast : ∀ c ∈ t.getLast?, isBlank c = false) : trim t = t := by
  have hstart : trimStart t = t :=
    trimStart_eq_self fun c rest ht => hhead c (by rw [ht]; rfl)
  have hend : trimStart t.reverse = t.reverse :=
    trimStart_eq_self fun c rest ht => hlast c (by rw [← List.head?_reverse, ht]; rfl)
  rw [trim, hstart, trimEnd, ← trimStart, hend, List.reverse_reverse]

theorem trim_padded {front back : Text} (hfront : isBlankText front = true)
    (hback : isBlankText back = true) (t : Text) : trim (front ++ (t ++ back)) = trim t := by
  rw [trim, trimStart_append (List.all_eq_true.mp hfront)]
  by_cases ht : isBlankText t = true
  · have hall : isBlankText (t ++ back) = true := by
      rw [isBlankText, List.all_append, ← isBlankText, ← isBlankText, ht, hback]
      rfl
    rw [trimStart_eq_nil_iff.mpr hall, trim, trimStart_eq_nil_iff.mpr ht]
  · have hsolid : (trimStart t).isEmpty = false := by
      rw [List.isEmpty_eq_false_iff]
      exact trimStart_ne_nil (by simpa using ht)
    have hstart : trimStart (t ++ back) = trimStart t ++ back := by
      unfold trimStart at hsolid ⊢
      rw [List.dropWhile_append, hsolid]
      rfl
    rw [hstart, trimEnd_append, if_pos (trimEnd_eq_nil_iff.mpr hback), trim]

/-- What is trimmed from a text are blanks at its ends. -/
theorem exists_padding (t : Text) : ∃ front back,
    isBlankText front = true ∧ isBlankText back = true ∧ t = front ++ (trim t ++ back) := by
  obtain ⟨front, hfront, ht⟩ := exists_trimStart t
  obtain ⟨back, hback, hstart⟩ := exists_trimEnd (trimStart t)
  refine ⟨front, back, List.all_eq_true.mpr hfront, hback, ?_⟩
  rw [trim, ← hstart]
  exact ht

theorem trim_collapseBlanks (t : Text) : trim (collapseBlanks t) = collapseBlanks (trim t) := by
  have hkept : trim (collapseBlanks (trim t)) = collapseBlanks (trim t) := by
    apply trim_eq_self
    · intro c hc
      cases ht : trim t with
      | nil =>
          rw [ht] at hc
          cases hc
      | cons d rest =>
          have hd : isBlank d = false := isBlank_head_trim (by rw [ht]; rfl)
          rw [ht, collapseBlanks, collapseFrom, if_neg (by simp [hd])] at hc
          cases hc
          exact hd
    · intro c hc
      rcases List.eq_nil_or_concat (trim t) with ht | ⟨rest, d, ht⟩
      · rw [ht] at hc
        cases hc
      · have hd : isBlank d = false := by
          apply isBlank_getLast_trimEnd (t := trimStart t)
          rw [← trim, ht]
          simp
        rw [ht, List.concat_eq_append, collapseBlanks, collapseFrom_append] at hc
        have hlast : d = c := by simpa [collapseFrom, hd] using hc
        rwa [← hlast]
  obtain ⟨front, back, hfront, hback, ht⟩ := exists_padding t
  conv_lhs => rw [ht, collapseBlanks_gap_append hfront, collapseBlanks_append_gap hback]
  rw [trim_padded (by split <;> rfl) (by split <;> rfl), hkept]

theorem trim_collapseBlanks_eq_self_iff {t : Text} :
    trim (collapseBlanks t) = collapseBlanks t ↔ trim t = t := by
  constructor
  · intro h
    obtain ⟨front, back, hfront, hback, ht⟩ := exists_padding t
    rw [trim_collapseBlanks] at h
    conv_rhs at h => rw [ht]
    obtain ⟨hleft, hright⟩ := (collapseBlanks_padded hfront hback (trim t)).mp h.symm
    have hhead : (trim t).head?.any isBlank = false := by
      cases hc : (trim t).head? with
      | none => rfl
      | some c => exact isBlank_head_trim hc
    have hlast : (trim t).getLast?.any isBlank = false := by
      cases hc : (trim t).getLast? with
      | none => rfl
      | some c => exact isBlank_getLast_trimEnd hc
    rw [hhead] at hleft
    rw [hlast] at hright
    have hfront' : front = [] := hleft.resolve_right Bool.false_ne_true
    have hback' : back = [] := hright.resolve_right Bool.false_ne_true
    rw [hfront', hback', List.nil_append, List.append_nil] at ht
    exact ht.symm
  · intro h
    rw [trim_collapseBlanks, h]

end PaperHtml.Text
