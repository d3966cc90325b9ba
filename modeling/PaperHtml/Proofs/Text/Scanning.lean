import Mathlib
import PaperHtml.Text.Blank
import PaperHtml.Text.Scan

/-!
# Texts put side by side

What is found in a text that consists of two texts: where it is cut, which of
its lines belong to which text, what trimming leaves of it, and what a scan
recognises.

## Strategy

All of these are about the seam between the two texts.  A mark is first found in
the first text unless it lies across the seam, for which a mark without its last
character is long enough to look for; lines part at a line feed; and a scan of
both texts is the scans of the two as long as nothing that is recognised in the
first text reaches over the seam.
-/

namespace PaperHtml

namespace Text

/-- What holds where any end of a text begins holds at its front and where any end of the rest
begins. -/
theorem of_forall_suffix_cons {p : Text → Prop} {c : Char} {t : Text}
    (h : ∀ back, back <:+ c :: t → back ≠ [] → p back) :
    p (c :: t) ∧ ∀ back, back <:+ t → back ≠ [] → p back :=
  ⟨h (c :: t) (List.suffix_refl _) (List.cons_ne_nil _ _),
    fun back hback => h back (hback.trans (List.suffix_cons c t))⟩

/-! ## Cutting -/

/-- A text that does not hold the mark, even with the beginning of what follows, is passed over
when the whole is cut. -/
theorem cut?_append {mark t rest : Text}
    (h : ¬ mark <:+: t ++ rest.take (mark.length - 1)) :
    cut? mark (t ++ rest) = (cut? mark rest).map fun found => (t ++ found.1, found.2) := by
  induction t with
  | nil => cases hcut : cut? mark rest <;> simp [hcut]
  | cons c t ih =>
      have htail : ¬ mark <:+: t ++ rest.take (mark.length - 1) := fun hmark =>
        h (hmark.trans (List.suffix_cons c _).isInfix)
      have hhere : dropPrefix? mark (c :: (t ++ rest)) = none := by
        cases hdrop : dropPrefix? mark (c :: (t ++ rest)) with
        | none => rfl
        | some after =>
            -- all of the mark but its last character is what can lie behind the seam
            have hsplit := dropPrefix?_eq_some_iff.mp hdrop
            have hmark : mark <+: (c :: t) ++ rest.take (mark.length - 1) := by
              have hwhole : mark <+: (c :: t) ++ rest := ⟨after, by simpa using hsplit.symm⟩
              rw [List.prefix_iff_eq_take] at hwhole ⊢
              conv_lhs => rw [hwhole]
              rw [List.take_append, List.take_append, List.take_take]
              congr 2
              simp only [List.length_cons]
              omega
            exact absurd hmark.isInfix h
      rw [List.cons_append, cut?_cons, hhere]
      simp only [ih htail, Option.map_map]
      rfl

theorem cut?_eq_none_iff {mark t : Text} : cut? mark t = none ↔ ¬ mark <:+: t := by
  constructor
  · rintro h ⟨before, after, rfl⟩
    rw [List.append_assoc] at h
    exact cut?_append_ne_none mark before after h
  · intro h
    cases hcut : cut? mark t with
    | none => rfl
    | some found => exact absurd ⟨found.1, found.2, (cut?_eq_some hcut).symm⟩ h

/-- A text without the first character of the mark is passed over. -/
theorem cut?_append_of_not_mem {first : Char} {mark t : Text} (h : first ∉ t) (rest : Text) :
    cut? (first :: mark) (t ++ rest) =
      (cut? (first :: mark) rest).map fun found => (t ++ found.1, found.2) := by
  induction t with
  | nil => cases hcut : cut? (first :: mark) rest <;> simp [hcut]
  | cons c t ih =>
      rw [List.mem_cons, not_or] at h
      rw [List.cons_append, cut?_cons, dropPrefix?, if_neg h.1, ih h.2, Option.map_map]
      rfl

/-- What follows a text does not change where it is cut. -/
theorem cut?_append_of_some {mark t before after : Text} (h : cut? mark t = some (before, after))
    (rest : Text) : cut? mark (t ++ rest) = some (before, after ++ rest) := by
  induction t generalizing before with
  | nil =>
      simp only [cut?, breakAt, Option.map_eq_some_iff, Prod.mk.injEq] at h
      obtain ⟨found, hfound, rfl, rfl⟩ := h
      obtain ⟨rfl, rfl⟩ : mark = [] ∧ found = [] := by
        simpa using dropPrefix?_eq_some_iff.mp hfound
      cases rest with
      | nil => rfl
      | cons c rest => rw [List.nil_append, cut?_cons]; rfl
  | cons c t ih =>
      rw [cut?_cons] at h
      rw [List.cons_append, cut?_cons]
      cases hdrop : dropPrefix? mark (c :: t) with
      | some found =>
          have hsplit := dropPrefix?_eq_some_iff.mp hdrop
          have hmore : dropPrefix? mark (c :: (t ++ rest)) = some (found ++ rest) := by
            rw [dropPrefix?_eq_some_iff, ← List.cons_append, hsplit, List.append_assoc]
          simp only [hdrop, Option.some.injEq, Prod.mk.injEq] at h
          obtain ⟨rfl, rfl⟩ := h
          simp only [hmore]
      | none =>
          simp only [hdrop, Option.map_eq_some_iff, Prod.mk.injEq] at h
          obtain ⟨found, hfound, rfl, rfl⟩ := h
          have hmore : dropPrefix? mark (c :: (t ++ rest)) = none := by
            rw [Option.eq_none_iff_forall_ne_some] at hdrop ⊢
            intro later hlater
            -- the mark lies within the first text, so it cannot end behind the seam
            have hlength : mark.length ≤ (c :: t).length := by
              have hinside := congrArg List.length (cut?_eq_some hfound)
              simp only [List.length_append, List.length_cons] at hinside ⊢
              omega
            have hwhole : mark <+: (c :: t) ++ rest :=
              ⟨later, (dropPrefix?_eq_some_iff.mp hlater).symm⟩
            obtain ⟨after, hafter⟩ :=
              List.prefix_of_prefix_length_le hwhole (List.prefix_append _ _) hlength
            exact hdrop after (dropPrefix?_eq_some_iff.mpr hafter.symm)
          simp only [hmore, ih hfound]
          rfl

/-- A mark without a separator lies on one side of it. -/
theorem infix_append_cons {mark before after : Text} {sep : Char} (hsep : sep ∉ mark)
    (h : mark <:+: before ++ sep :: after) : mark <:+: before ∨ mark <:+: after := by
  have hempty {front rest : Text} (hfront : front <+: sep :: rest) (hmem : sep ∉ front) :
      front = [] := by
    cases front with
    | nil => rfl
    | cons c front =>
        obtain ⟨rfl, -⟩ := List.cons_prefix_cons.mp hfront
        exact absurd (List.mem_cons_self ..) hmem
  rcases List.infix_append_iff.mp h with hbefore | hbehind | ⟨front, behind, rfl, hfront, hbehind⟩
  · exact .inl hbefore
  · rcases List.infix_cons_iff.mp hbehind with hprefix | hafter
    · rw [hempty hprefix hsep]
      exact .inl List.nil_infix
    · exact .inr hafter
  · rw [hempty hbehind fun hmem => hsep (List.mem_append_right _ hmem), List.append_nil]
    exact .inl hfront.isInfix

/-- What follows the first place of a character does not change the cut. -/
theorem cutChar?_append_of_mem {mark : Char} {t : Text} (h : mark ∈ t) (rest : Text) :
    cutChar? mark (t ++ rest) =
      (cutChar? mark t).map fun found => (found.1, found.2 ++ rest) := by
  obtain ⟨before, after, rfl, hbefore⟩ := List.eq_append_cons_of_mem h
  rw [List.append_assoc, List.cons_append, cutChar?_append hbefore, cutChar?_append hbefore]
  rfl

/-! ## Lines -/

/-- The parts of two texts with a separator between them are those of the one and of the other. -/
theorem splitOn_append (sep : Char) (before after : Text) :
    splitOn sep (before ++ sep :: after) = splitOn sep before ++ splitOn sep after := by
  induction before with
  | nil => simp [splitOn]
  | cons c before ih =>
      simp only [List.cons_append, splitOn, ih]
      split
      · rfl
      · cases hparts : splitOn sep before with
        | nil => exact absurd hparts (splitOn_ne_nil sep before)
        | cons part parts => rfl

theorem splitOn_of_not_mem {sep : Char} {t : Text} (h : sep ∉ t) : splitOn sep t = [t] := by
  induction t with
  | nil => rfl
  | cons c t ih =>
      rw [List.mem_cons, not_or] at h
      have hc : c ≠ sep := fun e => h.1 e.symm
      rw [splitOn, if_neg hc, ih h.2]

theorem lines_append_cons {line : Text} (h : '\n' ∉ line) (rest : Text) :
    lines (line ++ '\n' :: rest) = line :: lines rest := by
  rw [lines, splitOn_append, splitOn_of_not_mem h]
  rfl

/-- A text is put together from its lines. -/
theorem unlines_lines (t : Text) : unlines (lines t) = t := by
  unfold unlines join lines
  induction t with
  | nil => rfl
  | cons c t ih =>
      cases hparts : splitOn '\n' t with
      | nil => exact absurd hparts (splitOn_ne_nil '\n' t)
      | cons part parts =>
          rw [hparts] at ih
          by_cases hc : c = '\n'
          · rw [splitOn, if_pos hc, hparts, List.intercalate_cons_cons, ih, hc]
            rfl
          · rw [splitOn, if_neg hc, hparts]
            cases parts with
            | nil => simpa using ih
            | cons next parts =>
                rw [List.intercalate_cons_cons] at ih ⊢
                rw [List.cons_append, List.cons_append, ih]

/-- A change of lines that leaves each line of a text as it is. -/
theorem unlines_map_lines_eq_self {edit : Text → Text} {t : Text}
    (h : ∀ line ∈ lines t, edit line = line) : unlines ((lines t).map edit) = t := by
  rw [List.map_congr_left h, List.map_id', unlines_lines]

/-- Lines below lines stand behind a line feed. -/
theorem unlines_append {above below : List Text} (habove : above ≠ []) (hbelow : below ≠ []) :
    unlines (above ++ below) = unlines above ++ '\n' :: unlines below := by
  unfold unlines join
  induction above with
  | nil => exact absurd rfl habove
  | cons line above ih =>
      cases above with
      | nil =>
          obtain ⟨next, below, rfl⟩ := List.exists_cons_of_ne_nil hbelow
          simp [List.intercalate_cons_cons]
      | cons next above =>
          have hmore := ih (List.cons_ne_nil _ _)
          rw [List.cons_append] at hmore
          rw [List.cons_append, List.cons_append, List.intercalate_cons_cons,
            List.intercalate_cons_cons, hmore]
          simp

@[simp] theorem unlines_singleton (line : Text) : unlines [line] = line := by
  simp [unlines, join]

theorem unlines_cons (line : Text) {below : List Text} (hbelow : below ≠ []) :
    unlines (line :: below) = line ++ '\n' :: unlines below := by
  rw [← List.singleton_append, unlines_append (List.cons_ne_nil _ _) hbelow, unlines_singleton]

/-- Texts joined by a separator have the parts of the texts. -/
theorem splitOn_join (sep : Char) {texts : List Text} (h : texts ≠ []) :
    splitOn sep (join [sep] texts) = texts.flatMap (splitOn sep) := by
  unfold join
  induction texts with
  | nil => exact absurd rfl h
  | cons t texts ih =>
      cases texts with
      | nil => simp
      | cons next texts =>
          rw [List.intercalate_cons_cons, List.append_assoc, List.singleton_append, splitOn_append,
            ih (List.cons_ne_nil _ _)]
          exact List.flatMap_cons.symm

theorem lines_unlines {ls : List Text} (hne : ls ≠ []) (h : ∀ line ∈ ls, '\n' ∉ line) :
    lines (unlines ls) = ls := by
  rw [lines, unlines, splitOn_join _ hne,
    List.flatMap_congr fun line hline => splitOn_of_not_mem (h line hline),
    List.flatMap_singleton']

/-- A line of texts put below one another is a line of one of them, or empty if there are none. -/
theorem mem_lines_unlines {texts : List Text} {line : Text} (h : line ∈ lines (unlines texts)) :
    (∃ t ∈ texts, line ∈ lines t) ∨ line = [] := by
  cases texts with
  | nil => exact .inr (by simpa [unlines, join, lines, splitOn] using h)
  | cons t texts =>
      rw [unlines, lines, splitOn_join _ (List.cons_ne_nil _ _), List.mem_flatMap] at h
      exact .inl h

/-! ## Trimming -/

theorem trimStart_append {gap : Text} (hgap : ∀ c ∈ gap, isBlank c = true) (rest : Text) :
    trimStart (gap ++ rest) = trimStart rest :=
  List.dropWhile_append_of_pos hgap

theorem trimStart_cons {c : Char} (h : isBlank c = false) (rest : Text) :
    trimStart (c :: rest) = c :: rest := by
  simp [trimStart, h]

/-- A text begins with the blanks that are trimmed from its front. -/
theorem exists_trimStart (t : Text) : ∃ gap, (∀ c ∈ gap, isBlank c = true) ∧ t = gap ++ trimStart t :=
  ⟨t.takeWhile isBlank, fun _ hc => List.mem_takeWhile_imp hc, List.takeWhile_append_dropWhile.symm⟩

/-- What is left of a text by trimming stands in it. -/
theorem infix_of_trim (t : Text) : trim t <:+: t :=
  (trimEnd_isPrefix (trimStart t)).isInfix.trans (List.dropWhile_suffix isBlank).isInfix

theorem trimEnd_append (t rest : Text) :
    trimEnd (t ++ rest) = if trimEnd rest = [] then trimEnd t else t ++ trimEnd rest := by
  unfold trimEnd
  rw [List.reverse_append, List.dropWhile_append]
  by_cases hrest : rest.reverse.dropWhile isBlank = [] <;> simp [hrest]

/-- Trimming ends at a character that is no blank. -/
theorem trimStart_append_cons {c : Char} (hc : isBlank c = false) (t rest : Text) :
    trimStart (t ++ c :: rest) = trimStart t ++ c :: rest := by
  unfold trimStart
  rw [List.dropWhile_append]
  split
  · rename_i hempty
    rw [List.isEmpty_iff.mp hempty, List.nil_append]
    exact trimStart_cons hc rest
  · rfl

theorem trimEnd_append_cons {c : Char} (hc : isBlank c = false) (t rest : Text) :
    trimEnd (t ++ c :: rest) = t ++ c :: trimEnd rest := by
  have hend : trimEnd (c :: rest) = c :: trimEnd rest := by
    rw [← List.singleton_append, trimEnd_append]
    split
    · rename_i hempty
      rw [hempty]
      exact congrArg List.reverse (trimStart_cons hc [])
    · rfl
  rw [trimEnd_append, hend, if_neg (List.cons_ne_nil _ _)]

theorem trim_append_cons {c : Char} (hc : isBlank c = false) (t rest : Text) :
    trim (t ++ c :: rest) = trimStart t ++ c :: trimEnd rest := by
  rw [trim, trimStart_append_cons hc, trimEnd_append_cons hc]

/-- Blanks at the end go with their lines, and the line in front of them is trimmed. -/
theorem trimEnd_append_lineFeed (line t : Text) : trimEnd (line ++ '\n' :: t) =
    if trimEnd t = [] then trimEnd line else line ++ '\n' :: trimEnd t := by
  have hfeed : trimEnd (line ++ ['\n']) = trimEnd line := trimEnd_append line ['\n']
  have hwhole := trimEnd_append (line ++ ['\n']) t
  rwa [hfeed, List.append_assoc, List.append_assoc] at hwhole

/-- A text ends with the blanks that are trimmed from its end. -/
theorem exists_trimEnd (t : Text) : ∃ gap, isBlankText gap = true ∧ t = trimEnd t ++ gap := by
  obtain ⟨gap, hgap, ht⟩ := exists_trimStart t.reverse
  refine ⟨gap.reverse, ?_, ?_⟩
  · rw [isBlankText, List.all_reverse]
    exact List.all_eq_true.mpr hgap
  · rw [trimEnd, ← trimStart, ← List.reverse_append, ← ht, List.reverse_reverse]

/-- What is left of a text by trimming stands between blanks. -/
theorem exists_trim (t : Text) :
    ∃ front back, isBlankText back = true ∧ t = front ++ (trim t ++ back) := by
  obtain ⟨front, -, hfront⟩ := exists_trimStart t
  obtain ⟨back, hback, heq⟩ := exists_trimEnd (trimStart t)
  refine ⟨front, back, hback, ?_⟩
  rw [trim, ← heq]
  exact hfront

theorem isBlank_head_trim {t : Text} {c : Char} (h : c ∈ (trim t).head?) : isBlank c = false := by
  obtain ⟨rest, hrest⟩ := List.head?_eq_some_iff.mp h
  obtain ⟨gap, hgap⟩ := trimEnd_isPrefix (trimStart t)
  rw [← trim, hrest] at hgap
  exact isBlank_head_trimStart hgap.symm

theorem isBlank_getLast_trimEnd {t : Text} {c : Char} (h : c ∈ (trimEnd t).getLast?) :
    isBlank c = false := by
  rw [trimEnd, List.getLast?_reverse] at h
  obtain ⟨rest, hrest⟩ := List.head?_eq_some_iff.mp h
  exact isBlank_head_trimStart hrest

/-! ## Blank texts -/

theorem ne_nil_of_not_isBlankText {t : Text} (h : isBlankText t = false) : t ≠ [] := by
  rintro rfl
  exact Bool.noConfusion h

theorem trimStart_eq_nil_iff {t : Text} : trimStart t = [] ↔ isBlankText t = true := by
  rw [trimStart, List.dropWhile_eq_nil_iff, isBlankText, List.all_eq_true]

theorem trimStart_ne_nil {t : Text} (h : isBlankText t = false) : trimStart t ≠ [] := by
  rw [ne_eq, trimStart_eq_nil_iff, h]
  exact Bool.false_ne_true

theorem isBlankText_trimStart (t : Text) : isBlankText (trimStart t) = isBlankText t := by
  obtain ⟨gap, hgap, ht⟩ := exists_trimStart t
  conv_rhs => rw [ht, isBlankText, List.all_append, List.all_eq_true.mpr hgap, Bool.true_and]
  rfl

theorem isBlankText_trimEnd (t : Text) : isBlankText (trimEnd t) = isBlankText t := by
  have hreverse (t : Text) : isBlankText t.reverse = isBlankText t := List.all_reverse
  rw [trimEnd, hreverse, ← trimStart, isBlankText_trimStart, hreverse]

theorem trimEnd_eq_nil_iff {t : Text} : trimEnd t = [] ↔ isBlankText t = true := by
  rw [trimEnd, List.reverse_eq_nil_iff, ← trimStart, trimStart_eq_nil_iff, isBlankText, isBlankText,
    List.all_reverse]

theorem trimEnd_ne_nil {t : Text} (h : isBlankText t = false) : trimEnd t ≠ [] := by
  rw [ne_eq, trimEnd_eq_nil_iff, h]
  exact Bool.false_ne_true

/-! ## Printed characters -/

/-- The characters of a text that are no blanks. -/
def printed (t : Text) : Text := t.filter fun c => !isBlank c

theorem printed_append (t u : Text) : printed (t ++ u) = printed t ++ printed u :=
  List.filter_append ..

theorem printed_cons (c : Char) (t : Text) :
    printed (c :: t) = if isBlank c then printed t else c :: printed t := by
  by_cases hc : isBlank c = true <;> simp [printed, hc]

theorem printed_eq_nil_iff {t : Text} : printed t = [] ↔ isBlankText t = true := by
  simp [printed, isBlankText]

theorem printed_trimStart (t : Text) : printed (trimStart t) = printed t := by
  obtain ⟨gap, hgap, ht⟩ := exists_trimStart t
  have hnone : printed gap = [] := List.filter_eq_nil_iff.mpr fun c hc => by simp [hgap c hc]
  conv_rhs => rw [ht, printed_append, hnone, List.nil_append]

theorem printed_trim (t : Text) : printed (trim t) = printed t := by
  have hreverse (t : Text) : printed t.reverse = (printed t).reverse := List.filter_reverse ..
  rw [trim, trimEnd, hreverse, ← trimStart, printed_trimStart, hreverse, List.reverse_reverse,
    printed_trimStart]

end Text

namespace Scanner

variable {α : Type} {scan : Scanner α}

/-! ## Scanning -/

/-- Characters at which nothing is ever recognised do not matter. -/
theorem findAll_append_of_none {front rest : Text}
    (h : ∀ c ∈ front, ∀ t, scan (c :: t) = none) : findAll scan (front ++ rest) = findAll scan rest := by
  simp [findAll, pieces_append_of_none h, List.filterMap_map]

/-- What is recognised at the front is found first, and the scan goes on behind it. -/
theorem findAll_append_of_some {a : α} {front rest : Text} (hne : front ≠ [])
    (h : scan (front ++ rest) = some (a, rest)) :
    findAll scan (front ++ rest) = a :: findAll scan rest := by
  obtain ⟨c, front, rfl⟩ := List.exists_cons_of_ne_nil hne
  exact findAll_of_some h

/-- Where nothing is recognised in a text at all, every character is passed over. -/
theorem pieces_eq_map_plain {t : Text} (h : ∀ back, back <:+ t → scan back = none) :
    pieces scan t = t.map .plain := by
  induction t with
  | nil => rfl
  | cons c t ih =>
      rw [pieces_of_none (h _ (List.suffix_refl _)), List.map_cons]
      exact congrArg _ (ih fun back hback => h back (hback.trans (List.suffix_cons c t)))

theorem findAll_eq_nil {t : Text} (h : ∀ back, back <:+ t → scan back = none) :
    findAll scan t = [] := by
  simp [findAll, pieces_eq_map_plain h, List.filterMap_map]

/-- A scan that recognises one thing, between characters that it passes over. -/
theorem pieces_around {a : α} {before source after : Text} (hne : source ≠ [])
    (hbefore : ∀ c ∈ before, ∀ t, scan (c :: t) = none)
    (hafter : ∀ c ∈ after, ∀ t, scan (c :: t) = none)
    (h : scan (source ++ after) = some (a, after)) :
    pieces scan (before ++ (source ++ after)) =
      before.map .plain ++ .hit a :: after.map .plain := by
  obtain ⟨c, source, rfl⟩ := List.exists_cons_of_ne_nil hne
  have hback : pieces scan after = after.map .plain := by
    have happend := @pieces_append_of_none _ scan after [] hafter
    rwa [List.append_nil, pieces_nil, List.append_nil] at happend
  rw [pieces_append_of_none hbefore, pieces_of_some h, hback]

private theorem piecesFrom_append {t rest : Text} {skip : Nat} (hskip : skip ≤ t.length)
    (h : ∀ back, back <:+ t → back ≠ [] →
      scan (back ++ rest) = (scan back).map fun found => (found.1, found.2 ++ rest)) :
    piecesFrom scan skip (t ++ rest) = piecesFrom scan skip t ++ pieces scan rest := by
  induction t generalizing skip with
  | nil =>
      obtain rfl : skip = 0 := Nat.le_zero.mp hskip
      simp [piecesFrom, pieces]
  | cons c t ih =>
      obtain ⟨hhere, htail⟩ := Text.of_forall_suffix_cons h
      cases skip with
      | succ skip => exact ih (Nat.le_of_succ_le_succ hskip) htail
      | zero =>
          rw [List.cons_append] at hhere ⊢
          cases hscan : scan (c :: t) with
          | none =>
              rw [hscan] at hhere
              simp only [piecesFrom, hscan, hhere, Option.map_none, List.cons_append,
                ih (Nat.zero_le _) htail]
          | some found =>
              obtain ⟨a, after⟩ := found
              rw [hscan] at hhere
              have hleft : (t ++ rest).length - (after ++ rest).length = t.length - after.length := by
                rw [List.length_append, List.length_append, Nat.add_sub_add_right]
              simp only [piecesFrom, hscan, hhere, Option.map_some, List.cons_append, hleft,
                ih (Nat.sub_le _ _) htail]

/-- What a scan finds in two texts is what it finds in each, if nothing that it recognises in the
first depends on the second. -/
theorem findAll_append {t rest : Text}
    (h : ∀ back, back <:+ t → back ≠ [] →
      scan (back ++ rest) = (scan back).map fun found => (found.1, found.2 ++ rest)) :
    findAll scan (t ++ rest) = findAll scan t ++ findAll scan rest := by
  rw [findAll, pieces, piecesFrom_append (Nat.zero_le _) h, List.filterMap_append]
  rfl

end Scanner

end PaperHtml
