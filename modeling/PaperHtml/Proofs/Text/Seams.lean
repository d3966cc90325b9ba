import Mathlib
import PaperHtml.Proofs.Text.Scanning

/-!
# Stretches that a scan passes over

A stretch of a text at no place of which a scanner recognises anything comes out
of the scan as it went in, whatever stands behind it.

## Strategy

A scanner looks past the end of the stretch, so "nothing is recognised" has to
be said of every place with what follows the stretch behind it.  It is enough
that a mark cannot lie across the end: one character that the mark does not hold
where it would have to, the last one of the stretch or the first one behind it,
settles that.  Lines part in the same way, but for the line that goes on across
the end.
-/

namespace PaperHtml

namespace Text

/-! ## Marks across the end of a stretch -/

/-- A mark that holds a character at its end at most does not lie across that character. -/
theorem prefix_of_prefix_append_last {mark t rest : Text} {c : Char} (hc : c ∉ mark.dropLast)
    (h : mark <+: t ++ [c] ++ rest) : mark <+: t ++ [c] := by
  rcases List.prefix_or_prefix_of_prefix h (List.prefix_append (t ++ [c]) rest) with hmark | hmark
  · exact hmark
  · obtain ⟨more, rfl⟩ := hmark
    by_cases hmore : more = []
    · rw [hmore, List.append_nil]
    · rw [List.dropLast_append_of_ne_nil hmore] at hc
      exact absurd (by simp) hc

/-- A mark that holds a character at its front at most does not reach that character. -/
theorem prefix_of_prefix_append_cons {mark t rest : Text} {c : Char} (hc : c ∉ mark.tail)
    (ht : t ≠ []) (h : mark <+: t ++ c :: rest) : mark <+: t := by
  rcases List.prefix_or_prefix_of_prefix h (List.prefix_append t (c :: rest)) with hmark | hmark
  · exact hmark
  · obtain ⟨more, rfl⟩ := hmark
    cases more with
    | nil => simp
    | cons d more =>
        obtain ⟨rfl, -⟩ := List.cons_prefix_cons.mp ((List.prefix_append_right_inj t).mp h)
        rw [List.tail_append_of_ne_nil ht] at hc
        exact absurd (by simp) hc

/-- What ends in a character that the text behind does not hold ends in front of it. -/
theorem prefix_of_prefix_append_foreign {mark t rest : Text} {c : Char} (hc : c ∉ rest)
    (h : mark ++ [c] <+: t ++ rest) : mark ++ [c] <+: t := by
  rcases List.prefix_or_prefix_of_prefix h (List.prefix_append t rest) with hmark | ⟨more, hmore⟩
  · exact hmark
  · rw [← hmore, List.prefix_append_right_inj] at h
    by_cases hne : more = []
    · exact ⟨[], by rw [← hmore, hne]; simp⟩
    · have hlast : more.getLast? = some c := by
        rw [← List.getLast?_append_of_ne_nil t hne, hmore, List.getLast?_concat]
      exact absurd (h.subset (List.mem_of_getLast? hlast)) hc

/-- A mark that holds its first character once does not lie across another place of it. -/
theorem infix_append_cons_first {first : Char} {mark before after : Text} (hfirst : first ∉ mark)
    (h : first :: mark <:+: before ++ first :: after) :
    first :: mark <:+: before ∨ first :: mark <:+: first :: after := by
  rcases List.infix_append_iff.mp h with hbefore | hback | ⟨front, back, hsplit, hfront, hback⟩
  · exact .inl hbefore
  · exact .inr hback
  · cases back with
    | nil =>
        rw [hsplit, List.append_nil]
        exact .inl hfront.isInfix
    | cons c back =>
        obtain ⟨rfl, -⟩ := List.cons_prefix_cons.mp hback
        cases front with
        | nil =>
            rw [hsplit]
            exact .inr hback.isInfix
        | cons d front =>
            have hmark : mark = front ++ c :: back := (List.cons.inj hsplit).2
            exact absurd (hmark ▸ by simp) hfirst

/-- A mark does not begin within characters other than its first. -/
theorem infix_of_infix_append {first : Char} {mark gap t : Text} (hgap : first ∉ gap)
    (h : first :: mark <:+: gap ++ t) : first :: mark <:+: t := by
  induction gap with
  | nil => exact h
  | cons c gap ih =>
      rw [List.mem_cons, not_or] at hgap
      rcases List.infix_cons_iff.mp h with hfront | hinside
      · exact absurd (List.cons_prefix_cons.mp hfront).1 hgap.1
      · exact ih hgap.2 hinside

/-- A mark does not begin within characters that it does not hold. -/
theorem infix_of_infix_foreign_append {mark gap t : Text} (hne : mark ≠ [])
    (hgap : ∀ c ∈ gap, c ∉ mark) (h : mark <:+: gap ++ t) : mark <:+: t := by
  obtain ⟨first, mark, rfl⟩ := List.exists_cons_of_ne_nil hne
  exact infix_of_infix_append (fun hmem => hgap first hmem (List.mem_cons_self ..)) h

/-- Nor does it go on into them. -/
theorem infix_of_infix_append_foreign {mark gap t : Text} (hne : mark ≠ [])
    (hgap : ∀ c ∈ gap, c ∉ mark) (h : mark <:+: t ++ gap) : mark <:+: t := by
  cases gap with
  | nil => rwa [List.append_nil] at h
  | cons c gap =>
      obtain ⟨hc, hgap⟩ := List.forall_mem_cons.mp hgap
      rcases infix_append_cons hc h with hfront | hinside
      · exact hfront
      · rw [← List.append_nil gap] at hinside
        have hnil := infix_of_infix_foreign_append hne hgap hinside
        exact absurd (List.infix_nil.mp hnil) hne

/-! ## Lines across the end of a stretch -/

/-- A part of a text holds nothing that is not in the text. -/
theorem subset_of_mem_splitOn {sep : Char} {t part : Text} (h : part ∈ splitOn sep t) :
    part ⊆ t := by
  induction t generalizing part with
  | nil =>
      obtain rfl : part = [] := by simpa [splitOn] using h
      exact List.Subset.refl _
  | cons c t ih =>
      rw [splitOn] at h
      split at h
      · rcases List.mem_cons.mp h with rfl | h
        · exact List.nil_subset _
        · exact List.subset_cons_of_subset c (ih h)
      · cases hparts : splitOn sep t with
        | nil => exact absurd hparts (splitOn_ne_nil sep t)
        | cons first parts =>
            rw [hparts] at h ih
            rcases List.mem_cons.mp h with rfl | h
            · exact List.cons_subset_cons c (ih (List.mem_cons_self ..))
            · exact List.subset_cons_of_subset c (ih (List.mem_cons_of_mem _ h))

/-- The last line of a text goes on in the first line of the text behind it. -/
theorem exists_lines_append (t rest : Text) :
    ∃ above last first below, lines t = above ++ [last] ∧ lines rest = first :: below ∧
      lines (t ++ rest) = above ++ (last ++ first) :: below := by
  unfold lines
  induction t with
  | nil =>
      obtain ⟨first, below, hrest⟩ := List.exists_cons_of_ne_nil (splitOn_ne_nil '\n' rest)
      exact ⟨[], [], first, below, rfl, hrest, hrest⟩
  | cons c t ih =>
      obtain ⟨above, last, first, below, ht, hrest, hall⟩ := ih
      rw [List.cons_append, splitOn, splitOn, ht, hall]
      by_cases hc : c = '\n'
      · exact ⟨[] :: above, last, first, below, by simp [hc], hrest, by simp [hc]⟩
      · cases above with
        | nil => exact ⟨[], c :: last, first, below, by simp [hc], hrest, by simp [hc]⟩
        | cons line above =>
            exact ⟨(c :: line) :: above, last, first, below, by simp [hc], hrest, by simp [hc]⟩

/-- The same with the first character behind the end named, where no line ends. -/
theorem exists_lines_append_cons (t : Text) {c : Char} (hc : c ≠ '\n') (rest : Text) :
    ∃ above last first below, unlines (above ++ [last]) = t ∧
      lines (t ++ [c]) = above ++ [last ++ [c]] ∧ lines (c :: rest) = (c :: first) :: below ∧
      lines (t ++ c :: rest) = above ++ (last ++ c :: first) :: below := by
  obtain ⟨above, last, first, below, ht, hrest, hall⟩ := exists_lines_append t (c :: rest)
  obtain ⟨above', last', first', below', ht', hc', hend⟩ := exists_lines_append t [c]
  obtain ⟨rfl, hlast⟩ := List.append_inj' (ht.symm.trans ht') rfl
  obtain ⟨head, more, hsplit⟩ := List.exists_cons_of_ne_nil (splitOn_ne_nil '\n' rest)
  have hfirst : lines (c :: rest) = (c :: head) :: more := by
    rw [lines, splitOn, if_neg hc, hsplit]
  obtain rfl : first = c :: head := (List.cons.inj (hrest.symm.trans hfirst)).1
  obtain ⟨rfl, rfl⟩ : first' = [c] ∧ below' = [] := by
    have hsingle : lines [c] = [[c]] := by simp [lines, splitOn, hc]
    simpa using hc'.symm.trans hsingle
  obtain rfl : last = last' := by simpa using hlast
  exact ⟨above, last, head, below, by rw [← ht, unlines_lines], hend, hrest, hall⟩

/-- Lines that were parted within a line are put together there. -/
theorem unlines_parted (above below : List Text) (last first : Text) :
    unlines (above ++ (last ++ first) :: below) =
      unlines (above ++ [last]) ++ unlines (first :: below) := by
  have hline : unlines ((last ++ first) :: below) = last ++ unlines (first :: below) := by
    cases below with
    | nil => simp
    | cons next below =>
        rw [unlines_cons _ (List.cons_ne_nil _ _), unlines_cons _ (List.cons_ne_nil _ _),
          List.append_assoc]
  cases above with
  | nil => rw [List.nil_append, hline, List.nil_append, unlines_singleton]
  | cons line above =>
      rw [unlines_append (List.cons_ne_nil _ _) (List.cons_ne_nil _ _), hline,
        unlines_append (List.cons_ne_nil _ _) (List.cons_ne_nil _ _), unlines_singleton]
      simp

/-! ## Marks within a line -/

theorem infix_unlines_of_mem {line : Text} {ls : List Text} (h : line ∈ ls) :
    line <:+: unlines ls := by
  induction ls with
  | nil => simp at h
  | cons first ls ih =>
      cases ls with
      | nil =>
          obtain rfl := List.mem_singleton.mp h
          rw [unlines_singleton]
      | cons next ls =>
          rw [unlines_cons first (List.cons_ne_nil _ _)]
          rcases List.mem_cons.mp h with rfl | hmore
          · exact (List.prefix_append _ _).isInfix
          · exact (ih hmore).trans ((List.suffix_cons _ _).trans (List.suffix_append _ _)).isInfix

/-- A mark without a line feed lies within a line. -/
theorem exists_line_of_infix_unlines {mark : Text} (hfeed : '\n' ∉ mark) {ls : List Text}
    (hne : ls ≠ []) (h : mark <:+: unlines ls) : ∃ line ∈ ls, mark <:+: line := by
  induction ls with
  | nil => exact absurd rfl hne
  | cons first ls ih =>
      cases ls with
      | nil =>
          rw [unlines_singleton] at h
          exact ⟨first, List.mem_cons_self .., h⟩
      | cons next ls =>
          rw [unlines_cons first (List.cons_ne_nil _ _)] at h
          rcases infix_append_cons hfeed h with hhere | hbelow
          · exact ⟨first, List.mem_cons_self .., hhere⟩
          · obtain ⟨line, hline, hmark⟩ := ih (List.cons_ne_nil _ _) hbelow
            exact ⟨line, List.mem_cons_of_mem _ hline, hmark⟩

theorem infix_iff_exists_line {mark t : Text} (hfeed : '\n' ∉ mark) :
    mark <:+: t ↔ ∃ line ∈ lines t, mark <:+: line := by
  constructor
  · intro h
    rw [← unlines_lines t] at h
    exact exists_line_of_infix_unlines hfeed (splitOn_ne_nil '\n' t) h
  · rintro ⟨line, hline, hmark⟩
    have hwhole := infix_unlines_of_mem hline
    rw [unlines_lines] at hwhole
    exact hmark.trans hwhole

/-! ## Characters of lines -/

/-- A character of joined parts is one of theirs or the separator. -/
theorem mem_of_mem_join {sep c : Char} {parts : List Text} (h : c ∈ join [sep] parts) :
    c = sep ∨ ∃ part ∈ parts, c ∈ part := by
  induction parts with
  | nil => simp [join] at h
  | cons part parts ih =>
      cases parts with
      | nil => exact .inr ⟨part, List.mem_cons_self .., by simpa [join] using h⟩
      | cons next parts =>
          rw [join, List.intercalate_cons_cons, List.mem_append, List.mem_append,
            List.mem_singleton] at h
          rcases h with (hpart | hsep) | hmore
          · exact .inr ⟨part, List.mem_cons_self .., hpart⟩
          · exact .inl hsep
          · rcases ih hmore with hsep | ⟨other, hother, hc⟩
            · exact .inl hsep
            · exact .inr ⟨other, List.mem_cons_of_mem _ hother, hc⟩

/-- A character of lines put together is one of theirs or a line feed. -/
theorem mem_of_mem_unlines {ls : List Text} {c : Char} (h : c ∈ unlines ls) :
    c = '\n' ∨ ∃ line ∈ ls, c ∈ line := mem_of_mem_join h

/-! ## Cutting behind a stretch -/

theorem holds_iff {mark t : Text} : holds mark t = true ↔ mark <:+: t := by
  rw [holds, Option.isSome_iff_ne_none, ne_eq, cut?_eq_none_iff, not_not]

/-- A text without the mark is passed over with the separator behind it. -/
theorem cut?_append_cons {mark before : Text} {sep : Char} (hsep : sep ∉ mark) (hne : mark ≠ [])
    (h : ¬ mark <:+: before) (after : Text) :
    cut? mark (before ++ sep :: after) =
      (cut? mark after).map fun found => (before ++ sep :: found.1, found.2) := by
  have hseam : ¬ mark <:+: before ++ [sep] ++ after.take (mark.length - 1) := by
    rw [List.append_assoc, List.singleton_append]
    intro hmark
    rcases infix_append_cons hsep hmark with hbefore | hafter
    · exact h hbefore
    · have hshort := hafter.length_le
      have hpos := List.length_pos_of_ne_nil hne
      rw [List.length_take] at hshort
      omega
  have hpassed := cut?_append hseam
  simpa only [List.append_assoc, List.singleton_append] using hpassed

theorem exists_cut? {mark t : Text} (h : mark <:+: t) : ∃ found, cut? mark t = some found :=
  Option.ne_none_iff_exists'.mp (mt cut?_eq_none_iff.mp (not_not.mpr h))

/-- What stands in front of a cut holds nothing that is not in the text. -/
theorem infix_of_infix_before {mark stop t before after : Text}
    (hcut : cut? stop t = some (before, after)) (h : mark <:+: before) : mark <:+: t := by
  rw [cut?_eq_some hcut, List.append_assoc]
  exact h.trans (List.prefix_append _ _).isInfix

/-- A text without the mark is passed over if the first character of the mark stands behind it and
is in no other place of the mark. -/
theorem cut?_append_cons_first {first : Char} {mark before : Text} (hfirst : first ∉ mark)
    (h : ¬ first :: mark <:+: before) (after : Text) :
    cut? (first :: mark) (before ++ first :: after) =
      (cut? (first :: mark) (first :: after)).map fun found => (before ++ found.1, found.2) := by
  apply cut?_append
  cases mark with
  | nil => simpa using h
  | cons c mark =>
      rw [List.length_cons, Nat.add_sub_cancel, List.length_cons, List.take_succ_cons]
      intro hmark
      rcases infix_append_cons_first hfirst hmark with hbefore | hbehind
      · exact h hbefore
      · have hshort := hbehind.length_le
        rw [List.length_cons, List.length_cons, List.length_cons, List.length_take] at hshort
        omega

/-- A mark that holds its first character once is found where none stands in front. -/
theorem cut?_eq_some_iff {first : Char} {mark t before after : Text} (hfirst : first ∉ mark) :
    cut? (first :: mark) t = some (before, after) ↔
      t = before ++ first :: mark ++ after ∧ ¬ first :: mark <:+: before := by
  constructor
  · intro h
    have hsplit := cut?_eq_some h
    refine ⟨hsplit, fun hbefore => ?_⟩
    obtain ⟨found, hfound⟩ := exists_cut? hbefore
    have hearlier := cut?_append_of_some hfound (first :: mark ++ after)
    rw [← List.append_assoc, ← hsplit, h] at hearlier
    have hsame : before = found.1 := congrArg Prod.fst (Option.some.inj hearlier)
    have hlength := congrArg List.length (cut?_eq_some hfound)
    simp [hsame] at hlength
  · rintro ⟨rfl, h⟩
    rw [List.append_assoc, List.cons_append, cut?_append_cons_first hfirst h, cut?_cons,
      ← List.cons_append, dropPrefix?_append]
    simp

/-- The first place found lies behind a stretch in which there is none. -/
theorem breakAt_append {α : Type} {stop : Text → Option α} {t rest : Text} {a : α}
    (h : ∀ back, back <:+ t → back ≠ [] → stop (back ++ rest) = none)
    (hstop : stop rest = some a) : breakAt stop (t ++ rest) = some (t, a) := by
  induction t with
  | nil => cases rest <;> simp [breakAt, hstop]
  | cons c t ih =>
      obtain ⟨hhere, hbehind⟩ := of_forall_suffix_cons h
      rw [List.cons_append] at hhere ⊢
      rw [breakAt, hhere]
      simp only [ih hbehind, Option.map_some]

end Text

namespace Scanner

variable {α : Type}

/-! ## Scanning over a stretch -/

/-- Nothing is recognised at any place of a text that `rest` follows. -/
def GoesBy (scan : Scanner α) (t rest : Text) : Prop :=
  ∀ back, back <:+ t → back ≠ [] → scan (back ++ rest) = none

theorem GoesBy.of_cons {scan : Scanner α} {c : Char} {t rest : Text}
    (h : scan.GoesBy (c :: t) rest) : scan (c :: (t ++ rest)) = none ∧ scan.GoesBy t rest :=
  Text.of_forall_suffix_cons h

theorem GoesBy.append {scan : Scanner α} {t more rest : Text} (h : scan.GoesBy t (more ++ rest))
    (hmore : scan.GoesBy more rest) : scan.GoesBy (t ++ more) rest := by
  intro back hback hne
  rcases List.suffix_or_suffix_of_suffix hback (List.suffix_append t more) with hinside | houtside
  · exact hmore back hinside hne
  · obtain ⟨before, rfl⟩ := houtside
    obtain ⟨front, hfront⟩ := hback
    rw [← List.append_assoc] at hfront
    have hbefore : before <:+ t := ⟨front, List.append_cancel_right hfront⟩
    by_cases hempty : before = []
    · rw [hempty, List.nil_append] at hne ⊢
      exact hmore more (List.suffix_refl _) hne
    · rw [List.append_assoc]
      exact h before hbefore hempty

/-- A stretch in which nothing is recognised, with what follows it, is passed over. -/
theorem pieces_append_of_passed {scan : Scanner α} {front rest : Text}
    (h : scan.GoesBy front rest) :
    pieces scan (front ++ rest) = front.map .plain ++ pieces scan rest := by
  induction front with
  | nil => rfl
  | cons c front ih =>
      obtain ⟨hhere, hbehind⟩ := h.of_cons
      rw [List.cons_append, pieces_of_none hhere, ih hbehind]
      rfl

/-- Characters that are passed over belong to the stretch that has begun. -/
theorem stretches_map_plain_append {α : Type} (stretch t : Text) (pieces : List (Piece α)) :
    stretches stretch (t.map .plain ++ pieces) = stretches (t.reverse ++ stretch) pieces := by
  induction t generalizing stretch with
  | nil => rfl
  | cons c t ih =>
      rw [List.map_cons, List.cons_append, stretches, ih, List.reverse_cons, List.append_assoc]
      rfl

variable {scan : Scanner Text}

theorem substitute_append_of_passed {front rest : Text} (h : scan.GoesBy front rest) :
    substitute scan (front ++ rest) = front ++ substitute scan rest := by
  rw [substitute, pieces_append_of_passed h, List.flatMap_append, List.flatMap_map]
  simp [substitute]

theorem substituteFirst_append_of_passed {front rest : Text} (h : scan.GoesBy front rest) :
    substituteFirst scan (front ++ rest) = front ++ substituteFirst scan rest := by
  induction front with
  | nil => rfl
  | cons c front ih =>
      obtain ⟨hhere, hbehind⟩ := h.of_cons
      rw [List.cons_append, substituteFirst, hhere]
      simp only [ih hbehind]
      rfl

/-- What is recognised at the front is replaced, and the scan goes on behind it. -/
theorem substitute_append_of_some {out source after : Text} (hne : source ≠ [])
    (h : scan (source ++ after) = some (out, after)) :
    substitute scan (source ++ after) = out ++ substitute scan after := by
  obtain ⟨c, source, rfl⟩ := List.exists_cons_of_ne_nil hne
  rw [substitute, pieces_of_some h, List.flatMap_cons]
  rfl

theorem substitute_cons_of_none {scan : Scanner Text} {c : Char} {rest : Text}
    (h : scan (c :: rest) = none) : substitute scan (c :: rest) = c :: substitute scan rest := by
  rw [substitute, pieces_of_none h, List.flatMap_cons]
  rfl

/-- A fixed text is replaced where the scanner for it finds it first. -/
theorem substituteFirst_literal {mark new t : Text} (hmark : mark ≠ []) :
    substituteFirst (literal mark new) t = Text.replaceFirst mark new t := by
  obtain ⟨m, mark, rfl⟩ := List.exists_cons_of_ne_nil hmark
  unfold Text.replaceFirst
  induction t with
  | nil => rfl
  | cons c t ih =>
      rw [substituteFirst, literal, Text.cut?_cons]
      cases Text.dropPrefix? (m :: mark) (c :: t) with
      | some after => rfl
      | none =>
          rw [Option.map_none, ih]
          cases Text.cut? (m :: mark) t <;> rfl

/-! ## The first thing found -/

section Find

variable {scan : Scanner α}

theorem find?_append_of_passed {front rest : Text} (h : scan.GoesBy front rest) :
    find? scan (front ++ rest) = find? scan rest := by
  induction front with
  | nil => rfl
  | cons c front ih =>
      obtain ⟨hhere, hbehind⟩ := h.of_cons
      rw [List.cons_append, find?, hhere]
      exact ih hbehind

theorem find?_of_some {t rest : Text} {a : α} (hne : t ≠ []) (h : scan t = some (a, rest)) :
    find? scan t = some a := by
  obtain ⟨c, t, rfl⟩ := List.exists_cons_of_ne_nil hne
  rw [find?, h]

/-- What is found first is recognised at a place in front of which nothing is. -/
theorem exists_of_find? {t : Text} {a : α} (h : find? scan t = some a) :
    ∃ front place rest, t = front ++ place ∧ scan.GoesBy front place ∧
      scan place = some (a, rest) := by
  induction t with
  | nil => simp [find?] at h
  | cons c t ih =>
      rw [find?] at h
      cases hhere : scan (c :: t) with
      | some found =>
          obtain ⟨b, rest⟩ := found
          rw [hhere] at h
          obtain rfl := Option.some.inj h
          refine ⟨[], c :: t, rest, rfl, ?_, hhere⟩
          exact fun back hback hne => absurd (List.suffix_nil.mp hback) hne
      | none =>
          rw [hhere] at h
          obtain ⟨front, place, rest, rfl, hpassed, hfound⟩ := ih h
          refine ⟨c :: front, place, rest, rfl, fun back hback hne => ?_, hfound⟩
          rcases List.suffix_cons_iff.mp hback with rfl | hinside
          · exact hhere
          · exact hpassed back hinside hne

end Find

/-! ## What a scan leaves -/

private theorem mem_of_plain_mem_piecesFrom {scan : Scanner α} {c : Char} (t : Text) (skip : Nat)
    (h : .plain c ∈ piecesFrom scan skip t) : c ∈ t := by
  induction t generalizing skip with
  | nil => simp [piecesFrom] at h
  | cons d rest ih =>
      cases skip with
      | succ skip => exact List.mem_cons_of_mem _ (ih skip h)
      | zero =>
          unfold piecesFrom at h
          split at h
          · rcases List.mem_cons.mp h with heq | hrest
            · cases heq
              exact List.mem_cons_self ..
            · exact List.mem_cons_of_mem _ (ih 0 hrest)
          · exact List.mem_cons_of_mem _ (ih _ (by simpa using h))

theorem mem_of_plain_mem_pieces {scan : Scanner α} {c : Char} {t : Text}
    (h : .plain c ∈ pieces scan t) : c ∈ t := mem_of_plain_mem_piecesFrom t 0 h

/-- What is left when every occurrence is taken away was there before. -/
theorem substitute_subset {scan : Scanner Text}
    (hscan : ∀ t out after, scan t = some (out, after) → out = []) (t : Text) :
    substitute scan t ⊆ t := by
  intro c hc
  obtain ⟨piece, hpiece, hmem⟩ := List.mem_flatMap.mp hc
  cases piece with
  | plain d =>
      obtain rfl : c = d := by simpa using hmem
      exact mem_of_plain_mem_pieces hpiece
  | hit out =>
      have hout : out ∈ findAll scan t := List.mem_filterMap.mpr ⟨.hit out, hpiece, rfl⟩
      obtain ⟨front, after, -, hfound⟩ := exists_of_mem_findAll hout
      rw [hscan _ _ _ hfound] at hmem
      simp at hmem

/-- What holds of a text and what a scan makes of it: the scan passes over a character, or it
replaces what it recognises at the front. -/
theorem substitute_induction {scan : Scanner Text} {motive : Text → Text → Prop}
    (hscan : ∀ t out rest, scan t = some (out, rest) → ∃ source, source ≠ [] ∧ t = source ++ rest)
    (nil : motive [] [])
    (pass : ∀ c rest, scan (c :: rest) = none → motive rest (substitute scan rest) →
      motive (c :: rest) (c :: substitute scan rest))
    (found : ∀ source out rest, source ≠ [] → scan (source ++ rest) = some (out, rest) →
      motive rest (substitute scan rest) → motive (source ++ rest) (out ++ substitute scan rest))
    (t : Text) : motive t (substitute scan t) := by
  induction hlength : t.length using Nat.strong_induction_on generalizing t with
  | h length ih =>
      cases t with
      | nil => exact nil
      | cons c rest =>
          cases hhere : scan (c :: rest) with
          | none =>
              have hrest := ih rest.length (by simp [← hlength]) rest rfl
              rw [substitute_cons_of_none hhere]
              exact pass c rest hhere hrest
          | some result =>
              obtain ⟨out, after⟩ := result
              obtain ⟨source, hne, ht⟩ := hscan _ _ _ hhere
              have hshorter : after.length < length := by
                have hsource := List.length_pos_of_ne_nil hne
                rw [← hlength, ht, List.length_append]
                omega
              rw [ht] at hhere ⊢
              rw [substitute_append_of_some hne hhere]
              exact found source out after hne hhere (ih after.length hshorter after rfl)

/-- Letters at the front of what a scan leaves stood at the front of the text: what is put in for a
thing found does not begin with one of them, nor does what follows it if nothing is put in. -/
theorem prefix_of_prefix_substitute {scan : Scanner Text} {letters : Text}
    (hscan : ∀ t out rest, scan t = some (out, rest) → ∃ source, source ≠ [] ∧ t = source ++ rest)
    (hletters : ∀ t out rest, scan t = some (out, rest) → ∀ c ∈ (out ++ rest).head?, c ∉ letters)
    {t : Text} (h : letters <+: substitute scan t) : letters <+: t := by
  refine substitute_induction (motive := fun t u => ∀ front, front ⊆ letters → front <+: u →
    front <+: t) hscan ?_ ?_ ?_ t letters (List.Subset.refl _) h
  · exact fun front _ hfront => hfront
  · intro c rest _ ih front hsubset hfront
    cases front with
    | nil => exact List.nil_prefix
    | cons d front =>
        rw [List.cons_prefix_cons] at hfront ⊢
        exact ⟨hfront.1, ih front (List.subset_of_cons_subset hsubset) hfront.2⟩
  · intro source out rest _ hfound ih front hsubset hfront
    cases front with
    | nil => exact List.nil_prefix
    | cons d front =>
        have hd : d ∈ letters := hsubset (List.mem_cons_self ..)
        have hnot := hletters _ _ _ hfound
        cases out with
        | nil =>
            obtain ⟨behind, rfl⟩ := ih _ hsubset hfront
            exact absurd hd (hnot d rfl)
        | cons c out =>
            obtain ⟨rfl, -⟩ := List.cons_prefix_cons.mp hfront
            exact absurd hd (hnot d rfl)

/-- A mark in what a scan leaves stood in the text, at a place that the scan passed over, and the
scan went on behind that place. -/
theorem exists_of_suffix_substitute {scan : Scanner Text} {first : Char} {letters : Text}
    (hscan : ∀ t out rest, scan t = some (out, rest) → ∃ source, source ≠ [] ∧ t = source ++ rest)
    (hfirst : ∀ t out rest, scan t = some (out, rest) → first ∉ out)
    (hletters : ∀ t out rest, scan t = some (out, rest) → ∀ c ∈ (out ++ rest).head?, c ∉ letters)
    {t back : Text} (h : back <:+ substitute scan t) (hmark : first :: letters <+: back) :
    ∃ place, place <:+ t ∧ first :: letters <+: place ∧ scan place = none ∧
      back = substitute scan place := by
  refine substitute_induction (motive := fun t u => back <:+ u → ∃ place, place <:+ t ∧
    first :: letters <+: place ∧ scan place = none ∧ back = substitute scan place)
    hscan ?_ ?_ ?_ t h
  · intro hback
    obtain rfl := List.suffix_nil.mp hback
    simp at hmark
  · intro c rest hnone ih hback
    rcases List.suffix_cons_iff.mp hback with rfl | hbehind
    · obtain ⟨rfl, hrest⟩ := List.cons_prefix_cons.mp hmark
      have hplace := prefix_of_prefix_substitute hscan hletters hrest
      exact ⟨_, List.suffix_refl _, List.cons_prefix_cons.mpr ⟨rfl, hplace⟩, hnone,
        (substitute_cons_of_none hnone).symm⟩
    · obtain ⟨place, hplace, hrest⟩ := ih hbehind
      exact ⟨place, hplace.trans (List.suffix_cons c rest), hrest⟩
  · intro source out rest _ hfound ih hback
    have hbehind : back <:+ substitute scan rest := by
      rcases List.suffix_or_suffix_of_suffix hback (List.suffix_append out _) with hin | hout
      · exact hin
      · -- what is put in does not hold the first character of the mark
        obtain ⟨before, rfl⟩ := hout
        cases before with
        | nil => exact List.suffix_refl _
        | cons c before =>
            obtain ⟨rfl, -⟩ := List.cons_prefix_cons.mp hmark
            have hsuffix : first :: before <:+ out := by
              obtain ⟨front, hfront⟩ := hback
              rw [← List.append_assoc] at hfront
              exact ⟨front, List.append_cancel_right hfront⟩
            exact absurd (hsuffix.subset (List.mem_cons_self ..)) (hfirst _ _ _ hfound)
    obtain ⟨place, hplace, hrest⟩ := ih hbehind
    exact ⟨place, hplace.trans (List.suffix_append source rest), hrest⟩

/-- A scan that replaces whatever it recognises by itself changes nothing. -/
theorem substitute_eq_self {scan : Scanner Text}
    (h : ∀ t out after, scan t = some (out, after) → out ≠ [] ∧ t = out ++ after) (t : Text) :
    substitute scan t = t := by
  refine (substitute_induction (motive := fun t u => t = u) ?_ rfl ?_ ?_ t).symm
  · exact fun t out rest hfound => ⟨out, h t out rest hfound⟩
  · exact fun c rest _ hrest => congrArg (c :: ·) hrest
  · intro source out rest _ hfound hrest
    rw [List.append_cancel_right (h _ _ _ hfound).2, ← hrest]

end Scanner

namespace Text

/-! ## Replacing the first occurrence -/

variable {mark : Text}

theorem replaceFirst_nil (hmark : mark ≠ []) (new : Text) : replaceFirst mark new [] = [] := by
  rw [← Scanner.substituteFirst_literal hmark, Scanner.substituteFirst]

theorem replaceFirst_append (hmark : mark ≠ []) (new rest : Text) :
    replaceFirst mark new (mark ++ rest) = new ++ rest := by
  obtain ⟨c, mark, rfl⟩ := List.exists_cons_of_ne_nil hmark
  rw [replaceFirst, List.cons_append, cut?_cons, ← List.cons_append, dropPrefix?_append]
  rfl

/-- A stretch in which the mark begins nowhere is passed over. -/
theorem replaceFirst_append_of_passed (hmark : mark ≠ []) (new : Text) {front rest : Text}
    (h : ∀ back, back <:+ front → back ≠ [] → ¬ mark <+: back ++ rest) :
    replaceFirst mark new (front ++ rest) = front ++ replaceFirst mark new rest := by
  rw [← Scanner.substituteFirst_literal hmark, ← Scanner.substituteFirst_literal hmark]
  refine Scanner.substituteFirst_append_of_passed fun back hback hne => ?_
  rw [Scanner.literal, Option.map_eq_none_iff, Option.eq_none_iff_forall_ne_some]
  exact fun after hafter => h back hback hne ⟨after, (dropPrefix?_eq_some_iff.mp hafter).symm⟩

end Text

end PaperHtml
