import PaperHtml.Proofs.Text.Seams

/-!
# Indentation

Texts whose lines differ in the spaces and tabs at their front alone
(`Reindented`), and texts from which some of these were taken away (`Outdented`).

## Strategy

`Outdented` is built character by character, as a scan goes, and does not say
where the lines begin that a scan leaves.  It is kept when a text is trimmed
(`Outdented.trim`), and what is read from the front of two such texts is found in
both of them or in neither (`Option.Rel`).  Two texts that differ in their
indentation alone have the same text without any below them
(`Reindented.outdented`).
-/

namespace PaperHtml.Text

/-! ## Indentation -/

/-- A character that indents a line. -/
def isIndent (c : Char) : Bool := c = ' ' || c = '\t'

/-- A line without its indentation. -/
def outdent (line : Text) : Text := line.dropWhile isIndent

/-- A text without any indentation. -/
def flushLeft (t : Text) : Text := unlines ((lines t).map outdent)

/-- A text with a space in front of every line. -/
def indented (t : Text) : Text := unlines ((lines t).map (' ' :: ·))

/-- Two texts whose lines differ in their indentation alone. -/
def Reindented (t u : Text) : Prop := (lines t).map outdent = (lines u).map outdent

instance (t u : Text) : Decidable (Reindented t u) := inferInstanceAs (Decidable (_ = _))

/-- `Outdented front t u`: `u` is `t` without some of the spaces and tabs in front of its lines;
`front` tells that nothing else has come on the line that is begun. -/
inductive Outdented : (front : Bool) → Text → Text → Prop
  | nil {front : Bool} : Outdented front [] []
  | drop {c : Char} {t u : Text} (hc : isIndent c = true) (h : Outdented true t u) :
      Outdented true (c :: t) u
  | feed {front : Bool} {t u : Text} (h : Outdented true t u) :
      Outdented front ('\n' :: t) ('\n' :: u)
  | keep {front : Bool} {c : Char} {t u : Text} (hc : c ≠ '\n')
      (h : Outdented (front && isIndent c) t u) : Outdented front (c :: t) (c :: u)

theorem isBlank_of_isIndent {c : Char} (h : isIndent c = true) : isBlank c = true := by
  rw [isIndent, Bool.or_eq_true, decide_eq_true_eq, decide_eq_true_eq] at h
  rcases h with rfl | rfl <;> decide

theorem isIndent_of_not_isBlank {c : Char} (h : isBlank c = false) : isIndent c = false := by
  by_contra hc
  rw [Bool.not_eq_false] at hc
  rw [isBlank_of_isIndent hc] at h
  exact Bool.noConfusion h

theorem trimStart_outdent (line : Text) : trimStart (outdent line) = trimStart line := by
  have hgap : ∀ c ∈ line.takeWhile isIndent, isBlank c = true := fun c hc =>
    isBlank_of_isIndent (List.mem_takeWhile_imp hc)
  conv_rhs => rw [← List.takeWhile_append_dropWhile (p := isIndent) (l := line)]
  exact (trimStart_append hgap _).symm

theorem trim_trimStart (line : Text) : trim (trimStart line) = trim line := by
  rw [trim, trim, trimStart_trimStart]

/-! ## Texts with less indentation -/

section Rel

variable {α β γ δ : Type} {R : α → β → Prop} {S : γ → δ → Prop} {a : Option α} {b : Option β}

theorem rel_map {f : α → γ} {g : β → δ} (h : Option.Rel R a b)
    (hfg : ∀ x y, R x y → S (f x) (g y)) : Option.Rel S (a.map f) (b.map g) := by
  cases h with
  | none => exact .none
  | some h => exact .some (hfg _ _ h)

theorem rel_bind {f : α → Option γ} {g : β → Option δ} (h : Option.Rel R a b)
    (hfg : ∀ x y, R x y → Option.Rel S (f x) (g y)) : Option.Rel S (a.bind f) (b.bind g) := by
  cases h with
  | none => exact .none
  | some h => exact hfg _ _ h

end Rel

namespace Outdented

variable {front : Bool} {t u : Text}

theorem refl (front : Bool) (t : Text) : Outdented front t t := by
  induction t generalizing front with
  | nil => exact .nil
  | cons c t ih =>
      by_cases hc : c = '\n'
      · subst hc
        exact .feed (ih true)
      · exact .keep hc (ih _)

theorem append_lineFeed (h : Outdented front t u) {below lower : Text}
    (hbelow : Outdented true below lower) :
    Outdented front (t ++ '\n' :: below) (u ++ '\n' :: lower) := by
  induction h with
  | nil => exact .feed hbelow
  | drop hc _ ih => exact .drop hc ih
  | feed _ ih => exact .feed ih
  | keep hc _ ih => exact .keep hc ih

theorem line {line : Text} (h : '\n' ∉ line) : Outdented true line (outdent line) := by
  induction line with
  | nil => exact .nil
  | cons c line ih =>
      rw [List.mem_cons, not_or] at h
      cases hc : isIndent c with
      | true =>
          rw [outdent, List.dropWhile_cons_of_pos hc]
          exact .drop hc (ih h.2)
      | false =>
          rw [outdent, List.dropWhile_cons_of_neg (by simp [hc])]
          exact refl _ _

theorem of_lines {ls : List Text} (h : ∀ line ∈ ls, '\n' ∉ line) :
    Outdented true (unlines ls) (unlines (ls.map outdent)) := by
  induction ls with
  | nil => exact .nil
  | cons first ls ih =>
      obtain ⟨hfirst, hrest⟩ := List.forall_mem_cons.mp h
      by_cases hls : ls = []
      · subst hls
        simpa using line hfirst
      · have hmap : ls.map outdent ≠ [] := mt List.map_eq_nil_iff.mp hls
        rw [List.map_cons, unlines_cons _ hls, unlines_cons _ hmap]
        exact (line hfirst).append_lineFeed (ih hrest)

theorem of_flushLeft (t : Text) : Outdented true t (flushLeft t) := by
  have h : Outdented true (unlines (lines t)) (flushLeft t) :=
    of_lines fun line hline => not_mem_of_mem_splitOn hline
  rwa [unlines_lines] at h

/-- The lines differ in their indentation alone. -/
theorem lines_eq (h : Outdented front t u) : ∃ first more first' more',
    lines t = first :: more ∧ lines u = first' :: more' ∧ outdent first = outdent first' ∧
      more.map outdent = more'.map outdent ∧ (front = false → first = first') := by
  have hcons {c : Char} (hc : c ≠ '\n') {t first : Text} {more : List Text}
      (ht : lines t = first :: more) : lines (c :: t) = (c :: first) :: more := by
    rw [lines] at ht
    rw [lines, splitOn, if_neg hc, ht]
  have hfeed (t : Text) : lines ('\n' :: t) = [] :: lines t := lines_append_cons List.not_mem_nil t
  induction h with
  | nil => exact ⟨[], [], [], [], rfl, rfl, rfl, rfl, fun _ => rfl⟩
  | @drop c t u hc _ ih =>
      obtain ⟨first, more, first', more', ht, hu, hfirst, hmore, -⟩ := ih
      have hne : c ≠ '\n' := by
        rintro rfl
        exact absurd hc (by decide)
      refine ⟨c :: first, more, first', more', hcons hne ht, hu, ?_, hmore, by simp⟩
      rw [outdent, List.dropWhile_cons_of_pos hc]
      exact hfirst
  | @feed front t u _ ih =>
      obtain ⟨first, more, first', more', ht, hu, hfirst, hmore, -⟩ := ih
      refine ⟨[], first :: more, [], first' :: more', ht ▸ hfeed t, hu ▸ hfeed u, rfl, ?_,
        fun _ => rfl⟩
      rw [List.map_cons, List.map_cons, hfirst, hmore]
  | @keep front c t u hc _ ih =>
      obtain ⟨first, more, first', more', ht, hu, hfirst, hmore, hsame⟩ := ih
      refine ⟨c :: first, more, c :: first', more', hcons hc ht, hcons hc hu, ?_, hmore, ?_⟩
      · cases hindent : isIndent c with
        | true =>
            rw [outdent, outdent, List.dropWhile_cons_of_pos hindent,
              List.dropWhile_cons_of_pos hindent]
            exact hfirst
        | false => rw [hsame (by simp [hindent])]
      · rintro rfl
        rw [hsame rfl]

theorem reindented (h : Outdented front t u) : Reindented t u := by
  obtain ⟨first, more, first', more', ht, hu, hfirst, hmore, -⟩ := h.lines_eq
  rw [Reindented, ht, hu, List.map_cons, List.map_cons, hfirst, hmore]

theorem isBlankText_eq (h : Outdented front t u) : isBlankText t = isBlankText u := by
  induction h with
  | nil => rfl
  | drop hc _ ih =>
      rw [← ih, isBlankText, List.all_cons, isBlank_of_isIndent hc, Bool.true_and]
      rfl
  | feed _ ih => exact ih
  | @keep _ c _ _ _ _ ih => exact congrArg (isBlank c && ·) ih

protected theorem trimStart (h : Outdented front t u) (other : Bool) :
    Outdented other (trimStart t) (trimStart u) := by
  induction h with
  | nil => exact .nil
  | drop hc _ ih =>
      rw [Text.trimStart, List.dropWhile_cons_of_pos (isBlank_of_isIndent hc)]
      exact ih
  | feed _ ih => exact ih
  | @keep front c t u hne h ih =>
      cases hc : isBlank c with
      | true =>
          rw [Text.trimStart, Text.trimStart, List.dropWhile_cons_of_pos hc,
            List.dropWhile_cons_of_pos hc]
          exact ih
      | false =>
          have hindent := isIndent_of_not_isBlank hc
          rw [trimStart_cons hc, trimStart_cons hc]
          rw [hindent, Bool.and_false] at h
          exact .keep hne (by rwa [hindent, Bool.and_false])

protected theorem trimEnd (h : Outdented front t u) : Outdented front (trimEnd t) (trimEnd u) := by
  have hcons (c : Char) (t : Text) : Text.trimEnd (c :: t) =
      if isBlankText t = true then Text.trimEnd [c] else c :: Text.trimEnd t := by
    rw [← List.singleton_append, trimEnd_append]
    by_cases hblank : isBlankText t = true
    · rw [if_pos (trimEnd_eq_nil_iff.mpr hblank), if_pos hblank]
    · rw [if_neg (mt trimEnd_eq_nil_iff.mp hblank), if_neg hblank]
      rfl
  induction h with
  | nil => exact .nil
  | @drop c t u hc h ih =>
      rw [hcons]
      split
      · rename_i hblank
        have hc : trimEnd [c] = [] :=
          trimEnd_eq_nil_iff.mpr (by simpa [isBlankText] using isBlank_of_isIndent hc)
        rw [hc, trimEnd_eq_nil_iff.mpr (h.isBlankText_eq ▸ hblank)]
        exact .nil
      · exact .drop hc ih
  | @feed front t u h ih =>
      rw [hcons _ t, hcons _ u, h.isBlankText_eq]
      split
      · exact refl _ _
      · exact .feed ih
  | @keep front c t u hc h ih =>
      rw [hcons _ t, hcons _ u, h.isBlankText_eq]
      split
      · exact refl _ _
      · exact .keep hc ih

protected theorem trim (h : Outdented front t u) : Outdented front (trim t) (trim u) :=
  (h.trimStart front).trimEnd

/-- A backslash that begins a line begins one with less indentation, too. -/
theorem infix_lineFeed_backslash (h : Outdented front t u) (ht : ['\n', '\\'] <:+: t) :
    ['\n', '\\'] <:+: u := by
  induction h with
  | nil => exact ht
  | @drop c t u hc _ ih =>
      rcases List.infix_cons_iff.mp ht with hfront | hinside
      · obtain ⟨rfl, -⟩ := List.cons_prefix_cons.mp hfront
        exact absurd hc (by decide)
      · exact ih hinside
  | @feed front t u h ih =>
      rcases List.infix_cons_iff.mp ht with hfront | hinside
      · obtain ⟨rest, rfl⟩ := (List.cons_prefix_cons.mp hfront).2
        have hbackslash : ∃ rest', u = '\\' :: rest' := by
          cases h with
          | drop hc _ => exact absurd hc (by decide)
          | keep _ _ => exact ⟨_, rfl⟩
        obtain ⟨rest', rfl⟩ := hbackslash
        exact ⟨[], rest', rfl⟩
      · exact (ih hinside).trans (List.suffix_cons _ _).isInfix
  | @keep front c t u hc _ ih =>
      rcases List.infix_cons_iff.mp ht with hfront | hinside
      · exact absurd (List.cons_prefix_cons.mp hfront).1.symm hc
      · exact (ih hinside).trans (List.suffix_cons _ _).isInfix

/-! ## What is read from the front -/

theorem head?_eq (h : Outdented false t u) : t.head? = u.head? := by
  cases h <;> rfl

protected theorem dropPrefix? {mark : Text} (hmark : '\n' ∉ mark) (h : Outdented false t u) :
    Option.Rel (Outdented false) (dropPrefix? mark t) (dropPrefix? mark u) := by
  induction mark generalizing t u with
  | nil => exact .some h
  | cons m mark ih =>
      rw [List.mem_cons, not_or] at hmark
      cases h with
      | nil => exact .none
      | feed h =>
          have hm : m ≠ '\n' := Ne.symm hmark.1
          rw [Text.dropPrefix?, Text.dropPrefix?, if_neg hm, if_neg hm]
          exact .none
      | @keep _ c _ _ hc h =>
          rw [Text.dropPrefix?, Text.dropPrefix?]
          split
          · exact ih hmark.2 h
          · exact .none

protected theorem cutChar? {mark : Char} (hmark : isBlank mark = false) (h : Outdented front t u) :
    Option.Rel (fun a b => Outdented false a.2 b.2) (cutChar? mark t) (cutChar? mark u) := by
  have hapart {c : Char} (hc : isBlank c = true) : c ≠ mark := by
    rintro rfl
    rw [hc] at hmark
    exact Bool.noConfusion hmark
  induction h with
  | nil => exact .none
  | drop hc _ ih =>
      rw [cutChar?, if_neg (hapart (isBlank_of_isIndent hc))]
      simpa using rel_map (g := id) ih fun _ _ h => h
  | feed _ ih =>
      rw [cutChar?, cutChar?, if_neg (hapart (by decide)), if_neg (hapart (by decide))]
      exact rel_map ih fun _ _ h => h
  | keep hc h ih =>
      rw [cutChar?, cutChar?]
      split
      · rename_i hmarked
        rw [hmarked, isIndent_of_not_isBlank hmark, Bool.and_false] at h
        exact .some h
      · exact rel_map ih fun _ _ h => h

protected theorem dropWhile {digit : Char → Bool} (hdigit : digit '\n' = false)
    (h : Outdented false t u) : Outdented false (t.dropWhile digit) (u.dropWhile digit) := by
  induction t generalizing u with
  | nil =>
      cases h
      exact .nil
  | cons c t ih =>
      cases h with
      | feed h =>
          rw [List.dropWhile_cons_of_neg (by simp [hdigit]),
            List.dropWhile_cons_of_neg (by simp [hdigit])]
          exact .feed h
      | keep hc h =>
          by_cases hd : digit c = true
          · rw [List.dropWhile_cons_of_pos hd, List.dropWhile_cons_of_pos hd]
            exact ih h
          · rw [List.dropWhile_cons_of_neg hd, List.dropWhile_cons_of_neg hd]
            exact .keep hc h

end Outdented

/-! ## Lines of one and the same text -/

theorem Reindented.outdented (h : Reindented t u) : Outdented true u (flushLeft t) := by
  rw [flushLeft, h]
  exact .of_flushLeft u

theorem lines_indented (t : Text) : lines (indented t) = (lines t).map (' ' :: ·) := by
  have hfeed : ∀ line ∈ (lines t).map (' ' :: ·), '\n' ∉ line := by
    intro line hline
    obtain ⟨inner, hinner, rfl⟩ := List.mem_map.mp hline
    simpa using not_mem_of_mem_splitOn hinner
  have hne : (lines t).map (' ' :: ·) ≠ [] :=
    mt List.map_eq_nil_iff.mp (splitOn_ne_nil '\n' t)
  rw [indented, lines_unlines hne hfeed]

theorem reindented_indented (t : Text) : Reindented t (indented t) := by
  rw [Reindented, lines_indented, List.map_map]
  rfl

/-- The first line of a trimmed text is not indented. -/
theorem trimStart_first {t first : Text} {more : List Text} (h : lines (trim t) = first :: more) :
    trimStart first = first := by
  cases first with
  | nil => rfl
  | cons c first =>
      have htext : c ∈ (trim t).head? := by
        rw [← unlines_lines (trim t), h]
        cases more with
        | nil => rw [unlines_singleton]; rfl
        | cons next more => rw [unlines_cons _ (List.cons_ne_nil _ _)]; rfl
      exact trimStart_cons (isBlank_head_trim htext) first

/-- The first line begins as the text does, but for a line feed. -/
theorem head?_first_iff {c : Char} (hc : c ≠ '\n') {t first : Text} {more : List Text}
    (h : lines t = first :: more) : first.head? = some c ↔ [c] <+: t := by
  rw [lines] at h
  cases t with
  | nil =>
      obtain ⟨rfl, -⟩ : first = [] ∧ more = [] := by simpa [splitOn, eq_comm] using h
      simp
  | cons d t =>
      obtain ⟨next, below, hnext⟩ := List.exists_cons_of_ne_nil (splitOn_ne_nil '\n' t)
      rw [splitOn, hnext] at h
      by_cases hd : d = '\n'
      · rw [if_pos hd] at h
        obtain ⟨rfl, -⟩ := List.cons.inj h
        simp [hd, hc]
      · rw [if_neg hd] at h
        obtain ⟨rfl, -⟩ := List.cons.inj h
        simp [List.cons_prefix_cons, eq_comm]

/-- No line but the first begins with a backslash if and only if none stands behind a line feed. -/
theorem forall_tail_lines_iff {t : Text} :
    (∀ line ∈ (lines t).tail, line.head? ≠ some '\\') ↔ ¬ ['\n', '\\'] <:+: t := by
  induction t with
  | nil => simp [lines, splitOn]
  | cons c t ih =>
      obtain ⟨first, more, hlines⟩ := List.exists_cons_of_ne_nil (splitOn_ne_nil '\n' t)
      have hfirst := head?_first_iff (c := '\\') (by decide) hlines
      rw [lines, hlines, List.tail_cons] at ih
      rw [lines, splitOn, hlines, List.infix_cons_iff, not_or, List.cons_prefix_cons, ← ih]
      by_cases hc : c = '\n'
      · rw [if_pos hc, List.tail_cons, List.forall_mem_cons, ne_eq, hfirst]
        simp [hc]
      · have hc' : '\n' ≠ c := Ne.symm hc
        simp [hc, hc']

end PaperHtml.Text
