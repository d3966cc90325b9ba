import Mathlib
import PaperHtml.Proofs.Bibliography.Places
import PaperHtml.Reference.Line

/-!
# Blanks inside the marks of a value

A value is trimmed before its marks are taken off, so blanks around the marks are
gone and blanks between the marks stay.  They are collapsed with all others, and a
space is left at each end at which there were any.  Whatever is written around the
value, its field shows that space (`padding_immaterial_iff`), and a title of
nothing but blanks is a title.

## Strategy

A value in braces loses its quotation marks as well, and the one at its end also in
front of a last line feed.  So what is taken off at the end depends on the blanks
there: they are looked at first (`collapseBlanks_dropMark_append`), and then the
ones in front, behind which a quotation mark is the first character no more.  In
either case the text with the blanks is not shorter, and it is longer if they show.
-/

namespace PaperHtml

namespace Bibliography

open Text

/-! ## The mark at the end -/

/-- The text without a quotation mark at its end, or in front of a line feed there. -/
def dropMark (t : Text) : Text :=
  match t.reverse with
  | c :: rest =>
    if c = '"' then rest.reverse
    else
      match c, rest with
      | '\n', d :: rest => if d = '"' then (c :: rest).reverse else t
      | _, _ => t
  | [] => t

theorem dropOuter_eq_dropMark (t : Text) :
    dropOuter '"' '"' t = dropMark (dropOptional '"' t) := rfl

theorem dropOptional_of_not_mem {mark : Char} {t : Text} (h : mark ∉ t) :
    dropOptional mark t = t := by
  cases t with
  | nil => rfl
  | cons c t => exact if_neg (ne_of_mem_of_not_mem (List.mem_cons_self ..) h)

/-- The ways in which a text can end, with what is left of it. -/
inductive Ends : Text → Text → Prop
  | mark (t : Text) : Ends (t ++ ['"']) t
  | feed (t : Text) : Ends (t ++ ['"', '\n']) (t ++ ['\n'])
  | plain {t : Text} : t.getLast? ≠ some '"' → ¬ ['"', '\n'] <:+ t → Ends t t

theorem ends_dropMark (t : Text) : Ends t (dropMark t) := by
  unfold dropMark
  split
  · rename_i c rest hrev
    have ht : t = rest.reverse ++ [c] := by
      rw [← List.reverse_reverse t, hrev, List.reverse_cons]
    split
    · rename_i hc
      rw [ht, hc]
      exact .mark _
    rename_i hc
    have hlast : t.getLast? ≠ some '"' := by
      rw [ht, List.getLast?_concat]
      simpa using hc
    split
    · rename_i d rest
      split
      · rename_i hd
        rw [ht, hd, List.reverse_cons, List.reverse_cons, List.append_assoc]
        exact .feed _
      · rename_i hd
        refine .plain hlast fun hsuffix => hd ?_
        rw [← List.reverse_prefix, hrev] at hsuffix
        obtain ⟨behind, hbehind⟩ := hsuffix
        exact (List.cons.inj (List.cons.inj hbehind).2).1.symm
    · rename_i hnone
      refine .plain hlast fun hsuffix => ?_
      rw [← List.reverse_prefix, hrev] at hsuffix
      obtain ⟨behind, hbehind⟩ := hsuffix
      exact hnone '"' behind
        (List.cons.inj hbehind).1.symm (List.cons.inj hbehind).2.symm
  · rename_i hrev
    rw [List.reverse_eq_nil_iff.mp hrev]
    exact .plain (by simp) (by simp)

theorem Ends.eq_dropMark {t rest : Text} (h : Ends t rest) : dropMark t = rest := by
  cases h with
  | mark t => simp [dropMark]
  | feed t => simp [dropMark]
  | plain hlast hfeed =>
      have hends := ends_dropMark t
      generalize dropMark t = rest at hends
      cases hends with
      | mark t => exact absurd (List.getLast?_concat ..) hlast
      | feed t => exact absurd (List.suffix_append t _) hfeed
      | plain => rfl

theorem dropMark_append {t : Text} (hne : t ≠ []) (hfeed : t ≠ ['\n']) (front : Text) :
    dropMark (front ++ t) = front ++ dropMark t := by
  apply Ends.eq_dropMark
  have hends := ends_dropMark t
  generalize dropMark t = rest at hends
  cases hends with
  | mark t =>
      rw [← List.append_assoc]
      exact .mark _
  | feed t =>
      rw [← List.append_assoc, ← List.append_assoc]
      exact .feed _
  | plain hlast hplain =>
      apply Ends.plain
      · rwa [List.getLast?_append_of_ne_nil front hne]
      · intro hsuffix
        rcases List.suffix_or_suffix_of_suffix hsuffix (List.suffix_append front t) with
          hinside | hover
        · exact hplain hinside
        · -- a suffix of the two characters that is neither of those left out
          rcases List.suffix_cons_iff.mp hover with hwhole | hover
          · exact hplain (hwhole ▸ List.suffix_refl _)
          rcases List.suffix_cons_iff.mp hover with hlast | hover
          · exact hfeed hlast
          · exact hne (List.suffix_nil.mp hover)

/-- A text without marks in front does not matter either. -/
theorem dropMark_append_of_not_mem {front : Text} (hfront : '"' ∉ front) (t : Text) :
    dropMark (front ++ t) = front ++ dropMark t := by
  by_cases hne : t = []
  · subst hne
    have hempty : dropMark [] = [] := rfl
    rw [hempty, List.append_nil]
    apply Ends.eq_dropMark
    refine .plain (fun hlast => hfront (List.mem_of_getLast? hlast)) fun hsuffix => ?_
    exact hfront (hsuffix.subset (List.mem_cons_self ..))
  by_cases hfeed : t = ['\n']
  · subst hfeed
    apply Ends.eq_dropMark
    refine .plain (by simp) fun hsuffix => ?_
    have hmem : '"' ∈ front ++ ['\n'] := hsuffix.subset (List.mem_cons_self ..)
    rcases List.mem_append.mp hmem with hmem | hmem
    · exact hfront hmem
    · exact absurd hmem (by decide)
  · exact dropMark_append hne hfeed front

theorem dropMark_of_not_mem {t : Text} (h : '"' ∉ t) : dropMark t = t := by
  have happend := dropMark_append_of_not_mem h []
  have hempty : dropMark [] = [] := rfl
  rwa [hempty, List.append_nil] at happend

/-! ## Blanks behind a value -/

/-- Whether blanks behind a text do not show: other ones stand in front of them, and the mark that
is taken off at its end is the same. -/
def HidesBehind (back t : Text) : Prop :=
  (t.getLast?.any isBlank = true ∧ ¬ ['"', '\n'] <:+ t) ∨
    (back = ['\n'] ∧ t.getLast? = some '"' ∧ t.dropLast.getLast?.any isBlank = true)

instance (back t : Text) : Decidable (HidesBehind back t) := by
  unfold HidesBehind
  infer_instance

variable {front back : Text}

private theorem mark_not_mem (hback : isBlankText back = true) : '"' ∉ back :=
  not_mem_of_isBlankText hback (by decide)

/-- Behind blanks no mark is taken off, but for one that only a line feed follows. -/
theorem dropMark_append_blank (hback : isBlankText back = true) (hne : back ≠ []) {t : Text}
    (h : back = ['\n'] → t.getLast? ≠ some '"') : dropMark (t ++ back) = t ++ back := by
  by_cases hfeed : back = ['\n']
  · subst hfeed
    apply Ends.eq_dropMark
    refine .plain (by simp) fun hsuffix => h rfl ?_
    obtain ⟨before, hbefore⟩ := hsuffix
    have ht : (before ++ ['"']) ++ ['\n'] = t ++ ['\n'] := by simpa using hbefore
    rw [← List.append_cancel_right ht, List.getLast?_concat]
  · rw [dropMark_append hne hfeed, dropMark_of_not_mem (mark_not_mem hback)]

/-- Blanks behind a text make what is left of it no shorter, and longer where they show. -/
theorem collapseBlanks_dropMark_append (hback : isBlankText back = true) (t : Text) :
    (collapseBlanks (dropMark t)).length ≤ (collapseBlanks (dropMark (t ++ back))).length ∧
      (collapseBlanks (dropMark (t ++ back)) = collapseBlanks (dropMark t) ↔
        back = [] ∨ HidesBehind back t) := by
  by_cases hne : back = []
  · simp [hne]
  have hends := ends_dropMark t
  generalize dropMark t = left at hends
  have hmark : isBlank '"' = false := by decide
  cases hends with
  | mark =>
      by_cases hfeed : back = ['\n']
      · subst hfeed
        have hdrop : dropMark (left ++ ['"'] ++ ['\n']) = left ++ ['\n'] := by
          rw [List.append_assoc]
          exact (Ends.feed left).eq_dropMark
        rw [hdrop, collapseBlanks_append_gap hback]
        refine ⟨by simp, ?_⟩
        simp [HidesBehind, hmark]
      · have hlonger : (collapseBlanks (left ++ ['"'] ++ back)).length =
            (collapseBlanks left).length + (collapseBlanks back).length + 1 := by
          rw [List.append_assoc, List.singleton_append, collapseBlanks_append_cons hmark,
            List.length_append, List.length_cons, Nat.add_assoc]
        rw [dropMark_append_blank hback hne fun h => absurd h hfeed]
        refine ⟨by omega, fun hsame => ?_, fun h => ?_⟩
        · rw [hsame] at hlonger
          omega
        · simp [HidesBehind, hmark, hfeed, hne] at h
  | feed t =>
      have hlonger : (collapseBlanks (t ++ ['"', '\n'] ++ back)).length =
          (collapseBlanks t).length + 2 := by
        have hgap : isBlankText ('\n' :: back) = true := by
          rw [isBlankText, List.all_cons]
          exact hback
        have hspace : collapseBlanks ('\n' :: back) = [' '] := collapseFrom_of_blank hgap false
        rw [List.append_assoc, List.cons_append, collapseBlanks_append_cons hmark,
          List.singleton_append, hspace, List.length_append, List.length_cons,
          List.length_singleton]
      have hshorter : (collapseBlanks (t ++ ['\n'])).length ≤ (collapseBlanks t).length + 1 := by
        rw [collapseBlanks_append_gap (by decide), List.length_append]
        split <;> simp
      rw [dropMark_append_blank hback hne fun _ => by simp]
      refine ⟨by omega, fun hsame => ?_, fun h => ?_⟩
      · rw [hsame] at hlonger
        omega
      · simp [HidesBehind, hne] at h
  | plain hlast hfeed =>
      rw [dropMark_append_blank hback hne fun _ => hlast, collapseBlanks_append_gap hback]
      refine ⟨by simp, ?_⟩
      simp [HidesBehind, hne, hlast, hfeed]

/-! ## Blanks on both sides -/

/-- Whether blanks at the ends of a value do not show: there are none, or others beside them.  In
braces this is so of a quotation mark and a line feed as well, of which the mark is taken off at
the front or at the end. -/
def Quoting.Hides (front back : Text) : Quoting → Text → Prop
  | .braces, value =>
      (front = [] ∨ value.head?.any isBlank = true ∨ (value = ['"', '\n'] ∧ back = [])) ∧
        (back = [] ∨ HidesBehind back (dropOptional '"' value))
  | _, value =>
      (front = [] ∨ value.head?.any isBlank = true) ∧
        (back = [] ∨ value.getLast?.any isBlank = true)

instance (front back : Text) (quoting : Quoting) (value : Text) :
    Decidable (quoting.Hides front back value) := by
  cases quoting <;> unfold Quoting.Hides <;> infer_instance

/-- A quotation mark behind blanks is not taken off, unless nothing but a line feed follows it. -/
private theorem collapseBlanks_dropMark_mark (hfront : isBlankText front = true) (hne : front ≠ [])
    (hback : isBlankText back = true) (value : Text) :
    collapseBlanks (dropMark (front ++ '"' :: (value ++ back))) = collapseBlanks (dropMark value) ↔
      value = ['\n'] ∧ back = [] := by
  have hnone : dropMark [] = [] := rfl
  have hfeed : dropMark ['\n'] = ['\n'] := rfl
  have hkept (rest : Text) : collapseBlanks (front ++ rest) ≠ [] := fun hempty =>
    hne (List.append_eq_nil_iff.mp (collapseBlanks_eq_nil_iff.mp hempty)).1
  by_cases hempty : value ++ back = []
  · obtain ⟨rfl, rfl⟩ := List.append_eq_nil_iff.mp hempty
    have hdrop : dropMark (front ++ ['"']) = front := (Ends.mark front).eq_dropMark
    have hvisible := hkept []
    rw [List.append_nil] at hvisible
    rw [List.append_nil, hdrop, hnone]
    exact ⟨fun h => absurd h hvisible, fun h => absurd h.1 (by simp)⟩
  by_cases hsingle : value ++ back = ['\n']
  · have hdrop : dropMark (front ++ '"' :: ['\n']) = front ++ ['\n'] :=
      (Ends.feed front).eq_dropMark
    rw [hsingle, hdrop]
    rcases List.append_eq_singleton_iff.mp hsingle with ⟨rfl, rfl⟩ | ⟨rfl, rfl⟩
    · rw [hnone]
      exact ⟨fun h => absurd h (hkept _), fun h => absurd h.1 (by simp)⟩
    · rw [hfeed, collapseBlanks_gap_append hfront]
      simp [isBlank]
  · -- the mark stays, and what is left behind it is no shorter than without the blanks
    have hdrop : dropMark (front ++ '"' :: (value ++ back)) =
        front ++ '"' :: dropMark (value ++ back) := by
      rw [List.append_cons, dropMark_append hempty hsingle, List.append_assoc]
      rfl
    have hshorter := (collapseBlanks_dropMark_append hback value).1
    rw [hdrop, collapseBlanks_append_cons (by decide)]
    constructor
    · intro hsame
      rw [← hsame, List.length_append, List.length_cons] at hshorter
      omega
    · rintro ⟨rfl, rfl⟩
      exact absurd rfl hsingle

theorem collapseBlanks_dropOuter_padded (hfront : isBlankText front = true)
    (hback : isBlankText back = true) (value : Text) :
    collapseBlanks (dropOuter '"' '"' (front ++ (value ++ back))) =
        collapseBlanks (dropOuter '"' '"' value) ↔
      Quoting.braces.Hides front back value := by
  rw [dropOuter_eq_dropMark, dropOuter_eq_dropMark, Quoting.Hides]
  obtain ⟨hshorter, hsame⟩ := collapseBlanks_dropMark_append hback (dropOptional '"' value)
  rcases front with _ | ⟨c, front⟩
  · have hopened : dropOptional '"' (value ++ back) = dropOptional '"' value ++ back := by
      cases value with
      | nil => exact dropOptional_of_not_mem (mark_not_mem hback)
      | cons c value =>
          rw [List.cons_append, dropOptional, dropOptional]
          split <;> rfl
    rw [List.nil_append, hopened, hsame]
    simp
  have hmark : '"' ∉ c :: front := mark_not_mem hfront
  have hopened (t : Text) : dropOptional '"' (c :: front ++ t) = c :: front ++ t :=
    if_neg (ne_of_mem_of_not_mem (List.mem_cons_self ..) hmark)
  rw [hopened]
  rcases value with _ | ⟨d, value⟩
  · -- an empty value has no blanks that could hide others
    rw [List.nil_append, dropMark_append_of_not_mem hmark]
    refine ⟨fun hempty => ?_, fun h => by simp at h⟩
    exact absurd (collapseBlanks_eq_nil_iff.mp hempty) (by simp)
  by_cases hd : d = '"'
  · subst hd
    have hblank : isBlank '"' = false := by decide
    refine (collapseBlanks_dropMark_mark hfront (List.cons_ne_nil _ _) hback value).trans ?_
    simp [hblank]
    tauto
  · have hleft : dropOptional '"' (d :: value) = d :: value := if_neg hd
    rw [hleft] at hshorter hsame ⊢
    have hhead : (dropMark (d :: value ++ back)).head? = some d := by
      have hbehind : '"' ∉ [d] := by simpa using fun h => hd h.symm
      exact congrArg List.head? (dropMark_append_of_not_mem hbehind (value ++ back))
    rw [dropMark_append_of_not_mem hmark, collapseBlanks_gap_append hfront, ← hsame, hhead]
    by_cases hblank : isBlank d = true
    · simp [hblank]
    · have hspace : ¬ (c :: front = [] ∨ (some d).any isBlank = true) := by simp [hblank]
      rw [if_neg hspace]
      refine ⟨fun hlonger => ?_, fun h => ?_⟩
      · rw [← hlonger, List.length_append, List.length_singleton] at hshorter
        omega
      · simp [hblank, hd] at h

/-! ## Values of fields -/

/-- A value as written without its marks. -/
def unmarked (raw : Text) : Text := dropOuter '"' '"' (dropOuter '{' '}' (trim raw))

theorem unmarked_braced (content : Text) :
    unmarked (braced content) = dropOuter '"' '"' content := by
  rw [unmarked, braced, trim_enclosed (by decide) (by decide), dropOuter_enclosed]

theorem unmarked_marked (content : Text) : unmarked ('"' :: content ++ ['"']) = content := by
  have hkept : dropOuter '{' '}' ('"' :: content ++ ['"']) = '"' :: content ++ ['"'] := by
    simp [dropOuter, dropOptional]
  rw [unmarked, trim_enclosed (by decide) (by decide), hkept, dropOuter_enclosed]

theorem cleanValue_padded_iff {quoting : Quoting} {value : Text} (h : quoting.Encloses value)
    (hfront : isBlankText front = true) (hback : isBlankText back = true) :
    cleanValue (quoting.write (front ++ (value ++ back))) = cleanValue (quoting.write value) ↔
      quoting.Hides front back value := by
  have hclean (raw : Text) : cleanValue raw = collapseBlanks (unmarked raw) := rfl
  rw [hclean, hclean]
  cases quoting with
  | braces =>
      rw [Quoting.write, Quoting.write, unmarked_braced, unmarked_braced]
      exact collapseBlanks_dropOuter_padded hfront hback value
  | marks =>
      rw [Quoting.write, Quoting.write, unmarked_marked, unmarked_marked]
      exact collapseBlanks_padded hfront hback value
  | bare => exact h.elim

/-- Blanks alone are one space, as between any marks. -/
theorem cleanValue_blank {quoting : Quoting} {gap : Text} (hgap : isBlankText gap = true)
    (h : quoting.Encloses gap) :
    cleanValue (quoting.write gap) = if gap = [] then [] else [' '] := by
  have hspace : collapseBlanks gap = if gap = [] then [] else [' '] := by
    rw [collapseBlanks, collapseFrom_of_blank hgap]
    simp
  have hunmarked : unmarked (quoting.write gap) = gap := by
    cases quoting with
    | braces =>
        have hmark := mark_not_mem hgap
        rw [Quoting.write, unmarked_braced, dropOuter_eq_dropMark, dropOptional_of_not_mem hmark,
          dropMark_of_not_mem hmark]
    | marks => rw [Quoting.write, unmarked_marked]
    | bare => exact h.elim
  exact (congrArg collapseBlanks hunmarked).trans hspace

/-- A value that is read is collapsed, and it is trimmed if what stands between its marks is. -/
theorem exists_found_of_mem_readFields {body : Text} {field : Text × Text}
    (h : field ∈ readFields body) :
    ∃ found ∈ Scanner.findAll rawField? body, field = (lower found.1, cleanValue found.2) ∧
      (trim field.2 = field.2 ↔ trim (unmarked found.2) = unmarked found.2) := by
  obtain ⟨found, hfound, rfl⟩ := List.mem_map.mp (Assoc.mem_of_mem_ofList h)
  exact ⟨found, hfound, rfl, trim_collapseBlanks_eq_self_iff⟩

namespace FieldPlace

variable {place : FieldPlace} {value : Text}

/-- Blanks inside the marks of a field do not matter for the other ones. -/
theorem get?_padded_of_ne (h : place.Holds value) (hfront : isBlankText front = true)
    (hback : isBlankText back = true) {other : Text} (hother : other ≠ lower place.name) :
    (readFields (place.body (front ++ (value ++ back)))).get? other =
      (readFields (place.body value)).get? other := by
  obtain ⟨found, hreached⟩ := h.reached
  rw [get?_readFields_body h hreached,
    get?_readFields_body (h.padded hfront hback) (reaches_padded h hfront hback hreached),
    if_neg hother, if_neg hother]

/-- They matter for the field itself unless they are hidden, or its name comes again. -/
theorem get?_padded_iff (h : place.Holds value) (hfront : isBlankText front = true)
    (hback : isBlankText back = true) :
    (readFields (place.body (front ++ (value ++ back)))).get? (lower place.name) =
        (readFields (place.body value)).get? (lower place.name) ↔
      lower place.name ∈ (readFields place.behind).names ∨
        place.quoting.Hides front back value := by
  obtain ⟨found, hreached⟩ := h.reached
  rw [get?_readFields_body h hreached,
    get?_readFields_body (h.padded hfront hback) (reaches_padded h hfront hback hreached),
    if_pos rfl, if_pos rfl, ← cleanValue_padded_iff h.encloses hfront hback]
  cases hlater : (readFields place.behind).get? (lower place.name) with
  | none => simp [Assoc.get?_eq_none_iff.mp hlater]
  | some later =>
      have hmem : lower place.name ∈ (readFields place.behind).names := by
        by_contra hnone
        rw [Assoc.get?_eq_none_iff.mpr hnone] at hlater
        cases hlater
      simp [hmem]

/-- Blanks alone are a title that is a space, and the key does not stand in for it. -/
theorem title_of_blank {gap : Text} (h : place.Holds gap) (hgap : isBlankText gap = true)
    (hname : lower place.name = "title".toList)
    (hlast : lower place.name ∉ (readFields place.behind).names) {reference : Citation.Reference}
    (hfields : reference.fields = readFields (place.body gap)) :
    Reference.title reference = if gap = [] then reference.key else [' '] := by
  obtain ⟨found, hreached⟩ := h.reached
  have hvalue : reference.fields.get? "title".toList = some (if gap = [] then [] else [' ']) := by
    rw [hfields, ← hname, get?_readFields_body h hreached, Assoc.get?_eq_none_iff.mpr hlast,
      Option.none_or, if_pos rfl, cleanValue_blank hgap h.encloses]
  unfold Reference.title Reference.field? Assoc.filled?
  rw [hvalue]
  split <;> rfl

end FieldPlace

/-- Whatever the body, its values hold no blanks but single spaces, at their ends if what stands
between the marks has blanks there.  Each value in braces or quotation marks has its place, and
blanks put inside the marks there show in the value, and nowhere else, unless others stand beside
them already.  A title of blanks only is a space and not the key. -/
theorem padding_immaterial_iff (body : Text) :
    (∀ field ∈ readFields body, Collapsed field.2 ∧
      ∃ found ∈ Scanner.findAll rawField? body, field = (lower found.1, cleanValue found.2) ∧
        (trim field.2 = field.2 ↔ trim (unmarked found.2) = unmarked found.2)) ∧
    (∀ found ∈ Scanner.findAll rawField? body, ∀ (quoting : Quoting) (value : Text),
      found.2 = quoting.write value → quoting.Encloses value →
        ∃ place : FieldPlace, place.Holds value ∧ place.body value = body ∧
          place.name = found.1 ∧ place.quoting = quoting) ∧
    ∀ (place : FieldPlace) (value front back : Text), place.Holds value → place.body value = body →
      isBlankText front = true → isBlankText back = true →
        ((readFields (place.body (front ++ (value ++ back)))).get? (lower place.name) =
            (readFields body).get? (lower place.name) ↔
          lower place.name ∈ (readFields place.behind).names ∨
            place.quoting.Hides front back value) ∧
        (∀ other, other ≠ lower place.name →
          (readFields (place.body (front ++ (value ++ back)))).get? other =
            (readFields body).get? other) ∧
        (value = [] → lower place.name = "title".toList →
          lower place.name ∉ (readFields place.behind).names →
          ∀ reference : Citation.Reference,
            reference.fields = readFields (place.body (front ++ (value ++ back))) →
              Reference.title reference = if front ++ back = [] then reference.key else [' ']) := by
  refine ⟨fun field hfield => ⟨collapsed_of_mem_readFields hfield,
      exists_found_of_mem_readFields hfield⟩,
    fun found hfound quoting value hraw hencloses =>
      FieldPlace.exists_holds hfound hraw hencloses, ?_⟩
  rintro place value front back hholds rfl hfront hback
  refine ⟨FieldPlace.get?_padded_iff hholds hfront hback,
    fun other hother => FieldPlace.get?_padded_of_ne hholds hfront hback hother, ?_⟩
  rintro rfl hname hlast reference hfields
  have hblank : isBlankText (front ++ back) = true := by
    rw [isBlankText, List.all_append, Bool.and_eq_true]
    exact ⟨hfront, hback⟩
  exact FieldPlace.title_of_blank (hholds.padded hfront hback) hblank hname hlast hfields

/-- The title of an entry, between two other fields. -/
def titlePlace : FieldPlace where
  before := "\n  year = \x7b2020\x7d,\n  ".toList
  name := "Title".toList
  gap := " ".toList
  gap' := " ".toList
  quoting := .braces
  rest := ",\n  journal = \"Nature\"".toList

def titleText : Text := "Deep Learning".toList

theorem holds_titlePlace {value : Text} (h : Quoting.braces.Encloses value) :
    titlePlace.Holds value where
  name_ne_nil := by decide
  word := List.all_eq_true.mp (by decide +kernel)
  gap := by decide
  gap' := by decide
  encloses := h
  reached := by
    have hblank (c : Char) (hc : isBlank c = true) {before : Text} {found : List (Text × Text)}
        (hrest : Scanner.Reaches rawField? (titlePlace.field value) before found) :
        Scanner.Reaches rawField? (titlePlace.field value) (c :: before) found :=
      .pass (rawField?_of_isBlank hc _) hrest
    have hgap : Scanner.Reaches rawField? (titlePlace.field value) "\n  ".toList [] :=
      hblank '\n' (by decide) (hblank ' ' (by decide) (hblank ' ' (by decide) .here))
    have hyear : rawField?
        ("year = \x7b2020\x7d,".toList ++ ("\n  ".toList ++ titlePlace.field value)) =
          some (("year".toList, "\x7b2020\x7d".toList), "\n  ".toList ++ titlePlace.field value) := rfl
    exact ⟨[("year".toList, "\x7b2020\x7d".toList)],
      hblank '\n' (by decide) (hblank ' ' (by decide) (hblank ' ' (by decide) (.hit hyear hgap)))⟩

/-- A title on lines of its own is another one, and a title of blanks only is a space. -/
theorem padding_immaterial_iff_of_titlePlace :
    (("title".toList, titleText) ∈ readFields (titlePlace.body titleText) ∧ Collapsed titleText) ∧
    (("Title".toList, braced titleText) ∈ Scanner.findAll rawField? (titlePlace.body titleText) ∧
      Quoting.braces.Encloses titleText ∧
      ∃ place : FieldPlace, place.Holds titleText ∧
        place.body titleText = titlePlace.body titleText ∧
        place.name = "Title".toList ∧ place.quoting = .braces) ∧
    (titlePlace.Holds titleText ∧
      (readFields (titlePlace.body ("\n    ".toList ++ (titleText ++ "\n  ".toList)))).get?
          (lower titlePlace.name) ≠
        (readFields (titlePlace.body titleText)).get? (lower titlePlace.name)) ∧
    (titlePlace.Holds [] ∧
      ∀ reference : Citation.Reference,
        reference.fields = readFields (titlePlace.body (" ".toList ++ ([] ++ "\n".toList))) →
          Reference.title reference = [' ']) := by
  have hname : lower titlePlace.name = "title".toList := by decide +kernel
  have hlast : lower titlePlace.name ∉ (readFields titlePlace.behind).names := by decide +kernel
  have hencloses : Quoting.braces.Encloses titleText := by decide
  have hholds := holds_titlePlace hencloses
  have hempty : titlePlace.Holds [] := holds_titlePlace (by decide)
  have hfield : ("title".toList, titleText) ∈ readFields (titlePlace.body titleText) := by
    decide +kernel
  have hfound : ("Title".toList, braced titleText) ∈
      Scanner.findAll rawField? (titlePlace.body titleText) := by decide +kernel
  obtain ⟨hvalues, hplaces, hpadding⟩ := padding_immaterial_iff (titlePlace.body titleText)
  refine ⟨⟨hfield, (hvalues _ hfield).1⟩,
    ⟨hfound, hencloses, hplaces _ hfound .braces titleText rfl hencloses⟩, ⟨hholds, fun hsame => ?_⟩,
    hempty, fun reference hfields => ?_⟩
  · have hhidden := (hpadding titlePlace titleText "\n    ".toList "\n  ".toList hholds rfl
      (by decide) (by decide)).1.mp hsame
    exact absurd hhidden (not_or.mpr ⟨hlast, by decide⟩)
  · exact ((padding_immaterial_iff _).2.2 titlePlace [] " ".toList "\n".toList hempty rfl
      (by decide) (by decide)).2.2 rfl hname hlast reference hfields

/-- Blanks inside braces stay, and a title that is one of them is shown as it is. -/
theorem padding_shows :
    readFields "title = \x7bA\x7d".toList = [("title".toList, "A".toList)] ∧
      readFields "title = \x7b A \x7d".toList = [("title".toList, " A ".toList)] ∧
      trim " A ".toList ≠ " A ".toList ∧
      readFields "title = \x7b \x7d".toList = [("title".toList, " ".toList)] ∧
      Reference.title ⟨"a".toList, 1, readFields "title = \x7b \x7d".toList, none, false⟩ =
        " ".toList := by
  decide +kernel

end Bibliography

end PaperHtml
