import PaperHtml.Proofs.Conversion.WholeArguments
import PaperHtml.Proofs.Text.Outdenting

/-!
# Indented algorithms

Two algorithms whose lines differ in their indentation alone have the same
statements only as long as no line but the first begins with a backslash: the
backslash in front of a statement is taken away where it begins its line, and a
line is trimmed after that, except for the first one, since the whole listing is
trimmed before.

## Strategy

A text with less indentation (`Outdented`) is read alike from any place behind
the front of a line, so the marks of a listing are taken away from both texts
alike (`TakesMarks.outdented`).

Among all ways to indent an algorithm two decide.  Where every line is indented
no backslash but the first is taken away (`keptStatements`), where none is all of
those are that ever can be, and counting the backslashes tells the two apart.
-/

namespace PaperHtml.Conversion

open Text Latex Conversion.Markdown

/-! ## What is read from the front -/

variable {t u : Text}

theorem argument?_outdented (h : Outdented false t u) :
    Option.Rel (fun a b => Outdented false a.2 b.2) (argument? t) (argument? u) := by
  cases h with
  | nil => exact .none
  | feed _ => exact .none
  | @keep _ c t u hc h =>
      by_cases hbrace : c = '{'
      · subst hbrace
        exact h.cutChar? (by decide)
      · have hnone (t : Text) : argument? (c :: t) = none := by
          unfold argument?
          split
          · rename_i heq
            exact absurd (List.cons.inj heq).1 hbrace
          · rfl
        rw [hnone, hnone]
        exact .none

/-- A number in brackets is read alike. -/
theorem dropNumberNote_outdented (h : Outdented false t u) :
    Outdented false (dropNumberNote t) (dropNumberNote u) := by
  have hnote (t : Text) : dropNumberNote ('[' :: t) =
      if (t.dropWhile isDecimalDigit).head? = some ']' then (t.dropWhile isDecimalDigit).tail
      else '[' :: t := by
    rw [dropNumberNote]
    cases hdigits : t.dropWhile isDecimalDigit with
    | nil => rfl
    | cons c rest =>
        by_cases hc : c = ']'
        · subst hc
          rfl
        · simp [hc]
  cases h with
  | nil => exact .nil
  | feed h => exact .feed h
  | @keep _ c t u hc h =>
      by_cases hopen : c = '['
      · subst hopen
        have hdigits : Outdented false (t.dropWhile isDecimalDigit) (u.dropWhile isDecimalDigit) :=
          h.dropWhile (by decide +kernel)
        rw [hnote, hnote, hdigits.head?_eq]
        split
        · rename_i hclose
          obtain ⟨rest', hu⟩ := List.head?_eq_some_iff.mp hclose
          obtain ⟨rest, ht⟩ := List.head?_eq_some_iff.mp (hdigits.head?_eq.trans hclose)
          rw [ht, hu] at hdigits ⊢
          cases hdigits with
          | keep _ hrest => exact hrest
        · exact .keep hc h
      · have hself (t : Text) : dropNumberNote (c :: t) = c :: t := by
          unfold dropNumberNote
          split
          · rename_i heq
            exact absurd (List.cons.inj heq).1 hopen
          · rfl
        rw [hself, hself]
        exact .keep hc h

/-! ## Marks that are taken away -/

/-- A scan that takes marks away which begin with a backslash, and that finds them however a text
is indented. -/
structure TakesMarks (scan : Scanner Text) : Prop where
  exists_eq : ∀ t out rest, scan t = some (out, rest) →
    out = [] ∧ ∃ letters, t = '\\' :: letters ++ rest
  alike : ∀ t u, Outdented false t u →
    Option.Rel (fun a b => Outdented false a.2 b.2) (scan t) (scan u)

theorem dropNumberNote_suffix (t : Text) : dropNumberNote t <:+ t := by
  unfold dropNumberNote
  split
  · split
    · rename_i rest _ after hclose
      exact (List.suffix_cons ']' after).trans
        (hclose ▸ (List.dropWhile_suffix _).trans (List.suffix_cons '[' rest))
    · exact List.suffix_refl _
  · exact List.suffix_refl _

namespace TakesMarks

variable {scan : Scanner Text}

theorem exists_source (hscan : TakesMarks scan) (t out rest : Text)
    (h : scan t = some (out, rest)) : ∃ source, source ≠ [] ∧ t = source ++ rest := by
  obtain ⟨-, letters, heq⟩ := hscan.exists_eq t out rest h
  exact ⟨'\\' :: letters, List.cons_ne_nil _ _, heq⟩

theorem eq_none (hscan : TakesMarks scan) {c : Char} (hc : c ≠ '\\') (t : Text) :
    scan (c :: t) = none := by
  rw [Option.eq_none_iff_forall_ne_some]
  rintro ⟨out, rest⟩ h
  obtain ⟨-, letters, heq⟩ := hscan.exists_eq _ _ _ h
  exact hc (List.cons.inj heq).1

/-- At a backslash a mark is found in both texts or in neither. -/
theorem found_or_not (hscan : TakesMarks scan) {front : Bool} {t u : Text}
    (h : Outdented (front && isIndent '\\') t u) :
    (scan ('\\' :: t) = none ∧ scan ('\\' :: u) = none) ∨
      ∃ rest rest', scan ('\\' :: t) = some ([], rest) ∧ scan ('\\' :: u) = some ([], rest') ∧
        Outdented false rest rest' := by
  have hfront : isIndent '\\' = false := by decide
  rw [hfront, Bool.and_false] at h
  have hrel := hscan.alike ('\\' :: t) ('\\' :: u) (.keep (by decide) (by rwa [Bool.false_and]))
  cases ht : scan ('\\' :: t) <;> cases hu : scan ('\\' :: u) <;> rw [ht, hu] at hrel <;>
    cases hrel
  · exact .inl ⟨rfl, rfl⟩
  · rename_i found found' hrest
    obtain ⟨out, rest⟩ := found
    obtain ⟨out', rest'⟩ := found'
    obtain ⟨rfl, -⟩ := hscan.exists_eq _ _ _ ht
    obtain ⟨rfl, -⟩ := hscan.exists_eq _ _ _ hu
    exact .inr ⟨rest, rest', rfl, rfl, hrest⟩

/-- From a text with less indentation the same marks are taken away.  Where they begin a line, what
is behind them comes to stand at its front, so the lines may begin earlier (`more`) in what is
left. -/
theorem outdented (hscan : TakesMarks scan) {front more : Bool} (hmore : front = true → more = true)
    {t u : Text} (h : Outdented front t u) :
    Outdented more (Scanner.substitute scan t) (Scanner.substitute scan u) := by
  refine Scanner.substitute_induction (motive := fun t t' => ∀ front more : Bool,
    (front = true → more = true) → ∀ u, Outdented front t u →
      Outdented more t' (Scanner.substitute scan u))
    hscan.exists_source ?_ ?_ ?_ t front more hmore u h
  · intro front more _ u h
    cases h
    exact .nil
  · intro c t hnone ih front more hmore u h
    cases h with
    | drop hc h =>
        obtain rfl := hmore rfl
        exact .drop hc (ih true true id u h)
    | @feed _ _ u h =>
        rw [Scanner.substitute_cons_of_none (hscan.eq_none (by decide) u)]
        exact .feed (ih true true id u h)
    | @keep _ _ _ u hc h =>
        have hnone' : scan (c :: u) = none := by
          by_cases hbackslash : c = '\\'
          · subst hbackslash
            rcases hscan.found_or_not h with ⟨-, hu⟩ | ⟨rest, -, ht, -⟩
            · exact hu
            · exact absurd (hnone.symm.trans ht).symm (Option.some_ne_none _)
          · exact hscan.eq_none hbackslash u
        rw [Scanner.substitute_cons_of_none hnone']
        refine .keep hc (ih _ _ (fun hfront => ?_) u h)
        rw [Bool.and_eq_true] at hfront ⊢
        exact ⟨hmore hfront.1, hfront.2⟩
  · intro source out rest _ hfound ih front more hmore u h
    obtain ⟨rfl, letters, heq⟩ := hscan.exists_eq _ _ _ hfound
    rw [heq, List.cons_append] at h hfound
    cases h with
    | drop hc _ => exact absurd hc (by decide)
    | @keep _ _ _ u hc h =>
        rcases hscan.found_or_not h with ⟨ht, -⟩ | ⟨rest₁, rest₂, ht, hu, hrest⟩
        · exact absurd (ht.symm.trans hfound).symm (Option.some_ne_none _)
        · obtain ⟨-, rfl⟩ := Prod.mk.inj (Option.some.inj (ht.symm.trans hfound))
          obtain ⟨-, letters', heq'⟩ := hscan.exists_eq _ _ _ hu
          rw [heq'] at hu ⊢
          rw [Scanner.substitute_append_of_some (List.cons_ne_nil _ _) hu]
          exact ih false more (by simp) rest₂ hrest

/-- Taking marks away brings no backslash to the front of a line behind a character that stays. -/
theorem lineFeed_backslash (hscan : TakesMarks scan) {t : Text} (h : ¬ ['\n', '\\'] <:+: t) :
    ¬ ['\n', '\\'] <:+: Scanner.substitute scan t := by
  refine (Scanner.substitute_induction (motive := fun t t' =>
    (¬ ['\n', '\\'] <:+: t → ¬ ['\n', '\\'] <:+: t') ∧ (t'.head? = some '\\' → t.head? = some '\\'))
    hscan.exists_source ⟨id, id⟩ ?_ ?_ t).1 h
  · rintro c t - ⟨ih, hhead⟩
    refine ⟨fun h hinside => ?_, id⟩
    rcases List.infix_cons_iff.mp hinside with hfront | hinside
    · obtain ⟨rfl, hbackslash⟩ := List.cons_prefix_cons.mp hfront
      obtain ⟨rest, hrest⟩ := hbackslash
      obtain ⟨rest', rfl⟩ := List.head?_eq_some_iff.mp (hhead (by rw [← hrest]; rfl))
      exact h ⟨[], rest', rfl⟩
    · exact ih (fun hwithin => h (hwithin.trans (List.suffix_cons c t).isInfix)) hinside
  · rintro source out rest - hfound ⟨ih, -⟩
    obtain ⟨rfl, letters, heq⟩ := hscan.exists_eq _ _ _ hfound
    refine ⟨fun h => ih fun hwithin => h (hwithin.trans ?_), fun _ => by rw [heq]; rfl⟩
    exact (List.suffix_append source rest).isInfix

theorem of_argument (name : Text) (hname : '\n' ∉ name) :
    TakesMarks (withArgument name fun _ => []) where
  exists_eq t out rest h := by
    obtain ⟨argument, -, rfl, rfl⟩ := withArgument_eq_some_iff.mp h
    exact ⟨rfl, name ++ '{' :: (argument ++ ['}']), by simp⟩
  alike t u h := by
    have hmark : '\n' ∉ '\\' :: name := by simpa using hname
    exact rel_bind (h.dropPrefix? hmark) fun _ _ h => rel_map (argument?_outdented h) fun _ _ h => h

theorem of_literal (name : Text) (hname : '\n' ∉ name) :
    TakesMarks (Scanner.literal ('\\' :: name) []) where
  exists_eq t out rest h := by
    obtain ⟨found, hfound, heq⟩ := Option.map_eq_some_iff.mp h
    obtain ⟨rfl, rfl⟩ := Prod.mk.inj heq
    exact ⟨rfl, name, dropPrefix?_eq_some_iff.mp hfound⟩
  alike t u h := by
    have hmark : '\n' ∉ '\\' :: name := by simpa using hname
    exact rel_map (h.dropPrefix? hmark) fun _ _ h => h

theorem listingOpening : TakesMarks listingOpening.scan where
  exists_eq t out rest h := by
    obtain ⟨after, hafter, heq⟩ := Option.map_eq_some_iff.mp h
    obtain ⟨rfl, rfl⟩ := Prod.mk.inj heq
    obtain ⟨behind, hbehind, rfl⟩ := Option.map_eq_some_iff.mp hafter
    obtain rfl := dropPrefix?_eq_some_iff.mp hbehind
    obtain ⟨note, hnote⟩ := dropNumberNote_suffix behind
    refine ⟨rfl, "begin{algorithmic}".toList ++ note, ?_⟩
    rw [List.cons_append, List.append_assoc "begin{algorithmic}".toList note, hnote]
    rfl
  alike t u h := by
    have hmark : '\n' ∉ "\\begin".toList ++ braced "algorithmic".toList := by decide
    have hopening := h.dropPrefix? hmark
    exact rel_map (rel_map hopening fun _ _ h => dropNumberNote_outdented h) fun _ _ h => h

end TakesMarks

/-! ## Listings -/

/-- What every scan keeps that takes marks away is kept when a listing loses all of its marks. -/
theorem stripListing_keeps {R : Text → Text → Prop}
    (hR : ∀ scan, TakesMarks scan → ∀ t u, R t u →
      R (Scanner.substitute scan t) (Scanner.substitute scan u)) {t u : Text} (h : R t u) :
    R (stripListing t) (stripListing u) := by
  have hopening := hR _ .listingOpening _ _ h
  have hclosing := hR _ (.of_literal "end{algorithmic}".toList (by decide)) _ _ hopening
  have hcaption := hR _ (.of_argument "caption".toList (by decide)) _ _ hclosing
  exact hR _ (.of_argument "label".toList (by decide)) _ _ hcaption

theorem outdented_stripListing {t u : Text} (h : Outdented true t u) :
    Outdented true (stripListing t) (stripListing u) :=
  stripListing_keeps (fun _ hscan _ _ => hscan.outdented id) h

theorem lineFeed_backslash_stripListing {t : Text} (h : ¬ ['\n', '\\'] <:+: t) :
    ¬ ['\n', '\\'] <:+: stripListing t :=
  stripListing_keeps (R := fun t _ => ¬ ['\n', '\\'] <:+: t)
    (fun _ hscan _ _ => hscan.lineFeed_backslash) (u := t) h

/-- The lines of a listing without its marks. -/
def listingLines (block : Text) : List Text := lines (trim (stripListing block))

theorem exists_listingLines_eq (block : Text) :
    ∃ first more, listingLines block = first :: more :=
  List.exists_cons_of_ne_nil (splitOn_ne_nil '\n' (trim (stripListing block)))

/-- A line without the backslash that may begin it. -/
def statement (line : Text) : Text := trim (dropOptional '\\' line)

/-- The statements of an algorithm if every line is trimmed before it loses its backslash. -/
def trimmedStatements (block : Text) : List Text :=
  ((listingLines block).map fun line => statement (trimStart line)).filter fun line => line ≠ []

/-- The statements on lines of which the first alone may lose its backslash. -/
def keptStatements : List Text → List Text
  | [] => []
  | first :: more => (statement (trimStart first) :: more.map trim).filter fun line => line ≠ []

theorem algorithmLines_eq (block : Text) : algorithmLines block =
    ((listingLines block).map statement).filter fun line => line ≠ [] := rfl

theorem count_statement (line : Text) : (statement line).count '\\' +
    (if line.head? = some '\\' then 1 else 0) = (trim line).count '\\' := by
  rw [statement, count_trim (by decide), count_trim (by decide)]
  cases line with
  | nil => rfl
  | cons c line =>
      rw [dropOptional]
      by_cases hc : c = '\\' <;> simp [hc]

theorem statement_eq_trim {line : Text} (h : line.head? ≠ some '\\') :
    statement line = trim line := by
  cases line with
  | nil => rfl
  | cons c line =>
      have hc : c ≠ '\\' := by simpa using h
      rw [statement, dropOptional, if_neg hc]

/-- Below a first line the statements are trimmed lines only if none of the lines begins with a
backslash. -/
theorem filter_statements_eq_iff (first : Text) (more : List Text) :
    (first :: more.map statement).filter (fun line => line ≠ []) =
        (first :: more.map trim).filter (fun line => line ≠ []) ↔
      ∀ line ∈ more, line.head? ≠ some '\\' := by
  constructor
  · intro h line hline hhead
    have hcount := congrArg (fun ls => (List.flatten ls).count '\\') h
    simp only [List.flatten_filter_ne_nil, List.flatten_cons, List.count_append,
      List.count_flatten, List.map_map, Nat.add_left_cancel_iff] at hcount
    refine absurd hcount (Nat.ne_of_lt (List.sum_lt_sum _ _ (fun line _ => ?_) ⟨line, hline, ?_⟩))
    · exact Nat.le.intro (count_statement line)
    · have hline := count_statement line
      rw [if_pos hhead] at hline
      exact Nat.lt_of_succ_le hline.le
  · intro h
    rw [List.map_congr_left fun line hline => statement_eq_trim (h line hline)]

theorem keptStatements_outdent (ls : List Text) :
    keptStatements (ls.map outdent) = keptStatements ls := by
  cases ls with
  | nil => rfl
  | cons first more =>
      have htrim (line : Text) : trim (outdent line) = trim line := by
        rw [← trim_trimStart, trimStart_outdent, trim_trimStart]
      rw [List.map_cons, keptStatements, keptStatements, trimStart_outdent, List.map_map]
      simp only [Function.comp_def, htrim]

/-! ## Indented algorithms -/

variable {block other : Text}

theorem outdent_listingLines (h : Reindented block other) :
    (listingLines block).map outdent = (listingLines other).map outdent := by
  have hblock : Reindented (trim (stripListing block)) (trim (stripListing (flushLeft block))) :=
    (outdented_stripListing (.of_flushLeft block)).trim.reindented
  have hother : Reindented (trim (stripListing other)) (trim (stripListing (flushLeft block))) :=
    (outdented_stripListing h.outdented).trim.reindented
  exact hblock.trans hother.symm

theorem keptStatements_congr (h : Reindented block other) :
    keptStatements (listingLines block) = keptStatements (listingLines other) := by
  rw [← keptStatements_outdent, outdent_listingLines h, keptStatements_outdent]

theorem trimmedStatements_congr (h : Reindented block other) :
    trimmedStatements block = trimmedStatements other := by
  have hmap (ls : List Text) : (ls.map outdent).map (fun line => statement (trimStart line)) =
      ls.map fun line => statement (trimStart line) := by
    simp only [List.map_map, Function.comp_def, trimStart_outdent]
  rw [trimmedStatements, ← hmap]
  exact (congrArg (fun ls : List Text => (ls.map fun line => statement (trimStart line)).filter
    fun line => line ≠ []) (outdent_listingLines h)).trans (by rw [hmap]; rfl)

theorem algorithmLines_eq_keptStatements_iff :
    algorithmLines block = keptStatements (listingLines block) ↔
      ∀ line ∈ (listingLines block).tail, line.head? ≠ some '\\' := by
  obtain ⟨first, more, hlines⟩ := exists_listingLines_eq block
  rw [algorithmLines_eq, hlines, keptStatements, trimStart_first hlines]
  exact filter_statements_eq_iff _ _

theorem trimmedStatements_eq_keptStatements_iff :
    trimmedStatements block = keptStatements (listingLines block) ↔
      ∀ line ∈ (listingLines block).tail, (trimStart line).head? ≠ some '\\' := by
  obtain ⟨first, more, hlines⟩ := exists_listingLines_eq block
  have h := filter_statements_eq_iff (statement (trimStart first)) (more.map trimStart)
  simp only [List.map_map, Function.comp_def, trim_trimStart, List.forall_mem_map] at h
  rw [trimmedStatements, hlines, keptStatements]
  exact h

/-- Where every line is indented, the first alone loses its backslash. -/
theorem algorithmLines_indented (block : Text) :
    algorithmLines (indented block) = keptStatements (listingLines block) := by
  have hline : ¬ ['\n', '\\'] <:+: indented block := by
    rw [← forall_tail_lines_iff, lines_indented]
    intro line hline
    obtain ⟨inner, -, rfl⟩ := List.mem_map.mp (List.mem_of_mem_tail hline)
    simp
  rw [keptStatements_congr (reindented_indented block), algorithmLines_eq_keptStatements_iff,
    listingLines, forall_tail_lines_iff]
  exact fun h => lineFeed_backslash_stripListing hline (h.trans (infix_of_trim _))

/-- The statements of an algorithm do not depend on its indentation if and only if no line of it but
the first begins with a backslash when nothing is indented; and they are what is left of trimmed
lines without their backslashes, however the algorithm is indented, if and only if there is no
backslash to take away from any line but the first. -/
theorem indentation_immaterial_iff (block : Text) :
    ((∀ other, Reindented block other → algorithmLines other = algorithmLines block) ↔
      ∀ line ∈ (listingLines (flushLeft block)).tail, line.head? ≠ some '\\') ∧
    ((∀ other, Reindented block other → algorithmLines other = trimmedStatements block) ↔
      ∀ line ∈ (listingLines block).tail, (trimStart line).head? ≠ some '\\') := by
  have hindented := reindented_indented block
  have hflush : Reindented block (flushLeft block) := (Outdented.of_flushLeft block).reindented
  constructor
  · constructor
    · intro h
      rw [← algorithmLines_eq_keptStatements_iff, ← keptStatements_congr hflush,
        ← algorithmLines_indented, h _ hflush, h _ hindented]
    · intro h
      have hkept : ∀ other, Reindented block other →
          algorithmLines other = keptStatements (listingLines block) := by
        intro other hother
        rw [keptStatements_congr hother, algorithmLines_eq_keptStatements_iff, listingLines,
          forall_tail_lines_iff]
        rw [listingLines, forall_tail_lines_iff] at h
        have hless := (outdented_stripListing hother.outdented).trim
        exact fun hline => h (hless.infix_lineFeed_backslash hline)
      intro other hother
      rw [hkept other hother, hkept block rfl]
  · rw [← trimmedStatements_eq_keptStatements_iff]
    constructor
    · intro h
      rw [← h _ hindented, algorithmLines_indented]
    · intro h other hother
      have htrimmed : trimmedStatements other = keptStatements (listingLines other) := by
        rw [← trimmedStatements_congr hother, h, keptStatements_congr hother]
      rw [trimmedStatements_congr hother, htrimmed, algorithmLines_eq_keptStatements_iff]
      intro line hline hhead
      have hnot := trimmedStatements_eq_keptStatements_iff.mp htrimmed line hline
      obtain ⟨rest, rfl⟩ := List.head?_eq_some_iff.mp hhead
      exact hnot (by rw [trimStart_cons (by decide)]; rfl)

/-- A statement that is indented keeps its backslash, and one that is not loses it. -/
theorem indented_statement_keeps_backslash :
    Reindented "a\n\\State b".toList "a\n  \\State b".toList ∧
      algorithmLines "a\n\\State b".toList = ["a".toList, "State b".toList] ∧
      algorithmLines "a\n  \\State b".toList = ["a".toList, "\\State b".toList] := by
  decide +kernel

end PaperHtml.Conversion
