import Mathlib
import PaperHtml.Proofs.Bibliography.Boundary
import PaperHtml.Proofs.Text.Seams
import PaperHtml.Reference.Authors

/-!
# Author lists are read back

A printer for lists of authors, with any separator between each two names, and
what the reader makes of its lists: the names, whatever they begin with and however
the separators are written.  A name may be the word `and` itself, or begin with
it; what it cannot do is hold that word between blanks or end in it.

## Strategy

A separator is recognised with all blanks around its word (`separator_append`,
`exists_separator`).  In a name followed by a separator nothing is recognised
(`IsAuthorName.goesBy`): since a name ends in no blank, whatever began in it would
have its word in it too, or reach with the word to its end, or have a blank for a
letter.
-/

namespace PaperHtml

namespace Reference

open Text

/-! ## The printer -/

/-- Some blanks, at least one. -/
structure IsGap (gap : Text) : Prop where
  ne_nil : gap ≠ []
  blank : ∀ c ∈ gap, isBlank c = true

/-- The word `and`, in any case. -/
def IsAnd (word : Text) : Prop := word.map Char.toLower = "and".toList

instance (gap : Text) : Decidable (IsGap gap) :=
  decidable_of_iff (gap ≠ [] ∧ gap.all isBlank = true)
    ⟨fun h => ⟨h.1, List.all_eq_true.mp h.2⟩, fun h => ⟨h.ne_nil, List.all_eq_true.mpr h.blank⟩⟩

instance (word : Text) : Decidable (IsAnd word) := inferInstanceAs (Decidable (_ = _))

/-- A way to write what stands between two names. -/
structure Separator where
  front : Text
  word : Text
  back : Text
  isGap_front : IsGap front := by decide
  isAnd_word : IsAnd word := by decide
  isGap_back : IsGap back := by decide

/-- A separator as written. -/
def Separator.source (sep : Separator) : Text := sep.front ++ (sep.word ++ sep.back)

/-- A first name, and others with what stands before each. -/
structure AuthorList where
  first : Text
  others : List (Separator × Text)

/-- The names of a list. -/
def AuthorList.names (list : AuthorList) : List Text := list.first :: list.others.map Prod.snd

/-- A list as written. -/
def AuthorList.source (list : AuthorList) : Text :=
  list.first ++ list.others.flatMap fun other => other.1.source ++ other.2

/-- A name that can stand in a list: it is trimmed, and the word of separators neither stands
between blanks in it nor behind blanks at its end. -/
structure IsAuthorName (name : Text) : Prop where
  ne_nil : name ≠ []
  trim : trim name = name
  middle : ∀ sep : Separator, ¬ sep.source <:+: name
  ending : ∀ gap word, IsGap gap → IsAnd word → ¬ gap ++ word <:+ name

/-! ## Reading a separator -/

variable {gap word : Text}

theorem isBlank_of_mem_and (h : IsAnd word) : ∀ c ∈ word, isBlank c = false := by
  intro c hc
  have hletter : c.toLower ∈ "and".toList := h ▸ List.mem_map_of_mem hc
  have hcodes : ∀ code ∈ blankCodes, (Char.ofNat code).toLower ∉ "and".toList := by decide +kernel
  apply Bool.eq_false_iff.mpr
  intro hblank
  have hnone := hcodes _ (toNat_mem_blankCodes hblank)
  rw [Char.ofNat_toNat] at hnone
  exact hnone hletter

theorem IsAnd.ne_nil (h : IsAnd word) : word ≠ [] := by
  rintro rfl
  cases h

theorem trimStart_and (h : IsAnd word) (rest : Text) : trimStart (word ++ rest) = word ++ rest := by
  obtain ⟨c, word, rfl⟩ := List.exists_cons_of_ne_nil h.ne_nil
  exact trimStart_cons (isBlank_of_mem_and h c (List.mem_cons_self ..)) _

theorem dropBlanks?_append (h : IsGap gap) (rest : Text) :
    dropBlanks? (gap ++ rest) = some (trimStart rest) := by
  obtain ⟨c, gap, rfl⟩ := List.exists_cons_of_ne_nil h.ne_nil
  obtain ⟨hc, hgap⟩ := List.forall_mem_cons.mp h.blank
  rw [List.cons_append, dropBlanks?, if_pos hc, trimStart_append hgap]

theorem exists_gap {t rest : Text} (h : dropBlanks? t = some rest) :
    ∃ gap, IsGap gap ∧ t = gap ++ rest := by
  cases t with
  | nil => cases h
  | cons c t =>
      simp only [dropBlanks?] at h
      split at h
      · rename_i hc
        obtain ⟨gap, hgap, ht⟩ := exists_trimStart t
        obtain rfl := Option.some.inj h
        exact ⟨c :: gap, ⟨List.cons_ne_nil _ _, List.forall_mem_cons.mpr ⟨hc, hgap⟩⟩,
          congrArg _ ht⟩
      · cases h

theorem dropAnd?_eq_some_iff {t rest : Text} :
    dropAnd? t = some rest ↔ ∃ word, IsAnd word ∧ t = word ++ rest := by
  constructor
  · intro h
    unfold dropAnd? at h
    split at h
    · rename_i a n d behind
      split at h
      · rename_i hletters
        cases h
        refine ⟨[a, n, d], ?_, rfl⟩
        simp [IsAnd, hletters]
      · cases h
    · cases h
  · rintro ⟨word, hword, rfl⟩
    have hlength : word.length = 3 := by
      have hmap := congrArg List.length hword
      rwa [List.length_map] at hmap
    obtain ⟨a, n, d, rfl⟩ := List.length_eq_three.mp hlength
    have hletters : a.toLower = 'a' ∧ n.toLower = 'n' ∧ d.toLower = 'd' := by
      simpa [IsAnd] using hword
    exact if_pos hletters

/-- A separator is recognised, and all blanks behind it belong to it. -/
theorem separator_append (sep : Separator) (rest : Text) :
    separator (sep.source ++ rest) = some ((), trimStart rest) := by
  have hword : dropAnd? (sep.word ++ (sep.back ++ rest)) = some (sep.back ++ rest) :=
    dropAnd?_eq_some_iff.mpr ⟨_, sep.isAnd_word, rfl⟩
  unfold separator Separator.source
  rw [List.append_assoc, List.append_assoc, dropBlanks?_append sep.isGap_front,
    trimStart_and sep.isAnd_word, Option.bind_some, hword, Option.bind_some,
    dropBlanks?_append sep.isGap_back]
  rfl

theorem exists_separator {t : Text} {found : Unit × Text} (h : separator t = some found) :
    ∃ sep : Separator, t = sep.source ++ found.2 := by
  obtain ⟨rest, hfound, rfl⟩ := Option.map_eq_some_iff.mp h
  obtain ⟨behind, hbehind, hback⟩ := Option.bind_eq_some_iff.mp hfound
  obtain ⟨inner, hfront, hword⟩ := Option.bind_eq_some_iff.mp hbehind
  obtain ⟨front, hgap, ht⟩ := exists_gap hfront
  obtain ⟨word, hand, hinner⟩ := dropAnd?_eq_some_iff.mp hword
  obtain ⟨back, hgap', hbehind'⟩ := exists_gap hback
  refine ⟨⟨front, word, back, hgap, hand, hgap'⟩, ?_⟩
  simp [Separator.source, ht, hinner, hbehind']

/-! ## Whether a name can stand in a list -/

theorem middle_iff {name : Text} :
    (∀ sep : Separator, ¬ sep.source <:+: name) ↔ ∀ back ∈ name.tails, separator back = none := by
  constructor
  · intro h back hback
    rw [Option.eq_none_iff_forall_ne_some]
    intro found hfound
    obtain ⟨sep, hsep⟩ := exists_separator hfound
    obtain ⟨before, hbefore⟩ := (List.mem_tails ..).mp hback
    refine h sep ⟨before, found.2, ?_⟩
    rw [← hbefore, hsep, List.append_assoc]
  · rintro h sep ⟨before, after, rfl⟩
    have hnone := h (sep.source ++ after) (by
      rw [List.mem_tails, List.append_assoc]
      exact List.suffix_append _ _)
    rw [separator_append] at hnone
    cases hnone

theorem ending_iff {name : Text} :
    (∀ gap word, IsGap gap → IsAnd word → ¬ gap ++ word <:+ name) ↔
      ∀ back ∈ name.tails, (dropBlanks? back).bind dropAnd? ≠ some [] := by
  constructor
  · intro h back hback hfound
    obtain ⟨inner, hfront, hword⟩ := Option.bind_eq_some_iff.mp hfound
    obtain ⟨gap, hgap, rfl⟩ := exists_gap hfront
    obtain ⟨word, hand, rfl⟩ := dropAnd?_eq_some_iff.mp hword
    rw [List.append_nil] at hback
    exact h gap word hgap hand ((List.mem_tails ..).mp hback)
  · intro h gap word hgap hand hsuffix
    refine h _ ((List.mem_tails ..).mpr hsuffix) ?_
    have hstart := trimStart_and hand []
    rw [List.append_nil] at hstart
    rw [dropBlanks?_append hgap, hstart, Option.bind_some, dropAnd?_eq_some_iff]
    exact ⟨word, hand, (List.append_nil word).symm⟩

instance (name : Text) : Decidable (IsAuthorName name) :=
  decidable_of_iff
    (name ≠ [] ∧ Text.trim name = name ∧ (∀ back ∈ name.tails, separator back = none) ∧
      ∀ back ∈ name.tails, (dropBlanks? back).bind dropAnd? ≠ some [])
    ⟨fun h => ⟨h.1, h.2.1, middle_iff.mpr h.2.2.1, ending_iff.mpr h.2.2.2⟩,
      fun h => ⟨h.ne_nil, h.trim, middle_iff.mp h.middle, ending_iff.mp h.ending⟩⟩

/-! ## Names -/

namespace IsAuthorName

variable {name : Text}

theorem isBlank_head (h : IsAuthorName name) {c : Char} (hc : c ∈ name.head?) :
    isBlank c = false := by
  rw [← h.trim] at hc
  exact isBlank_head_trim hc

theorem isBlank_last (h : IsAuthorName name) {c : Char} (hc : c ∈ name.getLast?) :
    isBlank c = false := by
  rw [← h.trim, Text.trim] at hc
  exact isBlank_getLast_trimEnd hc

/-- What a name ends in is not all blank. -/
theorem not_blank_suffix (h : IsAuthorName name) {back : Text} (hback : back <:+ name)
    (hne : back ≠ []) : ¬ ∀ c ∈ back, isBlank c = true := by
  intro hblank
  obtain ⟨before, rfl⟩ := hback
  have hlast : back.getLast hne ∈ (before ++ back).getLast? := by
    rw [List.getLast?_append_of_ne_nil _ hne]
    exact List.getLast?_eq_some_getLast hne
  have hsolid := h.isBlank_last hlast
  rw [hblank _ (List.getLast_mem hne)] at hsolid
  cases hsolid

/-- Nothing is recognised in a name, be it the last or followed by a separator. -/
theorem goesBy (h : IsAuthorName name) {rest : Text}
    (hrest : ∀ c ∈ rest.head?, isBlank c = true) : separator.GoesBy name rest := by
  intro back hback hne
  rw [Option.eq_none_iff_forall_ne_some]
  intro found hfound
  obtain ⟨⟨front, word, gap, hfront, hword, hgap⟩, hsep⟩ := exists_separator hfound
  simp only [Separator.source, List.append_assoc] at hsep
  obtain ⟨before, rfl⟩ := hback
  -- the blanks in front end inside of the name
  rcases List.append_eq_append_iff.mp hsep with ⟨blanks, hblanks, -⟩ | ⟨inner, hinner, hword'⟩
  · refine h.not_blank_suffix (List.suffix_append before back) hne fun c hc => hfront.blank c ?_
    exact hblanks ▸ List.mem_append_left _ hc
  subst hinner
  -- so does their word, and the blank behind it
  rcases List.append_eq_append_iff.mp hword' with ⟨z, rfl, hbehind⟩ | ⟨z, rfl, hbehind⟩
  · cases z with
    | nil =>
        rw [List.append_nil] at h
        exact h.ending front word hfront hword (List.suffix_append _ _)
    | cons c z =>
        obtain ⟨d, gap, rfl⟩ := List.exists_cons_of_ne_nil hgap.ne_nil
        obtain rfl : d = c := (List.cons.inj hbehind).1
        have hd : IsGap [d] := ⟨List.cons_ne_nil _ _, by
          simpa using hgap.blank d (List.mem_cons_self ..)⟩
        exact h.middle ⟨front, word, [d], hfront, hword, hd⟩ ⟨before, z, by simp [Separator.source]⟩
  · cases z with
    | nil =>
        rw [List.append_nil] at hword
        exact h.ending front inner hfront hword (List.suffix_append _ _)
    | cons c z =>
        -- a letter would be the first of the blanks behind the name
        have hblank : isBlank c = true := hrest c (by rw [hbehind]; rfl)
        have hsolid := isBlank_of_mem_and hword c (by simp)
        rw [hblank] at hsolid
        cases hsolid

end IsAuthorName

/-! ## Lists -/

theorem Separator.isBlank_head (sep : Separator) (rest : Text) :
    ∀ c ∈ (sep.source ++ rest).head?, isBlank c = true := by
  obtain ⟨c, front, hfront⟩ := List.exists_cons_of_ne_nil sep.isGap_front.ne_nil
  have hc := sep.isGap_front.blank c (hfront ▸ List.mem_cons_self ..)
  simpa [Separator.source, hfront] using hc

theorem pieces_separator (sep : Separator) {rest : Text}
    (hrest : ∀ c ∈ rest.head?, isBlank c = false) :
    Scanner.pieces separator (sep.source ++ rest) = .hit () :: Scanner.pieces separator rest := by
  have hstart : trimStart rest = rest :=
    trimStart_eq_self fun c tail htail => hrest c (by rw [htail]; rfl)
  have hread := separator_append sep rest
  rw [hstart] at hread
  obtain ⟨c, source, hsource⟩ : ∃ c source, sep.source = c :: source :=
    List.exists_cons_of_ne_nil (by simp [Separator.source, sep.isGap_front.ne_nil])
  rw [hsource] at hread ⊢
  exact Scanner.pieces_of_some hread

/-- The parts between separators are the names. -/
theorem split_separated {first : Text} {others : List (Separator × Text)}
    (hfirst : IsAuthorName first) (hothers : ∀ other ∈ others, IsAuthorName other.2) :
    Scanner.split separator (first ++ others.flatMap fun other => other.1.source ++ other.2) =
      first :: others.map Prod.snd := by
  induction others generalizing first with
  | nil =>
      have hgoes : separator.GoesBy first [] := hfirst.goesBy (by simp)
      have hpassed := Scanner.pieces_append_of_passed hgoes
      rw [List.flatMap_nil, Scanner.split, hpassed, Scanner.stretches_map_plain_append]
      simp [Scanner.stretches]
  | cons other others ih =>
      obtain ⟨sep, name⟩ := other
      obtain ⟨hname, hrest⟩ := List.forall_mem_cons.mp hothers
      have hsolid (rest : Text) : ∀ c ∈ (name ++ rest).head?, isBlank c = false := by
        intro c hc
        rw [List.head?_append_of_ne_nil _ hname.ne_nil] at hc
        exact hname.isBlank_head hc
      have hpassed := Scanner.pieces_append_of_passed (hfirst.goesBy (sep.isBlank_head
        (name ++ others.flatMap fun other => other.1.source ++ other.2)))
      rw [List.flatMap_cons, List.append_assoc, Scanner.split, hpassed,
        pieces_separator sep (hsolid _), Scanner.stretches_map_plain_append, Scanner.stretches]
      have hlater := ih hname hrest
      unfold Scanner.split at hlater
      simp [hlater]

theorem authors_source {list : AuthorList} (h : ∀ name ∈ list.names, IsAuthorName name) :
    authors list.source = list.names := by
  obtain ⟨hfirst, hothers⟩ := List.forall_mem_cons.mp h
  have hsplit : Scanner.split separator list.source = list.names :=
    split_separated hfirst fun other hmem => hothers other.2 (List.mem_map_of_mem hmem)
  have htrim : list.names.map trim = list.names :=
    (List.map_congr_left fun name hname => (h name hname).trim).trans (List.map_id' _)
  rw [authors, hsplit, htrim]

/-- Three names or more have commas between them and an ampersand before the last. -/
theorem joinAuthors_concat {front : List Text} (h : 2 ≤ front.length) (last : Text) :
    joinAuthors (front ++ [last]) = join ", ".toList front ++ (", & ".toList ++ last) := by
  match front with
  | first :: second :: rest =>
      obtain ⟨third, others, hothers⟩ := List.exists_cons_of_ne_nil (List.concat_ne_nil last rest)
      have hnames : first :: second :: rest ++ [last] = first :: second :: third :: others := by
        simp [← hothers]
      have hjoin : joinAuthors (first :: second :: third :: others) =
          join ", ".toList (first :: second :: third :: others).dropLast ++ ", & ".toList ++
            (first :: second :: third :: others).getLastD [] := rfl
      rw [hnames, hjoin, ← hnames, List.dropLast_concat, List.getLastD_concat, List.append_assoc]

/-- A list of authors is read back as its names, and shown with commas and an ampersand. -/
theorem authors_written {list : AuthorList} (h : ∀ name ∈ list.names, IsAuthorName name) :
    authors list.source = list.names ∧
    (∀ name, list.names = [name] → formatAuthors list.source = name) ∧
    (∀ first second, list.names = [first, second] →
      formatAuthors list.source = first ++ (" & ".toList ++ second)) ∧
    (∀ front last, 2 ≤ front.length → list.names = front ++ [last] →
      formatAuthors list.source = join ", ".toList front ++ (", & ".toList ++ last)) := by
  have hread := authors_source h
  unfold formatAuthors
  rw [hread]
  refine ⟨rfl, ?_, ?_, ?_⟩
  · intro name hname
    rw [hname]
    rfl
  · intro first second hnames
    rw [hnames, joinAuthors, List.append_assoc]
  · intro front last hlength hnames
    rw [hnames, joinAuthors_concat hlength]

/-- Names that look like separators, and separators in several cases and blanks. -/
def lookalikes : AuthorList where
  first := "and".toList
  others := [
    ({ front := "  ".toList, word := "AND".toList, back := ['\n'] }, "and Lee".toList),
    ({ front := [Char.ofNat 0xA0], word := "aNd".toList, back := ['\t'] }, "Sand".toList)]

theorem authors_written_lookalikes :
    (∀ name ∈ lookalikes.names, IsAuthorName name) ∧
    authors lookalikes.source = ["and".toList, "and Lee".toList, "Sand".toList] ∧
    formatAuthors lookalikes.source = "and, and Lee, & Sand".toList := by
  have hnames : ∀ name ∈ lookalikes.names, IsAuthorName name := by decide +kernel
  obtain ⟨hread, -, -, hshown⟩ := authors_written hnames
  have hline : join ", ".toList ["and".toList, "and Lee".toList] ++ (", & ".toList ++ "Sand".toList) =
      "and, and Lee, & Sand".toList := by decide
  exact ⟨hnames, hread, (hshown _ _ (le_refl 2) rfl).trans hline⟩

end Reference

end PaperHtml
