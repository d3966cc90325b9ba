import Mathlib
import PaperHtml.Proofs.Bibliography.Boundary
import PaperHtml.Proofs.Citation.Document
import PaperHtml.Proofs.Text.Collapsing

/-!
# Entries can be cited

Two readers know nothing of each other: one takes the keys of a bibliography from
the beginnings of its entries, the other the keys of a citation from between
commas.  Whatever a bibliography holds, each key that the first one finds is
found again by the second, unchanged, and so are its entry and its fields.

## Strategy

All that is used of a bibliography is the rule of its reader
(`rawEntry?_eq_some_iff`): a key holds no comma, no closing brace and no blank.
So a citation of such keys is a command as it is written, and trimming leaves
its keys as they are.
-/

namespace PaperHtml

namespace Assoc

variable {α : Type} {pair : Text × α}

theorem mem_of_mem_insert {name : Text} {value : α} {table : Assoc α}
    (h : pair ∈ insert name value table) : pair = (name, value) ∨ pair ∈ table := by
  induction table with
  | nil => exact .inl (List.mem_singleton.mp h)
  | cons first rest ih =>
      obtain ⟨n, a⟩ := first
      unfold insert at h
      split at h
      · rename_i hname
        rcases List.mem_cons.mp h with rfl | h
        · exact .inl (by rw [hname])
        · exact .inr (List.mem_cons_of_mem _ h)
      · rcases List.mem_cons.mp h with rfl | h
        · exact .inr (List.mem_cons_self ..)
        · exact (ih h).imp_right (List.mem_cons_of_mem _)

/-- A table holds no pairs but those that were put in. -/
theorem mem_of_mem_ofList {pairs : List (Text × α)} (h : pair ∈ ofList pairs) : pair ∈ pairs := by
  have hput (pairs : List (Text × α)) (table : Assoc α)
      (h : pair ∈ pairs.foldl (fun table pair => insert pair.1 pair.2 table) table) :
      pair ∈ table ∨ pair ∈ pairs := by
    induction pairs generalizing table with
    | nil => exact .inl h
    | cons first rest ih =>
        rcases ih _ h with hold | hrest
        · rcases mem_of_mem_insert hold with rfl | htable
          · exact .inr (List.mem_cons_self ..)
          · exact .inl htable
        · exact .inr (List.mem_cons_of_mem _ hrest)
  exact (hput pairs [] h).resolve_left List.not_mem_nil

end Assoc

namespace Text

theorem trim_of_not_isBlank {t : Text} (h : ∀ c ∈ t, isBlank c = false) : trim t = t := by
  have hstart (s : Text) (hs : ∀ c ∈ s, isBlank c = false) : trimStart s = s :=
    trimStart_eq_self fun c rest hcons => hs c (hcons ▸ List.mem_cons_self ..)
  have hend : t.reverse.dropWhile isBlank = t.reverse :=
    hstart t.reverse fun c hc => h c (List.mem_reverse.mp hc)
  rw [trim, hstart t h, trimEnd, hend, List.reverse_reverse]

/-- A character that is no blank has none as its lower case form. -/
theorem isBlank_simpleLower {c : Char} (h : isBlank c = false) :
    isBlank (simpleLower c) = false := by
  unfold simpleLower
  split
  · rename_i hsmall
    have hascii : ∀ n < 128, isBlank (Char.ofNat n) = false →
        isBlank (Char.ofNat n).toLower = false := by decide +kernel
    have hc := hascii c.toNat hsmall
    rw [Char.ofNat_toNat] at hc
    exact hc h
  split
  · rename_i run hfound
    have hrun := List.mem_of_find?_eq_some hfound
    have hinside := List.find?_some hfound
    simp only [Bool.and_eq_true, decide_eq_true_eq] at hinside
    obtain ⟨⟨hfirst, hlast⟩, -⟩ := hinside
    -- no run leads to a blank
    have hapart : ∀ run ∈ lowerRuns, ∀ code ∈ blankCodes,
        (code : Int) < run.first + run.shift ∨ run.last + run.shift < code := by decide +kernel
    apply Bool.eq_false_iff.mpr
    intro hblank
    have hcode := toNat_mem_blankCodes hblank
    have hpos : ∀ code ∈ blankCodes, 0 < code := by decide
    rw [Char.toNat_ofNat] at hcode
    split at hcode
    · have hcases := hapart run hrun _ hcode
      have := hpos _ hcode
      omega
    · exact absurd (hpos _ hcode) (Nat.lt_irrefl 0)
  · exact h

theorem isBlank_of_mem_lower {t : Text} (h : ∀ c ∈ t, isBlank c = false) :
    ∀ c ∈ lower t, isBlank c = false := by
  have hfrom (before t : Text) (h : ∀ c ∈ t, isBlank c = false) :
      ∀ c ∈ lowerFrom before t, isBlank c = false := by
    induction t generalizing before with
    | nil =>
        intro c hc
        cases hc
    | cons c rest ih =>
        obtain ⟨hc, hrest⟩ := List.forall_mem_cons.mp h
        have hlater := ih (c :: before) hrest
        unfold lowerFrom
        split
        · -- the only character that becomes two
          exact List.forall_mem_cons.mpr ⟨by decide, List.forall_mem_cons.mpr ⟨by decide, hlater⟩⟩
        split
        · refine List.forall_mem_cons.mpr ⟨?_, hlater⟩
          split <;> decide
        · exact List.forall_mem_cons.mpr ⟨isBlank_simpleLower hc, hlater⟩
  exact hfrom [] t h

end Text

namespace Bibliography

open Text Citation

/-! ## What is read -/

/-- What every entry that is read is like, whatever the bibliography holds. -/
structure Entry.IsRecord (entry : Entry) : Prop where
  key_ne_nil : entry.key ≠ []
  key_chars : ∀ c ∈ entry.key, c ∉ [',', '{', '}', '@'] ∧ isBlank c = false
  kind : entry.kind ∉ recordless
  values : ∀ field ∈ entry.fields, Collapsed field.2

theorem collapsed_of_mem_readFields {body : Text} {field : Text × Text}
    (h : field ∈ readFields body) : Collapsed field.2 := by
  obtain ⟨raw, -, rfl⟩ := List.mem_map.mp (Assoc.mem_of_mem_ofList h)
  exact collapsed_collapseBlanks _

/-- An entry that is read has a beginning with its key, and its kind is that of the beginning in
lower case. -/
theorem exists_begins_of_mem_read {raw : Text} {entry : Entry} (h : entry ∈ read raw) :
    ∃ kind head body, Begins kind entry.key head ∧ entry.kind = lower kind ∧
      entry.kind ∉ recordless ∧ entry.fields = readFields body := by
  obtain ⟨⟨kind, key, body⟩, hfound, hentry⟩ := List.mem_filterMap.mp h
  obtain ⟨front, after, -, hraw⟩ := Scanner.exists_of_mem_findAll hfound
  obtain ⟨head, rest, -, hbegins, -⟩ := rawEntry?_eq_some_iff.mp hraw
  simp only [List.contains_eq_mem, decide_eq_true_eq, Option.ite_none_left_eq_some,
    Option.some.injEq] at hentry
  obtain ⟨hkind, rfl⟩ := hentry
  exact ⟨kind, head, body, hbegins, rfl, hkind, rfl⟩

theorem isRecord_of_mem_read {raw : Text} {entry : Entry} (h : entry ∈ read raw) :
    entry.IsRecord := by
  obtain ⟨kind, head, body, ⟨-, ⟨hkey, hchars⟩, -⟩, -, hrecord, hfields⟩ :=
    exists_begins_of_mem_read h
  refine ⟨hkey, fun c hc => ?_, hrecord, fun field hfield => ?_⟩
  · simpa [isKeyChar] using hchars c hc
  · rw [hfields] at hfield
    exact collapsed_of_mem_readFields hfield

/-- A kind is a word in lower case. -/
theorem isBlank_of_mem_kind {raw : Text} {entry : Entry} (h : entry ∈ read raw) :
    ∀ c ∈ entry.kind, isBlank c = false := by
  obtain ⟨kind, head, body, ⟨⟨-, hword⟩, -, -⟩, hlower, -, -⟩ := exists_begins_of_mem_read h
  rw [hlower]
  apply isBlank_of_mem_lower
  intro c hc
  apply Bool.eq_false_iff.mpr
  intro hblank
  have hchar := isWordChar_eq_false_of_isBlank hblank
  rw [hword c hc] at hchar
  cases hchar

/-! ## Citing what is read -/

namespace Entry.IsRecord

variable {entry : Entry}

theorem not_mem_key (h : entry.IsRecord) {c : Char} (hc : c ∈ [',', '{', '}', '@']) :
    c ∉ entry.key := fun hmem => (h.key_chars c hmem).1 hc

theorem lineFeed_not_mem_key (h : entry.IsRecord) : '\n' ∉ entry.key := fun hmem =>
  absurd (h.key_chars _ hmem).2 (by decide)

theorem trim_key (h : entry.IsRecord) : trim entry.key = entry.key :=
  trim_of_not_isBlank fun c hc => (h.key_chars c hc).2

end Entry.IsRecord

variable {chosen : List Entry}

theorem length_no_notes : ([] : List Text).length ≤ 2 := by decide

theorem not_mem_no_notes : ∀ note ∈ ([] : List Text), ']' ∉ note := List.forall_mem_nil _

theorem citeMark_not_infix_nil : ¬ citeMark <:+: [] := by decide

/-- The command that cites some entries. -/
def citing (h : ∀ entry ∈ chosen, entry.IsRecord) : WrittenCommand where
  form := .plain
  notes := []
  keys := chosen.map Entry.key
  notes_length := length_no_notes
  notes_closed := not_mem_no_notes
  keys_closed := fun key hkey => by
    obtain ⟨entry, hentry, rfl⟩ := List.mem_map.mp hkey
    exact ⟨(h entry hentry).not_mem_key (by simp), (h entry hentry).not_mem_key (by simp)⟩

/-- The document that holds a command and nothing else. -/
def alone (command : WrittenCommand) : Document :=
  ⟨⟨[], citeMark_not_infix_nil⟩, [(command, ⟨[], citeMark_not_infix_nil⟩)]⟩

theorem cited_citing (h : ∀ entry ∈ chosen, entry.IsRecord) :
    (citing h).cited = chosen.map Entry.key := by
  have htrim : (chosen.map Entry.key).map trim = chosen.map Entry.key := by
    rw [List.map_map]
    exact List.map_congr_left fun entry hentry => (h entry hentry).trim_key
  have hfilter : (chosen.map Entry.key).filter (fun key => key ≠ []) = chosen.map Entry.key := by
    apply List.filter_eq_self.mpr
    intro key hkey
    obtain ⟨entry, hentry, rfl⟩ := List.mem_map.mp hkey
    simpa using (h entry hentry).key_ne_nil
  exact (congrArg (List.filter _) htrim).trans hfilter

theorem source_alone (command : WrittenCommand) : (alone command).source = command.source := by
  simp [alone, Document.source, Document.render]

/-- A citation of entries stands on one line. -/
theorem lineFeed_not_mem_citing (h : ∀ entry ∈ chosen, entry.IsRecord) :
    '\n' ∉ (citing h).source := by
  have hlist : '\n' ∉ (citing h).list := by
    intro hmem
    rcases mem_of_mem_join hmem with hcomma | ⟨key, hkey, hfeed⟩
    · exact absurd hcomma (by decide)
    · obtain ⟨entry, hentry, rfl⟩ := List.mem_map.mp hkey
      exact (h entry hentry).lineFeed_not_mem_key hfeed
  have hmark : '\n' ∉ citeMark := by decide
  have hsource : (citing h).source = citeMark ++ braced (citing h).list := rfl
  simp [hsource, braced, hlist, hmark]

theorem order_citing (h : ∀ entry ∈ chosen, entry.IsRecord) :
    Citation.order (citing h).source = (chosen.map Entry.key).eraseDups := by
  have hlines : ∀ line ∈ lines (alone (citing h)).source,
      Latex.isCommentLine line = false := by
    intro line hline
    rw [source_alone, lines, splitOn_of_not_mem (lineFeed_not_mem_citing h),
      List.mem_singleton] at hline
    subst hline
    rfl
  have hcited : (alone (citing h)).cited = chosen.map Entry.key := by
    rw [Document.cited, alone, List.flatMap_singleton, cited_citing h]
  rw [← source_alone, order_source hlines, hcited]

/-- An entry is the first one with its key. -/
def IsFirst (entry : Entry) (entries : List Entry) : Prop :=
  ∃ before after, entries = before ++ entry :: after ∧ ∀ other ∈ before, other.key ≠ entry.key

/-- A key that an entry has is resolved to the first entry with it. -/
theorem exists_isFirst_resolve {entries : List Entry} {key : Text}
    (h : ∃ entry ∈ entries, entry.key = key) (number : Int) :
    ∃ entry, entry.key = key ∧ IsFirst entry entries ∧
      resolve entries number key =
        { key, number, fields := entry.fields, kind := some entry.kind } := by
  obtain ⟨entry, hfind⟩ := Option.ne_none_iff_exists'.mp (show find? key entries ≠ none by
    simpa [find?] using h)
  obtain ⟨hkey, before, after, hsplit, hbefore⟩ := List.find?_eq_some_iff_append.mp hfind
  have hkey : entry.key = key := by simpa using hkey
  refine ⟨entry, hkey, ⟨before, after, hsplit, fun other hother => ?_⟩, ?_⟩
  · simpa [hkey] using hbefore other hother
  · simp only [resolve, hfind]

/-- Whatever a bibliography holds, what is read of it can be cited: a citation of its entries
cites their keys as they are, and each of them is resolved to the first entry with it. -/
theorem entries_citable (raw : Text) (chosen : List Entry)
    (hchosen : ∀ entry ∈ chosen, entry ∈ read raw) :
    let keys := chosen.map Entry.key
    let cited := Citation.order ("\\cite".toList ++ braced (join [','] keys))
    (∀ entry ∈ read raw, entry.IsRecord) ∧
    cited = keys.eraseDups ∧
    (resolveAll (read raw) cited).map Reference.key = cited ∧
    ∀ reference ∈ resolveAll (read raw) cited, reference.missing = false ∧
      ∃ entry, entry.key = reference.key ∧ IsFirst entry (read raw) ∧
        reference.kind = some entry.kind ∧ reference.fields = entry.fields := by
  intro keys cited
  have hrecord : ∀ entry ∈ read raw, entry.IsRecord := fun _ => isRecord_of_mem_read
  have hcited : cited = keys.eraseDups :=
    order_citing fun entry hentry => hrecord entry (hchosen entry hentry)
  refine ⟨hrecord, hcited, map_key_resolveFrom _ _ _, fun reference hreference => ?_⟩
  obtain ⟨number, key, hkey, rfl⟩ := exists_of_mem_resolveAll hreference
  have hmem : key ∈ keys := by
    rw [hcited] at hkey
    exact List.mem_eraseDups.mp hkey
  obtain ⟨entry, hentry, hsame⟩ := List.mem_map.mp hmem
  obtain ⟨first, hfirst, hisFirst, hresolve⟩ :=
    exists_isFirst_resolve ⟨entry, hchosen entry hentry, hsame⟩ number
  rw [hresolve]
  exact ⟨rfl, first, hfirst, hisFirst, rfl, rfl⟩

/-- A block that holds no record, and two entries with one key, which looks like a command. -/
def shelf : Text :=
  "@comment\x7bx,\n\x7d\n@Book\x7b \\b%[1]\t,\n title = \x7b A \t B\x7d,\n\x7d\n".toList ++
    "@misc\x7bc,\n\x7d\n@ARTICLE \x7b\\b%[1],\n year = 1\n\x7d\n".toList

theorem shelf_citable :
    let document := "\\cite".toList ++ braced "\\b%[1],c,\\b%[1]".toList
    (∀ entry ∈ (read shelf).reverse, entry ∈ read shelf) ∧
    Citation.order document = ["\\b%[1]".toList, ['c']] ∧
    ∀ reference ∈ resolveAll (read shelf) ["\\b%[1]".toList, ['c']],
      reference.missing = false ∧
        (reference.kind = some "book".toList ∧
            reference.fields = [("title".toList, " A B".toList)] ∨
          reference.kind = some "misc".toList ∧ reference.fields = []) := by
  have hchosen : ∀ entry ∈ (read shelf).reverse, entry ∈ read shelf := fun _ => List.mem_reverse.mp
  have hkeys : (read shelf).reverse.map Entry.key =
      ["\\b%[1]".toList, ['c'], "\\b%[1]".toList] := by
    decide +kernel
  have hlist : join [','] ["\\b%[1]".toList, ['c'], "\\b%[1]".toList] =
      "\\b%[1],c,\\b%[1]".toList := by decide
  have hdups : ["\\b%[1]".toList, ['c'], "\\b%[1]".toList].eraseDups =
      ["\\b%[1]".toList, ['c']] := by decide
  obtain ⟨-, horder, -, hfound⟩ := entries_citable shelf _ hchosen
  rw [hkeys, hlist, hdups] at horder
  rw [hkeys, hlist, horder] at hfound
  refine ⟨hchosen, horder, fun reference hreference => ⟨(hfound reference hreference).1, ?_⟩⟩
  have hall : ∀ reference ∈ (resolveAll (read shelf) ["\\b%[1]".toList, ['c']]).map
      fun reference => (reference.kind, reference.fields),
      reference = (some "book".toList, [("title".toList, " A B".toList)]) ∨
        reference = (some "misc".toList, []) := by decide +kernel
  simpa using hall _ (List.mem_map_of_mem hreference)

end Bibliography

end PaperHtml
