import Mathlib
import PaperHtml.Proofs.Bibliography.WrittenField

/-!
# Entries as written

A printer for bibliographies, and the theorem that the reader undoes it: whatever
the values hold, whichever way each of them is written, and whether or not a comma
stands behind the last field of an entry.

## Strategy

Two things are shown of the lines of a field: they hold no line feed, and they
begin with neither a closing brace nor a percent sign.  Thus no entry is closed
by one of its fields, and no line is a comment.
-/

namespace PaperHtml.Bibliography

open Text

/-! ## The printer -/

/-- An entry and how it is written. -/
structure WrittenEntry where
  kind : Text
  key : Text
  fields : List WrittenField
  trailingComma : Bool

/-- The lines of an entry between its first and its last. -/
def WrittenEntry.lines (entry : WrittenEntry) : List Text :=
  withCommas entry.trailingComma (entry.fields.map WrittenField.line)

/-- What stands between the comma behind the key and the closing brace. -/
def WrittenEntry.body (entry : WrittenEntry) : Text := '\n' :: unlines entry.lines

/-- The first line of an entry. -/
def WrittenEntry.head (entry : WrittenEntry) : Text :=
  '@' :: (entry.kind ++ '{' :: (entry.key ++ [',']))

/-- An entry as printed. -/
def WrittenEntry.source (entry : WrittenEntry) : Text :=
  entry.head ++ (entry.body ++ (closing ++ ['\n']))

/-- The entry that is written. -/
def WrittenEntry.entry (entry : WrittenEntry) : Entry :=
  ⟨entry.kind, entry.key, entry.fields.map fun field => (field.name, field.value)⟩

/-- An entry that can be written as it is to be. -/
structure WrittenEntry.Proper (entry : WrittenEntry) : Prop where
  kind : IsName entry.kind
  record : entry.kind ∉ recordless
  key : entry.key ≠ [] ∧ ∀ c ∈ entry.key, isKeyChar c = true
  fields : ∀ field ∈ entry.fields, field.Proper
  names : (entry.fields.map WrittenField.name).Nodup

instance (entry : WrittenEntry) : Decidable entry.Proper :=
  decidable_of_iff
    (IsName entry.kind ∧ entry.kind ∉ recordless ∧
      (entry.key ≠ [] ∧ entry.key.all isKeyChar = true) ∧
      (∀ field ∈ entry.fields, field.Proper) ∧ (entry.fields.map WrittenField.name).Nodup)
    ⟨fun h => ⟨h.1, h.2.1, ⟨h.2.2.1.1, List.all_eq_true.mp h.2.2.1.2⟩, h.2.2.2.1, h.2.2.2.2⟩,
      fun h => ⟨h.kind, h.record, ⟨h.key.1, List.all_eq_true.mpr h.key.2⟩, h.fields, h.names⟩⟩

/-! ## The body of an entry -/

/-- The body of an entry is read as its fields. -/
theorem WrittenEntry.readFields_body {entry : WrittenEntry} (h : entry.Proper) :
    readFields entry.body = entry.fields.map fun field => (field.name, field.value) := by
  have hclean : (entry.fields.map fun field => (field.name, field.written)).map
      (fun field => (lower field.1, cleanValue field.2)) =
      entry.fields.map fun field => (field.name, field.value) := by
    rw [List.map_map]
    refine List.map_congr_left fun field hfield => ?_
    have hproper := h.fields field hfield
    simp only [Function.comp_apply, hproper.name.lower, WrittenField.cleanValue_written hproper]
  -- the names are distinct, so none of the fields takes the place of another
  rw [readFields, WrittenEntry.body, Scanner.findAll_of_none (rawField?_of_isBlank (by decide) _),
    WrittenEntry.lines, findAll_unlines_withCommas _ h.fields, hclean]
  apply Assoc.ofList_of_nodup
  simpa [Assoc.names, Function.comp_def] using h.names

/-! ## The lines of an entry -/

/-- A line that neither closes an entry nor is a comment, and that is one line. -/
structure IsInner (line : Text) : Prop where
  oneLine : '\n' ∉ line
  noClosing : line.head? ≠ some '}'
  noComment : isComment line = false

private theorem ne_of_isWordChar {c d : Char} (hc : isWordChar c = true) (hd : isWordChar d = false) :
    c ≠ d := by
  rintro rfl
  rw [hc] at hd
  cases hd

private theorem lineFeed_not_mem_of_isWordChar {t : Text} (h : ∀ c ∈ t, isWordChar c = true) :
    '\n' ∉ t := fun hmem =>
  ne_of_isWordChar (h _ hmem) (isWordChar_eq_false_of_isBlank (by decide)) rfl

theorem WrittenField.isInner_line {field : WrittenField} (h : field.Proper) (behind : Text)
    (hbehind : '\n' ∉ behind) : IsInner (field.line ++ behind) := by
  obtain ⟨c, name, hname⟩ := List.exists_cons_of_ne_nil h.name.ne_nil
  have hword : isWordChar c = true := h.name.word c (by simp [hname])
  constructor
  · have hindent : '\n' ∉ field.indent := fun hmem => by
      rcases h.indent _ hmem with e | e <;> exact absurd e (by decide)
    have hvalue := h.lineFeed_not_mem_value
    have hwritten : '\n' ∉ field.written := by
      unfold WrittenField.written
      cases field.quoting <;> simp [Quoting.write, braced, hvalue]
    simp [WrittenField.line, WrittenField.source, hindent, hwritten, hbehind,
      lineFeed_not_mem_of_isWordChar h.name.word]
  · -- a line begins with its indent, or else with the first character of the name
    cases hindent : field.indent with
    | nil =>
        have hc : c ≠ '}' := ne_of_isWordChar hword (by decide)
        simp [WrittenField.line, WrittenField.source, hindent, hname, hc]
    | cons d indent =>
        have hd : d ≠ '}' := by
          rcases h.indent d (by simp [hindent]) with rfl | rfl <;> decide
        simp [WrittenField.line, hindent, hd]
  · have hskip : ∀ d ∈ field.indent, decide (d = ' ' ∨ d = '\t') = true := fun d hd =>
      decide_eq_true (h.indent d hd)
    have hspace : c ≠ ' ' := ne_of_isWordChar hword (by decide)
    have htab : c ≠ '\t' := ne_of_isWordChar hword (by decide)
    have hpercent : c ≠ '%' := ne_of_isWordChar hword (by decide)
    rw [isComment, WrittenField.line, List.append_assoc, List.dropWhile_append_of_pos hskip]
    simp [WrittenField.source, hname, hspace, htab, hpercent]

theorem exists_of_mem_withCommas {trailing : Bool} {lines : List Text} {line : Text}
    (h : line ∈ withCommas trailing lines) : ∃ inner ∈ lines, line = inner ∨ line = inner ++ [','] := by
  induction lines with
  | nil => simp [withCommas] at h
  | cons first lines ih =>
      cases lines with
      | nil =>
          refine ⟨first, List.mem_cons_self .., ?_⟩
          cases trailing <;> simp_all [withCommas]
      | cons next lines =>
          rw [withCommas, List.mem_cons] at h
          · rcases h with rfl | h
            · exact ⟨first, List.mem_cons_self .., .inr rfl⟩
            · obtain ⟨inner, hinner, hline⟩ := ih h
              exact ⟨inner, List.mem_cons_of_mem _ hinner, hline⟩
          · simp

theorem WrittenEntry.isInner_of_mem_lines {entry : WrittenEntry} (h : entry.Proper) {line : Text}
    (hline : line ∈ entry.lines) : IsInner line := by
  obtain ⟨inner, hinner, rfl | rfl⟩ := exists_of_mem_withCommas hline
  · obtain ⟨field, hfield, rfl⟩ := List.mem_map.mp hinner
    simpa using WrittenField.isInner_line (h.fields field hfield) [] (by simp)
  · obtain ⟨field, hfield, rfl⟩ := List.mem_map.mp hinner
    exact WrittenField.isInner_line (h.fields field hfield) [','] (by decide)

theorem WrittenEntry.lines_body (entry : WrittenEntry) :
    Text.lines entry.body = [] :: Text.lines (unlines entry.lines) :=
  splitOn_append '\n' [] (unlines entry.lines)

/-- The lines within an entry are its field lines and empty ones. -/
theorem WrittenEntry.isInner_of_mem_lines_body {entry : WrittenEntry} (h : entry.Proper) {line : Text}
    (hline : line ∈ Text.lines entry.body) : IsInner line := by
  have hempty : IsInner [] := ⟨by simp, by simp, rfl⟩
  rw [lines_body, List.mem_cons] at hline
  rcases hline with rfl | hline
  · exact hempty
  · rcases mem_lines_unlines hline with ⟨whole, hwhole, hline⟩ | rfl
    · have hinner := isInner_of_mem_lines h hwhole
      rw [Text.lines, splitOn_of_not_mem hinner.oneLine, List.mem_singleton] at hline
      exact hline ▸ hinner
    · exact hempty

/-- Where an entry is closed within a text, a line begins with a closing brace. -/
theorem exists_line_of_closing {t : Text} (h : closing <:+: t) :
    ∃ line ∈ Text.lines t, line.head? = some '}' := by
  obtain ⟨before, after, rfl⟩ := h
  have hsplit : before ++ closing ++ after = before ++ '\n' :: '}' :: after := by simp [closing]
  rw [hsplit, Text.lines, splitOn_append]
  cases hparts : splitOn '\n' after with
  | nil => exact absurd hparts (splitOn_ne_nil _ _)
  | cons part parts => exact ⟨'}' :: part, by simp [splitOn, hparts], rfl⟩

/-- No field closes its entry. -/
theorem WrittenEntry.not_closing_body {entry : WrittenEntry} (h : entry.Proper) :
    ¬ closing <:+: entry.body ++ ['\n'] := by
  intro hclosing
  obtain ⟨line, hline, hhead⟩ := exists_line_of_closing hclosing
  rw [Text.lines, splitOn_append, List.mem_append] at hline
  rcases hline with hline | hline
  · exact (isInner_of_mem_lines_body h hline).noClosing hhead
  · obtain rfl : line = [] := by simpa [splitOn] using hline
    cases hhead

/-! ## Reading the entries -/

theorem WrittenEntry.begins_head {entry : WrittenEntry} (h : entry.Proper) :
    Begins entry.kind entry.key entry.head :=
  ⟨⟨h.kind.ne_nil, h.kind.word⟩, h.key, [], [], [], by simp, rfl⟩

/-- An entry is read up to its closing brace. -/
theorem WrittenEntry.rawEntry?_source {entry : WrittenEntry} (h : entry.Proper) (rest : Text) :
    rawEntry? (entry.head ++ (entry.body ++ closing) ++ rest) =
      some (⟨entry.kind, entry.key, entry.body⟩, rest) := by
  refine rawEntry?_eq_some_iff.mpr ⟨entry.head, entry.body ++ closing ++ rest, by simp, begins_head h, ?_⟩
  rw [List.append_assoc, cut?_append (not_closing_body h)]
  simp [closing, cut?_cons, dropPrefix?]

theorem WrittenEntry.findAll_flatMap_source {entries : List WrittenEntry}
    (h : ∀ entry ∈ entries, entry.Proper) :
    Scanner.findAll rawEntry? (entries.flatMap WrittenEntry.source) =
      entries.map fun entry => ⟨entry.kind, entry.key, entry.body⟩ := by
  induction entries with
  | nil => rfl
  | cons entry entries ih =>
      obtain ⟨hentry, hentries⟩ := List.forall_mem_cons.mp h
      -- the line feed behind an entry begins no other one
      have hsplit : (entry :: entries).flatMap WrittenEntry.source =
          entry.head ++ (entry.body ++ closing) ++ '\n' :: entries.flatMap WrittenEntry.source := by
        simp [WrittenEntry.source]
      rw [hsplit, Scanner.findAll_append_of_some (by simp [closing]) (rawEntry?_source hentry _),
        Scanner.findAll_of_none rfl, ih hentries]
      rfl

/-- No line of a printed bibliography is a comment. -/
theorem WrittenEntry.isComment_of_mem_lines {entries : List WrittenEntry}
    (h : ∀ entry ∈ entries, entry.Proper) {line : Text}
    (hline : line ∈ Text.lines (entries.flatMap WrittenEntry.source)) : isComment line = false := by
  induction entries with
  | nil =>
      obtain rfl : line = [] := by simpa [Text.lines, splitOn] using hline
      rfl
  | cons entry entries ih =>
      obtain ⟨hentry, hentries⟩ := List.forall_mem_cons.mp h
      have hhead : '\n' ∉ entry.head := by
        have hkind := lineFeed_not_mem_of_isWordChar hentry.kind.word
        have hkey : '\n' ∉ entry.key := fun hmem =>
          absurd (isBlank_of_isKeyChar (hentry.key.2 _ hmem)) (by decide)
        simp [WrittenEntry.head, hkind, hkey]
      have hsplit : (entry :: entries).flatMap WrittenEntry.source =
          entry.head ++ '\n' :: (unlines entry.lines ++ '\n' ::
            (['}'] ++ '\n' :: entries.flatMap WrittenEntry.source)) := by
        simp [WrittenEntry.source, WrittenEntry.body, closing]
      rw [hsplit, Text.lines, splitOn_append, splitOn_append, splitOn_append, splitOn_of_not_mem hhead,
        splitOn_of_not_mem (show '\n' ∉ ['}'] by decide)] at hline
      simp only [List.mem_append, List.mem_singleton] at hline
      rcases hline with rfl | hline | rfl | hline
      · rfl
      · have hbody : line ∈ Text.lines entry.body := by
          rw [lines_body]
          exact List.mem_cons_of_mem _ hline
        exact (isInner_of_mem_lines_body hentry hbody).noComment
      · rfl
      · exact ih hentries hline

/-- Whatever the values hold, and whichever way each is written, reading what was printed gives the
entries back, in order and with their fields in order. -/
theorem read_written (entries : List WrittenEntry) (h : ∀ entry ∈ entries, entry.Proper) :
    read (entries.flatMap WrittenEntry.source) = entries.map WrittenEntry.entry := by
  have hlines := eraseComments_eq_self fun line => WrittenEntry.isComment_of_mem_lines h
  rw [read, hlines, WrittenEntry.findAll_flatMap_source h, List.filterMap_map]
  refine List.filterMap_eq_map_iff_forall_eq_some.mpr fun entry hentry => ?_
  have hproper := h entry hentry
  simp [hproper.kind.lower, hproper.record, WrittenEntry.readFields_body hproper, WrittenEntry.entry]

/-- An entry that holds all that could mislead the reader: marks of comments, entries and fields in
a key and in values, an empty value, and a comma behind the last field. -/
def lookalike : WrittenEntry where
  kind := "article".toList
  key := "%a=\"b".toList
  fields := [⟨"  ".toList, "title".toList, "@misc, year = 1999, % no \\".toList, .braces⟩,
    ⟨"\t".toList, "note".toList, [], .marks⟩,
    ⟨" ".toList, "author".toList, "A, B = C @".toList, .marks⟩,
    ⟨"  ".toList, "year".toList, "2020 = x % @string".toList, .bare⟩]
  trailingComma := true

theorem read_written_lookalike : (∀ entry ∈ [lookalike, lookalike], entry.Proper) ∧
    read ([lookalike, lookalike].flatMap WrittenEntry.source) =
      [lookalike, lookalike].map WrittenEntry.entry := by
  have hproper : ∀ entry ∈ [lookalike, lookalike], entry.Proper := by decide +kernel
  exact ⟨hproper, read_written _ hproper⟩

end PaperHtml.Bibliography
