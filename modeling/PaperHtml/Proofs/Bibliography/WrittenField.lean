import Mathlib
import PaperHtml.Proofs.Bibliography.Boundary
import PaperHtml.Proofs.Text.Collapsing

/-!
# Fields as written

A printer for the fields of an entry, and what the reader makes of its lines.
Each field stands on a line of its own, and its value may be put into braces,
between quotation marks or nowhere.

## Strategy

A value ends at its own mark, or at the comma or the end of its line if it has
none.  Text that looks like a further field is consumed together with the value in
which it stands, so that the scan of the lines finds one field in each.
-/

namespace PaperHtml.Bibliography

open Text

/-! ## The printer -/

/-- The ways to write a value. -/
inductive Quoting where
  | braces
  | marks
  | bare
  deriving DecidableEq, Repr

/-- A value as written. -/
def Quoting.write : Quoting → Text → Text
  | .braces, value => braced value
  | .marks, value => '"' :: value ++ ['"']
  | .bare, value => value

/-- A field and how it is written. -/
structure WrittenField where
  indent : Text
  name : Text
  value : Text
  quoting : Quoting

/-- The value of a field with its marks. -/
def WrittenField.written (field : WrittenField) : Text := field.quoting.write field.value

/-- A field without what stands before it. -/
def WrittenField.source (field : WrittenField) : Text := field.name ++ (" = ".toList ++ field.written)

/-- The line of a field. -/
def WrittenField.line (field : WrittenField) : Text := field.indent ++ field.source

/-- Lines with a comma behind each but the last, which has one if it is asked for. -/
def withCommas (trailing : Bool) : List Text → List Text
  | [] => []
  | [line] => [if trailing then line ++ [','] else line]
  | line :: rest => (line ++ [',']) :: withCommas trailing rest

/-! ## What can be written -/

/-- A name: word characters in lower case. -/
structure IsName (name : Text) : Prop where
  ne_nil : name ≠ []
  word : ∀ c ∈ name, isWordChar c = true
  lower : lower name = name

/-- A text with no blanks but single spaces inside it. -/
structure SingleSpaced (t : Text) : Prop where
  trim : trim t = t
  space : ∀ c ∈ t, isBlank c = true → c = ' '
  single : ¬ [' ', ' '] <:+: t

/-- A field that can be written as it is to be. -/
structure WrittenField.Proper (field : WrittenField) : Prop where
  indent : ∀ c ∈ field.indent, c = ' ' ∨ c = '\t'
  name : IsName field.name
  value : SingleSpaced field.value
  noMark : ∀ c ∈ field.value, c ≠ '{' ∧ c ≠ '}' ∧ c ≠ '"'
  bare : field.quoting = .bare → field.value ≠ [] ∧ ',' ∉ field.value

instance (name : Text) : Decidable (IsName name) :=
  decidable_of_iff (name ≠ [] ∧ name.all isWordChar = true ∧ Text.lower name = name)
    ⟨fun h => ⟨h.1, List.all_eq_true.mp h.2.1, h.2.2⟩,
      fun h => ⟨h.ne_nil, List.all_eq_true.mpr h.word, h.lower⟩⟩

instance (t : Text) : Decidable (SingleSpaced t) :=
  decidable_of_iff
    (Text.trim t = t ∧ (t.all fun c => decide (isBlank c = true → c = ' ')) = true ∧
      ¬ [' ', ' '] <:+: t)
    ⟨fun h => ⟨h.1, fun c hc => of_decide_eq_true (List.all_eq_true.mp h.2.1 c hc), h.2.2⟩,
      fun h => ⟨h.trim, List.all_eq_true.mpr fun c hc => decide_eq_true (h.space c hc), h.single⟩⟩

instance (field : WrittenField) : Decidable field.Proper :=
  decidable_of_iff
    ((field.indent.all fun c => decide (c = ' ' ∨ c = '\t')) = true ∧ IsName field.name ∧
      SingleSpaced field.value ∧
      (field.value.all fun c => decide (c ≠ '{' ∧ c ≠ '}' ∧ c ≠ '"')) = true ∧
      (field.quoting = .bare → field.value ≠ [] ∧ ',' ∉ field.value))
    ⟨fun h => ⟨fun c hc => of_decide_eq_true (List.all_eq_true.mp h.1 c hc), h.2.1, h.2.2.1,
        fun c hc => of_decide_eq_true (List.all_eq_true.mp h.2.2.2.1 c hc), h.2.2.2.2⟩,
      fun h => ⟨List.all_eq_true.mpr fun c hc => decide_eq_true (h.indent c hc), h.name, h.value,
        List.all_eq_true.mpr fun c hc => decide_eq_true (h.noMark c hc), h.bare⟩⟩

/-! ## Values -/

/-- Marks are taken off from the ends only. -/
theorem dropOuter_eq_self {first last : Char} {t : Text} (hfirst : t.head? ≠ some first)
    (hlast : t.getLast? ≠ some last) (hfeed : '\n' ∉ t) : dropOuter first last t = t := by
  have hinner : dropOptional first t = t := by
    cases t with
    | nil => rfl
    | cons c t => exact if_neg fun hc => hfirst (congrArg some hc)
  rw [List.getLast?_eq_head?_reverse] at hlast
  simp only [dropOuter, hinner]
  split
  · rename_i c rest hrev
    rw [hrev] at hlast
    rw [if_neg fun hc => hlast (congrArg some hc)]
    split
    · exact absurd (List.mem_reverse.mp (hrev ▸ List.mem_cons_self ..)) hfeed
    · rfl
  · rfl

theorem dropOuter_of_not_mem {first last : Char} {t : Text} (hfirst : first ∉ t) (hlast : last ∉ t)
    (hfeed : '\n' ∉ t) : dropOuter first last t = t :=
  dropOuter_eq_self (fun h => hfirst (List.mem_of_head? h)) (fun h => hlast (List.mem_of_getLast? h))
    hfeed

theorem dropOuter_enclosed (first last : Char) (t : Text) :
    dropOuter first last (first :: t ++ [last]) = t := by
  simp [dropOuter, dropOptional]

/-- A text that holds no run of blanks but single spaces is not changed by collapsing them. -/
theorem collapseBlanks_of_singleSpaced {t : Text} (h : SingleSpaced t) : collapseBlanks t = t :=
  collapseBlanks_of_collapsed ⟨h.space, h.single⟩

/-- No mark stands within a value. -/
theorem WrittenField.Proper.not_mem_value {field : WrittenField} (h : field.Proper) :
    '{' ∉ field.value ∧ '}' ∉ field.value ∧ '"' ∉ field.value :=
  ⟨fun hmem => (h.noMark _ hmem).1 rfl, fun hmem => (h.noMark _ hmem).2.1 rfl,
    fun hmem => (h.noMark _ hmem).2.2 rfl⟩

/-- A value stands on one line. -/
theorem WrittenField.Proper.lineFeed_not_mem_value {field : WrittenField} (h : field.Proper) :
    '\n' ∉ field.value := fun hmem =>
  absurd (h.value.space _ hmem (by decide)) (by decide)

theorem trim_enclosed {first last : Char} (hfirst : isBlank first = false)
    (hlast : isBlank last = false) (t : Text) : trim (first :: t ++ [last]) = first :: t ++ [last] := by
  rw [trim, List.cons_append, trimStart_cons hfirst]
  simp [trimEnd, hlast]

/-- The marks of a value are taken off again. -/
theorem WrittenField.cleanValue_written {field : WrittenField} (h : field.Proper) :
    cleanValue field.written = field.value := by
  obtain ⟨hopen, hclose, hmark⟩ := h.not_mem_value
  have hfeed := h.lineFeed_not_mem_value
  have hvalue := collapseBlanks_of_singleSpaced h.value
  unfold cleanValue WrittenField.written
  cases field.quoting with
  | braces =>
      simp only [Quoting.write, braced]
      rw [trim_enclosed (by decide) (by decide), dropOuter_enclosed,
        dropOuter_of_not_mem hmark hmark hfeed, hvalue]
  | marks =>
      simp only [Quoting.write]
      have hopen' : '{' ∉ '"' :: field.value ++ ['"'] := by simp [hopen]
      have hclose' : '}' ∉ '"' :: field.value ++ ['"'] := by simp [hclose]
      have hfeed' : '\n' ∉ '"' :: field.value ++ ['"'] := by simp [hfeed]
      rw [trim_enclosed (by decide) (by decide), dropOuter_of_not_mem hopen' hclose' hfeed',
        dropOuter_enclosed, hvalue]
  | bare =>
      simp only [Quoting.write]
      rw [h.value.trim, dropOuter_of_not_mem hopen hclose hfeed,
        dropOuter_of_not_mem hmark hmark hfeed, hvalue]

/-! ## Reading a field -/

/-- A text without braces reaches up to the first brace behind it. -/
theorem takeWhile_flat {t : Text} (hopen : '{' ∉ t) (hclose : '}' ∉ t) {brace : Char}
    (hbrace : brace = '{' ∨ brace = '}') (rest : Text) :
    (t ++ brace :: rest).takeWhile (fun c => decide (c ≠ '{' ∧ c ≠ '}')) = t := by
  have hinner : ∀ c ∈ t, decide (c ≠ '{' ∧ c ≠ '}') = true := fun c hc =>
    decide_eq_true ⟨ne_of_mem_of_not_mem hc hopen, ne_of_mem_of_not_mem hc hclose⟩
  rw [List.takeWhile_append_of_pos hinner]
  rcases hbrace with rfl | rfl <;> simp

theorem flatGroup?_braced {t : Text} (hopen : '{' ∉ t) (hclose : '}' ∉ t) (rest : Text) :
    flatGroup? (braced t ++ rest) = some (braced t, rest) := by
  have hsplit : braced t ++ rest = '{' :: (t ++ '}' :: rest) := by simp [braced]
  simp only [hsplit, flatGroup?, takeWhile_flat hopen hclose (.inr rfl), List.drop_left]

private theorem quotation?_marked {t : Text} (h : '"' ∉ t) (rest : Text) :
    quotation? ('"' :: t ++ ['"'] ++ rest) = some ('"' :: t ++ ['"'], rest) := by
  have hsplit : '"' :: t ++ ['"'] ++ rest = '"' :: (t ++ '"' :: rest) := by simp
  simp only [hsplit, quotation?, cutChar?_append h, Option.map_some]

/-- A group without braces in it is read up to its end, behind any blanks. -/
theorem value?_flat {gap t : Text} (hgap : ∀ c ∈ gap, isBlank c = true) (hopen : '{' ∉ t)
    (hclose : '}' ∉ t) (rest : Text) :
    value? (gap ++ (braced t ++ rest)) = some (braced t, rest) := by
  have hstart : trimStart (gap ++ (braced t ++ rest)) = braced t ++ rest := by
    rw [trimStart_append hgap]
    exact trimStart_cons (by decide) _
  unfold value?
  simp only [hstart, flatGroup?_braced hopen hclose, Option.some_or]

/-- So is a quotation. -/
theorem value?_marked {gap t : Text} (hgap : ∀ c ∈ gap, isBlank c = true) (hmark : '"' ∉ t)
    (rest : Text) :
    value? (gap ++ ('"' :: t ++ ['"'] ++ rest)) = some ('"' :: t ++ ['"'], rest) := by
  have hstart : trimStart (gap ++ ('"' :: t ++ ['"'] ++ rest)) = '"' :: t ++ ['"'] ++ rest := by
    rw [trimStart_append hgap]
    exact trimStart_cons (by decide) _
  have hgroup : flatGroup? ('"' :: t ++ ['"'] ++ rest) = none := rfl
  unfold value?
  simp only [hstart, hgroup, quotation?_marked hmark, Option.none_or, Option.some_or]

theorem bareValue?_append {t rest : Text} (hne : t ≠ []) (hcomma : ',' ∉ t)
    (hfeed : '\n' ∉ t) (hrest : rest.head?.all (· = ',') = true) :
    bareValue? (t ++ rest) = some (t, rest) := by
  have hinner : ∀ c ∈ t, decide (c ≠ ',' ∧ c ≠ '\n') = true := by
    intro c hc
    have h₁ : c ≠ ',' := fun e => hcomma (e ▸ hc)
    have h₂ : c ≠ '\n' := fun e => hfeed (e ▸ hc)
    simp [h₁, h₂]
  have htake : (t ++ rest).takeWhile (fun c => decide (c ≠ ',' ∧ c ≠ '\n')) = t := by
    rw [List.takeWhile_append_of_pos hinner]
    cases rest with
    | nil => simp
    | cons c rest =>
        obtain rfl : c = ',' := by simpa using hrest
        simp
  unfold bareValue?
  rw [htake]
  cases t with
  | nil => exact absurd rfl hne
  | cons c t => simp

/-- A value that is no blank text begins with no blank. -/
private theorem SingleSpaced.isBlank_head {t : Text} {c : Char} (h : SingleSpaced (c :: t)) :
    isBlank c = false := by
  have hprefix := trimEnd_isPrefix (trimStart (c :: t))
  rw [show trimEnd (trimStart (c :: t)) = c :: t from h.trim] at hprefix
  cases hstart : trimStart (c :: t) with
  | nil => simp [hstart] at hprefix
  | cons d rest =>
      have hd := isBlank_head_trimStart hstart
      rw [hstart] at hprefix
      obtain ⟨rfl, -⟩ := List.cons_prefix_cons.mp hprefix
      exact hd

/-- The value of a field is read up to its own end. -/
theorem WrittenField.value?_written {field : WrittenField} (h : field.Proper) {rest : Text}
    (hrest : rest.head?.all (· = ',') = true) :
    value? (' ' :: (field.written ++ rest)) = some (field.written, rest) := by
  obtain ⟨hopen, hclose, hmark⟩ := h.not_mem_value
  have hgap : ∀ c ∈ [' '], isBlank c = true := List.forall_mem_singleton.mpr (by decide)
  unfold WrittenField.written
  cases hquoting : field.quoting with
  | braces => exact value?_flat hgap hopen hclose rest
  | marks => exact value?_marked hgap hmark rest
  | bare =>
      obtain ⟨hne, hcomma⟩ := h.bare hquoting
      have hbare := bareValue?_append hne hcomma h.lineFeed_not_mem_value hrest
      -- the other two ways are looked for first, but the value begins with neither mark
      obtain ⟨c, t, hvalue⟩ := List.exists_cons_of_ne_nil hne
      have hblank : isBlank c = false := SingleSpaced.isBlank_head (hvalue ▸ h.value)
      simp only [Quoting.write, hvalue] at hbare hopen hmark ⊢
      have hc₁ : c ≠ '{' := fun e => hopen (by simp [e])
      have hc₂ : c ≠ '"' := fun e => hmark (by simp [e])
      have hgroup : flatGroup? (c :: t ++ rest) = none := by
        simp [flatGroup?, hc₁]
      have hquote : quotation? (c :: t ++ rest) = none := by
        simp [quotation?, hc₂]
      have hstart : trimStart (' ' :: (c :: t ++ rest)) = c :: t ++ rest := trimStart_cons hblank _
      unfold value?
      simp only [hstart, hgroup, hquote, hbare, Option.none_or]

/-- Behind a name and an equals sign stands a value. -/
theorem rawField?_of_sign {t name rest behind : Text} (hne : name ≠ []) (hname : spanWord t = (name, rest))
    (hsign : trimStart rest = '=' :: behind) :
    rawField? t = (value? behind).map fun found =>
      ((name, found.1), dropOptional ',' (trimStart found.2)) := by
  obtain ⟨c, name, rfl⟩ := List.exists_cons_of_ne_nil hne
  simp only [rawField?, hname, hsign]

theorem rawField?_of_no_sign {t name rest : Text} (hname : spanWord t = (name, rest))
    (hsign : (trimStart rest).head? ≠ some '=') : rawField? t = none := by
  unfold rawField?
  rw [hname]
  split
  · rfl
  · rename_i heq
    cases heq
    split
    · rename_i hequals
      rw [hequals] at hsign
      exact absurd rfl hsign
    · rfl

theorem rawField?_named {name : Text} (hne : name ≠ []) (hword : ∀ c ∈ name, isWordChar c = true)
    (behind : Text) :
    rawField? (name ++ (" = ".toList ++ behind)) =
      (value? (' ' :: behind)).map fun found =>
        ((name, found.1), dropOptional ',' (trimStart found.2)) := by
  have hname : spanWord (name ++ (" = ".toList ++ behind)) = (name, " = ".toList ++ behind) :=
    spanWord_append hword (show (!isWordChar ' ') = true by decide)
  exact rawField?_of_sign hne hname rfl

/-- A field is read as itself, and the comma behind it is consumed with it. -/
theorem WrittenField.rawField?_source {field : WrittenField} (h : field.Proper) {rest : Text}
    (hrest : rest.head?.all (· = ',') = true) :
    rawField? (field.source ++ rest) =
      some ((field.name, field.written), dropOptional ',' rest) := by
  have hcomma : trimStart rest = rest := by
    apply trimStart_eq_self
    rintro c rest rfl
    obtain rfl : c = ',' := by simpa using hrest
    decide
  rw [WrittenField.source, List.append_assoc, List.append_assoc,
    rawField?_named h.name.ne_nil h.name.word, value?_written h hrest, Option.map_some, hcomma]

/-! ## Reading the fields -/

theorem rawField?_of_isBlank {c : Char} (h : isBlank c = true) (rest : Text) :
    rawField? (c :: rest) = none := by
  have hword : spanWord ([] ++ c :: rest) = ([], c :: rest) :=
    spanWord_append (by simp) (by simp [atWordEnd, isWordChar_eq_false_of_isBlank h])
  rw [List.nil_append] at hword
  simp only [rawField?, hword]

theorem WrittenField.isBlank_indent {field : WrittenField} (h : field.Proper) :
    ∀ c ∈ field.indent, isBlank c = true := by
  intro c hc
  rcases h.indent c hc with rfl | rfl <;> decide

/-- A line and what is consumed with it. -/
private theorem findAll_line {field : WrittenField} (h : field.Proper) (rest : Text)
    (hrest : rest.head?.all (· = ',') = true) :
    Scanner.findAll rawField? (field.line ++ rest) =
      (field.name, field.written) :: Scanner.findAll rawField? (dropOptional ',' rest) := by
  have hread := WrittenField.rawField?_source h hrest
  have hne : field.source ≠ [] := by simp [WrittenField.source, h.name.ne_nil]
  rw [WrittenField.line, List.append_assoc, Scanner.findAll_append_of_none fun c hc =>
    rawField?_of_isBlank (WrittenField.isBlank_indent h c hc)]
  cases rest with
  | nil => exact Scanner.findAll_append_of_some hne hread
  | cons c rest =>
      obtain rfl : c = ',' := by simpa using hrest
      rw [List.append_cons] at hread ⊢
      exact Scanner.findAll_append_of_some (by simp) hread

/-- The lines of an entry hold its fields, in order. -/
theorem findAll_unlines_withCommas (trailing : Bool) {fields : List WrittenField}
    (h : ∀ field ∈ fields, field.Proper) :
    Scanner.findAll rawField? (unlines (withCommas trailing (fields.map WrittenField.line))) =
      fields.map fun field => (field.name, field.written) := by
  induction fields with
  | nil => rfl
  | cons field fields ih =>
      obtain ⟨hfield, hfields⟩ := List.forall_mem_cons.mp h
      cases fields with
      | nil =>
          cases trailing with
          | false => simpa [withCommas, unlines, join, dropOptional] using findAll_line hfield [] rfl
          | true => simpa [withCommas, unlines, join, dropOptional] using findAll_line hfield [','] rfl
      | cons next fields =>
          -- behind the comma stand a line feed, which begins no field, and the other lines
          have hlines : unlines (withCommas trailing ((field :: next :: fields).map WrittenField.line)) =
              field.line ++ ',' :: '\n' ::
                unlines (withCommas trailing ((next :: fields).map WrittenField.line)) := by
            obtain ⟨line, lines, hmore⟩ : ∃ line lines,
                withCommas trailing ((next :: fields).map WrittenField.line) = line :: lines := by
              cases fields <;> exact ⟨_, _, rfl⟩
            simp only [List.map_cons, withCommas] at hmore ⊢
            rw [hmore, unlines, join, List.intercalate_cons_cons]
            simp [unlines, join]
          rw [hlines, findAll_line hfield _ rfl, dropOptional, if_pos rfl,
            Scanner.findAll_of_none (rawField?_of_isBlank (by decide) _), ih hfields]
          rfl

end PaperHtml.Bibliography
