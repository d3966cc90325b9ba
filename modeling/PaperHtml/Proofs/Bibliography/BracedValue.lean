import PaperHtml.Proofs.Bibliography.Blocks
import PaperHtml.Proofs.Bibliography.Citable
import PaperHtml.Proofs.Bibliography.WrittenField

/-!
# Values in braces

A value in braces may hold braces itself, such as those around letters that must
keep their case.  The reader knows groups without inner ones only; it takes any
other value up to the next comma or the end of the line.  A value with balanced
braces is therefore kept whole exactly if it has no inner group or no comma
(`readFields_bracedLine_iff`).

## Strategy

Without inner groups the value is read as a group, and commas in it do not
matter.  With an inner group the value is read as if it had no mark at all.  If it
holds no comma, that is all of it, and cleaning takes the outer braces off.  If it
holds one, whatever is read is too short: the first field ends before the comma,
any other one begins behind it.
-/

namespace PaperHtml.Bibliography

open Text

/-- A value that can stand in braces as it is: its own braces are balanced, its only blanks are
single spaces inside it, and no quotation mark is at either end. -/
structure IsBraceable (value : Text) : Prop where
  balanced : isBalancedFrom 0 value = true
  spaced : SingleSpaced value
  first : value.head? ≠ some '"'
  last : value.getLast? ≠ some '"'

instance (value : Text) : Decidable (IsBraceable value) :=
  decidable_of_iff (isBalancedFrom 0 value = true ∧ SingleSpaced value ∧ value.head? ≠ some '"' ∧
      value.getLast? ≠ some '"')
    ⟨fun h => ⟨h.1, h.2.1, h.2.2.1, h.2.2.2⟩, fun h => ⟨h.balanced, h.spaced, h.first, h.last⟩⟩

/-- The line of a field with its value in braces. -/
def bracedLine (name value : Text) : Text := name ++ (" = ".toList ++ (braced value ++ [',']))

variable {name value : Text}

/-! ## Balanced braces -/

/-- A character that is no brace does not matter to the balance. -/
theorem isBalancedFrom_cons {c : Char} (hopen : c ≠ '{') (hclose : c ≠ '}') (depth : Nat) (rest : Text) :
    isBalancedFrom depth (c :: rest) = isBalancedFrom depth rest := by
  rw [isBalancedFrom]
  · exact hopen
  · exact fun _ => hclose
  · exact fun _ _ => hclose

/-- The first brace of a balanced text opens a group. -/
theorem exists_group_of_balanced (h : isBalancedFrom 0 value = true) :
    ('{' ∉ value ∧ '}' ∉ value) ∨
      ∃ plain rest, '{' ∉ plain ∧ '}' ∉ plain ∧ value = plain ++ '{' :: rest := by
  induction value with
  | nil => exact .inl ⟨List.not_mem_nil, List.not_mem_nil⟩
  | cons c value ih =>
      by_cases hopen : c = '{'
      · exact .inr ⟨[], value, List.not_mem_nil, List.not_mem_nil, by rw [hopen]; rfl⟩
      by_cases hclose : c = '}'
      · rw [hclose] at h
        simp [isBalancedFrom] at h
      rw [isBalancedFrom_cons hopen hclose] at h
      have hopen' : '{' ≠ c := fun e => hopen e.symm
      have hclose' : '}' ≠ c := fun e => hclose e.symm
      rcases ih h with ⟨hnone, hnone'⟩ | ⟨plain, rest, hplain, hplain', rfl⟩
      · exact .inl ⟨by simp [hopen', hnone], by simp [hclose', hnone']⟩
      · exact .inr ⟨c :: plain, rest, by simp [hopen', hplain], by simp [hclose', hplain'], rfl⟩

theorem IsBraceable.lineFeed_not_mem (h : IsBraceable value) : '\n' ∉ value := fun hmem =>
  absurd (h.spaced.space _ hmem (by decide)) (by decide)

/-! ## Cleaning -/

theorem cleanValue_braced (h : IsBraceable value) : cleanValue (braced value) = value := by
  rw [cleanValue, braced, trim_enclosed (by decide) (by decide), dropOuter_enclosed,
    dropOuter_eq_self h.first h.last h.lineFeed_not_mem, collapseBlanks_of_singleSpaced h.spaced]

theorem length_collapseFrom_le (inRun : Bool) (t : Text) :
    (collapseFrom inRun t).length ≤ t.length := by
  induction t generalizing inRun with
  | nil => rfl
  | cons c t ih =>
      have hrun := ih true
      have hplain := ih false
      simp only [collapseFrom]
      split
      · split <;> simp only [List.length_cons] <;> omega
      · simpa using hplain

theorem dropOptional_suffix (mark : Char) (t : Text) : dropOptional mark t <:+ t := by
  cases t with
  | nil => exact List.suffix_refl _
  | cons c t =>
      rw [dropOptional]
      split
      · exact List.suffix_cons c t
      · exact List.suffix_refl _

theorem length_dropOptional_le (mark : Char) (t : Text) : (dropOptional mark t).length ≤ t.length :=
  (dropOptional_suffix mark t).length_le

theorem length_dropOuter_le (first last : Char) (t : Text) :
    (dropOuter first last t).length ≤ (dropOptional first t).length := by
  have hrev := (dropOptional first t).length_reverse
  simp only [dropOuter]
  split
  · rename_i c rest h
    rw [h, List.length_cons] at hrev
    split
    · rw [List.length_reverse]
      omega
    split
    · split
      · simp only [List.length_reverse, List.length_cons] at hrev ⊢
        omega
      · exact le_rfl
    · exact le_rfl
  · exact le_rfl

theorem length_trim_le (t : Text) : (trim t).length ≤ t.length :=
  (trimEnd_isPrefix _).length_le.trans (List.dropWhile_suffix (l := t) isBlank).length_le

/-- Cleaning leaves no more of a value than what remains without one opening brace. -/
theorem length_cleanValue_le (raw : Text) :
    (cleanValue raw).length ≤ (dropOptional '{' (trim raw)).length :=
  calc (cleanValue raw).length
      ≤ (dropOuter '"' '"' (dropOuter '{' '}' (trim raw))).length := length_collapseFrom_le _ _
    _ ≤ (dropOptional '"' (dropOuter '{' '}' (trim raw))).length := length_dropOuter_le _ _ _
    _ ≤ (dropOuter '{' '}' (trim raw)).length := length_dropOptional_le _ _
    _ ≤ (dropOptional '{' (trim raw)).length := length_dropOuter_le _ _ _

theorem length_cleanValue_le_length (raw : Text) : (cleanValue raw).length ≤ raw.length :=
  (length_cleanValue_le raw).trans ((length_dropOptional_le _ _).trans (length_trim_le raw))

theorem length_cleanValue_cons_le (t : Text) : (cleanValue ('{' :: t)).length ≤ t.length := by
  have hopened : trim ('{' :: t) = '{' :: trimEnd t := by
    rw [trim, trimStart_cons (by decide), ← List.singleton_append, trimEnd_append]
    split
    · rename_i hblank
      rw [hblank]
      rfl
    · rfl
  have hclean := length_cleanValue_le ('{' :: t)
  rw [hopened, dropOptional, if_pos rfl] at hclean
  exact hclean.trans (trimEnd_isPrefix t).length_le

/-! ## What is read -/

theorem flatGroup?_eq_some {t raw after : Text} (h : flatGroup? t = some (raw, after)) :
    t = raw ++ after := by
  unfold flatGroup? at h
  split at h
  · rename_i rest
    have hrest := List.prefix_iff_eq_append.mp
      (rest.takeWhile_prefix fun c => decide (c ≠ '{' ∧ c ≠ '}'))
    simp only at h
    split at h
    · rename_i behind hdrop
      cases h
      rw [hdrop] at hrest
      simpa [braced] using hrest.symm
    · cases h
  · cases h

theorem quotation?_eq_some {t raw after : Text} (h : quotation? t = some (raw, after)) :
    t = raw ++ after := by
  unfold quotation? at h
  split at h
  · rename_i rest
    obtain ⟨⟨inner, behind⟩, hcut, hfound⟩ := Option.map_eq_some_iff.mp h
    cases hfound
    rw [(cutChar?_eq_some hcut).1]
    simp
  · cases h

theorem bareValue?_eq_some {t raw after : Text} (h : bareValue? t = some (raw, after)) :
    t = raw ++ after := by
  unfold bareValue? at h
  split at h
  · cases h
  · rename_i value hne
    cases h
    exact (List.prefix_iff_eq_append.mp (List.takeWhile_prefix _)).symm

/-- A value is what stands behind the blanks, or one of them if nothing can be read there. -/
theorem value?_eq_some {t raw after : Text} (h : value? t = some (raw, after)) :
    trimStart t = raw ++ after ∨
      (raw = [' '] ∧ after = trimStart t ∧ (t.takeWhile isBlank).any (· ≠ '\n') = true) := by
  unfold value? at h
  simp only at h
  split at h
  · rename_i found hfound
    cases h
    left
    rcases Option.or_eq_some_iff.mp hfound with hgroup | ⟨-, hother⟩
    · exact flatGroup?_eq_some hgroup
    rcases Option.or_eq_some_iff.mp hother with hquote | ⟨-, hbare⟩
    · exact quotation?_eq_some hquote
    · exact bareValue?_eq_some hbare
  · split at h
    · rename_i hblank
      cases h
      exact .inr ⟨rfl, rfl, hblank⟩
    · cases h

theorem suffix_of_value? {t raw after : Text} (h : value? t = some (raw, after)) : after <:+ t := by
  have hstart : trimStart t <:+ t := List.dropWhile_suffix isBlank
  rcases value?_eq_some h with hread | ⟨-, rfl, -⟩
  · exact ((List.suffix_append raw after).trans (hread ▸ List.suffix_refl _)).trans hstart
  · exact hstart

/-- A value is a part of the text in which it is read, or one blank of it. -/
theorem length_le_of_value? {t raw after : Text} (h : value? t = some (raw, after)) :
    raw.length ≤ t.length := by
  rcases value?_eq_some h with hread | ⟨rfl, -, hblank⟩
  · have hstart : (trimStart t).length ≤ t.length := (List.dropWhile_suffix isBlank).length_le
    rw [hread, List.length_append] at hstart
    omega
  · cases t with
    | nil => simp at hblank
    | cons c t => simp

/-- What is read as a field is a name, an equals sign, a value and perhaps a comma. -/
theorem rawField?_eq_some {t after name raw : Text} (h : rawField? t = some ((name, raw), after)) :
    ∃ gap behind rest, t = name ++ (gap ++ '=' :: behind) ∧ name ≠ [] ∧
      (∀ c ∈ name, isWordChar c = true) ∧ isBlankText gap = true ∧
      value? behind = some (raw, rest) ∧ after = dropOptional ',' (trimStart rest) := by
  have hspan : t = (spanWord t).1 ++ (spanWord t).2 := by simp [spanWord]
  have hword : ∀ c ∈ (spanWord t).1, isWordChar c = true := by
    rw [spanWord, List.span_eq_takeWhile_dropWhile]
    exact fun c hc => List.mem_takeWhile_imp hc
  unfold rawField? at h
  split at h
  · cases h
  · rename_i found rest hne hfound
    rw [hfound] at hspan hword
    split at h
    · rename_i behind hsign
      obtain ⟨⟨raw, left⟩, hvalue, hread⟩ := Option.map_eq_some_iff.mp h
      cases hread
      obtain ⟨gap, hgap, hrest⟩ := exists_trimStart rest
      rw [hsign] at hrest
      exact ⟨gap, behind, left, by rw [hspan, hrest], hne, hword, List.all_eq_true.mpr hgap, hvalue, rfl⟩
    · cases h

/-- A name and an equals sign stand in front of a value. -/
theorem length_le_of_rawField? {t after : Text} {field : Text × Text}
    (h : rawField? t = some (field, after)) : field.2.length + 2 ≤ t.length := by
  obtain ⟨gap, behind, rest, rfl, hne, -, -, hvalue, -⟩ := rawField?_eq_some h
  have hname := List.length_pos_of_ne_nil hne
  have hraw := length_le_of_value? hvalue
  simp only [List.length_append, List.length_cons]
  omega

/-! ## Reading the line -/

theorem flatGroup?_nested {plain : Text} (hopen : '{' ∉ plain) (hclose : '}' ∉ plain) (rest : Text) :
    flatGroup? ('{' :: (plain ++ '{' :: rest)) = none := by
  simp only [flatGroup?, takeWhile_flat hopen hclose (.inl rfl), List.drop_left]
  rfl

/-- A value with an inner group is read up to the first comma, its opening brace with it. -/
theorem value?_nested (h : IsBraceable value) (hopen : '{' ∈ value) {front back : Text}
    (hsplit : braced value ++ [','] = front ++ back) (hne : front ≠ []) (hcomma : ',' ∉ front)
    (hfeed : '\n' ∉ front) (hback : back.head?.all (· = ',') = true) :
    value? (' ' :: (braced value ++ [','])) = some (front, back) := by
  have hgroup : flatGroup? (braced value ++ [',']) = none := by
    rcases exists_group_of_balanced h.balanced with hnone | ⟨plain, rest, hplain, hplain', rfl⟩
    · exact absurd hopen hnone.1
    · simpa [braced] using flatGroup?_nested hplain hplain' (rest ++ ['}', ','])
  have hquote : quotation? (braced value ++ [',']) = none := rfl
  have hbare : bareValue? (braced value ++ [',']) = some (front, back) := by
    rw [hsplit, bareValue?_append hne hcomma hfeed hback]
  have hstart : trimStart (' ' :: (braced value ++ [','])) = braced value ++ [','] := rfl
  unfold value?
  simp only [hstart, hgroup, hquote, hbare, Option.none_or]

/-- A value without inner groups or without commas is read with its braces. -/
theorem value?_braced (h : IsBraceable value) (hplain : '{' ∉ value ∨ ',' ∉ value) :
    value? (' ' :: (braced value ++ [','])) = some (braced value, [',']) := by
  by_cases hopen : '{' ∈ value
  · have hcomma : ',' ∉ braced value := by simp [braced, hplain.resolve_left (not_not_intro hopen)]
    have hfeed : '\n' ∉ braced value := by simp [braced, h.lineFeed_not_mem]
    exact value?_nested h hopen rfl (List.cons_ne_nil _ _) hcomma hfeed rfl
  · have hclose : '}' ∉ value := by
      rcases exists_group_of_balanced h.balanced with hnone | ⟨plain, rest, -, -, rfl⟩
      · exact hnone.2
      · simp at hopen
    exact value?_flat (List.forall_mem_singleton.mpr (by decide)) hopen hclose [',']

/-- Such a value is the only one on its line. -/
theorem readFields_bracedLine (hne : name ≠ []) (hword : ∀ c ∈ name, isWordChar c = true)
    (h : IsBraceable value) (hplain : '{' ∉ value ∨ ',' ∉ value) :
    readFields (bracedLine name value) = [(lower name, value)] := by
  have hread : rawField? (bracedLine name value ++ []) = some ((name, braced value), []) := by
    rw [List.append_nil, bracedLine, rawField?_named hne hword, value?_braced h hplain]
    rfl
  have hfound := Scanner.findAll_append_of_some (by simp [bracedLine]) hread
  rw [List.append_nil, Scanner.findAll_nil] at hfound
  rw [readFields, hfound, List.map_singleton, cleanValue_braced h]
  rfl

/-- Of a value with an inner group and a comma, everything that is read is shorter. -/
theorem length_lt_of_mem_readFields (hne : name ≠ []) (hword : ∀ c ∈ name, isWordChar c = true)
    (h : IsBraceable value) (hopen : '{' ∈ value) (hcomma : ',' ∈ value) {field : Text × Text}
    (hfield : field ∈ readFields (bracedLine name value)) : field.2.length < value.length := by
  obtain ⟨front, back, hvalue, hfront⟩ := List.eq_append_cons_of_mem hcomma
  have hlength : value.length = front.length + (back.length + 1) := by simp [hvalue]
  have hsplit : braced value ++ [','] = ('{' :: front) ++ ',' :: (back ++ ['}', ',']) := by
    simp [braced, hvalue]
  have hline : bracedLine name value =
      (name ++ (" = ".toList ++ ('{' :: front ++ [',']))) ++ (back ++ ['}', ',']) := by
    simp [bracedLine, braced, hvalue]
  have hfeed : '\n' ∉ '{' :: front := by
    have hnone := h.lineFeed_not_mem
    rw [hvalue, List.mem_append, not_or] at hnone
    simp [hnone.1]
  have hread : rawField? (bracedLine name value) =
      some ((name, '{' :: front), back ++ ['}', ',']) := by
    rw [bracedLine, rawField?_named hne hword,
      value?_nested h hopen hsplit (List.cons_ne_nil _ _) (by simp [hfront]) hfeed rfl]
    rfl
  rw [hline] at hread
  obtain ⟨raw, hraw, rfl⟩ := List.mem_map.mp (Assoc.mem_of_mem_ofList hfield)
  rw [hline, Scanner.findAll_append_of_some (by simp) hread] at hraw
  rcases List.mem_cons.mp hraw with rfl | hraw
  · -- the first field has what stands before the comma
    have hclean := length_cleanValue_cons_le front
    simp only
    omega
  · -- any other one has a part of what stands behind it
    obtain ⟨part, after, hpart, hscan⟩ := Scanner.exists_of_mem_findAll hraw
    have hclean := length_cleanValue_le_length raw.2
    have hshort := length_le_of_rawField? hscan
    have hwithin := hpart.length_le
    simp only [List.length_append, List.length_cons, List.length_nil] at hwithin ⊢
    omega

/-- A value with balanced braces is kept whole exactly if it has no inner group or no comma. -/
theorem readFields_bracedLine_iff (hne : name ≠ []) (hword : ∀ c ∈ name, isWordChar c = true)
    (h : IsBraceable value) :
    readFields (bracedLine name value) = [(lower name, value)] ↔ '{' ∉ value ∨ ',' ∉ value := by
  refine ⟨fun hread => ?_, readFields_bracedLine hne hword h⟩
  by_contra hboth
  rw [not_or, not_not, not_not] at hboth
  have hmem : (lower name, value) ∈ readFields (bracedLine name value) := by
    rw [hread]
    exact List.mem_singleton_self _
  exact absurd (length_lt_of_mem_readFields hne hword h hboth.1 hboth.2 hmem) (lt_irrefl _)

/-- Letters that keep their case. -/
theorem readFields_bracedLine_iff_protected :
    ("Title".toList ≠ [] ∧ "Title".toList.all isWordChar = true ∧
        IsBraceable "The \x7bGAN\x7d Paper".toList) ∧
      readFields (bracedLine "Title".toList "The \x7bGAN\x7d Paper".toList) =
        [("title".toList, "The \x7bGAN\x7d Paper".toList)] := by
  have hword : "Title".toList.all isWordChar = true := by decide +kernel
  have hvalue : IsBraceable "The \x7bGAN\x7d Paper".toList := by decide +kernel
  have hlower : lower "Title".toList = "title".toList := by decide +kernel
  have hread := (readFields_bracedLine_iff (by decide) (List.all_eq_true.mp hword) hvalue).mpr
    (.inr (by decide))
  rw [hlower] at hread
  exact ⟨⟨by decide, hword, hvalue⟩, hread⟩

/-- Behind such letters a comma cuts the value off. -/
theorem comma_behind_group :
    ("title".toList ≠ [] ∧ "title".toList.all isWordChar = true ∧
        IsBraceable "The \x7bGAN\x7d, Again".toList) ∧
      readFields (bracedLine "title".toList "The \x7bGAN\x7d, Again".toList) =
        [("title".toList, "The \x7bGAN".toList)] ∧
      readFields (bracedLine "title".toList "The \x7bGAN\x7d, Again".toList) ≠
        [(lower "title".toList, "The \x7bGAN\x7d, Again".toList)] := by
  decide +kernel

end PaperHtml.Bibliography
