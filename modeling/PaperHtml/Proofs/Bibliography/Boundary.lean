import Mathlib
import PaperHtml.Bibliography.Reader
import PaperHtml.Proofs.Text.Scanning

/-!
# Where entries begin and end

The reader of a bibliography as a rule: what it takes for an entry is a beginning
(`Begins`), whatever follows up to the first closing brace that opens a line, and
that brace.  This is `rawEntry?_eq_some_iff`, and nothing else is used of the
reader later on.

## Strategy

The parts of a beginning are told apart by their characters alone.  Blanks, word
characters, key characters and the marks between them do not overlap, so that
each part is found up to its end whatever stands behind it.
-/

namespace PaperHtml

/-! ## Characters -/

/-- The code points of the blanks. -/
def blankCodes : List Nat :=
  [9, 10, 11, 12, 13, 28, 29, 30, 31, 32, 0x85, 0xA0, 0x1680, 0x2000, 0x2001, 0x2002, 0x2003,
    0x2004, 0x2005, 0x2006, 0x2007, 0x2008, 0x2009, 0x200A, 0x2028, 0x2029, 0x202F, 0x205F, 0x3000]

theorem toNat_mem_blankCodes {c : Char} (h : isBlank c = true) : c.toNat ∈ blankCodes := by
  simp only [isBlank, Bool.or_eq_true, Bool.and_eq_true, decide_eq_true_eq, beq_iff_eq] at h
  simp only [blankCodes, List.mem_cons, List.not_mem_nil, or_false]
  omega

/-- No blank is a word character. -/
theorem isWordChar_eq_false_of_isBlank {c : Char} (h : isBlank c = true) :
    isWordChar c = false := by
  have hcodes : ∀ code ∈ blankCodes, isWordChar (Char.ofNat code) = false := by decide +kernel
  rw [← Char.ofNat_toNat c]
  exact hcodes _ (toNat_mem_blankCodes h)

namespace Text

theorem spanWord_append {word rest : Text} (hword : ∀ c ∈ word, isWordChar c = true)
    (hrest : atWordEnd rest = true) : spanWord (word ++ rest) = (word, rest) := by
  rw [spanWord, List.span_eq_takeWhile_dropWhile, List.takeWhile_append_of_pos hword,
    List.dropWhile_append_of_pos hword]
  cases rest with
  | nil => simp
  | cons c rest =>
      have hc : isWordChar c = false := by simpa [atWordEnd] using hrest
      simp [hc]

end Text

namespace Bibliography

open Text

/-! ## Comments -/

/-- Whether a line is a comment: a percent sign after spaces and tabs. -/
def isComment (line : Text) : Bool :=
  (line.dropWhile fun c => c = ' ' ∨ c = '\t').head? = some '%'

theorem eraseComments_eq_self {t : Text} (h : ∀ line ∈ lines t, isComment line = false) :
    eraseComments t = t := by
  refine unlines_map_lines_eq_self fun line hline => if_neg fun hcomment => ?_
  have hnone := h line hline
  rw [isComment, hcomment] at hnone
  cases hnone

/-! ## The rule of the reader -/

/-- What closes an entry: a closing brace that opens a line. -/
def closing : Text := ['\n', '}']

/-- The beginning of an entry of a kind with a key: both with their marks, and blanks between
them. -/
def Begins (kind key head : Text) : Prop :=
  (kind ≠ [] ∧ ∀ c ∈ kind, isWordChar c = true) ∧ (key ≠ [] ∧ ∀ c ∈ key, isKeyChar c = true) ∧
    ∃ gap₁ gap₂ gap₃, (∀ c ∈ gap₁ ++ gap₂ ++ gap₃, isBlank c = true) ∧
      head = '@' :: (kind ++ (gap₁ ++ '{' :: (gap₂ ++ (key ++ (gap₃ ++ [','])))))

theorem isBlank_of_isKeyChar {c : Char} (h : isKeyChar c = true) : isBlank c = false := by
  simp only [isKeyChar, Bool.not_eq_true', Bool.or_eq_false_iff] at h
  exact h.2

private theorem spanned {p : Char → Bool} {t front behind : Text}
    (h : t.span p = (front, behind)) : (∀ c ∈ front, p c = true) ∧ t = front ++ behind := by
  rw [List.span_eq_takeWhile_dropWhile, Prod.mk.injEq] at h
  obtain ⟨rfl, rfl⟩ := h
  exact ⟨fun _ hc => List.mem_takeWhile_imp hc, List.takeWhile_append_dropWhile.symm⟩

/-- A beginning is read as such, and the body up to what closes the entry. -/
theorem rawEntry?_of_begins {kind key head rest body after : Text} (h : Begins kind key head)
    (hcut : cut? closing rest = some (body, after)) :
    rawEntry? (head ++ rest) = some (⟨kind, key, body⟩, after) := by
  obtain ⟨⟨hkind, hword⟩, ⟨hkey, hkeyChar⟩, gap₁, gap₂, gap₃, hgaps, rfl⟩ := h
  simp only [List.mem_append] at hgaps
  have hgap₁ : ∀ c ∈ gap₁, isBlank c = true := fun c hc => hgaps c (.inl (.inl hc))
  have hgap₂ : ∀ c ∈ gap₂, isBlank c = true := fun c hc => hgaps c (.inl (.inr hc))
  have hgap₃ : ∀ c ∈ gap₃, isBlank c = true := fun c hc => hgaps c (.inr hc)
  obtain ⟨first, more, rfl⟩ := List.exists_cons_of_ne_nil hkey
  have hbrace : isBlank '{' = false := by decide
  have hcomma : isBlank ',' = false := by decide
  have hfirst : isBlank first = false := isBlank_of_isKeyChar (hkeyChar first (List.mem_cons_self ..))
  -- a word ends at a blank as well as at the brace, and a key at a blank as well as at the comma
  have hkindEnd (behind : Text) : spanWord (kind ++ (gap₁ ++ '{' :: behind)) =
      (kind, gap₁ ++ '{' :: behind) := by
    apply spanWord_append hword
    cases gap₁ with
    | nil => rfl
    | cons c gap₁ =>
        simpa [atWordEnd] using isWordChar_eq_false_of_isBlank (hgap₁ c (List.mem_cons_self ..))
  have hkeyEnd (behind : Text) : (first :: more ++ (gap₃ ++ ',' :: behind)).span isKeyChar =
      (first :: more, gap₃ ++ ',' :: behind) := by
    rw [List.span_eq_takeWhile_dropWhile, List.takeWhile_append_of_pos hkeyChar,
      List.dropWhile_append_of_pos hkeyChar]
    cases gap₃ with
    | nil => simp [isKeyChar]
    | cons c gap₃ => simp [isKeyChar, hgap₃ c (List.mem_cons_self ..)]
  simp only [List.cons_append, List.append_assoc, List.nil_append] at hkeyEnd ⊢
  simp only [hkindEnd, rawEntry?, trimStart_append hgap₁, trimStart_cons hbrace, trimStart_append hgap₂,
    trimStart_cons hfirst, hkeyEnd, trimStart_append hgap₃, trimStart_cons hcomma]
  rw [show cut? ['\n', '}'] rest = some (body, after) from hcut]
  rfl

/-- What the reader takes for an entry is a beginning and all up to what closes it. -/
theorem rawEntry?_eq_some_iff {t after kind key body : Text} :
    rawEntry? t = some (⟨kind, key, body⟩, after) ↔
      ∃ head rest, t = head ++ rest ∧ Begins kind key head ∧ cut? closing rest = some (body, after) := by
  constructor
  · intro h
    -- one split for every part of a beginning, in the order in which they are looked for
    unfold rawEntry? at h
    split at h
    · rename_i behindAt
      split at h
      · cases h
      · rename_i word behindWord hne hwordSpan
        split at h
        · rename_i behindBrace hbrace
          split at h
          · cases h
          · rename_i name behindKey hname hkeySpan
            split at h
            · rename_i behindComma hcomma
              simp only [Option.map_eq_some_iff, Prod.mk.injEq, RawEntry.mk.injEq] at h
              obtain ⟨found, hfound, ⟨rfl, rfl, rfl⟩, rfl⟩ := h
              obtain ⟨hword, rfl⟩ := spanned hwordSpan
              obtain ⟨hkey, hbehind⟩ := spanned hkeySpan
              obtain ⟨gap₁, hgap₁, hsplit₁⟩ := exists_trimStart behindWord
              obtain ⟨gap₂, hgap₂, hsplit₂⟩ := exists_trimStart behindBrace
              obtain ⟨gap₃, hgap₃, hsplit₃⟩ := exists_trimStart behindKey
              refine ⟨_, behindComma, ?_, ⟨⟨hne, hword⟩, ⟨hname, hkey⟩, gap₁, gap₂, gap₃, ?_, rfl⟩,
                hfound⟩
              · rw [hsplit₁, hbrace, hsplit₂, hbehind, hsplit₃, hcomma]
                simp
              · intro c hc
                rcases List.mem_append.mp hc with hc | hc
                · rcases List.mem_append.mp hc with hc | hc
                  · exact hgap₁ c hc
                  · exact hgap₂ c hc
                · exact hgap₃ c hc
            · cases h
        · cases h
    · cases h
  · rintro ⟨head, rest, rfl, hbegins, hcut⟩
    exact rawEntry?_of_begins hbegins hcut

/-- No closing brace stands in a beginning. -/
theorem Begins.brace_not_mem {kind key head : Text} (h : Begins kind key head) : '}' ∉ head := by
  obtain ⟨⟨-, hword⟩, ⟨-, hkey⟩, gap₁, gap₂, gap₃, hgaps, rfl⟩ := h
  have hblank : isBlank '}' = false := by decide
  have hgap : '}' ∉ gap₁ ++ gap₂ ++ gap₃ := fun hmem => absurd (hgaps _ hmem) (by simp [hblank])
  have hkind : '}' ∉ kind := fun hmem => absurd (hword _ hmem) (by decide)
  have hname : '}' ∉ key := fun hmem => absurd (hkey _ hmem) (by decide)
  simp only [List.mem_append, not_or] at hgap
  simp [hgap, hkind, hname]

/-- A beginning ends with its comma. -/
theorem Begins.exists_comma {kind key head : Text} (h : Begins kind key head) :
    ∃ front, head = front ++ [','] := by
  obtain ⟨-, -, gap₁, gap₂, gap₃, -, rfl⟩ := h
  exact ⟨'@' :: (kind ++ (gap₁ ++ '{' :: (gap₂ ++ (key ++ gap₃)))), by simp⟩

end Bibliography

end PaperHtml
