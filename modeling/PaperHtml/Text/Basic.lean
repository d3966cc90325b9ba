/-!
# Text as a list of characters

All rules of this library are stated over `Text`, a list of characters, so that
they can be unfolded by the kernel and reasoned about by induction.

This file holds the operators that are not about any class of characters:
splitting and joining, recognising a fixed beginning, and cutting a text at the
first place where something is found.
-/

namespace PaperHtml

/-- A text, character by character. -/
abbrev Text := List Char

/-- Whether a text is a member of a list can be decided wherever it is asked, by one and the same
instance. -/
instance : LawfulBEq Text := inferInstance

namespace Text

/-! ## Splitting and joining -/

/-- The parts between the occurrences of one character; always at least one part. -/
def splitOn (sep : Char) : Text → List Text
  | [] => [[]]
  | c :: rest =>
    if c = sep then [] :: splitOn sep rest
    else
      match splitOn sep rest with
      | [] => [[c]]
      | part :: parts => (c :: part) :: parts

/-- The parts with a text between each two neighbours. -/
def join (sep : Text) (parts : List Text) : Text := List.intercalate sep parts

/-- The lines of a text, without their line feeds. -/
def lines (t : Text) : List Text := splitOn '\n' t

/-- Lines put together with line feeds between them; the inverse of `lines`. -/
def unlines (parts : List Text) : Text := join ['\n'] parts

theorem splitOn_ne_nil (sep : Char) (t : Text) : splitOn sep t ≠ [] := by
  cases t with
  | nil => simp [splitOn]
  | cons c rest =>
      simp only [splitOn]
      split
      · simp
      · split <;> simp

/-- The separator is in none of the parts. -/
theorem not_mem_of_mem_splitOn {sep : Char} {t part : Text} (h : part ∈ splitOn sep t) :
    sep ∉ part := by
  induction t generalizing part with
  | nil =>
      obtain rfl : part = [] := by simpa [splitOn] using h
      simp
  | cons c rest ih =>
      by_cases hc : c = sep
      · simp only [splitOn, hc, if_true, List.mem_cons] at h
        rcases h with rfl | h
        · simp
        · exact ih h
      · have hne : sep ≠ c := fun e => hc e.symm
        cases hrest : splitOn sep rest with
        | nil => exact absurd hrest (splitOn_ne_nil sep rest)
        | cons first parts =>
            simp only [splitOn, hc, if_false, hrest, List.mem_cons] at h ih
            rcases h with rfl | h
            · have hfirst := ih (.inl rfl)
              simp [hne, hfirst]
            · exact ih (.inr h)

/-- A text between an opening and a closing brace. -/
def braced (t : Text) : Text := '{' :: t ++ ['}']

/-! ## Fixed beginnings -/

/-- What follows `beginning`, if the text starts with it. -/
def dropPrefix? : (beginning : Text) → Text → Option Text
  | [], t => some t
  | _ :: _, [] => none
  | p :: ps, c :: rest => if p = c then dropPrefix? ps rest else none

/-- Whether the text starts with `beginning`. -/
def startsWith (beginning t : Text) : Bool := (dropPrefix? beginning t).isSome

/-- What follows one optional character. -/
def dropOptional (mark : Char) : Text → Text
  | [] => []
  | c :: rest => if c = mark then rest else c :: rest

/-- What follows the first of several beginnings that fits. -/
def dropAny? : List Text → Text → Option Text
  | [], _ => none
  | p :: ps, t => (dropPrefix? p t).or (dropAny? ps t)

theorem dropPrefix?_eq_some_iff {beginning t rest : Text} :
    dropPrefix? beginning t = some rest ↔ t = beginning ++ rest := by
  induction beginning generalizing t with
  | nil => simp [dropPrefix?, eq_comm]
  | cons p ps ih =>
      cases t with
      | nil => simp [dropPrefix?]
      | cons c r =>
          by_cases h : p = c
          · subst h; simp [dropPrefix?, ih]
          · have : c ≠ p := fun e => h e.symm
            simp [dropPrefix?, h, this]

@[simp] theorem dropPrefix?_append (beginning rest : Text) :
    dropPrefix? beginning (beginning ++ rest) = some rest :=
  dropPrefix?_eq_some_iff.mpr rfl

/-! ## Cutting at the first place found -/

/-- The text before the first place where `stop` succeeds, with what it gives there. -/
def breakAt {α : Type} (stop : Text → Option α) : Text → Option (Text × α)
  | [] => (stop []).map fun a => ([], a)
  | c :: rest =>
    match stop (c :: rest) with
    | some a => some ([], a)
    | none => (breakAt stop rest).map fun found => (c :: found.1, found.2)

/-- The texts before and after the first occurrence of `mark`. -/
def cut? (mark t : Text) : Option (Text × Text) := breakAt (dropPrefix? mark) t

/-- Whether `mark` occurs in the text. -/
def holds (mark t : Text) : Bool := (cut? mark t).isSome

/-- The text before and after the first occurrence of one character. -/
def cutChar? (mark : Char) : Text → Option (Text × Text)
  | [] => none
  | c :: rest =>
    if c = mark then some ([], rest)
    else (cutChar? mark rest).map fun found => (c :: found.1, found.2)

/-- The first occurrence of `mark` replaced. -/
def replaceFirst (mark new t : Text) : Text :=
  match cut? mark t with
  | some (before, after) => before ++ new ++ after
  | none => t

theorem cutChar?_eq_some {mark : Char} {t before after : Text}
    (h : cutChar? mark t = some (before, after)) :
    t = before ++ mark :: after ∧ mark ∉ before := by
  induction t generalizing before with
  | nil => simp [cutChar?] at h
  | cons c r ih =>
      by_cases hc : c = mark
      · simp only [cutChar?, hc, if_true, Option.some.injEq, Prod.mk.injEq] at h
        obtain ⟨rfl, rfl⟩ := h
        simp [hc]
      · simp only [cutChar?, hc, if_false, Option.map_eq_some_iff, Prod.mk.injEq] at h
        obtain ⟨found, hfound, rfl, rfl⟩ := h
        obtain ⟨hr, hmem⟩ := ih hfound
        refine ⟨by rw [hr]; rfl, ?_⟩
        simp only [List.mem_cons, not_or]
        exact ⟨fun e => hc e.symm, hmem⟩

/-- A text is cut at the first place of the character. -/
theorem cutChar?_append {mark : Char} {before : Text} (h : mark ∉ before) (after : Text) :
    cutChar? mark (before ++ mark :: after) = some (before, after) := by
  induction before with
  | nil => simp [cutChar?]
  | cons c rest ih =>
      rw [List.mem_cons, not_or] at h
      have hc : c ≠ mark := fun e => h.1 e.symm
      simp [cutChar?, hc, ih h.2]

theorem cut?_cons (mark : Text) (c : Char) (rest : Text) :
    cut? mark (c :: rest) =
      match dropPrefix? mark (c :: rest) with
      | some after => some ([], after)
      | none => (cut? mark rest).map fun found => (c :: found.1, found.2) := by
  rw [cut?, breakAt]
  cases dropPrefix? mark (c :: rest) <;> rfl

/-- The mark stands between the two parts of a cut. -/
theorem cut?_eq_some {mark t before after : Text} (h : cut? mark t = some (before, after)) :
    t = before ++ mark ++ after := by
  induction t generalizing before with
  | nil =>
      simp only [cut?, breakAt, Option.map_eq_some_iff, Prod.mk.injEq] at h
      obtain ⟨a, ha, rfl, rfl⟩ := h
      simpa using dropPrefix?_eq_some_iff.mp ha
  | cons c rest ih =>
      rw [cut?_cons] at h
      cases hd : dropPrefix? mark (c :: rest) with
      | some found =>
          simp only [hd, Option.some.injEq, Prod.mk.injEq] at h
          obtain ⟨rfl, rfl⟩ := h
          simpa using dropPrefix?_eq_some_iff.mp hd
      | none =>
          simp only [hd, Option.map_eq_some_iff, Prod.mk.injEq] at h
          obtain ⟨found, hfound, rfl, rfl⟩ := h
          simp [ih hfound]

/-- A text is cut wherever the mark occurs in it. -/
theorem cut?_append_ne_none (mark before after : Text) :
    cut? mark (before ++ (mark ++ after)) ≠ none := by
  induction before with
  | nil =>
      cases ht : mark ++ after with
      | nil =>
          have hmark : mark = [] := (List.append_eq_nil_iff.mp ht).1
          simp [cut?, breakAt, hmark, dropPrefix?]
      | cons c rest =>
          rw [List.nil_append, cut?_cons, ← ht, dropPrefix?_append]
          simp
  | cons c before ih =>
      rw [List.cons_append, cut?_cons]
      cases dropPrefix? mark (c :: (before ++ (mark ++ after))) with
      | some found => simp
      | none => simpa using ih

/-- The beginning of at most `count` characters. -/
def truncate (count : Nat) (t : Text) : Text := t.take count

/-! ## Numbers -/

/-- A natural number in decimal digits. -/
def ofNat (n : Nat) : Text := Nat.toDigits 10 n

/-- An integer in decimal digits, with a minus sign if it is negative. -/
def ofInt : Int → Text
  | .ofNat n => ofNat n
  | .negSucc n => '-' :: ofNat (n + 1)

theorem isDigit_of_mem_ofNat {c : Char} {n : Nat} (hc : c ∈ ofNat n) : c.isDigit = true :=
  Nat.isDigit_of_mem_toDigits (by decide) (by decide) hc

theorem isDigit_or_minus_of_mem_ofInt {c : Char} {number : Int} (hc : c ∈ ofInt number) :
    c.isDigit = true ∨ c = '-' := by
  cases number with
  | ofNat n => exact .inl (isDigit_of_mem_ofNat hc)
  | negSucc n =>
      rcases List.mem_cons.mp hc with hminus | hc
      · exact .inr hminus
      · exact .inl (isDigit_of_mem_ofNat hc)

end Text

end PaperHtml
