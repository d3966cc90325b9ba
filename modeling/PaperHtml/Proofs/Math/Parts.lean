import Mathlib
import PaperHtml.Math.Guard

/-!
# Texts with formulas taken out of them

A guarded text and its formulas are pieces of one text: the formulas that were
taken out are nested in each other, and every one of them is shown elsewhere by
its token.  This file describes that text as a forest of `TextPart`s, which is what
all statements about guarding speak of.

## Strategy

`sources` is the text with every formula written out, `shownAll` the text in
which the outermost formulas are tokens.  The two facts that later files rest on
are about where a shown text can be cut:

* at a character that is in no token (`exists_split_of_shownAll_eq`), so the
  delimiters of a formula never cut a token in two;
* at a token (`exists_formula_of_shownAll_eq`), provided that the whole text
  holds neither an at sign nor the word of the tokens, so that no token is made
  up of pieces that happen to stand side by side.
-/

namespace PaperHtml.Math

open Text

/-! ## Tokens -/

/-- The word in every token. -/
def tokenWord : Text := "MATH".toList

/-- A character that can stand in a token. -/
def isTokenChar (c : Char) : Bool := c == '@' || tokenWord.contains c || c.isDigit

theorem ofNat_injective : Function.Injective ofNat := by
  intro n m h
  have hread := congrArg (Nat.ofDigitChars 10 · 0) h
  simpa [ofNat] using hread

theorem tokenWord_eq : tokenWord = ['M', 'A', 'T', 'H'] := by decide

theorem token_eq (index : Nat) :
    token index = '@' :: '@' :: (tokenWord ++ (ofNat index ++ ['@', '@'])) := by
  have hfront : "@@MATH".toList = '@' :: '@' :: tokenWord := by decide
  delta token
  rw [hfront]
  simp only [List.cons_append, List.append_assoc]

theorem isTokenChar_of_mem_token {c : Char} {index : Nat} (hc : c ∈ token index) :
    isTokenChar c = true := by
  by_cases hdigit : c ∈ ofNat index
  · simp [isTokenChar, isDigit_of_mem_ofNat hdigit]
  · rw [token_eq, tokenWord_eq] at hc
    simp only [List.cons_append, List.nil_append, List.mem_cons, List.mem_append, hdigit,
      List.not_mem_nil, or_false, false_or] at hc
    rcases hc with rfl | rfl | rfl | rfl | rfl | rfl | rfl | rfl <;> decide

theorem at_mem_token (index : Nat) : '@' ∈ token index := by
  rw [token_eq]
  exact List.mem_cons_self ..

theorem token_ne_nil (index : Nat) : token index ≠ [] := List.ne_nil_of_mem (at_mem_token index)

/-- A number in front of an at sign is told by its digits. -/
theorem ofNat_append_inj {i j : Nat} {after after' : Text}
    (h : ofNat i ++ '@' :: after = ofNat j ++ '@' :: after') : i = j ∧ after = after' := by
  have hspan (n : Nat) (rest : Text) :
      (ofNat n ++ '@' :: rest).span Char.isDigit = (ofNat n, '@' :: rest) := by
    have hat : Char.isDigit '@' = false := by decide
    rw [List.span_eq_takeWhile_dropWhile,
      List.takeWhile_append_of_pos fun c hc => isDigit_of_mem_ofNat hc,
      List.dropWhile_append_of_pos fun c hc => isDigit_of_mem_ofNat hc]
    simp [hat]
  have hpair := congrArg (List.span Char.isDigit) h
  simp only [hspan, Prod.mk.injEq, List.cons.injEq, true_and] at hpair
  exact ⟨ofNat_injective hpair.1, hpair.2⟩

/-- A token holds the first letter of its word in one place. -/
theorem eq_of_token_eq {index : Nat} {before after : Text}
    (h : token index = before ++ 'M' :: after) :
    before = ['@', '@'] ∧ after = 'A' :: 'T' :: 'H' :: (ofNat index ++ ['@', '@']) := by
  have hfirst : 'M' ∉ ['@', '@'] := by decide
  have hlater : 'M' ∉ 'A' :: 'T' :: 'H' :: (ofNat index ++ ['@', '@']) := by
    intro hmem
    have hdigit : 'M' ∈ ofNat index := by simpa using hmem
    exact absurd (isDigit_of_mem_ofNat hdigit) (by decide)
  have htoken : ['@', '@'] ++ 'M' :: 'A' :: 'T' :: 'H' :: (ofNat index ++ ['@', '@']) =
      before ++ 'M' :: after := by
    rw [← h, token_eq, tokenWord_eq]
    rfl
  obtain ⟨hbefore, -, hafter⟩ := (List.append_cons_inj_of_notMem hfirst hlater).mp htoken
  exact ⟨hbefore.symm, hafter.symm⟩

/-! ## Parts -/

/-- A part of a text with formulas taken out of it: a character, or a formula with its number
and its own parts. -/
inductive TextPart where
  | char (c : Char)
  | formula (number : Nat) (parts : List TextPart)

namespace TextPart

mutual

/-- The text of a part, with every formula written out. -/
def source : TextPart → Text
  | .char c => [c]
  | .formula _ parts => sources parts

/-- The text of several parts, with every formula written out. -/
def sources : List TextPart → Text
  | [] => []
  | part :: rest => source part ++ sources rest

end

/-- A part as it is shown, a formula by its token. -/
def shown : TextPart → Text
  | .char c => [c]
  | .formula number _ => token number

/-- Parts as they are shown. -/
def shownAll (parts : List TextPart) : Text := parts.flatMap shown

mutual

/-- The formulas at or in a part, by number and parts. -/
def formulas : TextPart → List (Nat × List TextPart)
  | .char _ => []
  | .formula number parts => (number, parts) :: formulasAmong parts

/-- The formulas at or in several parts. -/
def formulasAmong : List TextPart → List (Nat × List TextPart)
  | [] => []
  | part :: rest => formulas part ++ formulasAmong rest

end

/-- The numbers of the formulas at or in several parts. -/
def numbers (parts : List TextPart) : List Nat := (formulasAmong parts).map Prod.fst

@[simp] theorem sources_append (first second : List TextPart) :
    sources (first ++ second) = sources first ++ sources second := by
  induction first with
  | nil => simp [sources]
  | cons part rest ih => simp [sources, ih]

@[simp] theorem shownAll_append (first second : List TextPart) :
    shownAll (first ++ second) = shownAll first ++ shownAll second := by
  simp [shownAll]

@[simp] theorem formulasAmong_append (first second : List TextPart) :
    formulasAmong (first ++ second) = formulasAmong first ++ formulasAmong second := by
  induction first with
  | nil => simp [formulasAmong]
  | cons part rest ih => simp [formulasAmong, ih]

@[simp] theorem numbers_append (first second : List TextPart) :
    numbers (first ++ second) = numbers first ++ numbers second := by
  simp [numbers]

@[simp] theorem shownAll_nil : shownAll [] = [] := rfl

@[simp] theorem shownAll_cons (part : TextPart) (rest : List TextPart) :
    shownAll (part :: rest) = shown part ++ shownAll rest := rfl

@[simp] theorem numbers_formula_cons (number : Nat) (parts rest : List TextPart) :
    numbers (.formula number parts :: rest) = number :: numbers parts ++ numbers rest := by
  simp [numbers, formulasAmong, formulas]

/-- The characters of a text as parts. -/
theorem sources_map_char (t : Text) : sources (t.map .char) = t := by
  induction t with
  | nil => rfl
  | cons c rest ih => simp [sources, source, ih]

theorem shownAll_map_char (t : Text) : shownAll (t.map .char) = t := by
  induction t with
  | nil => rfl
  | cons c rest ih => simp [shown, ih]

theorem formulasAmong_map_char (t : Text) : formulasAmong (t.map .char) = [] := by
  induction t with
  | nil => rfl
  | cons c rest ih => simp [formulasAmong, formulas, ih]

/-- Parts without a formula are the characters of their text. -/
theorem eq_map_char_of_no_formula {parts : List TextPart}
    (h : ∀ number inner, .formula number inner ∉ parts) : parts = (sources parts).map .char := by
  induction parts with
  | nil => rfl
  | cons part rest ih =>
      have hrest := ih fun number inner hmem => h number inner (List.mem_cons_of_mem _ hmem)
      cases part with
      | char c => simp [sources, source, ← hrest]
      | formula number inner => exact absurd (List.mem_cons_self ..) (h number inner)

theorem mem_formulasAmong_of_mem {parts : List TextPart} {number : Nat} {inner : List TextPart}
    (h : .formula number inner ∈ parts) : (number, inner) ∈ formulasAmong parts := by
  obtain ⟨before, after, rfl⟩ := List.append_of_mem h
  simp [formulasAmong, formulas]

/-- A formula that is not outermost is in one that is. -/
theorem mem_formulasAmong_iff {parts : List TextPart} {entry : Nat × List TextPart} :
    entry ∈ formulasAmong parts ↔
      ∃ number inner, .formula number inner ∈ parts ∧
        (entry = (number, inner) ∨ entry ∈ formulasAmong inner) := by
  induction parts with
  | nil => simp [formulasAmong]
  | cons part rest ih =>
      cases part with
      | char c => simp [formulasAmong, formulas, ih]
      | formula number inner =>
          simp only [formulasAmong, formulas, List.cons_append, List.mem_cons, List.mem_append, ih]
          constructor
          · rintro (rfl | hinner | ⟨n, ps, hmem, h⟩)
            · exact ⟨number, inner, .inl rfl, .inl rfl⟩
            · exact ⟨number, inner, .inl rfl, .inr hinner⟩
            · exact ⟨n, ps, .inr hmem, h⟩
          · rintro ⟨n, ps, hmem | hmem, h⟩
            · obtain ⟨rfl, rfl⟩ : n = number ∧ ps = inner := by simpa using hmem
              rcases h with rfl | h
              · exact .inl rfl
              · exact .inr (.inl h)
            · exact .inr (.inr ⟨n, ps, hmem, h⟩)

theorem mem_numbers_of_mem {parts : List TextPart} {number : Nat} {inner : List TextPart}
    (h : .formula number inner ∈ parts) : number ∈ numbers parts :=
  List.mem_map.mpr ⟨_, mem_formulasAmong_of_mem h, rfl⟩

mutual

/-- The text of a formula stands in the text that it was taken from. -/
theorem source_infix_of_mem {part : TextPart} {entry : Nat × List TextPart}
    (h : entry ∈ formulas part) : sources entry.2 <:+: source part := by
  cases part with
  | char c => simp [formulas] at h
  | formula number parts =>
      rw [formulas, List.mem_cons] at h
      rcases h with rfl | h
      · exact List.infix_refl _
      · exact sources_infix_of_mem h

theorem sources_infix_of_mem {parts : List TextPart} {entry : Nat × List TextPart}
    (h : entry ∈ formulasAmong parts) : sources entry.2 <:+: sources parts := by
  cases parts with
  | nil => simp [formulasAmong] at h
  | cons part rest =>
      rw [formulasAmong, List.mem_append] at h
      rcases h with h | h
      · exact (source_infix_of_mem h).trans (List.prefix_append _ _).isInfix
      · exact (sources_infix_of_mem h).trans (List.suffix_append _ _).isInfix

end

/-- A shown text holds an at sign where it shows a formula. -/
theorem at_mem_shownAll {parts : List TextPart} {number : Nat} {inner : List TextPart}
    (h : .formula number inner ∈ parts) : '@' ∈ shownAll parts :=
  List.mem_flatMap.mpr ⟨_, h, at_mem_token number⟩

/-! ## Where a shown text can be cut -/

/-- A character that stands in no token stands for itself in a shown text. -/
theorem exists_split_of_shownAll_eq {parts : List TextPart} {before after : Text} {c : Char}
    (hc : isTokenChar c = false) (h : shownAll parts = before ++ c :: after) :
    ∃ first second, parts = first ++ .char c :: second ∧ shownAll first = before ∧
      shownAll second = after := by
  induction parts generalizing before with
  | nil => simp at h
  | cons part rest ih =>
      rw [shownAll_cons] at h
      rcases List.append_eq_append_iff.mp h with ⟨inside, hbefore, hrest⟩ | ⟨inside, hpart, hafter⟩
      · obtain ⟨first, second, rfl, hfirst, hsecond⟩ := ih hrest
        exact ⟨part :: first, second, rfl, by simp [hfirst, hbefore], hsecond⟩
      · cases inside with
        | nil =>
            obtain ⟨first, second, rfl, hfirst, hsecond⟩ :=
              @ih [] (by simpa using hafter.symm)
            exact ⟨part :: first, second, rfl, by simpa [hfirst] using hpart, hsecond⟩
        | cons d inside =>
            obtain ⟨rfl, hrest⟩ : c = d ∧ after = inside ++ shownAll rest := by simpa using hafter
            cases part with
            | char e =>
                cases before with
                | nil =>
                    obtain ⟨rfl, rfl⟩ : e = c ∧ inside = [] := by simpa [shown] using hpart
                    exact ⟨[], rest, rfl, rfl, by simpa using hrest.symm⟩
                | cons b before => simp [shown] at hpart
            | formula number inner =>
                have hmem : c ∈ token number := by
                  have : c ∈ before ++ c :: inside := by simp
                  rwa [← hpart] at this
                rw [isTokenChar_of_mem_token hmem] at hc
                exact absurd hc (by simp)

/-- A text in which nothing looks like a piece of a token. -/
structure Unmarked (t : Text) : Prop where
  at_not_mem : '@' ∉ t
  word_absent : ¬ tokenWord <:+: t

instance (t : Text) : Decidable (Unmarked t) :=
  decidable_of_iff ('@' ∉ t ∧ ¬ tokenWord <:+: t)
    ⟨fun h => ⟨h.1, h.2⟩, fun h => ⟨h.at_not_mem, h.word_absent⟩⟩

theorem Unmarked.within {part whole : Text} (hwhole : Unmarked whole) (h : part <:+: whole) :
    Unmarked part :=
  ⟨fun hmem => hwhole.at_not_mem (h.subset hmem),
    fun hword => hwhole.word_absent (hword.trans h)⟩

/-- A shown text begins with characters where it begins with a text without at signs. -/
theorem exists_chars_of_shownAll_eq {parts : List TextPart} {front after : Text}
    (hfront : '@' ∉ front) (h : shownAll parts = front ++ after) :
    ∃ rest, parts = front.map .char ++ rest := by
  induction front generalizing parts with
  | nil => exact ⟨parts, rfl⟩
  | cons c front ih =>
      cases parts with
      | nil => simp at h
      | cons part parts =>
          cases part with
          | char d =>
              obtain ⟨rfl, htail⟩ : d = c ∧ shownAll parts = front ++ after := by
                simpa [shown] using h
              obtain ⟨rest, rfl⟩ := ih (by simp_all) htail
              exact ⟨rest, rfl⟩
          | formula number inner =>
              have hc : '@' = c := by
                rw [shownAll_cons, shown, token_eq] at h
                exact (List.cons.inj h).1
              exact absurd (hc ▸ List.mem_cons_self ..) hfront

theorem shownAll_ne_word {parts : List TextPart} (hclean : Unmarked (sources parts)) (after : Text) :
    shownAll parts ≠ tokenWord ++ after := by
  intro h
  obtain ⟨rest, rfl⟩ := exists_chars_of_shownAll_eq (by decide) h
  rw [sources_append, sources_map_char] at hclean
  exact hclean.word_absent (List.prefix_append _ _).isInfix

/-- The word of the tokens stands in a shown text only where a formula is shown. -/
theorem exists_formula_of_word {parts : List TextPart} {before after : Text}
    (hclean : Unmarked (sources parts)) (h : shownAll parts = before ++ (tokenWord ++ after)) :
    ∃ first number inner second, parts = first ++ .formula number inner :: second ∧
      before = shownAll first ++ ['@', '@'] ∧
      after = ofNat number ++ '@' :: '@' :: shownAll second := by
  induction parts generalizing before with
  | nil => simp [tokenWord_eq] at h
  | cons part rest ih =>
      have hrest : Unmarked (sources rest) :=
        hclean.within (List.suffix_append _ _).isInfix
      rw [shownAll_cons] at h
      rcases List.append_eq_append_iff.mp h with ⟨inside, hbefore, hlater⟩ | ⟨inside, hpart, hlater⟩
      · obtain ⟨first, number, inner, second, rfl, hfirst, hsecond⟩ := ih hrest hlater
        exact ⟨part :: first, number, inner, second, rfl, by simp [hbefore, hfirst], hsecond⟩
      · -- the word begins inside this part, or right behind it
        cases inside with
        | nil => exact absurd (by simpa using hlater.symm) (shownAll_ne_word hrest after)
        | cons c inside =>
            cases part with
            | char d =>
                have hbefore : before = [] := by
                  cases before with
                  | nil => rfl
                  | cons b before => simp [shown] at hpart
                rw [hbefore] at h
                exact absurd h (shownAll_ne_word hclean after)
            | formula number inner =>
                rw [tokenWord_eq] at hlater
                obtain ⟨rfl, hinside⟩ := List.cons.inj hlater
                obtain ⟨rfl, rfl⟩ := eq_of_token_eq hpart
                exact ⟨[], number, inner, rest, rfl, rfl, by simpa using hinside⟩

/-- A token stands in a shown text only where its formula is shown. -/
theorem exists_formula_of_shownAll_eq {parts : List TextPart} {before after : Text} {number : Nat}
    (hclean : Unmarked (sources parts)) (h : shownAll parts = before ++ (token number ++ after)) :
    ∃ first inner second, parts = first ++ .formula number inner :: second ∧
      shownAll first = before ∧ shownAll second = after := by
  have hword : shownAll parts =
      (before ++ ['@', '@']) ++ (tokenWord ++ (ofNat number ++ '@' :: '@' :: after)) := by
    rw [h, token_eq]
    simp
  obtain ⟨first, other, inner, second, hparts, hfirst, hsecond⟩ :=
    exists_formula_of_word hclean hword
  obtain ⟨rfl, hafter⟩ := ofNat_append_inj hsecond
  exact ⟨first, inner, second, hparts, (List.append_cancel_right hfirst).symm,
    by simpa using hafter.symm⟩

end TextPart

end PaperHtml.Math
