import PaperHtml.Proofs.Math.Guarding

/-!
# What guarding leaves

No formula of any kind is left in a guarded text, so there is nothing in it that
guarding it once more could take (`guard_idempotent`).  That holds of every text,
whatever looks like a token in it and however the delimiters are mixed.

## Strategy

A pass joins nothing: between the two characters of a delimiter there is no room
for a token.  What stands enclosed in delimiters behind a pass was therefore
enclosed in them before it, and the pass went by without recognising it
(`exists_enclosed_of_stash`).

For brackets that is all there is to it: the pass for brackets would have
recognised it, and later passes cannot bring it about.  Two dollars of one line
may have had something between them that the pass has taken out.  But what a pass
takes out from there begins with a dollar itself, and the first of the two would
have been recognised with that one.  Two double dollars are left over by their own
pass only as two single ones.
-/

namespace PaperHtml.Math

open Text

variable {scan : Scanner Text} {next : Nat} {t : Text}

/-! ## What a pass goes by -/

/-- A character that a pass leaves at the front and that is in no token was there before. -/
theorem exists_of_stash_eq_cons (hscan : Bracketed scan) {c : Char} {after : Text}
    (hc : isTokenChar c = false) (h : stash next (Scanner.pieces scan t) = c :: after) :
    ∃ back, t = c :: back ∧ scan t = none ∧ after = stash next (Scanner.pieces scan back) := by
  cases t with
  | nil => simp [stash] at h
  | cons d rest =>
      cases hfound : scan (d :: rest) with
      | none =>
          rw [Scanner.pieces_of_none hfound, stash] at h
          obtain ⟨rfl, rfl⟩ := List.cons.inj h
          exact ⟨rest, rfl, rfl, rfl⟩
      | some found =>
          obtain ⟨formula, behind⟩ := found
          obtain ⟨b, inner, e, -, -, rfl, ht⟩ := hscan _ _ _ hfound
          rw [ht] at hfound h
          rw [Scanner.pieces_of_some hfound, stash, token_eq] at h
          have hat : isTokenChar '@' = true := by decide
          rw [← (List.cons.inj h).1, hat] at hc
          exact absurd hc (by decide)

/-- A character behind a pass that is in no token was passed over, and the pass has gone on right
behind it. -/
theorem exists_of_stash_eq (hscan : Bracketed scan) {before after : Text} {c : Char}
    (hc : isTokenChar c = false) (h : stash next (Scanner.pieces scan t) = before ++ c :: after) :
    ∃ front back following, t = front ++ c :: back ∧ scan (c :: back) = none ∧
      after = stash following (Scanner.pieces scan back) := by
  induction hlength : t.length using Nat.strong_induction_on generalizing t next before with
  | h length ih =>
      cases t with
      | nil => simp [stash] at h
      | cons d rest =>
          cases hfound : scan (d :: rest) with
          | none =>
              cases before with
              | nil =>
                  obtain ⟨back, ht, hnone, hafter⟩ := exists_of_stash_eq_cons hscan hc h
                  exact ⟨[], back, next, ht, ht ▸ hnone, hafter⟩
              | cons b before =>
                  rw [Scanner.pieces_of_none hfound, stash] at h
                  obtain ⟨front, back, following, rfl, hnone, hafter⟩ :=
                    ih rest.length (by simp [← hlength]) (List.cons.inj h).2 rfl
                  exact ⟨d :: front, back, following, rfl, hnone, hafter⟩
          | some found =>
              obtain ⟨formula, behind⟩ := found
              obtain ⟨b, inner, e, -, -, rfl, ht⟩ := hscan _ _ _ hfound
              rw [ht] at hfound h hlength ⊢
              rw [Scanner.pieces_of_some hfound, stash] at h
              -- the character does not stand in the token, so it stands behind it
              rcases List.append_eq_append_iff.mp h with ⟨inside, rfl, hrest⟩ | ⟨inside, htoken, hrest⟩
              · obtain ⟨front, back, following, rfl, hnone, hafter⟩ :=
                  ih behind.length (by simp [← hlength]; omega) hrest rfl
                refine ⟨b :: (inner ++ [e]) ++ front, back, following, ?_, hnone, hafter⟩
                rw [List.append_assoc]
              · cases inside with
                | nil =>
                    obtain ⟨back, rfl, hnone, hafter⟩ :=
                      exists_of_stash_eq_cons hscan hc (by simpa using hrest.symm)
                    exact ⟨b :: (inner ++ [e]), back, _, rfl, hnone, hafter⟩
                | cons d inside =>
                    obtain ⟨rfl, -⟩ := List.cons.inj hrest
                    have hmem : c ∈ token next := by
                      rw [htoken]
                      simp
                    rw [isTokenChar_of_mem_token hmem] at hc
                    exact absurd hc (by decide)

/-- What stands enclosed in delimiters of two characters behind a pass was enclosed in them
before, and the pass has gone by it. -/
theorem exists_enclosed_of_stash (hscan : Bracketed scan) {a b c d : Char}
    (ha : isTokenChar a = false) (hb : isTokenChar b = false) (hc : isTokenChar c = false)
    (hd : isTokenChar d = false) {inner : Text}
    (h : [a, b] ++ inner ++ [c, d] <:+: stash next (Scanner.pieces scan t)) :
    ∃ front held back, t = front ++ ([a, b] ++ (held ++ ([c, d] ++ back))) ∧
      scan ([a, b] ++ (held ++ ([c, d] ++ back))) = none := by
  obtain ⟨before, after, h⟩ := h
  have hopening : stash next (Scanner.pieces scan t) =
      before ++ a :: (b :: (inner ++ c :: d :: after)) := by simp [← h]
  obtain ⟨front, back, following, rfl, hnone, hrest⟩ := exists_of_stash_eq hscan ha hopening
  obtain ⟨back, rfl, -, hrest⟩ := exists_of_stash_eq_cons hscan hb hrest.symm
  obtain ⟨held, back, following, rfl, -, hrest⟩ := exists_of_stash_eq hscan hc hrest.symm
  obtain ⟨back, rfl, -, -⟩ := exists_of_stash_eq_cons hscan hd hrest.symm
  exact ⟨front, held, back, rfl, hnone⟩

/-! ## Brackets -/

theorem delimited_ne_none (opening held closing back : Text) :
    delimited opening closing (opening ++ (held ++ (closing ++ back))) ≠ none := by
  intro hnone
  rw [delimited, dropPrefix?_append, Option.bind_some, Option.map_eq_none_iff] at hnone
  exact cut?_append_ne_none _ _ _ hnone

/-- The pass for brackets leaves none behind. -/
theorem not_brackets_of_own_pass (next : Nat) (t inner : Text) :
    ¬ ['\\', '['] ++ inner ++ ['\\', ']'] <:+:
      stash next (Scanner.pieces (delimited ['\\', '['] ['\\', ']']) t) := by
  intro h
  have hscan : Bracketed (delimited ['\\', '['] ['\\', ']']) :=
    bracketed_of_mem_delimiters (by simp [delimiters])
  obtain ⟨front, held, back, -, hnone⟩ :=
    exists_enclosed_of_stash hscan (by decide) (by decide) (by decide) (by decide) h
  exact delimited_ne_none _ _ _ _ hnone

/-- No pass brings brackets about. -/
theorem not_brackets_of_pass (hscan : Bracketed scan)
    (h : ∀ inner, ¬ ['\\', '['] ++ inner ++ ['\\', ']'] <:+: t) (inner : Text) :
    ¬ ['\\', '['] ++ inner ++ ['\\', ']'] <:+: stash next (Scanner.pieces scan t) := by
  intro hinner
  obtain ⟨front, held, back, rfl, -⟩ :=
    exists_enclosed_of_stash hscan (by decide) (by decide) (by decide) (by decide) hinner
  exact h held ⟨front, back, by simp⟩

/-! ## Dollars -/

/-- A dollar begins no formula only if no other one follows on its line. -/
theorem exists_of_inlineDollars_eq_none {back : Text} (h : inlineDollars ('$' :: back) = none) :
    ∃ run rest, back = run ++ rest ∧ '$' ∉ run ∧ (rest = [] ∨ ∃ more, rest = '\n' :: more) := by
  let inside : Char → Bool := fun c => decide (c ≠ '$' ∧ c ≠ '\n')
  have hdollar : '$' ∉ back.takeWhile inside := fun hmem => by
    simpa [inside] using List.mem_takeWhile_imp hmem
  have hfeed : '\n' ∉ back.takeWhile inside := fun hmem => by
    simpa [inside] using List.mem_takeWhile_imp hmem
  have hsplit : back = back.takeWhile inside ++ back.dropWhile inside :=
    List.takeWhile_append_dropWhile.symm
  refine ⟨_, _, hsplit, hdollar, ?_⟩
  cases hrest : back.dropWhile inside with
  | nil => exact .inl rfl
  | cons c more =>
      have hstop : inside c = false := by
        have hhead := List.head?_dropWhile_not inside back
        simpa [hrest] using hhead
      by_cases hc : c = '$'
      · rw [hrest, hc] at hsplit
        rw [hsplit, inlineDollars_append hdollar hfeed] at h
        exact absurd h (Option.some_ne_none _)
      · have hend : c = '\n' := by simpa [inside, hc] using hstop
        exact .inr ⟨more, by rw [hend]⟩

/-- The pass for single dollars leaves no two of them on a line. -/
theorem not_inline_of_own_pass (next : Nat) (t : Text) {inner : Text} (hdollar : '$' ∉ inner)
    (hfeed : '\n' ∉ inner) :
    ¬ '$' :: inner ++ ['$'] <:+: stash next (Scanner.pieces inlineDollars t) := by
  rintro ⟨before, after, h⟩
  have hfirst : stash next (Scanner.pieces inlineDollars t) =
      before ++ '$' :: (inner ++ '$' :: after) := by simp [← h]
  have hscan : Bracketed inlineDollars := bracketed_of_mem_delimiters (by simp [delimiters])
  obtain ⟨front, back, following, rfl, hnone, hrest⟩ := exists_of_stash_eq hscan (by decide) hfirst
  obtain ⟨run, rest, rfl, hrun, hend⟩ := exists_of_inlineDollars_eq_none hnone
  -- up to the end of the line the pass has nothing to take
  rw [Scanner.pieces_append_of_none fun c hc =>
    inlineDollars_eq_none (ne_of_mem_of_not_mem hc hrun), stash_map_plain_append] at hrest
  have hafter : inner ++ '$' :: after = run ∨
      ∃ more, inner ++ '$' :: after = run ++ '\n' :: more := by
    rcases hend with rfl | ⟨more, rfl⟩
    · exact .inl (by simpa [stash] using hrest)
    · rw [Scanner.pieces_of_none (inlineDollars_eq_none (by decide) more), stash] at hrest
      exact .inr ⟨_, hrest⟩
  rcases hafter with hline | ⟨more, hline⟩
  · exact hrun (hline ▸ List.mem_append_right _ (List.mem_cons_self ..))
  · -- the dollar would stand in front of the end of the line, or the line would end in front of it
    rcases List.append_eq_append_iff.mp hline with ⟨gap, rfl, hgap⟩ | ⟨gap, rfl, hgap⟩
    · rcases List.cons_eq_append_iff.mp hgap with ⟨-, heq⟩ | ⟨gap, rfl, -⟩
      · exact absurd (List.cons.inj heq).1 (by decide)
      · exact hrun (by simp)
    · rcases List.cons_eq_append_iff.mp hgap with ⟨-, heq⟩ | ⟨gap, rfl, -⟩
      · exact absurd (List.cons.inj heq).1 (by decide)
      · exact hfeed (by simp)

/-- Nothing in a guarded text is a formula any more. -/
theorem formulaFree_guard (t : Text) : FormulaFree (guard t).text := by
  have hinline : ∀ inner, '$' ∉ inner → '\n' ∉ inner →
      ¬ '$' :: inner ++ ['$'] <:+: (guard t).text := fun inner => not_inline_of_own_pass _ _
  refine ⟨fun inner hdisplay => ?_, fun inner => ?_, hinline⟩
  · -- a double dollar is two single ones with nothing between them
    have hdouble : ['$', '$'] <:+: ['$', '$'] ++ inner ++ ['$', '$'] :=
      ⟨[], inner ++ ['$', '$'], by simp⟩
    exact hinline [] List.not_mem_nil List.not_mem_nil (hdouble.trans hdisplay)
  · exact not_brackets_of_pass (bracketed_of_mem_delimiters (by simp [delimiters]))
      (not_brackets_of_own_pass _ _) inner

/-- Guarding once is enough: guarding a guarded text takes nothing and changes nothing, since no
formula of any kind stands in it. -/
theorem guard_idempotent (t : Text) :
    guard (guard t).text = ⟨(guard t).text, []⟩ ∧ FormulaFree (guard t).text :=
  ⟨(formulaFree_guard t).guard_eq_self, formulaFree_guard t⟩

end PaperHtml.Math
