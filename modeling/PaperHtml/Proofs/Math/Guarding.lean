import PaperHtml.Proofs.Math.Parts
import PaperHtml.Proofs.Math.Unguarded

/-!
# What guarding makes of a text

`guard` rewrites a text three times and collects formulas on the way.  This file
shows that its result always stands for a forest of parts whose text is the text
that was guarded (`exists_stands_guard`).

## Strategy

A pass over a shown text sees characters and tokens.  Its matches begin and end
at delimiters, which are in no token (`Bracketed`), so each match covers whole
parts, and the pass makes formulas of stretches of the outermost parts.  That is
the relation `Taken`.  `Stands` is what all passes keep: the text and the spans
show the forest, every number is given once, and a formula holds only formulas
that were taken before it.
-/

namespace PaperHtml.Math

open Text TextPart

/-! ## The delimiters -/

/-- A scanner whose matches begin and end at characters that are in no token. -/
def Bracketed (scan : Scanner Text) : Prop :=
  ∀ t formula after, scan t = some (formula, after) →
    ∃ c inner d, isTokenChar c = false ∧ isTokenChar d = false ∧
      formula = c :: (inner ++ [d]) ∧ t = formula ++ after

private theorem bracketed_delimited {c d : Char} (hc : isTokenChar c = false)
    (hd : isTokenChar d = false) (opening closing : Text) :
    Bracketed (delimited (c :: opening) (closing ++ [d])) := by
  intro t formula after h
  obtain ⟨inner, hformula, ht⟩ := exists_of_delimited h
  exact ⟨c, opening ++ inner ++ closing, d, hc, hd, by simp [hformula], ht⟩

private theorem bracketed_inlineDollars : Bracketed inlineDollars := by
  intro t formula after h
  obtain ⟨inner, -, -, hformula, ht⟩ := exists_of_inlineDollars h
  exact ⟨'$', inner, '$', by decide, by decide, hformula, ht⟩

theorem bracketed_of_mem_delimiters {scan : Scanner Text} (hscan : scan ∈ delimiters) :
    Bracketed scan := by
  simp only [delimiters, List.mem_cons, List.not_mem_nil, or_false] at hscan
  rcases hscan with rfl | rfl | rfl
  · exact bracketed_delimited (by decide) (by decide) ['$'] ['$']
  · exact bracketed_delimited (by decide) (by decide) ['['] ['\\']
  · exact bracketed_inlineDollars

/-- Nothing is recognised at a character of a token. -/
theorem Bracketed.eq_none {scan : Scanner Text} (hscan : Bracketed scan) {c : Char}
    (hc : isTokenChar c = true) (t : Text) : scan (c :: t) = none := by
  cases h : scan (c :: t) with
  | none => rfl
  | some found =>
      obtain ⟨formula, after⟩ := found
      obtain ⟨d, inner, e, hd, -, rfl, ht⟩ := hscan _ _ _ h
      rw [(List.cons.inj ht).1, hd] at hc
      exact absurd hc (by simp)

/-! ## One pass -/

/-- Formulas taken out of parts: stretches of the outermost parts, from left to right, become
formulas numbered from `next` on. -/
inductive Taken : (next : Nat) → (parts taken : List TextPart) → (stretches : List (List TextPart)) → Prop
  | nil {next : Nat} : Taken next [] [] []
  | pass {next : Nat} {parts taken : List TextPart} {stretches : List (List TextPart)} (part : TextPart)
      (others : Taken next parts taken stretches) :
      Taken next (part :: parts) (part :: taken) stretches
  | take {next : Nat} {parts taken : List TextPart} {stretches : List (List TextPart)}
      (stretch : List TextPart) (others : Taken (next + 1) parts taken stretches) :
      Taken next (stretch ++ parts) (.formula next stretch :: taken) (stretch :: stretches)

/-- A pass over a shown text takes formulas out of its parts. -/
theorem exists_taken {scan : Scanner Text} (hscan : Bracketed scan) (next : Nat)
    (parts : List TextPart) :
    ∃ taken stretches, Taken next parts taken stretches ∧
      shownAll taken = stash next (Scanner.pieces scan (shownAll parts)) ∧
      stretches.map shownAll = Scanner.findAll scan (shownAll parts) := by
  induction hlength : parts.length using Nat.strong_induction_on generalizing next parts with
  | h length ih =>
      cases parts with
      | nil => exact ⟨[], [], .nil, rfl, rfl⟩
      | cons part rest =>
          cases part with
          | formula number inner =>
              obtain ⟨taken, stretches, htaken, htext, hspans⟩ :=
                ih rest.length (by simp [← hlength]) next rest rfl
              have hpieces : Scanner.pieces scan (token number ++ shownAll rest) =
                  (token number).map .plain ++ Scanner.pieces scan (shownAll rest) :=
                Scanner.pieces_append_of_none fun c hc =>
                  hscan.eq_none (isTokenChar_of_mem_token hc)
              refine ⟨_, stretches, htaken.pass (.formula number inner), ?_, ?_⟩
              · rw [shownAll_cons, shownAll_cons, shown, hpieces, stash_map_plain_append, htext]
              · rw [shownAll_cons, shown, Scanner.findAll, hpieces, hspans]
                simp [Scanner.findAll, List.filterMap_map]
          | char c =>
              cases hfound : scan (c :: shownAll rest) with
              | none =>
                  obtain ⟨taken, stretches, htaken, htext, hspans⟩ :=
                    ih rest.length (by simp [← hlength]) next rest rfl
                  refine ⟨_, stretches, htaken.pass (.char c), ?_, ?_⟩
                  · rw [shownAll_cons, shownAll_cons, shown, List.singleton_append,
                      List.singleton_append, Scanner.pieces_of_none hfound, stash, htext]
                  · rw [shownAll_cons, shown, List.singleton_append,
                      Scanner.findAll_of_none hfound, hspans]
              | some found =>
                  obtain ⟨formula, after⟩ := found
                  obtain ⟨b, inner, d, -, hd, rfl, ht⟩ := hscan _ _ _ hfound
                  -- the last character of the match is a part of its own, so the match is a
                  -- stretch of parts
                  have hshown : shownAll (.char c :: rest) = (b :: inner) ++ d :: after := by
                    rw [shownAll_cons, shown, List.singleton_append, ht]
                    simp
                  obtain ⟨first, second, hparts, hfirst, hsecond⟩ :=
                    exists_split_of_shownAll_eq hd hshown
                  have hlonger : second.length < length := by
                    rw [← hlength, hparts]
                    simp
                    omega
                  obtain ⟨taken, stretches, htaken, htext, hspans⟩ :=
                    ih second.length hlonger (next + 1) second rfl
                  have hsource : shownAll (.char c :: rest) = b :: (inner ++ [d]) ++ after := by
                    rw [hshown]
                    simp
                  rw [show c :: shownAll rest = b :: (inner ++ [d]) ++ after from ht] at hfound
                  refine ⟨.formula next (first ++ [.char d]) :: taken,
                    (first ++ [.char d]) :: stretches, ?_, ?_, ?_⟩
                  · rw [hparts, ← List.singleton_append, ← List.append_assoc]
                    exact htaken.take (first ++ [.char d])
                  · rw [hsource, Scanner.pieces_of_some hfound, stash, shownAll_cons, htext,
                      hsecond, shown]
                  · rw [hsource, Scanner.findAll_of_some hfound, ← hsecond, ← hspans]
                    simp [hfirst, shown]

/-- Nothing of a text is lost by taking formulas out of it. -/
theorem Taken.sources_eq {next : Nat} {parts taken : List TextPart} {stretches : List (List TextPart)}
    (h : Taken next parts taken stretches) : sources taken = sources parts := by
  induction h with
  | nil => rfl
  | pass part others ih => simp [sources, ih]
  | take stretch others ih => simp [sources, source, ih]

/-- The formulas after a pass are those before it and the stretches it took. -/
theorem Taken.formulas_perm {next : Nat} {parts taken : List TextPart}
    {stretches : List (List TextPart)} (h : Taken next parts taken stretches) :
    (formulasAmong taken).Perm
      (formulasAmong parts ++ (stretches.zipIdx next).map Prod.swap) := by
  induction h with
  | nil => exact .nil
  | pass part others ih =>
      simp only [formulasAmong, List.append_assoc]
      exact ih.append_left _
  | @take next parts taken stretches stretch others ih =>
      simp only [formulasAmong, formulas, formulasAmong_append, List.zipIdx_cons, List.map_cons,
        Prod.swap, List.cons_append, List.append_assoc]
      refine ((ih.append_left (formulasAmong stretch)).cons _).trans ?_
      rw [← List.append_assoc]
      exact List.perm_middle.symm.trans (by simp)

/-- What a taken stretch holds was taken before it. -/
theorem Taken.subset {next : Nat} {parts taken : List TextPart} {stretches : List (List TextPart)}
    (h : Taken next parts taken stretches) {stretch : List TextPart} (hmem : stretch ∈ stretches) :
    formulasAmong stretch ⊆ formulasAmong parts := by
  induction h with
  | nil => simp at hmem
  | pass part others ih =>
      exact fun entry hentry => List.mem_append_right _ (ih hmem hentry)
  | take first others ih =>
      rw [formulasAmong_append]
      rcases List.mem_cons.mp hmem with rfl | hmem
      · exact fun entry hentry => List.mem_append_left _ hentry
      · exact fun entry hentry => List.mem_append_right _ (ih hmem hentry)

/-! ## All passes -/

/-- A guarded text stands for parts: it shows them, its spans show their formulas by number,
every number is given once, and a formula holds only formulas with smaller numbers. -/
structure Stands (guarded : Guarded) (parts : List TextPart) : Prop where
  text_eq : guarded.text = shownAll parts
  span_eq : ∀ number inner, (number, inner) ∈ formulasAmong parts →
    guarded.spans[number]? = some (shownAll inner)
  numbers_perm : (numbers parts).Perm (List.range guarded.spans.length)
  number_lt : ∀ number inner, (number, inner) ∈ formulasAmong parts → ∀ n ∈ numbers inner, n < number

theorem stands_map_char (t : Text) : Stands ⟨t, []⟩ (t.map .char) := by
  refine ⟨(shownAll_map_char t).symm, ?_, ?_, ?_⟩ <;>
    simp [numbers, formulasAmong_map_char]

/-- Each pass keeps what a guarded text stands for. -/
theorem Stands.step {guarded : Guarded} {parts : List TextPart} (h : Stands guarded parts)
    {scan : Scanner Text} (hscan : Bracketed scan) :
    ∃ taken, sources taken = sources parts ∧ Stands (guardKind guarded scan) taken := by
  obtain ⟨taken, stretches, htaken, htext, hspans⟩ :=
    exists_taken hscan guarded.spans.length parts
  have hperm := htaken.formulas_perm
  -- a formula of the new forest is an old one or a stretch with the number of its place
  have hcases : ∀ number inner, (number, inner) ∈ formulasAmong taken →
      (number, inner) ∈ formulasAmong parts ∨
        ∃ i, stretches[i]? = some inner ∧ number = guarded.spans.length + i := by
    intro number inner hmem
    rcases List.mem_append.mp (hperm.mem_iff.mp hmem) with hold | hnew
    · exact .inl hold
    · simp only [List.mem_map, Prod.exists, Prod.swap_prod_mk, Prod.mk.injEq] at hnew
      obtain ⟨stretch, n, hpair, rfl, rfl⟩ := hnew
      obtain ⟨hle, hget⟩ := List.mk_mem_zipIdx_iff_le_and_getElem?_sub.mp hpair
      exact .inr ⟨_, hget, by omega⟩
  have hlt : ∀ n ∈ numbers parts, n < guarded.spans.length := fun n hn =>
    List.mem_range.mp (h.numbers_perm.mem_iff.mp hn)
  refine ⟨taken, htaken.sources_eq, ?_, ?_, ?_, ?_⟩
  · rw [htext, guardKind, h.text_eq]
  · intro number inner hmem
    rw [guardKind, h.text_eq, ← hspans]
    rcases hcases number inner hmem with hold | ⟨i, hget, rfl⟩
    · rw [List.getElem?_append_left (hlt number (List.mem_map.mpr ⟨_, hold, rfl⟩))]
      exact h.span_eq number inner hold
    · rw [List.getElem?_append_right (by omega)]
      simp [hget]
  · have hnumbers := hperm.map Prod.fst
    rw [List.map_append, List.map_map] at hnumbers
    have hnew : (stretches.zipIdx guarded.spans.length).map (Prod.fst ∘ Prod.swap) =
        List.range' guarded.spans.length stretches.length := by
      rw [show (Prod.fst ∘ Prod.swap : List TextPart × Nat → Nat) = Prod.snd from rfl,
        List.zipIdx_map_snd]
    have hlength : (guardKind guarded scan).spans.length =
        guarded.spans.length + stretches.length := by
      rw [guardKind, h.text_eq, ← hspans]
      simp
    rw [hlength, List.range_eq_range', List.range'_append_1.symm, Nat.zero_add]
    rw [hnew] at hnumbers
    refine hnumbers.trans (List.Perm.append_right _ ?_)
    rw [← List.range_eq_range']
    exact h.numbers_perm
  · intro number inner hmem n hn
    rcases hcases number inner hmem with hold | ⟨i, hget, rfl⟩
    · exact h.number_lt number inner hold n hn
    · have hsubset := htaken.subset (List.mem_of_getElem? hget)
      obtain ⟨entry, hentry, rfl⟩ := List.mem_map.mp hn
      have := hlt entry.1 (List.mem_map.mpr ⟨_, hsubset hentry, rfl⟩)
      omega

private theorem exists_stands_foldl (scans : List (Scanner Text))
    (hscans : ∀ scan ∈ scans, Bracketed scan) {guarded : Guarded} {parts : List TextPart}
    (h : Stands guarded parts) :
    ∃ taken, sources taken = sources parts ∧ Stands (scans.foldl guardKind guarded) taken := by
  induction scans generalizing guarded parts with
  | nil => exact ⟨parts, rfl, h⟩
  | cons scan scans ih =>
      obtain ⟨taken, hsources, htaken⟩ := h.step (hscans scan (List.mem_cons_self ..))
      obtain ⟨last, hlast, hstands⟩ :=
        ih (fun other hother => hscans other (List.mem_cons_of_mem _ hother)) htaken
      exact ⟨last, hlast.trans hsources, hstands⟩

/-- What guarding makes of a text stands for parts of that text. -/
theorem exists_stands_guard (t : Text) : ∃ parts, sources parts = t ∧ Stands (guard t) parts := by
  obtain ⟨parts, hsources, hstands⟩ :=
    exists_stands_foldl delimiters (fun _ => bracketed_of_mem_delimiters) (stands_map_char t)
  exact ⟨parts, hsources.trans (sources_map_char t), hstands⟩

private theorem exists_of_mem_spans_foldl (scans : List (Scanner Text)) {guarded : Guarded}
    {span : Text} (h : span ∈ (scans.foldl guardKind guarded).spans) :
    span ∈ guarded.spans ∨
      ∃ scan ∈ scans, ∃ front after, scan front = some (span, after) := by
  induction scans generalizing guarded with
  | nil => exact .inl h
  | cons scan scans ih =>
      rcases ih h with hearlier | ⟨other, hother, hfound⟩
      · rcases List.mem_append.mp hearlier with hold | hnew
        · exact .inl hold
        · obtain ⟨front, after, -, hfound⟩ := Scanner.exists_of_mem_findAll hnew
          exact .inr ⟨scan, List.mem_cons_self .., front, after, hfound⟩
      · exact .inr ⟨other, List.mem_cons_of_mem _ hother, hfound⟩

/-- What guarding takes out of a text has been recognised by one of its kinds of delimiters. -/
theorem exists_of_mem_spans_guard {t span : Text} (h : span ∈ (guard t).spans) :
    ∃ scan ∈ delimiters, ∃ front after, scan front = some (span, after) := by
  rcases exists_of_mem_spans_foldl delimiters h with hnone | hfound
  · simp at hnone
  · exact hfound

end PaperHtml.Math
