import PaperHtml.Proofs.Math.Guarding
import PaperHtml.Proofs.Math.Recognition

/-!
# The guard beside the typesetter

The guard takes formulas out of the text of a paper, and the typesetter sets the
formulas of the page that comes of it.  They read the same delimiters, but the
guard goes through the text once for each kind of them and the typesetter goes
through it once for all kinds.  This file says when the two see the same formulas.

## Strategy

Both are made to give the same thing, a text cut into characters and formulas:
`typesetReading` is what the typesetter's scan gives, `guardReading` is the guarded
text with every token replaced by what was taken out for it.  A formula with
content that the guard takes is one for the typesetter wherever it stands
(`exists_span_of_mem_guard`), so the readings can differ in two ways only: the
guard has taken a formula into another one, or the typesetter recognises
something where the guard has passed over a character
(`typesetReading_eq_guardReading_iff`).  Readings that differ can still have the
same formulas, in other places; a place where both have one has the same one, so
only those are compared that begin where the other reading has none
(`formulasIn_perm_iff`).
-/

namespace PaperHtml.Math

open Text TextPart

/-! ## Readings -/

/-- The formulas without content, which the guard takes and the typesetter does not set. -/
def hollow : List Text := ["$$$$".toList, "\\[\\]".toList, "$$".toList]

/-- The formulas in a reading of a text. -/
def formulasIn (reading : List (Piece Text)) : List Text :=
  reading.filterMap fun
    | .plain _ => none
    | .hit found => some found

/-- The text of a reading. -/
def writtenOut (reading : List (Piece Text)) : Text :=
  reading.flatMap fun
    | .plain c => [c]
    | .hit found => found

/-- The span whose token stands at the front of a text. -/
def recalled (spans : List Text) : Scanner Text := fun t =>
  spans.zipIdx.findSome? fun entry =>
    (dropPrefix? (token entry.2) t).map fun after => (entry.1, after)

/-- A formula with content, and the characters of one without. -/
def withContent (formula : Text) : List (Piece Text) :=
  if formula ∈ hollow then formula.map .plain else [.hit formula]

/-- A text as the guard reads it: the formulas with content that it takes out stand in the places
of their tokens, and those without content are characters. -/
def guardReading (t : Text) : List (Piece Text) :=
  (Scanner.pieces (recalled (guard t).spans) (guard t).text).flatMap fun
    | .plain c => [.plain c]
    | .hit found => withContent found

/-- Recognises a formula as the typesetter does, and gives its source. -/
def spanSource? : Scanner Text := Scanner.map Span.source span?

/-- A text as the typesetter reads it. -/
def typesetReading (t : Text) : List (Piece Text) := Scanner.pieces spanSource? t

/-- At no character of a reading a scanner recognises anything. -/
def PassesOver (scan : Scanner Text) (reading : List (Piece Text)) : Prop :=
  ∀ before c behind, reading = before ++ .plain c :: behind → scan (c :: writtenOut behind) = none

variable {t : Text} {scan : Scanner Text}

@[simp] theorem writtenOut_nil : writtenOut [] = [] := rfl

@[simp] theorem writtenOut_plain_cons (c : Char) (reading : List (Piece Text)) :
    writtenOut (.plain c :: reading) = c :: writtenOut reading := rfl

@[simp] theorem writtenOut_hit_cons (formula : Text) (reading : List (Piece Text)) :
    writtenOut (.hit formula :: reading) = formula ++ writtenOut reading := rfl

@[simp] theorem writtenOut_append (before behind : List (Piece Text)) :
    writtenOut (before ++ behind) = writtenOut before ++ writtenOut behind := List.flatMap_append

theorem writtenOut_map_plain (t : Text) : writtenOut (t.map .plain) = t := by
  induction t with
  | nil => rfl
  | cons c rest ih => simp [ih]

theorem passesOver_plain_cons {c : Char} {reading : List (Piece Text)} :
    PassesOver scan (.plain c :: reading) ↔
      scan (c :: writtenOut reading) = none ∧ PassesOver scan reading := by
  constructor
  · intro h
    refine ⟨h [] c reading rfl, fun before d behind hreading => ?_⟩
    exact h (.plain c :: before) d behind (congrArg (.plain c :: ·) hreading)
  · rintro ⟨hhere, hrest⟩ before d behind hreading
    cases before with
    | nil =>
        obtain ⟨hpiece, rfl⟩ := List.cons.inj hreading
        obtain rfl := Piece.plain.inj hpiece
        exact hhere
    | cons piece before => exact hrest before d behind (List.cons.inj hreading).2

theorem passesOver_hit_cons {formula : Text} {reading : List (Piece Text)} :
    PassesOver scan (.hit formula :: reading) ↔ PassesOver scan reading := by
  constructor
  · intro h before d behind hreading
    exact h (.hit formula :: before) d behind (congrArg (.hit formula :: ·) hreading)
  · rintro hrest before d behind hreading
    cases before with
    | nil => exact absurd (List.cons.inj hreading).1 (by simp)
    | cons piece before => exact hrest before d behind (List.cons.inj hreading).2

/-- A reading whose formulas are recognised wherever they stand is that of a scanner exactly if the
scanner recognises nothing else. -/
theorem pieces_writtenOut_eq_iff {reading : List (Piece Text)}
    (hformulas : ∀ formula, .hit formula ∈ reading →
      formula ≠ [] ∧ ∀ rest, scan (formula ++ rest) = some (formula, rest)) :
    Scanner.pieces scan (writtenOut reading) = reading ↔ PassesOver scan reading := by
  induction reading with
  | nil => simp [PassesOver]
  | cons piece reading ih =>
      have hrest := ih fun formula hmem => hformulas formula (List.mem_cons_of_mem _ hmem)
      cases piece with
      | plain c =>
          rw [passesOver_plain_cons, writtenOut_plain_cons, ← hrest]
          cases hfound : scan (c :: writtenOut reading) with
          | none => simp [Scanner.pieces_of_none hfound]
          | some found => simp [Scanner.pieces, Scanner.piecesFrom, hfound]
      | hit formula =>
          obtain ⟨hne, hfound⟩ := hformulas formula (List.mem_cons_self ..)
          obtain ⟨c, source, rfl⟩ := List.exists_cons_of_ne_nil hne
          rw [passesOver_hit_cons, writtenOut_hit_cons, Scanner.pieces_of_some (hfound _), ← hrest]
          simp

/-! ## The typesetter -/

theorem writtenOut_typesetReading (t : Text) : writtenOut (typesetReading t) = t := by
  rw [typesetReading, spanSource?, Scanner.pieces_map, writtenOut, List.flatMap_map]
  conv_rhs => rw [← written_pieces t, written]
  refine List.flatMap_congr fun piece _ => ?_
  cases piece <;> rfl

theorem formulasIn_typesetReading (t : Text) :
    formulasIn (typesetReading t) = (spans t).map Span.source := by
  rw [typesetReading, spanSource?, Scanner.pieces_map, formulasIn, List.filterMap_map, spans,
    Scanner.findAll, List.map_filterMap]
  refine List.filterMap_congr fun piece _ => ?_
  cases piece <;> rfl

theorem subset_of_mem_formulasIn {reading : List (Piece Text)} {formula : Text}
    (h : formula ∈ formulasIn reading) : formula ⊆ writtenOut reading := by
  obtain ⟨piece, hpiece, hvalue⟩ := List.mem_filterMap.mp h
  cases piece with
  | plain c => simp at hvalue
  | hit other =>
      obtain rfl : other = formula := by simpa using hvalue
      exact fun c hc => List.mem_flatMap.mpr ⟨_, hpiece, hc⟩

/-! ## What the guard takes -/

private theorem exists_delimitedSpan {opening closing taken after : Text} (display : Bool)
    (h : delimited opening closing t = some (taken, after)) (hcontent : taken ≠ opening ++ closing) :
    ∃ span, span.source = taken ∧
      delimitedSpan display opening closing t = some (span, after) := by
  simp only [delimited, Option.bind_eq_some_iff, Option.map_eq_some_iff, Prod.mk.injEq] at h
  obtain ⟨rest, hrest, ⟨inner, behind⟩, hcut, rfl, rfl⟩ := h
  obtain rfl := dropPrefix?_eq_some_iff.mp hrest
  obtain rfl := cut?_eq_some hcut
  cases inner with
  | nil => exact absurd (by simp) hcontent
  | cons c inner =>
      refine ⟨⟨opening ++ c :: inner ++ closing, trim (c :: inner), display⟩, rfl,
        delimitedSpan_eq_some_iff.mpr ⟨c, inner, by simp, ?_, rfl⟩⟩
      -- the closing delimiter that is found first does not stand at the front
      simp only [List.cons_append, List.append_assoc, cut?_cons] at hcut ⊢
      split at hcut
      · simp at hcut
      · obtain ⟨found, hfound, heq⟩ := Option.map_eq_some_iff.mp hcut
        simp only [Prod.mk.injEq, List.cons.injEq, true_and] at heq
        rw [hfound, ← heq.1, ← heq.2]

/-- What the guard recognises at a place is a formula there, unless it has no content. -/
theorem exists_span_of_mem_delimiters (hscan : scan ∈ delimiters) {taken after : Text}
    (h : scan t = some (taken, after)) (hcontent : taken ∉ hollow) :
    ∃ span, span.source = taken ∧ span? t = some (span, after) := by
  simp only [hollow, List.mem_cons, List.not_mem_nil, or_false, not_or] at hcontent
  obtain ⟨hdisplay, hbrackets, hinline⟩ := hcontent
  simp only [delimiters, List.mem_cons, List.not_mem_nil, or_false] at hscan
  rcases hscan with rfl | rfl | rfl
  · obtain ⟨span, hsource, hspan⟩ := exists_delimitedSpan true h hdisplay
    exact ⟨span, hsource, span?_eq_some_iff.mpr (.inl hspan)⟩
  · obtain ⟨span, hsource, hspan⟩ := exists_delimitedSpan true h hbrackets
    exact ⟨span, hsource, span?_eq_some_iff.mpr (.inr (.inl hspan))⟩
  · obtain ⟨inner, hdollar, hfeed, rfl, rfl⟩ := exists_of_inlineDollars h
    have hne : inner ≠ [] := by
      rintro rfl
      exact hinline rfl
    refine ⟨⟨_, trim inner, false⟩, rfl, span?_eq_some_iff.mpr (.inr (.inr (.inr ?_)))⟩
    exact inlineSpan_eq_some_iff.mpr ⟨inner, hne, hdollar, hfeed, by simp, rfl⟩

/-- A formula with content that the guard takes is recognised wherever it stands. -/
theorem spanSource?_of_mem_guard {taken : Text} (h : taken ∈ (guard t).spans)
    (hcontent : taken ∉ hollow) :
    taken ≠ [] ∧ ∀ rest, spanSource? (taken ++ rest) = some (taken, rest) := by
  obtain ⟨scan, hscan, front, after, hfound⟩ := exists_of_mem_spans_guard h
  obtain ⟨span, rfl, hspan⟩ := exists_span_of_mem_delimiters hscan hfound hcontent
  refine ⟨(exists_of_span? hspan).1, fun rest => ?_⟩
  rw [spanSource?, Scanner.map, span?_source_append hspan]
  rfl

/-! ## The guard's reading -/

/-- A part of a guarded text as a piece of it. -/
def shownPiece : TextPart → Piece Text
  | .char c => .plain c
  | .formula _ inner => .hit (shownAll inner)

/-- A part of a guarded text as it is read. -/
def readPart : TextPart → List (Piece Text)
  | .char c => [.plain c]
  | .formula _ inner => withContent (shownAll inner)

theorem writtenOut_withContent (taken : Text) : writtenOut (withContent taken) = taken := by
  unfold withContent
  split
  · exact writtenOut_map_plain taken
  · simp

theorem recalled_of_ne_at {spans : List Text} {c : Char} (hc : c ≠ '@') (rest : Text) :
    recalled spans (c :: rest) = none := by
  rw [recalled, List.findSome?_eq_none_iff]
  intro entry _
  cases hdrop : dropPrefix? (token entry.2) (c :: rest) with
  | none => rfl
  | some after =>
      have hfront := dropPrefix?_eq_some_iff.mp hdrop
      rw [token_eq] at hfront
      exact absurd (List.cons.inj hfront).1 hc

/-- A token is told by its number. -/
theorem dropPrefix?_token_eq_some_iff {number other : Nat} {rest after : Text} :
    dropPrefix? (token other) (token number ++ rest) = some after ↔
      other = number ∧ after = rest := by
  constructor
  · intro h
    have hfront := dropPrefix?_eq_some_iff.mp h
    rw [token_eq, token_eq] at hfront
    have hdigits : ofNat other ++ '@' :: '@' :: after = ofNat number ++ '@' :: '@' :: rest := by
      simpa [tokenWord_eq] using hfront.symm
    obtain ⟨rfl, hafter⟩ := ofNat_append_inj hdigits
    exact ⟨rfl, (List.cons.inj hafter).2⟩
  · rintro ⟨rfl, rfl⟩
    exact dropPrefix?_append ..

theorem recalled_token {spans : List Text} {number : Nat} {span : Text}
    (h : spans[number]? = some span) (rest : Text) :
    recalled spans (token number ++ rest) = some (span, rest) := by
  have hentry : (span, number) ∈ spans.zipIdx := List.mem_zipIdx_iff_getElem?.mpr h
  cases hfound : recalled spans (token number ++ rest) with
  | none =>
      have hnone := List.findSome?_eq_none_iff.mp hfound _ hentry
      simp at hnone
  | some found =>
      obtain ⟨⟨other, place⟩, hmem, hvalue⟩ := List.exists_of_findSome?_eq_some hfound
      obtain ⟨after, hdrop, rfl⟩ := Option.map_eq_some_iff.mp hvalue
      obtain ⟨rfl, rfl⟩ := dropPrefix?_token_eq_some_iff.mp hdrop
      have hother : spans[place]? = some other := List.mem_zipIdx_iff_getElem?.mp hmem
      obtain rfl : other = span := Option.some.inj (hother.symm.trans h)
      rfl

theorem pieces_recalled {spans : List Text} {parts : List TextPart} (hat : '@' ∉ sources parts)
    (hspans : ∀ number inner, .formula number inner ∈ parts →
      spans[number]? = some (shownAll inner)) :
    Scanner.pieces (recalled spans) (shownAll parts) = parts.map shownPiece := by
  induction parts with
  | nil => rfl
  | cons part rest ih =>
      have hrest := ih
        (fun hmem => hat (List.mem_append_right _ hmem))
        (fun number inner hmem => hspans number inner (List.mem_cons_of_mem _ hmem))
      cases part with
      | char c =>
          have hc : c ≠ '@' := fun heq => hat (by simp [sources, source, heq])
          rw [shownAll_cons, shown, List.singleton_append,
            Scanner.pieces_of_none (recalled_of_ne_at hc _), hrest]
          rfl
      | formula number inner =>
          have hfound := recalled_token (hspans number inner (List.mem_cons_self ..)) (shownAll rest)
          obtain ⟨c, source, htoken⟩ := List.exists_cons_of_ne_nil (token_ne_nil number)
          rw [shownAll_cons, shown, htoken]
          rw [htoken] at hfound
          rw [Scanner.pieces_of_some hfound, hrest]
          rfl

theorem guardReading_eq {parts : List TextPart} (hstands : Stands (guard t) parts)
    (hat : '@' ∉ sources parts) : guardReading t = parts.flatMap readPart := by
  have hpieces := pieces_recalled hat fun number inner hmem =>
    hstands.span_eq number inner (mem_formulasAmong_of_mem hmem)
  rw [guardReading, hstands.text_eq, hpieces, List.flatMap_map]
  refine List.flatMap_congr fun part _ => ?_
  cases part <;> rfl

/-! ## Formulas in formulas -/

/-- Every span is what one formula of a guarded text shows. -/
theorem Stands.map_shownAll_perm {guarded : Guarded} {parts : List TextPart}
    (h : Stands guarded parts) :
    ((formulasAmong parts).map fun formula => shownAll formula.2).Perm guarded.spans := by
  have hnumbers : ((formulasAmong parts).map fun formula => shownAll formula.2) =
      (numbers parts).map fun number => guarded.spans.getD number [] := by
    rw [numbers, List.map_map]
    refine List.map_congr_left fun formula hmem => ?_
    simp [h.span_eq formula.1 formula.2 hmem]
  have hrange : ((List.range guarded.spans.length).map fun number =>
      guarded.spans.getD number []) = guarded.spans :=
    List.ext_getElem (by simp) fun number _ _ => by simp [*]
  rw [hnumbers]
  conv_rhs => rw [← hrange]
  exact h.numbers_perm.map _

theorem no_formula_of_at_not_mem {inner : List TextPart} (h : '@' ∉ shownAll inner) :
    inner = (sources inner).map .char :=
  eq_map_char_of_no_formula fun _ _ hmem => h (at_mem_shownAll hmem)

theorem shownAll_of_at_not_mem {inner : List TextPart} (h : '@' ∉ shownAll inner) :
    shownAll inner = sources inner := by
  rw [no_formula_of_at_not_mem h, shownAll_map_char, sources_map_char]

/-- No span holds a token if none of the outermost formulas shows one. -/
theorem Stands.at_not_mem_iff {guarded : Guarded} {parts : List TextPart}
    (h : Stands guarded parts) :
    (∀ span ∈ guarded.spans, '@' ∉ span) ↔
      ∀ number inner, .formula number inner ∈ parts → '@' ∉ shownAll inner := by
  constructor
  · intro hspans number inner hmem
    exact hspans _ (List.mem_of_getElem? (h.span_eq number inner (mem_formulasAmong_of_mem hmem)))
  · intro houter span hspan
    obtain ⟨formula, hmem, rfl⟩ := List.mem_map.mp (h.map_shownAll_perm.mem_iff.mpr hspan)
    obtain ⟨number, inner, hpart, rfl | hinner⟩ := mem_formulasAmong_iff.mp hmem
    · exact houter number inner hpart
    · obtain ⟨other, held, hheld, -⟩ := mem_formulasAmong_iff.mp hinner
      exact absurd (at_mem_shownAll hheld) (houter number inner hpart)

/-- Without formulas in formulas the guard's reading is one of the whole text. -/
theorem writtenOut_readParts {parts : List TextPart}
    (h : ∀ number inner, .formula number inner ∈ parts → '@' ∉ shownAll inner) :
    writtenOut (parts.flatMap readPart) = sources parts := by
  induction parts with
  | nil => rfl
  | cons part rest ih =>
      rw [List.flatMap_cons, writtenOut_append,
        ih fun number inner hmem => h number inner (List.mem_cons_of_mem _ hmem), sources]
      cases part with
      | char c => rfl
      | formula number inner =>
          rw [readPart, writtenOut_withContent, source,
            shownAll_of_at_not_mem (h number inner (List.mem_cons_self ..))]

theorem shownAll_infix_writtenOut {parts : List TextPart} {number : Nat} {inner : List TextPart}
    (h : .formula number inner ∈ parts) : shownAll inner <:+: writtenOut (parts.flatMap readPart) := by
  obtain ⟨before, behind, rfl⟩ := List.append_of_mem h
  refine ⟨writtenOut (before.flatMap readPart), writtenOut (behind.flatMap readPart), ?_⟩
  simp [readPart, writtenOut_withContent]

theorem formulasIn_withContent (taken : Text) :
    formulasIn (withContent taken) = [taken].filter (· ∉ hollow) := by
  unfold withContent
  split
  · rename_i hmem
    simp [formulasIn, hmem, List.filterMap_map]
  · rename_i hmem
    simp [formulasIn, hmem]

/-- Without formulas in formulas the guard's reading holds all formulas with content. -/
theorem formulasIn_readParts {parts : List TextPart}
    (h : ∀ number inner, .formula number inner ∈ parts → '@' ∉ shownAll inner) :
    formulasIn (parts.flatMap readPart) =
      ((formulasAmong parts).map fun formula => shownAll formula.2).filter (· ∉ hollow) := by
  induction parts with
  | nil => rfl
  | cons part rest ih =>
      have hrest := ih fun number inner hmem => h number inner (List.mem_cons_of_mem _ hmem)
      rw [List.flatMap_cons, formulasIn, List.filterMap_append, ← formulasIn, ← formulasIn, hrest,
        formulasAmong]
      cases part with
      | char c => rfl
      | formula number inner =>
          have hinner : formulasAmong inner = [] := by
            rw [no_formula_of_at_not_mem (h number inner (List.mem_cons_self ..)),
              formulasAmong_map_char]
          rw [readPart, formulasIn_withContent, formulas, hinner, ← List.filter_append]
          rfl

/-! ## The same formulas -/

/-- A formula that the guard reads is recognised wherever it stands. -/
theorem spanSource?_of_mem_guardReading (hat : '@' ∉ t) {taken : Text}
    (h : .hit taken ∈ guardReading t) :
    taken ≠ [] ∧ ∀ rest, spanSource? (taken ++ rest) = some (taken, rest) := by
  obtain ⟨parts, rfl, hstands⟩ := exists_stands_guard t
  rw [guardReading_eq hstands hat] at h
  obtain ⟨part, hpart, htaken⟩ := List.mem_flatMap.mp h
  cases part with
  | char c => simp [readPart] at htaken
  | formula number inner =>
      have hspan := List.mem_of_getElem?
        (hstands.span_eq number inner (mem_formulasAmong_of_mem hpart))
      rw [readPart, withContent] at htaken
      split at htaken
      · simp at htaken
      · rename_i hcontent
        obtain rfl : taken = shownAll inner := by simpa using htaken
        exact spanSource?_of_mem_guard hspan hcontent

/-- The guard's reading is one of the whole text exactly if no formula is taken into another one. -/
theorem writtenOut_guardReading_iff (hat : '@' ∉ t) :
    writtenOut (guardReading t) = t ↔ ∀ span ∈ (guard t).spans, '@' ∉ span := by
  obtain ⟨parts, rfl, hstands⟩ := exists_stands_guard t
  rw [hstands.at_not_mem_iff, guardReading_eq hstands hat]
  refine ⟨fun hwhole number inner hmem hinner => hat ?_, writtenOut_readParts⟩
  rw [← hwhole]
  exact (shownAll_infix_writtenOut hmem).subset hinner

/-- Then it has the formulas with content that are taken out. -/
theorem formulasIn_guardReading_perm (hat : '@' ∉ t)
    (hspans : ∀ span ∈ (guard t).spans, '@' ∉ span) :
    (formulasIn (guardReading t)).Perm ((guard t).spans.filter (· ∉ hollow)) := by
  obtain ⟨parts, rfl, hstands⟩ := exists_stands_guard t
  rw [guardReading_eq hstands hat, formulasIn_readParts (hstands.at_not_mem_iff.mp hspans)]
  exact hstands.map_shownAll_perm.filter _

/-- The typesetter reads a text as the guard does exactly if the guard takes no formula into another
one and the typesetter recognises nothing where the guard passes over a character. -/
theorem typesetReading_eq_guardReading_iff (hat : '@' ∉ t) :
    typesetReading t = guardReading t ↔
      (∀ span ∈ (guard t).spans, '@' ∉ span) ∧ PassesOver spanSource? (guardReading t) := by
  have hpieces := pieces_writtenOut_eq_iff fun _ hmem => spanSource?_of_mem_guardReading hat hmem
  rw [← writtenOut_guardReading_iff hat]
  constructor
  · intro h
    have hwhole : writtenOut (guardReading t) = t := by rw [← h, writtenOut_typesetReading]
    refine ⟨hwhole, hpieces.mp ?_⟩
    rw [hwhole]
    exact h
  · rintro ⟨hwhole, hpassed⟩
    have hscanned := hpieces.mpr hpassed
    rwa [hwhole] at hscanned

/-- Texts that are read alike have the same formulas with content. -/
theorem perm_of_typesetReading_eq (hat : '@' ∉ t) (h : typesetReading t = guardReading t) :
    ((spans t).map Span.source).Perm ((guard t).spans.filter (· ∉ hollow)) := by
  rw [← formulasIn_typesetReading, h]
  exact formulasIn_guardReading_perm hat ((typesetReading_eq_guardReading_iff hat).mp h).1

/-- What the typesetter finds holds no token. -/
theorem at_not_mem_of_perm (hat : '@' ∉ t)
    (h : ((spans t).map Span.source).Perm ((guard t).spans.filter (· ∉ hollow))) :
    ∀ span ∈ (guard t).spans, '@' ∉ span := by
  intro span hspan hmem
  have hcontent : span ∉ hollow := by
    have hplain : ∀ taken ∈ hollow, '@' ∉ taken := by decide
    exact fun htaken => hplain span htaken hmem
  have hfound : span ∈ (spans t).map Span.source :=
    h.mem_iff.mpr (List.mem_filter.mpr ⟨hspan, by simpa using hcontent⟩)
  rw [← formulasIn_typesetReading] at hfound
  have hpiece := subset_of_mem_formulasIn hfound hmem
  rw [writtenOut_typesetReading] at hpiece
  exact hat hpiece

/-! ## The same formulas in other places -/

/-- The formulas in a reading with their places in the text, the first of which is `place`. -/
def placedFrom : (place : Nat) → List (Piece Text) → List (Nat × Text)
  | _, [] => []
  | place, .plain _ :: reading => placedFrom (place + 1) reading
  | place, .hit taken :: reading => (place, taken) :: placedFrom (place + taken.length) reading

/-- The formulas in a reading with their places in the text. -/
def placed (reading : List (Piece Text)) : List (Nat × Text) := placedFrom 0 reading

/-- The formulas of one reading that begin where another reading has none. -/
def onlyIn (reading other : List (Piece Text)) : List Text :=
  ((placed reading).filter fun entry => entry.1 ∉ (placed other).map Prod.fst).map Prod.snd

theorem map_snd_placedFrom (place : Nat) (reading : List (Piece Text)) :
    (placedFrom place reading).map Prod.snd = formulasIn reading := by
  induction reading generalizing place with
  | nil => rfl
  | cons piece reading ih =>
      cases piece with
      | plain c => exact ih _
      | hit formula => exact congrArg (formula :: ·) (ih _)

theorem le_of_mem_placedFrom {place : Nat} {reading : List (Piece Text)} {entry : Nat × Text}
    (h : entry ∈ placedFrom place reading) : place ≤ entry.1 := by
  induction reading generalizing place with
  | nil => cases h
  | cons piece reading ih =>
      cases piece with
      | plain c => exact (Nat.le_succ place).trans (ih h)
      | hit formula =>
          rcases List.mem_cons.mp h with rfl | hrest
          · exact le_rfl
          · exact (Nat.le_add_right ..).trans (ih hrest)

/-- No two formulas begin in one place. -/
theorem nodup_placedFrom {reading : List (Piece Text)}
    (h : ∀ formula, .hit formula ∈ reading → formula ≠ []) (place : Nat) :
    (placedFrom place reading).Nodup := by
  induction reading generalizing place with
  | nil => exact List.nodup_nil
  | cons piece reading ih =>
      have hrest := ih fun formula hmem => h formula (List.mem_cons_of_mem _ hmem)
      cases piece with
      | plain c => exact hrest _
      | hit formula =>
          have hpos := List.length_pos_iff.mpr (h formula (List.mem_cons_self ..))
          refine List.nodup_cons.mpr ⟨fun hmem => ?_, hrest _⟩
          have hle := le_of_mem_placedFrom hmem
          dsimp only at hle
          omega

/-- What stands in the place of a formula begins with it. -/
theorem exists_of_mem_placedFrom {place : Nat} {reading : List (Piece Text)} {entry : Nat × Text}
    (h : entry ∈ placedFrom place reading) : ∃ before behind,
      reading = before ++ .hit entry.2 :: behind ∧ entry.1 = place + (writtenOut before).length := by
  induction reading generalizing place with
  | nil => cases h
  | cons piece reading ih =>
      cases piece with
      | plain c =>
          obtain ⟨before, behind, rfl, hplace⟩ := ih h
          refine ⟨.plain c :: before, behind, rfl, ?_⟩
          rw [hplace, writtenOut_plain_cons, List.length_cons]
          omega
      | hit formula =>
          rcases List.mem_cons.mp h with rfl | hrest
          · exact ⟨[], reading, rfl, rfl⟩
          · obtain ⟨before, behind, rfl, hplace⟩ := ih hrest
            refine ⟨.hit formula :: before, behind, rfl, ?_⟩
            rw [hplace, writtenOut_hit_cons, List.length_append, Nat.add_assoc]

/-- Where two readings of one text both have a formula that is recognised wherever it stands, it is
the same formula. -/
theorem eq_of_mem_placed {reading other : List (Piece Text)}
    (hsame : writtenOut reading = writtenOut other)
    (hfound : ∀ formula, .hit formula ∈ reading → ∀ rest, scan (formula ++ rest) = some (formula, rest))
    (hother : ∀ formula, .hit formula ∈ other → ∀ rest, scan (formula ++ rest) = some (formula, rest))
    {place : Nat} {formula formula' : Text} (h : (place, formula) ∈ placed reading)
    (h' : (place, formula') ∈ placed other) : formula = formula' := by
  obtain ⟨before, behind, rfl, hplace⟩ := exists_of_mem_placedFrom h
  obtain ⟨before', behind', rfl, hplace'⟩ := exists_of_mem_placedFrom h'
  rw [writtenOut_append, writtenOut_append, writtenOut_hit_cons, writtenOut_hit_cons] at hsame
  have hlength : (writtenOut before).length = (writtenOut before').length := by
    dsimp only at hplace hplace'
    omega
  have hrest := (List.append_inj hsame hlength).2
  have hscan := hfound formula (by simp) (writtenOut behind)
  rw [hrest, hother formula' (by simp)] at hscan
  exact (Prod.mk.inj (Option.some.inj hscan)).1.symm

/-- The formulas of one reading that begin where another reading has one too, with their places. -/
def inBoth (reading other : List (Piece Text)) : List (Nat × Text) :=
  (placed reading).filter fun entry => entry.1 ∈ (placed other).map Prod.fst

/-- A formula of a reading begins where the other one has a formula too, or where it has none. -/
theorem formulasIn_perm_inBoth_append (reading other : List (Piece Text)) :
    (formulasIn reading).Perm ((inBoth reading other).map Prod.snd ++ onlyIn reading other) := by
  have honly : onlyIn reading other = ((placed reading).filter fun entry =>
      !decide (entry.1 ∈ (placed other).map Prod.fst)).map Prod.snd := by
    refine congrArg (List.map Prod.snd) (List.filter_congr fun entry _ => ?_)
    by_cases hmem : entry.1 ∈ (placed other).map Prod.fst <;> simp [hmem]
  have hperm := (List.filter_append_perm
    (fun entry => decide (entry.1 ∈ (placed other).map Prod.fst)) (placed reading)).symm.map Prod.snd
  rw [List.map_append, ← honly] at hperm
  rwa [placed, map_snd_placedFrom] at hperm

section SameText

variable {reading other : List (Piece Text)}

/-- In a place of both readings there is one formula, and no place comes twice. -/
theorem inBoth_perm (hsame : writtenOut reading = writtenOut other)
    (hfound : ∀ formula, .hit formula ∈ reading →
      formula ≠ [] ∧ ∀ rest, scan (formula ++ rest) = some (formula, rest))
    (hother : ∀ formula, .hit formula ∈ other →
      formula ≠ [] ∧ ∀ rest, scan (formula ++ rest) = some (formula, rest)) :
    (inBoth reading other).Perm (inBoth other reading) := by
  have hmem (entry : Nat × Text) : entry ∈ inBoth reading other ↔ entry ∈ inBoth other reading := by
    obtain ⟨place, formula⟩ := entry
    have hagree {formula formula' : Text} := @eq_of_mem_placed scan reading other hsame
      (fun _ hmem => (hfound _ hmem).2) (fun _ hmem => (hother _ hmem).2) place formula formula'
    simp only [inBoth, List.mem_filter, decide_eq_true_eq, List.mem_map, Prod.exists,
      exists_and_right, exists_eq_right]
    constructor
    · rintro ⟨hhere, formula', hthere⟩
      obtain rfl := hagree hhere hthere
      exact ⟨hthere, _, hhere⟩
    · rintro ⟨hthere, formula', hhere⟩
      obtain rfl := hagree hhere hthere
      exact ⟨hhere, _, hthere⟩
  have hnodup : (inBoth reading other).Nodup :=
    (nodup_placedFrom (fun _ h => (hfound _ h).1) 0).filter _
  have hnodup' : (inBoth other reading).Nodup :=
    (nodup_placedFrom (fun _ h => (hother _ h).1) 0).filter _
  exact (List.perm_ext_iff_of_nodup hnodup hnodup').mpr hmem

/-- Two readings of one text have the same formulas exactly if what each has in places of its own is
the same. -/
theorem formulasIn_perm_iff (hsame : writtenOut reading = writtenOut other)
    (hfound : ∀ formula, .hit formula ∈ reading →
      formula ≠ [] ∧ ∀ rest, scan (formula ++ rest) = some (formula, rest))
    (hother : ∀ formula, .hit formula ∈ other →
      formula ≠ [] ∧ ∀ rest, scan (formula ++ rest) = some (formula, rest)) :
    (formulasIn reading).Perm (formulasIn other) ↔
      (onlyIn reading other).Perm (onlyIn other reading) := by
  have hboth := (inBoth_perm hsame hfound hother).map Prod.snd
  have hreading := formulasIn_perm_inBoth_append reading other
  have hreading' := (formulasIn_perm_inBoth_append other reading).trans (hboth.symm.append_right _)
  constructor
  · intro hperm
    exact (List.perm_append_left_iff _).mp ((hreading.symm.trans hperm).trans hreading')
  · intro honly
    exact (hreading.trans (honly.append_left _)).trans hreading'.symm

end SameText

/-- A formula that the typesetter reads is recognised wherever it stands. -/
theorem spanSource?_of_mem_typesetReading {formula : Text} (h : .hit formula ∈ typesetReading t) :
    formula ≠ [] ∧ ∀ rest, spanSource? (formula ++ rest) = some (formula, rest) := by
  have hmem : formula ∈ Scanner.findAll spanSource? t := List.mem_filterMap.mpr ⟨_, h, rfl⟩
  obtain ⟨front, after, -, hfound⟩ := Scanner.exists_of_mem_findAll hmem
  obtain ⟨⟨span, behind⟩, hspan, hmapped⟩ := Option.map_eq_some_iff.mp hfound
  obtain ⟨rfl, rfl⟩ := Prod.mk.inj hmapped
  refine ⟨(exists_of_span? hspan).1, fun rest => ?_⟩
  rw [spanSource?, Scanner.map, span?_source_append hspan]
  rfl

/-- The formulas with content are the same for both, each as often, exactly if the guard takes none
into another one and those that begin where the other side has none are the same on both sides. -/
theorem perm_guard_iff (hat : '@' ∉ t) :
    ((spans t).map Span.source).Perm ((guard t).spans.filter (· ∉ hollow)) ↔
      (∀ span ∈ (guard t).spans, '@' ∉ span) ∧
        (onlyIn (typesetReading t) (guardReading t)).Perm
          (onlyIn (guardReading t) (typesetReading t)) := by
  have honly (hspans : ∀ span ∈ (guard t).spans, '@' ∉ span) :
      ((spans t).map Span.source).Perm ((guard t).spans.filter (· ∉ hollow)) ↔
        (onlyIn (typesetReading t) (guardReading t)).Perm
          (onlyIn (guardReading t) (typesetReading t)) := by
    have hwhole : writtenOut (typesetReading t) = writtenOut (guardReading t) := by
      rw [writtenOut_typesetReading, (writtenOut_guardReading_iff hat).mpr hspans]
    rw [← formulasIn_typesetReading,
      ← (formulasIn_guardReading_perm hat hspans).congr_right]
    exact formulasIn_perm_iff hwhole (fun _ => spanSource?_of_mem_typesetReading)
      fun _ => spanSource?_of_mem_guardReading hat
  constructor
  · intro hperm
    have hspans := at_not_mem_of_perm hat hperm
    exact ⟨hspans, (honly hspans).mp hperm⟩
  · rintro ⟨hspans, hsame⟩
    exact (honly hspans).mpr hsame

/-- The guard and the typesetter see the same formulas in the same places exactly if the guard takes
none into another one and the typesetter recognises nothing where the guard passes over a character.
Then the formulas with content are the same, each as often.  They are so in other places too exactly
if the guard takes no formula into another one and those that begin where the other side has none are
the same on both sides. -/
theorem spans_perm_guard (t : Text) (hat : '@' ∉ t) :
    (typesetReading t = guardReading t ↔
      (∀ span ∈ (guard t).spans, '@' ∉ span) ∧ PassesOver spanSource? (guardReading t)) ∧
    (typesetReading t = guardReading t →
      ((spans t).map Span.source).Perm ((guard t).spans.filter (· ∉ hollow))) ∧
    (((spans t).map Span.source).Perm ((guard t).spans.filter (· ∉ hollow)) ↔
      (∀ span ∈ (guard t).spans, '@' ∉ span) ∧
        (onlyIn (typesetReading t) (guardReading t)).Perm
          (onlyIn (guardReading t) (typesetReading t))) :=
  ⟨typesetReading_eq_guardReading_iff hat, perm_of_typesetReading_eq hat, perm_guard_iff hat⟩

/-- Formulas of all three kinds side by side are the same for both. -/
theorem spans_perm_guard_side_by_side :
    let t := "$$x$$ \\[y\\] $z$".toList
    '@' ∉ t ∧ typesetReading t = guardReading t ∧
      ((spans t).map Span.source).Perm ((guard t).spans.filter (· ∉ hollow)) := by
  intro t
  have hat : '@' ∉ t := by decide
  have hsame : typesetReading t = guardReading t := by decide +kernel
  exact ⟨hat, hsame, (spans_perm_guard t hat).2.1 hsame⟩

/-- Where two formulas of a line touch, their dollars are a pair for the guard.  It takes the text
up to the next such pair and then what is left on both sides, and the typesetter finds four
formulas. -/
theorem touching_formulas_differ :
    let t := "$a$$b$ and $c$$d$".toList
    '@' ∉ t ∧ ¬ "\\(".toList <:+: t ∧
      (spans t).map Span.source = ["$a$".toList, "$b$".toList, "$c$".toList, "$d$".toList] ∧
      (guard t).spans = ["$$b$ and $c$$".toList, "$a@@MATH0@@d$".toList] ∧
      ¬ ((spans t).map Span.source).Perm ((guard t).spans.filter (· ∉ hollow)) := by
  intro t
  exact ⟨by decide, by decide, by decide +kernel, by decide +kernel, by decide +kernel⟩

/-- The same formulas can be found in other places, so the readings say more than the formulas. -/
example : (spans "$$x$x$".toList).map Span.source = ["$x$".toList] ∧
    (guard "$$x$x$".toList).spans = ["$$".toList, "$x$".toList] ∧
    typesetReading "$$x$x$".toList ≠ guardReading "$$x$x$".toList := by
  decide

end PaperHtml.Math
