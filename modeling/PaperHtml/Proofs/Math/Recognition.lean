import PaperHtml.Proofs.Math.SetTexts

/-!
# Formulas recognised by themselves

What is recognised as a formula at the front of a text stands there by itself:
nothing that follows it can undo it (`span?_append`), and nothing that follows it
is needed for it (`span?_source_append`).  A stretch of a text between two places
where its scan has halted is therefore scanned as it is in the whole text
(`pieces_written_stretch`).

## Strategy

The four kinds of formulas begin differently, so at most one of them is
recognised at a place (`span?_eq_some_iff`), and it is enough to look at each kind
alone.  A formula ends where its closing delimiter is found first, which is the
same place whether the text behind it is there or not.
-/

namespace PaperHtml.Math

open Text

variable {display : Bool} {opening closing t after : Text} {span : Span}

/-! ## One kind -/

theorem delimitedSpan_append (h : delimitedSpan display opening closing t = some (span, after))
    (rest : Text) :
    delimitedSpan display opening closing (t ++ rest) = some (span, after ++ rest) := by
  obtain ⟨c, inner, rfl, hcut, rfl⟩ := delimitedSpan_eq_some_iff.mp h
  refine delimitedSpan_eq_some_iff.mpr ⟨c, inner, by simp, ?_, rfl⟩
  simpa using cut?_append_of_some hcut rest

theorem inlineSpan_append (h : inlineSpan t = some (span, after)) (rest : Text) :
    inlineSpan (t ++ rest) = some (span, after ++ rest) := by
  obtain ⟨inner, hne, hdollar, hfeed, rfl, rfl⟩ := inlineSpan_eq_some_iff.mp h
  exact inlineSpan_eq_some_iff.mpr ⟨inner, hne, hdollar, hfeed, by simp, rfl⟩

/-- What is in front of the first mark stands in front of it without the text behind, too. -/
theorem cut?_mark_of_some {mark before after : Text}
    (h : cut? mark (before ++ (mark ++ after)) = some (before, after)) :
    cut? mark (before ++ mark) = some (before, []) := by
  obtain ⟨⟨front, back⟩, hcut⟩ := exists_cut? (List.suffix_append before mark).isInfix
  have hwhole := cut?_append_of_some hcut after
  rw [List.append_assoc, h, Option.some.injEq, Prod.mk.injEq] at hwhole
  obtain ⟨rfl, hback⟩ := hwhole
  obtain rfl : back = [] := List.self_eq_append_left.mp hback
  exact hcut

theorem delimitedSpan_source (h : delimitedSpan display opening closing t = some (span, after)) :
    delimitedSpan display opening closing span.source = some (span, []) := by
  obtain ⟨c, inner, rfl, hcut, rfl⟩ := delimitedSpan_eq_some_iff.mp h
  refine delimitedSpan_eq_some_iff.mpr ⟨c, inner, by simp, ?_, rfl⟩
  rw [List.append_nil]
  exact cut?_mark_of_some hcut

theorem inlineSpan_source (h : inlineSpan t = some (span, after)) :
    inlineSpan span.source = some (span, []) := by
  obtain ⟨inner, hne, hdollar, hfeed, rfl, rfl⟩ := inlineSpan_eq_some_iff.mp h
  exact inlineSpan_eq_some_iff.mpr ⟨inner, hne, hdollar, hfeed, rfl, rfl⟩

/-! ## Any kind -/

private theorem delimitedSpan_eq_none (h : ¬ opening <+: t) :
    delimitedSpan display opening closing t = none := by
  rw [Option.eq_none_iff_forall_ne_some]
  rintro ⟨span, after⟩ hfound
  obtain ⟨c, inner, rfl, -, -⟩ := delimitedSpan_eq_some_iff.mp hfound
  exact h (List.prefix_append ..)

/-- Each kind begins differently, so what is recognised is what one of them recognises. -/
theorem span?_eq_some_iff :
    span? t = some (span, after) ↔
      delimitedSpan true ['$', '$'] ['$', '$'] t = some (span, after) ∨
        delimitedSpan true ['\\', '['] ['\\', ']'] t = some (span, after) ∨
          delimitedSpan false ['\\', '('] ['\\', ')'] t = some (span, after) ∨
            inlineSpan t = some (span, after) := by
  constructor
  · intro h
    simp only [span?, Option.or_eq_some_iff] at h
    tauto
  · rintro (h | h | h | h)
    · rw [span?, h, Option.some_or]
    · obtain ⟨c, inner, rfl, -, -⟩ := delimitedSpan_eq_some_iff.mp h
      rw [span?, delimitedSpan_eq_none (by simp), h, Option.none_or, Option.some_or]
    · obtain ⟨c, inner, rfl, -, -⟩ := delimitedSpan_eq_some_iff.mp h
      rw [span?, delimitedSpan_eq_none (by simp), delimitedSpan_eq_none (by simp), h,
        Option.none_or, Option.none_or, Option.some_or]
    · obtain ⟨inner, hne, hdollar, -, rfl, -⟩ := inlineSpan_eq_some_iff.mp h
      -- a second dollar would be a formula without content
      have hsecond : ¬ ['$', '$'] <+: '$' :: (inner ++ '$' :: after) := by
        obtain ⟨c, rest, rfl⟩ := List.exists_cons_of_ne_nil hne
        simp only [List.cons_append, List.cons_prefix_cons, true_and]
        exact fun hfront => hdollar (hfront.1 ▸ List.mem_cons_self ..)
      rw [span?, delimitedSpan_eq_none hsecond, delimitedSpan_eq_none (by simp),
        delimitedSpan_eq_none (by simp), h, Option.none_or, Option.none_or, Option.none_or]

/-- What is recognised at the front of a text is recognised there whatever follows. -/
theorem span?_append (h : span? t = some (span, after)) (rest : Text) :
    span? (t ++ rest) = some (span, after ++ rest) := by
  rcases span?_eq_some_iff.mp h with h | h | h | h
  · exact span?_eq_some_iff.mpr (.inl (delimitedSpan_append h rest))
  · exact span?_eq_some_iff.mpr (.inr (.inl (delimitedSpan_append h rest)))
  · exact span?_eq_some_iff.mpr (.inr (.inr (.inl (delimitedSpan_append h rest))))
  · exact span?_eq_some_iff.mpr (.inr (.inr (.inr (inlineSpan_append h rest))))

/-- A formula that is recognised is recognised by itself. -/
theorem span?_source (h : span? t = some (span, after)) : span? span.source = some (span, []) := by
  rcases span?_eq_some_iff.mp h with h | h | h | h
  · exact span?_eq_some_iff.mpr (.inl (delimitedSpan_source h))
  · exact span?_eq_some_iff.mpr (.inr (.inl (delimitedSpan_source h)))
  · exact span?_eq_some_iff.mpr (.inr (.inr (.inl (delimitedSpan_source h))))
  · exact span?_eq_some_iff.mpr (.inr (.inr (.inr (inlineSpan_source h))))

theorem span?_source_append (h : span? t = some (span, after)) (rest : Text) :
    span? (span.source ++ rest) = some (span, rest) := span?_append (span?_source h) rest

/-! ## A stretch of a text -/

/-- A formula at the front of a text is its first piece. -/
theorem pieces_source_append (h : span? t = some (span, after)) (rest : Text) :
    Scanner.pieces span? (span.source ++ rest) = .hit span :: Scanner.pieces span? rest := by
  have hfound := span?_source_append h rest
  obtain ⟨c, source, hsource⟩ := List.exists_cons_of_ne_nil (exists_of_span? h).1
  rw [hsource] at hfound ⊢
  exact Scanner.pieces_of_some hfound

/-- The first piece of a text is a formula or a character at which nothing is recognised, and the
others are those of the text behind it. -/
theorem of_pieces_eq_cons {piece : Piece Span} {more : List (Piece Span)}
    (h : Scanner.pieces span? t = piece :: more) :
    (∃ c rest, t = c :: rest ∧ piece = .plain c ∧ span? t = none ∧
      Scanner.pieces span? rest = more) ∨
    ∃ span after, piece = .hit span ∧ span? t = some (span, after) ∧
      Scanner.pieces span? after = more := by
  cases t with
  | nil => simp at h
  | cons c rest =>
      cases hfound : span? (c :: rest) with
      | none =>
          rw [Scanner.pieces_of_none hfound] at h
          obtain ⟨rfl, rfl⟩ := List.cons.inj h
          exact .inl ⟨c, rest, rfl, rfl, rfl, rfl⟩
      | some found =>
          obtain ⟨span, after⟩ := found
          have hpieces := pieces_source_append hfound after
          rw [← (exists_of_span? hfound).2, h] at hpieces
          obtain ⟨rfl, rfl⟩ := List.cons.inj hpieces
          exact .inr ⟨span, after, rfl, rfl, rfl⟩

/-- From where a scan has halted on, the pieces are those of the text that is left. -/
theorem pieces_written_behind {before behind : List (Piece Span)}
    (h : Scanner.pieces span? t = before ++ behind) :
    Scanner.pieces span? (written behind) = behind := by
  induction before generalizing t with
  | nil =>
      rw [List.nil_append] at h
      rw [← h, written_pieces]
  | cons piece before ih =>
      rcases of_pieces_eq_cons h with ⟨c, rest, -, -, -, hrest⟩ | ⟨span, after, -, -, hafter⟩
      · exact ih hrest
      · exact ih hafter

/-- Up to where a scan halts, the pieces are those of the text that was scanned. -/
theorem pieces_written_front {front behind : List (Piece Span)}
    (h : Scanner.pieces span? t = front ++ behind) :
    Scanner.pieces span? (written front) = front := by
  induction front generalizing t with
  | nil => rfl
  | cons piece front ih =>
      rcases of_pieces_eq_cons h with ⟨c, rest, rfl, rfl, hnone, hrest⟩ | ⟨span, after, rfl, hspan, hafter⟩
      · have hwhole : written front ++ written behind = rest := by
          rw [← written_append]
          exact (congrArg written hrest.symm).trans (written_pieces rest)
        have hhere : span? (c :: written front) = none := by
          rw [Option.eq_none_iff_forall_ne_some]
          rintro ⟨span, after⟩ hfound
          have hmore := span?_append hfound (written behind)
          rw [List.cons_append, hwhole, hnone] at hmore
          exact Option.some_ne_none _ hmore.symm
        exact (Scanner.pieces_of_none hhere).trans (congrArg _ (ih hrest))
      · exact (pieces_source_append hspan _).trans (congrArg _ (ih hafter))

/-- A stretch of a text between two places where its scan has halted is scanned by itself as it is
in the whole text. -/
theorem pieces_written_stretch {before stretch behind : List (Piece Span)}
    (h : Scanner.pieces span? t = before ++ (stretch ++ behind)) :
    Scanner.pieces span? (written stretch) = stretch :=
  pieces_written_front (pieces_written_behind h)

end PaperHtml.Math
