import PaperHtml.Proofs.Conversion.BlockDocuments

/-!
# Blocks and lines

In Markdown the mark of a block stands at the beginning of a line, and a heading
ends with its line.  In LaTeX a command may stand anywhere on a line, and most of
the passes write the mark where the command was.  Here are the documents whose
blocks come out on lines of their own (`blocks_on_lines_iff`).

## Strategy

The mark of a block is no blank.  So the limit on blank lines and the trimming
deal with the text in front of it and the text from it on as with two texts
(`collapseBlankLines_append_cons`), and neither of the two moves the end of a line
(`startsLine_trimStart_iff`, `trimEnd_firstLine_trimEnd`).  A block then begins a
line exactly if the block in front of it ends one, and where it does, the line of
a heading is settled by the heading and the text behind it alone.
-/

namespace PaperHtml.Conversion

open Text Latex Conversion.Markdown

variable {t u : Text}

/-! ## Ends of lines -/

/-- The first line of a text. -/
def firstLine (t : Text) : Text := t.takeWhile (· ≠ '\n')

/-- A text that ends with a line. -/
def EndsLine (t : Text) : Prop := t.getLast? = some '\n'

instance : DecidablePred EndsLine := fun _ => inferInstanceAs (Decidable (_ = _))

/-- What follows a text begins a line. -/
def StartsLine (t : Text) : Prop := t = [] ∨ EndsLine t

theorem endsLine_append (h : u ≠ []) : EndsLine (t ++ u) ↔ EndsLine u := by
  rw [EndsLine, List.getLast?_append_of_ne_nil _ h, EndsLine]

theorem endsLine_append_of_not (h : ¬ EndsLine t) : EndsLine (t ++ u) ↔ EndsLine u := by
  by_cases hu : u = []
  · subst hu
    rw [List.append_nil]
    exact iff_of_false h (by simp [EndsLine])
  · exact endsLine_append hu

theorem endsLine_append_iff (h : EndsLine t) : EndsLine (t ++ u) ↔ u = [] ∨ EndsLine u := by
  by_cases hu : u = []
  · simp [hu, h]
  · simp [endsLine_append hu, hu]

theorem EndsLine.mem (h : EndsLine t) : '\n' ∈ t := List.mem_of_getLast? h

/-- Trimming at the front leaves the end of a text, unless it leaves nothing. -/
theorem endsLine_trimStart_iff : EndsLine (trimStart t) ↔ isBlankText t = false ∧ EndsLine t := by
  obtain ⟨gap, -, ht⟩ := exists_trimStart t
  cases hblank : isBlankText t with
  | true => simp [trimStart_eq_nil_iff.mpr hblank, EndsLine]
  | false =>
      conv_rhs => rw [ht, endsLine_append (trimStart_ne_nil hblank)]
      simp

/-- Neither the limit on blank lines nor trimming at the front moves the end of a line. -/
theorem startsLine_trimStart_iff :
    StartsLine (trimStart (limitLineFeeds 0 t)) ↔ isBlankText t = true ∨ EndsLine t := by
  have hblank : isBlankText (limitLineFeeds 0 t) = isBlankText t := by
    rw [Bool.eq_iff_iff, ← printed_eq_nil_iff, ← printed_eq_nil_iff, printed_limitLineFeeds]
  have hend : EndsLine (limitLineFeeds 0 t) ↔ EndsLine t := by
    rw [EndsLine, getLast?_limitLineFeeds, EndsLine]
  rw [StartsLine, trimStart_eq_nil_iff, endsLine_trimStart_iff, hblank, hend]
  cases isBlankText t <;> simp

/-! ## First lines -/

theorem firstLine_append_of_mem (h : '\n' ∈ t) (u : Text) : firstLine (t ++ u) = firstLine t := by
  obtain ⟨line, rest, rfl, hline⟩ := List.eq_append_cons_of_mem h
  have hall : ∀ c ∈ line, decide (c ≠ '\n') = true := fun c hc =>
    decide_eq_true (ne_of_mem_of_not_mem hc hline)
  rw [firstLine, firstLine, List.append_assoc, List.takeWhile_append_of_pos hall,
    List.takeWhile_append_of_pos hall]
  rfl

theorem firstLine_append_of_not_mem (h : '\n' ∉ t) (u : Text) :
    firstLine (t ++ u) = t ++ firstLine u :=
  List.takeWhile_append_of_pos fun _ hc => decide_eq_true (ne_of_mem_of_not_mem hc h)

theorem firstLine_limitLineFeeds (t : Text) : firstLine (limitLineFeeds 0 t) = firstLine t := by
  induction t with
  | nil => rfl
  | cons c t ih =>
      rw [limitLineFeeds]
      split
      · rename_i hc
        subst hc
        rfl
      · rename_i hc
        simp only [firstLine, List.takeWhile_cons, hc, ne_eq, not_false_eq_true, decide_true,
          if_true] at ih ⊢
        rw [ih]

theorem firstLine_subset (t : Text) : firstLine t ⊆ t := (List.takeWhile_prefix _).subset

/-- Trimming a text at its end trims its first line, if it reaches that line. -/
theorem trimEnd_firstLine_trimEnd (t : Text) :
    trimEnd (firstLine (trimEnd t)) = trimEnd (firstLine t) := by
  obtain ⟨gap, hgap, ht⟩ := exists_trimEnd t
  conv_rhs => rw [ht]
  by_cases hfeed : '\n' ∈ trimEnd t
  · rw [firstLine_append_of_mem hfeed]
  · have hline : isBlankText (firstLine gap) = true :=
      List.all_eq_true.mpr fun c hc => List.all_eq_true.mp hgap c (firstLine_subset gap hc)
    have hself : firstLine (trimEnd t) = trimEnd t := by
      simpa [firstLine] using firstLine_append_of_not_mem hfeed []
    rw [hself, firstLine_append_of_not_mem hfeed, trimEnd_append,
      if_pos (trimEnd_eq_nil_iff.mpr hline)]

/-- The limit on blank lines and the trimming do not reach across a character that is no blank. -/
theorem collapseBlankLines_append_cons {c : Char} (hc : isBlank c = false) (front rest : Text) :
    collapseBlankLines (front ++ c :: rest) =
      trimStart (limitLineFeeds 0 front) ++ trimEnd (limitLineFeeds 0 (c :: rest)) := by
  have hfeed : c ≠ '\n' := by
    rintro rfl
    exact absurd hc (by decide)
  have hhere : limitLineFeeds 0 (c :: rest) = c :: limitLineFeeds 0 rest := if_neg hfeed
  rw [collapseBlankLines, limitLineFeeds_append_cons hfeed, trim_append_cons hc, hhere]
  exact congrArg _ (trimEnd_append_cons hc [] _).symm

/-! ## Marks of blocks -/

namespace BlockMark

/-- What begins a block in Markdown, without the blank behind it. -/
def lead : BlockMark → Text
  | .heading level _ _ => List.replicate level.depth '#'
  | .item => ['-']
  | .figure _ => ['>']

/-- The heading that a command stands for. -/
def heading? : BlockMark → Option Text
  | .heading level _ title => some (level.marker ++ title)
  | .item => none
  | .figure _ => none

theorem lead_ne_nil (mark : BlockMark) : mark.lead ≠ [] := by
  cases mark with
  | heading level starred title => cases level <;> simp [lead, Level.depth]
  | item => simp [lead]
  | figure figure => simp [lead]

theorem isBlank_of_mem_lead {mark : BlockMark} {c : Char} (h : c ∈ mark.lead) :
    isBlank c = false := by
  have hchars : c = '#' ∨ c = '-' ∨ c = '>' := by
    cases mark with
    | heading level starred title => exact .inl (List.eq_of_mem_replicate h)
    | item => exact .inr (.inl (List.mem_singleton.mp h))
    | figure figure => exact .inr (.inr (List.mem_singleton.mp h))
  rcases hchars with rfl | rfl | rfl <;> decide

theorem lineFeed_not_mem_lead (mark : BlockMark) : '\n' ∉ mark.lead := fun hmem =>
  absurd (isBlank_of_mem_lead hmem) (by decide)

end BlockMark

namespace BlockPart

/-- A block is shown by its mark and what follows it. -/
theorem exists_shown_eq (part : BlockPart) : ∃ rest, part.shown = part.mark.lead ++ rest := by
  obtain ⟨mark, behind⟩ := part
  cases mark with
  | heading level starred title =>
      exact ⟨' ' :: (readPart title ++ (leftPart title ++ behind)), by
        simp [BlockMark.lead, shown, Level.marker]⟩
  | item => exact ⟨' ' :: trimStart behind, rfl⟩
  | figure figure =>
      obtain ⟨inner, hquote⟩ := figure.exists_quote_eq
      exact ⟨' ' :: (inner ++ ['\n'] ++ behind), by simp [BlockMark.lead, shown, hquote]⟩

theorem isBlankText_append_shown (front : Text) (part : BlockPart) :
    isBlankText (front ++ part.shown) = false := by
  obtain ⟨rest, hshown⟩ := part.exists_shown_eq
  obtain ⟨c, more, hlead⟩ := List.exists_cons_of_ne_nil part.mark.lead_ne_nil
  have hc : isBlank c = false := BlockMark.isBlank_of_mem_lead (hlead ▸ List.mem_cons_self ..)
  simp [hshown, hlead, isBlankText, hc]

/-- Where a block begins in a text, the limit on blank lines and the trimming deal with two texts,
and leave its mark. -/
theorem collapseBlankLines_append_shown (front : Text) (part : BlockPart) (rest : Text) :
    collapseBlankLines (front ++ (part.shown ++ rest)) =
      trimStart (limitLineFeeds 0 front) ++ trimEnd (limitLineFeeds 0 (part.shown ++ rest)) ∧
    part.mark.lead <+: trimEnd (limitLineFeeds 0 (part.shown ++ rest)) := by
  obtain ⟨more, hshown⟩ := part.exists_shown_eq
  obtain ⟨c, others, hlead⟩ := List.exists_cons_of_ne_nil part.mark.lead_ne_nil
  constructor
  · have hc : isBlank c = false := BlockMark.isBlank_of_mem_lead (hlead ▸ List.mem_cons_self ..)
    rw [hshown, hlead, List.cons_append, List.cons_append]
    exact collapseBlankLines_append_cons hc front _
  · rw [hshown, List.append_assoc,
      limitLineFeeds_line part.mark.lead_ne_nil part.mark.lineFeed_not_mem_lead]
    obtain ⟨init, last, hlast⟩ :=
      (List.eq_nil_or_concat' part.mark.lead).resolve_left part.mark.lead_ne_nil
    have hmem : last ∈ part.mark.lead := by simp [hlast]
    have hblank : isBlank last = false := BlockMark.isBlank_of_mem_lead hmem
    rw [hlast, List.append_assoc, List.singleton_append, trimEnd_append_cons hblank]
    exact ⟨trimEnd (limitLineFeeds 0 (more ++ rest)), by simp⟩

/-! ## Blocks that end a line -/

/-- A block ends a line of the source, so that the next one may begin a line.  The quotation of a
figure does so by itself, and the blanks behind the command of an item belong to the command. -/
def ClosesLine : BlockPart → Prop
  | ⟨.heading _ _ title, behind⟩ => EndsLine (readPart title ++ (leftPart title ++ behind))
  | ⟨.item, behind⟩ => isBlankText behind = false ∧ EndsLine behind
  | ⟨.figure _, behind⟩ => behind = [] ∨ EndsLine behind

instance : DecidablePred ClosesLine
  | ⟨.heading _ _ title, behind⟩ =>
    inferInstanceAs (Decidable (EndsLine (readPart title ++ (leftPart title ++ behind))))
  | ⟨.item, behind⟩ => inferInstanceAs (Decidable (isBlankText behind = false ∧ EndsLine behind))
  | ⟨.figure _, behind⟩ => inferInstanceAs (Decidable (behind = [] ∨ EndsLine behind))

/-- A heading with the text behind it has a first line with nothing but the title. -/
def IsAlone : BlockPart → Prop
  | ⟨.heading _ _ title, behind⟩ =>
    trimEnd (firstLine (readPart title ++ (leftPart title ++ behind))) = trimEnd title
  | ⟨.item, _⟩ => True
  | ⟨.figure _, _⟩ => True

theorem endsLine_shown_iff (part : BlockPart) : EndsLine part.shown ↔ part.ClosesLine := by
  obtain ⟨mark, behind⟩ := part
  cases mark with
  | heading level starred title =>
      have hmarker : ¬ EndsLine level.marker := by cases level <;> decide
      exact endsLine_append_of_not hmarker
  | item =>
      have hmarker : ¬ EndsLine ['-', ' '] := by decide
      exact (endsLine_append_of_not hmarker).trans endsLine_trimStart_iff
  | figure figure =>
      obtain ⟨inner, hshown⟩ := figure.exists_quote_eq
      have hquote : EndsLine figure.quote := by
        rw [hshown, ← List.cons_append, ← List.cons_append]
        exact (endsLine_append (List.cons_ne_nil _ _)).mpr rfl
      exact endsLine_append_iff hquote

/-- Behind a marker two texts differ but for blanks at their ends if they differ so themselves. -/
theorem trimEnd_marker_append_inj (level : Level) :
    trimEnd (level.marker ++ t) = trimEnd (level.marker ++ u) ↔ trimEnd t = trimEnd u := by
  have hmarker : (trimEnd level.marker).length < level.marker.length := by cases level <;> decide
  have hshort {v : Text} : trimEnd level.marker ≠ level.marker ++ v := fun heq => by
    have hlength := congrArg List.length heq
    rw [List.length_append] at hlength
    omega
  rw [trimEnd_append, trimEnd_append]
  split
  · rename_i ht
    split
    · rename_i hu
      rw [ht, hu]
      simp
    · rename_i hu
      rw [ht]
      exact iff_of_false hshort (Ne.symm hu)
  · rename_i ht
    split
    · rename_i hu
      rw [hu]
      exact iff_of_false hshort.symm ht
    · rw [List.append_cancel_left_eq]

/-- The line of a heading, where it is settled by the block alone. -/
theorem isAlone_iff (part : BlockPart) {rest : Text} (h : rest = [] ∨ part.ClosesLine) :
    (∀ heading ∈ part.mark.heading?,
      trimEnd (firstLine (trimEnd (limitLineFeeds 0 (part.shown ++ rest)))) = trimEnd heading) ↔
        part.IsAlone := by
  have hline : firstLine (part.shown ++ rest) = firstLine part.shown := by
    rcases h with rfl | hcloses
    · rw [List.append_nil]
    · exact firstLine_append_of_mem (part.endsLine_shown_iff.mpr hcloses).mem rest
  rw [trimEnd_firstLine_trimEnd, firstLine_limitLineFeeds, hline]
  obtain ⟨mark, behind⟩ := part
  cases mark with
  | heading level starred title =>
      have hmarker : '\n' ∉ level.marker := by cases level <;> decide
      simp only [BlockMark.heading?, Option.mem_def, Option.some.injEq, forall_eq']
      rw [shown, firstLine_append_of_not_mem hmarker, trimEnd_marker_append_inj]
      exact Iff.rfl
  | item => simp [BlockMark.heading?, IsAlone]
  | figure figure => simp [BlockMark.heading?, IsAlone]

/-- A title on one line, without braces of its own, has its line for itself if nothing but blanks
follow its command on the line. -/
theorem isAlone_heading_iff (level : Level) (starred : Bool) {title behind : Text}
    (hbrace : '}' ∉ title) (hfeed : '\n' ∉ title) :
    IsAlone ⟨.heading level starred title, behind⟩ ↔ isBlankText (firstLine behind) = true := by
  obtain ⟨hread, hleft⟩ := parts_of_not_mem hbrace
  rw [IsAlone, hread, hleft, List.nil_append, firstLine_append_of_not_mem hfeed, trimEnd_append,
    ← trimEnd_eq_nil_iff]
  split
  · rename_i hblank
    exact iff_of_true rfl hblank
  · rename_i hblank
    refine iff_of_false (fun heq => ?_) hblank
    have hlength := congrArg List.length heq
    have hshorter := (trimEnd_isPrefix title).length_le
    have hmore := List.length_pos_of_ne_nil hblank
    rw [List.length_append] at hlength
    omega

end BlockPart

/-! ## Documents whose blocks stand on lines of their own -/

namespace BlockDocument

/-- What comes of the text of a document in front of a block, by the blocks in front of it. -/
def front (doc : BlockDocument) (before : List BlockPart) : Text :=
  trimStart (limitLineFeeds 0 (doc.opening ++ before.flatMap BlockPart.shown))

/-- The blocks of a document stand on lines of their own in a text: behind what comes of the text in
front of a block a line begins, with the mark of the block, and a heading has this line for itself,
but for blanks at its end. -/
def OnLines (doc : BlockDocument) (result : Text) : Prop :=
  ∀ before part after, doc.parts = before ++ part :: after →
    ∃ tail, result = doc.front before ++ tail ∧ StartsLine (doc.front before) ∧
      part.mark.lead <+: tail ∧
      ∀ heading ∈ part.mark.heading?, trimEnd (firstLine tail) = trimEnd heading

/-- The blocks of a document stand on lines of their own in the source, as far as this matters: the
first one has nothing or the end of a line in front of it, each of the others the end of a line, and
behind a heading the line ends. -/
structure Separated (doc : BlockDocument) : Prop where
  opening : doc.parts ≠ [] → isBlankText doc.opening = true ∨ EndsLine doc.opening
  between : ∀ part ∈ doc.parts.dropLast, part.ClosesLine
  alone : ∀ part ∈ doc.parts, part.IsAlone

variable {doc : BlockDocument} {before after : List BlockPart} {part last : BlockPart}

theorem startsLine_front_nil :
    StartsLine (doc.front []) ↔ isBlankText doc.opening = true ∨ EndsLine doc.opening := by
  rw [front, List.flatMap_nil, List.append_nil, startsLine_trimStart_iff]

theorem startsLine_front_concat : StartsLine (doc.front (before ++ [last])) ↔ last.ClosesLine := by
  have hne : last.shown ≠ [] := ne_nil_of_not_isBlankText (last.isBlankText_append_shown [])
  rw [front, List.flatMap_append, List.flatMap_singleton, ← List.append_assoc,
    startsLine_trimStart_iff, last.isBlankText_append_shown, endsLine_append hne,
    last.endsLine_shown_iff]
  simp

theorem mem_dropLast_of_eq_append (h : doc.parts = before ++ part :: after) (hne : after ≠ []) :
    part ∈ doc.parts.dropLast := by
  rw [h, List.dropLast_append_of_ne_nil (List.cons_ne_nil _ _), List.dropLast_cons_of_ne_nil hne]
  simp

theorem exists_eq_append_of_mem_dropLast (h : part ∈ doc.parts.dropLast) :
    ∃ before next after, doc.parts = (before ++ [part]) ++ next :: after := by
  obtain ⟨before, more, hsplit⟩ := List.append_of_mem h
  have hne : doc.parts ≠ [] := by
    rintro hnil
    simp [hnil] at h
  have hparts := List.dropLast_append_getLast hne
  rw [hsplit] at hparts
  obtain ⟨next, after, hnext⟩ : ∃ next after, more ++ [doc.parts.getLast hne] = next :: after :=
    List.exists_cons_of_ne_nil (by simp)
  exact ⟨before, next, after, by rw [← hparts, ← hnext]; simp⟩

/-- Where every block but the last ends a line, the text behind a block does not reach into it. -/
theorem shown_eq_nil_or_closesLine (h : doc.parts = before ++ part :: after)
    (hbetween : ∀ part ∈ doc.parts.dropLast, part.ClosesLine) :
    after.flatMap BlockPart.shown = [] ∨ part.ClosesLine := by
  by_cases hne : after = []
  · exact .inl (by simp [hne])
  · exact .inr (hbetween part (mem_dropLast_of_eq_append h hne))

theorem collapseBlankLines_shown (h : doc.parts = before ++ part :: after) :
    collapseBlankLines doc.shown = doc.front before ++
      trimEnd (limitLineFeeds 0 (part.shown ++ after.flatMap BlockPart.shown)) := by
  have hshown : doc.shown = (doc.opening ++ before.flatMap BlockPart.shown) ++
      (part.shown ++ after.flatMap BlockPart.shown) := by
    simp [BlockDocument.shown, h]
  rw [hshown]
  exact (part.collapseBlankLines_append_shown _ _).1

theorem onLines_iff_separated : doc.OnLines (collapseBlankLines doc.shown) ↔ doc.Separated := by
  constructor
  · intro h
    have hbetween : ∀ part ∈ doc.parts.dropLast, part.ClosesLine := by
      intro part hpart
      obtain ⟨before, next, after, hparts⟩ := exists_eq_append_of_mem_dropLast hpart
      obtain ⟨-, -, hstarts, -⟩ := h _ next after hparts
      exact startsLine_front_concat.mp hstarts
    refine ⟨fun hne => ?_, hbetween, fun part hpart => ?_⟩
    · obtain ⟨part, after, hparts⟩ := List.exists_cons_of_ne_nil hne
      obtain ⟨-, -, hstarts, -⟩ := h [] part after hparts
      exact startsLine_front_nil.mp hstarts
    · obtain ⟨before, after, hparts⟩ := List.append_of_mem hpart
      obtain ⟨tail, htail, -, -, hline⟩ := h before part after hparts
      rw [collapseBlankLines_shown hparts] at htail
      rw [← List.append_cancel_left htail] at hline
      exact (part.isAlone_iff (shown_eq_nil_or_closesLine hparts hbetween)).mp hline
  · intro h before part after hparts
    have hline := part.isAlone_iff (shown_eq_nil_or_closesLine hparts h.between)
    refine ⟨_, collapseBlankLines_shown hparts, ?_, (part.collapseBlankLines_append_shown [] _).2,
      hline.mpr (h.alone part (by simp [hparts]))⟩
    rcases List.eq_nil_or_concat' before with rfl | ⟨init, last, rfl⟩
    · exact startsLine_front_nil.mpr (h.opening (by simp [hparts]))
    · refine startsLine_front_concat.mpr (h.between last ?_)
      rw [List.append_assoc, List.singleton_append] at hparts
      exact mem_dropLast_of_eq_append hparts (List.cons_ne_nil _ _)

end BlockDocument

/-- The blocks of plain prose come out on lines of their own, with nothing but its title on the line
of a heading, exactly if the source has the ends of lines for that. -/
theorem blocks_on_lines_iff (numbers : Citation.Numbering) {doc : BlockDocument} {body : Text}
    (hdoc : doc.IsPlain) (hbody : stripTwoColumn (eraseComments body) = doc.source)
    (hcite : ¬ "\\cite".toList <:+: eraseComments body) :
    doc.OnLines (toMarkdown numbers body) ↔ doc.Separated := by
  rw [toMarkdown_blockDocument numbers hdoc hbody hcite]
  exact BlockDocument.onLines_iff_separated

/-- A figure with a caption and a label. -/
def plotFigure : WrittenFigure :=
  ⟨true, "\\caption\x7bA plot\x7d\\label\x7bfig:p\x7d".toList, true⟩

/-- Blocks of each kind, most of them on lines of their own. -/
def separatedDocument : BlockDocument where
  opening := "\nText.\n".toList
  parts :=
    [⟨.heading .section false "Intro".toList, " \nHello\n\n\n\n".toList⟩,
      ⟨.item, "\n one\n".toList⟩,
      ⟨.figure plotFigure, "See above.\n".toList⟩,
      ⟨.heading .subsection true "Last".toList, []⟩]

theorem isPlain_plotFigure : plotFigure.IsPlain := by
  constructor <;> decide +kernel

theorem blocks_on_lines_of_separatedDocument :
    let body := '%' :: separatedDocument.source
    toMarkdown [] body =
        "Text.\n## Intro \nHello\n\n- one\n> A plot\nSee above.\n### Last".toList ∧
      separatedDocument.OnLines (toMarkdown [] body) := by
  intro body
  have hplain : separatedDocument.IsPlain := by
    refine ⟨by decide, List.forall_mem_cons.mpr ⟨⟨by decide, by decide⟩,
      List.forall_mem_cons.mpr ⟨⟨by decide, by decide⟩, List.forall_mem_cons.mpr ⟨?_,
        List.forall_mem_singleton.mpr ⟨by decide, by decide⟩⟩⟩⟩⟩
    exact ⟨by decide, isPlain_plotFigure⟩
  have hseparated : separatedDocument.Separated := by
    refine ⟨fun _ => .inr (by decide), by decide, List.forall_mem_cons.mpr ⟨?_,
      List.forall_mem_cons.mpr ⟨trivial, List.forall_mem_cons.mpr ⟨trivial,
        List.forall_mem_singleton.mpr ?_⟩⟩⟩⟩
    · exact (BlockPart.isAlone_heading_iff _ _ (by decide) (by decide)).mpr (by decide)
    · exact (BlockPart.isAlone_heading_iff _ _ (by decide) (by decide)).mpr (by decide)
  have hbody : stripTwoColumn (eraseComments body) = separatedDocument.source := by decide +kernel
  have hcite : ¬ "\\cite".toList <:+: eraseComments body := by decide +kernel
  exact ⟨(toMarkdown_blockDocument [] hplain hbody hcite).trans (by decide +kernel),
    (blocks_on_lines_iff [] hplain hbody hcite).mpr hseparated⟩

/-- The text behind the command of a section gets into the heading, and the mark of an item stands
where its command stood. -/
theorem blocks_run_into_text :
    let headed : BlockDocument :=
      ⟨[], [⟨.heading .section false "Intro".toList, "Hello".toList⟩]⟩
    let listed : BlockDocument := ⟨"See".toList, [⟨.item, " one".toList⟩]⟩
    (headed.IsPlain ∧ toMarkdown [] headed.source = "## IntroHello".toList ∧
      ¬ headed.OnLines (toMarkdown [] headed.source)) ∧
    (listed.IsPlain ∧ toMarkdown [] listed.source = "See- one".toList ∧
      ¬ listed.OnLines (toMarkdown [] listed.source)) := by
  intro headed listed
  have hheaded : toMarkdown [] headed.source = "## IntroHello".toList := by decide +kernel
  have hlisted : toMarkdown [] listed.source = "See- one".toList := by decide +kernel
  refine ⟨⟨⟨by decide, ?_⟩, hheaded, fun h => ?_⟩, ⟨by decide, ?_⟩, hlisted, fun h => ?_⟩
  · exact List.forall_mem_singleton.mpr ⟨by decide, by decide⟩
  · obtain ⟨tail, htail, -, -, hline⟩ := h [] _ [] rfl
    obtain rfl : "## IntroHello".toList = tail := hheaded.symm.trans htail
    exact absurd (hline _ rfl) (by decide)
  · exact List.forall_mem_singleton.mpr ⟨by decide, by decide⟩
  · obtain ⟨-, -, hstarts, -⟩ := h [] _ [] rfl
    exact absurd hstarts (by simp only [StartsLine]; decide)

end PaperHtml.Conversion
