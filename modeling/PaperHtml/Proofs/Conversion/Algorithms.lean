import Mathlib
import PaperHtml.Proofs.Conversion.Crossing
import PaperHtml.Proofs.Conversion.Fences
import PaperHtml.Proofs.Conversion.Listing

/-!
# Algorithms on their way through a conversion

The block that a conversion makes of an algorithm holds its statements as they
are written, provided that no other step finds anything to do in it.  Where one
does, the block is changed with the rest of the text: of all steps only the
fonts know of fences.

## Strategy

The source of an algorithm is carried through the steps in front of the labels,
then without its labels through the steps up to the one that makes the block,
and the block is carried through the rest.  The text in front is made into the
same text each time, whatever follows, so that this is about the block that
comes from this algorithm and no other.
-/

namespace PaperHtml.Conversion

open Text Latex

/-! ## Up to the block -/

theorem exists_environmentMark_eq (command env : Text) (starred : Bool) :
    ∃ t, environmentMark command env starred = '\\' :: (t ++ ['}']) :=
  ⟨command ++ '{' :: (if starred then env ++ ['*'] else env), by
    simp [environmentMark, braced]⟩

namespace AlgorithmMarks

variable (marks : AlgorithmMarks)

theorem exists_closing_eq : ∃ t, marks.closing = '\\' :: (t ++ ['}']) :=
  exists_environmentMark_eq _ _ _

/-- The source of an algorithm begins with a backslash and ends in a brace. -/
theorem exists_source_eq (inner : Text) : ∃ t, marks.source inner = '\\' :: (t ++ ['}']) := by
  obtain ⟨front, hfront⟩ :=
    exists_environmentMark_eq "begin".toList "algorithm".toList marks.starred
  obtain ⟨back, hback⟩ := marks.exists_closing_eq
  refine ⟨front ++ '}' :: (marks.noteSource ++ (inner ++ '\\' :: back)), ?_⟩
  rw [source, opening, hfront, hback]
  simp

/-- The opening mark ends in a character behind which no label goes on. -/
theorem exists_opening_eq : ∃ t c, marks.opening = t ++ [c] ∧ c ∉ "\\label".toList.dropLast := by
  obtain ⟨t, ht⟩ := exists_environmentMark_eq "begin".toList "algorithm".toList marks.starred
  rw [opening, ht, noteSource]
  cases marks.note with
  | none => exact ⟨'\\' :: t, '}', by simp, by decide⟩
  | some text => exact ⟨'\\' :: (t ++ '}' :: '[' :: text), ']', by simp, by decide⟩

end AlgorithmMarks

/-- A step that looks for commands leaves the source of an algorithm as it is if it finds none. -/
theorem spares_source {step : Step} {marks : AlgorithmMarks} {inner : Text}
    (hcommands : ∀ command ∈ step.commands, IsCommand command)
    (habsent : step.Absent (marks.source inner)) : step.Spares (marks.source inner) := by
  obtain ⟨t, ht⟩ := marks.exists_source_eq inner
  rw [ht] at habsent ⊢
  exact Step.spares_of_absent (t := '\\' :: t) hcommands (.inl rfl) habsent

theorem isCommand_labelStep : ∀ command ∈ labelStep.commands, IsCommand command := by
  decide

/-- The labels of an algorithm go, and nothing else. -/
theorem run_labelStep_source {marks : AlgorithmMarks} {inner : Text}
    (hopening : labelStep.Absent marks.opening) (hlabels : Labelled inner (stripLabels inner))
    (rest : Text) :
    ∃ rest', labelStep.run (marks.source inner ++ rest) =
      marks.source (stripLabels inner) ++ rest' := by
  obtain ⟨t, c, ht, hc⟩ := marks.exists_opening_eq
  have hopen (u : Text) : stripLabels (marks.opening ++ u) = marks.opening ++ stripLabels u := by
    rw [ht] at hopening ⊢
    refine Scanner.substitute_append_of_passed fun back hback hne => ?_
    exact Reader.scan_eq_none_of_absent (fun command hmem => List.mem_singleton.mp hmem ▸ hc)
      hopening hback hne u
  obtain ⟨back, hback⟩ := marks.exists_closing_eq
  obtain ⟨rest', hclosing⟩ : ∃ rest', stripLabels (marks.closing ++ rest) =
      marks.closing ++ rest' := by
    have habsent : labelStep.Absent marks.closing := by
      rw [AlgorithmMarks.closing]
      cases marks.endStarred <;> decide
    rw [hback] at habsent ⊢
    exact Step.spares_of_absent (t := '\\' :: back) isCommand_labelStep (.inl rfl) habsent rest
  refine ⟨rest', ?_⟩
  rw [hback] at hclosing
  rw [run_labelStep, AlgorithmMarks.source, AlgorithmMarks.source, List.append_assoc,
    List.append_assoc, hopen, hback, List.cons_append, hlabels.stripLabels_append,
    ← List.cons_append, hclosing]
  simp

/-- The marks are the marks of an algorithm with labels that can be told from its statements: they
enclose what is left without the labels, and none of the labels is in the note. -/
structure AlgorithmMarks.Hold (marks : AlgorithmMarks) (inner : Text) : Prop where
  enclose : marks.Enclose (stripLabels inner)
  labels : Labelled inner (stripLabels inner)
  opening : labelStep.Absent marks.opening

/-- A conversion up to its algorithms makes the block of an algorithm of the statements that are
written there. -/
theorem runSteps_algorithm {early middle : List Step} {render : List Text → Text}
    {marks : AlgorithmMarks} {inner before front : Text}
    (hcommands : ∀ step ∈ early ++ labelStep :: (middle ++ [.every (.algorithm render)]),
      ∀ command ∈ step.commands, IsCommand command)
    (hclear : Clear '\\'
      (early ++ labelStep :: (middle ++ [.every (.algorithm render)])) before front)
    (hmarks : marks.Hold inner) (hearly : ∀ step ∈ early, step.Absent (marks.source inner))
    (hmiddle : ∀ step ∈ middle, step.Absent (marks.source (stripLabels inner))) (after : Text) :
    ∃ back, runSteps (early ++ labelStep :: (middle ++ [.every (.algorithm render)]))
        (before ++ (marks.source inner ++ after)) =
      front ++ (render (algorithmLines inner) ++ back) := by
  obtain ⟨t, ht⟩ := marks.exists_source_eq inner
  obtain ⟨u, hu⟩ := marks.exists_source_eq (stripLabels inner)
  obtain ⟨before₁, hclear₁, before₂, hlabel, hclear⟩ := clear_append.mp hclear
  obtain ⟨before₃, hclear₂, between, halgorithm, rfl⟩ := clear_append.mp hclear
  have hspares : ∀ step ∈ early, step.Spares (marks.source inner) := fun step hstep =>
    spares_source (hcommands step (List.mem_append_left _ hstep)) (hearly step hstep)
  have hspares' : ∀ step ∈ middle, step.Spares (marks.source (stripLabels inner)) := by
    intro step hstep
    have hmem : step ∈ labelStep :: (middle ++ [.every (.algorithm render)]) :=
      List.mem_cons_of_mem _ (List.mem_append_left _ hstep)
    exact spares_source (hcommands step (List.mem_append_right _ hmem)) (hmiddle step hstep)
  -- the four parts of the run, each with what has become of the text behind the algorithm
  rw [ht] at hspares
  rw [hu] at hspares'
  obtain ⟨after₁, hrun₁⟩ := runSteps_block hclear₁ hspares after
  obtain ⟨after₂, hrun₂⟩ := run_labelStep_source hmarks.opening hmarks.labels after₁
  obtain ⟨after₃, hrun₃⟩ := runSteps_block hclear₂ hspares' after₂
  have hblock : (Step.every (.algorithm render)).run (marks.source (stripLabels inner) ++ after₃) =
      render (algorithmLines inner) ++ (Step.every (.algorithm render)).run after₃ := by
    refine Scanner.substitute_append_of_some (by rw [hu]; exact List.cons_ne_nil _ _) ?_
    simp only [Reader.algorithm, Scanner.map, AlgorithmMarks.notedEnvironment_source hmarks.enclose,
      hmarks.labels.algorithmLines_eq, Option.map_some]
  refine ⟨(Step.every (.algorithm render)).run after₃, ?_⟩
  rw [ht] at hrun₂
  rw [hu] at hrun₂ hblock
  rw [runSteps_append, ht, hrun₁, runSteps_cons, List.cons_append, hlabel.run_eq rfl,
    ← List.cons_append, hrun₂, runSteps_append, hrun₃, runSteps_cons, runSteps_nil,
    List.cons_append, halgorithm.run_eq rfl, ← List.cons_append, hblock]

/-! ## Markdown -/

namespace Markdown

theorem isCommand_stepsToAlgorithms (numbers : Citation.Numbering) :
    ∀ step ∈ stepsToAlgorithms numbers, ∀ command ∈ step.commands, IsCommand command := by
  have heq : (stepsToAlgorithms numbers).map Step.commands =
      (stepsToAlgorithms (.ofList [])).map Step.commands := rfl
  exact isCommand_of_map_eq heq (by decide)

theorem isCommand_lateSteps :
    ∀ step ∈ figureStep :: lateSteps, ∀ command ∈ step.commands, IsCommand command := by
  decide

/-- No step reads from the text before an algorithm into the algorithm, and `front` is what becomes
of it. -/
def Apart (numbers : Citation.Numbering) (before front : Text) : Prop :=
  ∃ upToBlock upToFonts upToEnd,
    Clear '\\' (stepsToAlgorithms numbers) before upToBlock ∧
      Clear '`' [figureStep] (upToBlock ++ ['\n']) upToFonts ∧ FenceApart upToFonts ∧
        Clear '`' lateSteps (textStyles upToFonts) upToEnd ∧
          front = trimStart (limitLineFeeds 0 upToEnd)

/-- No step but the one that makes the block finds anything to do in an algorithm. -/
structure Unread (numbers : Citation.Numbering) (marks : AlgorithmMarks) (inner : Text) :
    Prop where
  early : ∀ step ∈ earlySteps numbers, step.Absent (marks.source inner)
  macros : ∀ step ∈ macroSteps, step.Absent (marks.source (stripLabels inner))
  late : ∀ step ∈ figureStep :: lateSteps, step.Absent (fenced (algorithmLines inner))
  backticks : '`' ∉ inner

theorem runSteps_fenced {steps : List Step} (hsteps : steps ⊆ figureStep :: lateSteps)
    {front front' : Text} (hclear : Clear '`' steps front front') {ls : List Text}
    (habsent : ∀ step ∈ figureStep :: lateSteps, step.Absent (fenced ls)) (rest : Text) :
    ∃ rest', runSteps steps (front ++ (fenced ls ++ rest)) = front' ++ (fenced ls ++ rest') := by
  have hend : fenced ls = ['`', '`', '`'] ++ (fenceBody ls ++ ['`', '`']) ++ ['`'] := by
    simp [fenced]
  have hspares : ∀ step ∈ steps, step.Spares (fenced ls) := by
    intro step hstep
    have hhere := habsent step (hsteps hstep)
    rw [hend] at hhere ⊢
    exact Step.spares_of_absent (isCommand_lateSteps step (hsteps hstep)) (.inr rfl) hhere
  exact runSteps_block hclear hspares rest

/-- The fenced block of an algorithm holds its statements as they are written. -/
theorem toMarkdown_algorithm {numbers : Citation.Numbering} {marks : AlgorithmMarks}
    {inner before front : Text} (hbefore : Apart numbers before front) (hmarks : marks.Hold inner)
    (hunread : Unread numbers marks inner) (after : Text) :
    ∃ back, toMarkdown numbers (before ++ (marks.source inner ++ after)) =
      front ++ (fenced (algorithmLines inner) ++ back) := by
  obtain ⟨upToBlock, upToFonts, upToEnd, hblock, hfigure, hfence, hlate, rfl⟩ := hbefore
  have hlines : ∀ line ∈ algorithmLines inner, line ≠ [] ∧ '\n' ∉ line :=
    fun line hline => ⟨(of_mem_algorithmLines hline).1, (of_mem_algorithmLines hline).2.1⟩
  have hbackticks : '`' ∉ unlines (algorithmLines inner) := by
    intro hmem
    rcases mem_of_mem_unlines hmem with hfeed | ⟨line, hline, htick⟩
    · exact absurd hfeed (by decide)
    · exact hunread.backticks ((of_mem_algorithmLines hline).2.2 htick)
  obtain ⟨after₁, hrun₁⟩ := runSteps_algorithm (isCommand_stepsToAlgorithms numbers) hblock
    hmarks hunread.early hunread.macros after
  have hrender : "\n```text\n".toList ++ unlines (algorithmLines inner) ++ "\n```\n".toList =
      ['\n'] ++ (fenced (algorithmLines inner) ++ ['\n']) := by
    simp [fenced, fenceBody]
  obtain ⟨after₂, hrun₂⟩ := runSteps_fenced (List.cons_subset_cons _ (List.nil_subset _)) hfigure
    hunread.late ('\n' :: after₁)
  obtain ⟨after₃, hrun₃⟩ := runSteps_fenced (List.subset_cons_self ..) hlate hunread.late
    (textStyles after₂)
  refine ⟨trimEnd (limitLineFeeds 0 after₃), ?_⟩
  have hjoin (block rest : Text) : upToBlock ++ (['\n'] ++ (block ++ ['\n']) ++ rest) =
      upToBlock ++ ['\n'] ++ (block ++ '\n' :: rest) := by
    simp
  rw [toMarkdown_eq]
  rw [stepsToAlgorithms, algorithmStep]
  rw [hrun₁, hrender, hjoin, hrun₂, textStyles_fenced hfence hbackticks, hrun₃,
    collapseBlankLines_fenced hlines]

end Markdown

/-! ## Plain LaTeX -/

namespace Plain

theorem isCommand_stepsToAlgorithms (numbers : Citation.Numbering) :
    ∀ step ∈ stepsToAlgorithms numbers, ∀ command ∈ step.commands, IsCommand command := by
  have heq : (stepsToAlgorithms numbers).map Step.commands =
      (stepsToAlgorithms (.ofList [])).map Step.commands := rfl
  exact isCommand_of_map_eq heq (by decide)

/-- Lines in a verbatim block. -/
def verbatim (ls : List Text) : Text :=
  inEnvironment "verbatim".toList ('\n' :: unlines ls ++ ['\n'])

/-- No step reads from the text before an algorithm into the algorithm, and `front` is what becomes
of it. -/
def Apart (numbers : Citation.Numbering) (before front : Text) : Prop :=
  ∃ upToBlock, Clear '\\' (stepsToAlgorithms numbers) before upToBlock ∧
    front = addPrelude upToBlock

/-- No step but the one that makes the block finds anything to do in an algorithm. -/
structure Unread (numbers : Citation.Numbering) (marks : AlgorithmMarks) (inner : Text) :
    Prop where
  early : ∀ step ∈ earlySteps, step.Absent (marks.source inner)
  middle : ∀ step ∈ middleSteps numbers, step.Absent (marks.source (stripLabels inner))

/-- The verbatim block of an algorithm holds its statements as they are written. -/
theorem toPlainLatex_algorithm {numbers : Citation.Numbering} {marks : AlgorithmMarks}
    {inner before front : Text} (hbefore : Apart numbers before front) (hmarks : marks.Hold inner)
    (hunread : Unread numbers marks inner) (after : Text) :
    ∃ back, toPlainLatex numbers (before ++ (marks.source inner ++ after)) =
      front ++ (verbatim (algorithmLines inner) ++ back) := by
  obtain ⟨upToBlock, hblock, rfl⟩ := hbefore
  obtain ⟨back, hrun⟩ := runSteps_algorithm (isCommand_stepsToAlgorithms numbers) hblock hmarks
    hunread.early hunread.middle after
  refine ⟨back, ?_⟩
  rw [toPlainLatex_eq, stepsToAlgorithms, algorithmStep, hrun, addPrelude, addPrelude, verbatim]
  simp only [List.append_assoc, List.cons_append]

end Plain

/-! ## Both conversions -/

/-- Algorithm bodies stay raw: the fenced block and the verbatim block that come from an algorithm
hold its statements as they are written, if no other step finds anything to do in it. -/
theorem algorithm_kept {numbers : Citation.Numbering} {marks : AlgorithmMarks} {inner : Text}
    (hmarks : marks.Hold inner) :
    (∀ before front, Markdown.Apart numbers before front → Markdown.Unread numbers marks inner →
      ∀ after, ∃ back, toMarkdown numbers (before ++ (marks.source inner ++ after)) =
        front ++ (Markdown.fenced (algorithmLines inner) ++ back)) ∧
    (∀ before front, Plain.Apart numbers before front → Plain.Unread numbers marks inner →
      ∀ after, ∃ back, toPlainLatex numbers (before ++ (marks.source inner ++ after)) =
        front ++ (Plain.verbatim (algorithmLines inner) ++ back)) :=
  ⟨fun _ _ hbefore hunread after => Markdown.toMarkdown_algorithm hbefore hmarks hunread after,
    fun _ _ hbefore hunread after => Plain.toPlainLatex_algorithm hbefore hmarks hunread after⟩

/-- The marks of an algorithm with a note. -/
def notedMarks : AlgorithmMarks := ⟨false, some "t".toList, false, by decide⟩

/-- A caption on a line of its own. -/
def captionLine : Text :=
  "\n".toList ++ (Plain.applied "caption".toList "Train".toList ++ "\n".toList)

def listing : Text :=
  "\n\\begin{algorithmic}[1]\n\\State \\textbf{init}\n\n\\EndFor\n\\end{algorithmic}\n".toList

/-- A listing with a caption and a label. -/
def labelledListing : Text := captionLine ++ (labelSource "alg:train".toList ++ listing)

theorem hold_labelledListing : notedMarks.Hold labelledListing := by
  have hbare : stripLabels labelledListing = captionLine ++ listing := by decide +kernel
  have hcaption : ListingEnds captionLine :=
    (listingEnds_of_prose (by decide)).append
      ((listingEnds_caption (by decide)).append (listingEnds_of_prose (by decide)))
  refine ⟨⟨by decide, ?_⟩, ?_, by decide +kernel⟩
  · rw [hbare]
    decide +kernel
  · rw [hbare]
    exact .label (by decide +kernel) hcaption (by decide) (.plain (by decide +kernel))

theorem algorithm_kept_of_labelled :
    (∃ back, toMarkdown (.ofList [("a".toList, 1)]) ("Text.\n".toList ++
        (notedMarks.source labelledListing ++ "See \\cite{a}.".toList)) =
      "Text.\n\n".toList ++ (Markdown.fenced (algorithmLines labelledListing) ++ back)) ∧
    (∃ back, toPlainLatex (.ofList [("a".toList, 1)]) ("Text.\n".toList ++
        (notedMarks.source labelledListing ++ "See \\cite{a}.".toList)) =
      Plain.addPrelude "Text.\n".toList ++
        (Plain.verbatim (algorithmLines labelledListing) ++ back)) := by
  obtain ⟨hmarkdown, hplain⟩ :=
    @algorithm_kept (.ofList [("a".toList, 1)]) _ _ hold_labelledListing
  constructor
  · refine hmarkdown _ _ ⟨"Text.\n".toList, "Text.\n\n".toList, "Text.\n\n".toList,
      ?_, ?_, ?_, ?_, by decide⟩ ?_ _
    · exact clear_of_prose (Markdown.isCommand_stepsToAlgorithms _) (by decide) (by decide)
        (by decide) (by decide)
    · exact clear_of_prose (fun step hstep => Markdown.isCommand_lateSteps step
        (List.mem_singleton.mp hstep ▸ List.mem_cons_self ..)) (by decide) (by decide)
        (by decide) (by decide)
    · exact Markdown.fenceApart_of_not_mem (by decide)
    · have hstyles : Markdown.textStyles "Text.\n\n".toList = "Text.\n\n".toList := by
        decide +kernel
      rw [hstyles]
      exact clear_of_prose (fun step hstep => Markdown.isCommand_lateSteps step
        (List.mem_cons_of_mem _ hstep)) (by decide) (by decide) (by decide) (by decide)
    · exact ⟨by decide +kernel, by decide +kernel, by decide +kernel, by decide +kernel⟩
  · refine hplain _ _ ⟨"Text.\n".toList, ?_, rfl⟩ ⟨by decide +kernel, by decide +kernel⟩ _
    exact clear_of_prose (Plain.isCommand_stepsToAlgorithms _) (by decide) (by decide)
      (by decide) (by decide)

/-- A citation in an algorithm becomes a link in the block: the passes in front of the one that
makes the block know nothing of it. -/
theorem citation_in_algorithm :
    toMarkdown (.ofList [("a".toList, 1)])
        "\\begin{algorithm}\nfoo \\cite{a}\n\\end{algorithm}".toList =
      Markdown.fenced
        ["foo <a class=\"citation\" href=\"#ref-a\" data-cite-key=\"a\">[1]</a>".toList] ∧
    toPlainLatex (.ofList [("a".toList, 1)])
        "\\begin{algorithm}\nfoo \\cite{a}\n\\end{algorithm}".toList =
      Plain.addPrelude (Plain.verbatim ["foo \\href\x7b#ref-a\x7d\x7b[1]\x7d".toList]) ∧
    algorithmLines "\nfoo \\cite{a}\n".toList = ["foo \\cite{a}".toList] := by
  decide +kernel

end PaperHtml.Conversion
