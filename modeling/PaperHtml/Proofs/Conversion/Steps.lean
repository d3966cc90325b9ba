import Mathlib
import PaperHtml.Conversion.Pass
import PaperHtml.Proofs.Text.Seams

/-!
# The steps of the two conversions

Most passes of a conversion take several steps, and nearly every step is a scan
for some command.  A `Reader` is such a scanner together with the commands
without which it recognises nothing; a `Step` scans for a reader, or deals with
lines.  Here the passes are written as lists of steps.

## Strategy

That a scanner needs a command is shown from the front: whatever comes after
dropping the command from the text can only fail more often (`Needs.bind`,
`Needs.map`).  So each reader rests on what its scanner drops first.
-/

namespace PaperHtml.Conversion

open Text Latex

variable {α β : Type}

/-! ## What a scanner needs -/

/-- Something is found at the front of a text only if the text begins with one of the commands. -/
def Needs (commands : List Text) (find : Text → Option α) : Prop :=
  ∀ t a, find t = some a → ∃ command ∈ commands, command <+: t

namespace Needs

variable {commands : List Text} {find : Text → Option α}

theorem bind (h : Needs commands find) (next : Text → α → Option β) :
    Needs commands fun t => (find t).bind (next t) := by
  intro t b hb
  obtain ⟨a, ha, -⟩ := Option.bind_eq_some_iff.mp hb
  exact h t a ha

theorem map (h : Needs commands find) (change : Text → α → β) :
    Needs commands fun t => (find t).map (change t) := by
  intro t b hb
  obtain ⟨a, ha, -⟩ := Option.map_eq_some_iff.mp hb
  exact h t a ha

theorem filter (h : Needs commands find) (keep : α → Bool) :
    Needs commands fun t => (find t).filter keep := by
  intro t a ha
  exact h t a (Option.filter_eq_some_iff.mp ha).1

/-- One of two things is found only where the commands of one of them are. -/
theorem or {others : List Text} {other : Text → Option α} (h : Needs commands find)
    (hother : Needs others other) : Needs (commands ++ others) fun t => (find t).or (other t) := by
  intro t a ha
  rcases Option.or_eq_some_iff.mp ha with hhere | ⟨-, hthere⟩
  · obtain ⟨command, hmem, hbegins⟩ := h t a hhere
    exact ⟨command, List.mem_append_left _ hmem, hbegins⟩
  · obtain ⟨command, hmem, hbegins⟩ := hother t a hthere
    exact ⟨command, List.mem_append_right _ hmem, hbegins⟩

end Needs

theorem needs_dropPrefix? (command : Text) : Needs [command] (dropPrefix? command) :=
  fun _ after h => ⟨command, List.mem_singleton_self _, after, (dropPrefix?_eq_some_iff.mp h).symm⟩

theorem needs_dropCommand? (name : Text) : Needs ['\\' :: name] (dropCommand? name) :=
  needs_dropPrefix? _

/-- One of a list of texts behind a command is needed together with the command. -/
theorem needs_dropAny? (command : Text) (texts : List Text) :
    Needs (texts.map (command ++ ·)) fun t => (dropPrefix? command t).bind (dropAny? texts) := by
  intro t after h
  obtain ⟨rest, hcommand, hrest⟩ := Option.bind_eq_some_iff.mp h
  obtain rfl := dropPrefix?_eq_some_iff.mp hcommand
  clear h hcommand
  induction texts with
  | nil => simp [dropAny?] at hrest
  | cons text texts ih =>
      rw [dropAny?, Option.or_eq_some_iff] at hrest
      rcases hrest with hhere | ⟨-, hmore⟩
      · obtain rfl := dropPrefix?_eq_some_iff.mp hhere
        exact ⟨command ++ text, List.mem_cons_self .., after, List.append_assoc ..⟩
      · obtain ⟨found, hmem, hbegins⟩ := ih hmore
        exact ⟨found, List.mem_cons_of_mem _ hmem, hbegins⟩

/-- The mark of an environment: the command that opens or closes it, with the name. -/
def environmentMark (command env : Text) (starred : Bool) : Text :=
  '\\' :: command ++ braced (if starred then env ++ ['*'] else env)

/-- The marks of an environment, without and with a star. -/
def environmentMarks (command env : Text) : List Text :=
  [environmentMark command env false, environmentMark command env true]

theorem dropEnvironmentName?_eq_some {env t after : Text}
    (h : dropEnvironmentName? env t = some after) :
    ∃ starred : Bool, t = braced (if starred then env ++ ['*'] else env) ++ after := by
  obtain ⟨rest, hname, hclose⟩ := Option.bind_eq_some_iff.mp h
  obtain rfl := dropPrefix?_eq_some_iff.mp hname
  have hrest := dropPrefix?_eq_some_iff.mp hclose
  cases rest with
  | nil => simp [dropStar, dropOptional] at hrest
  | cons c rest =>
      by_cases hc : c = '*'
      · refine ⟨true, ?_⟩
        rw [dropStar, dropOptional, if_pos hc] at hrest
        simp [hc, hrest, braced]
      · refine ⟨false, ?_⟩
        rw [dropStar, dropOptional, if_neg hc] at hrest
        simp [hrest, braced]

theorem needs_environmentName (command env : Text) :
    Needs (environmentMarks command env) fun t =>
      (dropCommand? command t).bind (dropEnvironmentName? env) := by
  intro t after h
  obtain ⟨rest, hcommand, hrest⟩ := Option.bind_eq_some_iff.mp h
  obtain rfl := dropPrefix?_eq_some_iff.mp hcommand
  obtain ⟨starred, rfl⟩ := dropEnvironmentName?_eq_some hrest
  refine ⟨environmentMark command env starred, ?_, after, List.append_assoc ..⟩
  cases starred <;> simp [environmentMarks]

theorem exists_of_firstM_eq_some {find : α → Option β} {names : List α} {b : β}
    (h : names.firstM find = some b) : ∃ name ∈ names, find name = some b := by
  induction names with
  | nil => simp [List.firstM] at h
  | cons name names ih =>
      cases hhere : find name with
      | some found =>
          simp only [List.firstM, hhere] at h
          exact ⟨name, List.mem_cons_self .., hhere.trans h⟩
      | none =>
          simp only [List.firstM, hhere] at h
          obtain ⟨other, hother, hfound⟩ := ih h
          exact ⟨other, List.mem_cons_of_mem _ hother, hfound⟩

theorem eq_none_of_firstM_eq_none {find : α → Option β} {names : List α}
    (h : names.firstM find = none) : ∀ name ∈ names, find name = none := by
  induction names with
  | nil => exact List.forall_mem_nil _
  | cons name names ih =>
      cases hhere : find name with
      | some found => simp [List.firstM, hhere] at h
      | none =>
          simp only [List.firstM, hhere] at h
          exact List.forall_mem_cons.mpr ⟨hhere, ih h⟩

/-- One of several whole commands. -/
theorem needs_firstM (names : List String) :
    Needs (names.map fun name => '\\' :: name.toList) fun t =>
      names.firstM fun name => dropWholeCommand? name.toList t := by
  intro t after h
  obtain ⟨name, hname, hfound⟩ := exists_of_firstM_eq_some h
  obtain ⟨command, hmem, hbegins⟩ := (needs_dropCommand? name.toList).filter _ t after hfound
  rw [List.mem_singleton.mp hmem] at hbegins
  exact ⟨_, List.mem_map_of_mem hname, hbegins⟩

/-! ## Readers and steps -/

/-- A scanner with the commands one of which it needs. -/
structure Reader where
  scan : Scanner Text
  commands : List Text
  needs : Needs commands scan

namespace Reader

/-- A fixed text, replaced. -/
def literal (old new : Text) : Reader :=
  ⟨Scanner.literal old new, [old], (needs_dropPrefix? old).map _⟩

/-- A command with a plain argument. -/
def argument (name : Text) (render : Text → Text) : Reader :=
  ⟨withArgument name render, ['\\' :: name], (needs_dropCommand? name).bind _⟩

/-- A command with a plain argument, which may carry a star. -/
def starredArgument (name : Text) (render : Text → Text) : Reader :=
  ⟨withStarredArgument name render, ['\\' :: name], (needs_dropCommand? name).bind _⟩

/-- A command with an optional note and a plain argument. -/
def notedArgument (name : Text) (render : Text → Text) : Reader :=
  ⟨withNotedArgument name render, ['\\' :: name], (needs_dropCommand? name).bind _⟩

/-- A citation command. -/
def citation (style : Citation.LinkStyle) (numbers : Citation.Numbering) : Reader where
  scan := Scanner.map (Citation.linkKeys style numbers) Citation.command?
  commands := ["\\cite".toList]
  needs := ((needs_dropCommand? "cite".toList).bind _).map _

/-- A package line. -/
def package : Reader where
  scan t := (dropPackageLine? t).map fun after => ([], after)
  commands := ["\\usepackage".toList]
  needs := ((needs_dropCommand? "usepackage".toList).bind _).map _

/-- The opening mark of a list, with its note. -/
def listBegin : Reader where
  scan t := ((Markdown.dropListMark? "begin".toList t).map dropNote).map fun after => ([], after)
  commands := ["\\begin{itemize}".toList, "\\begin{enumerate}".toList]
  needs := ((needs_dropAny? "\\begin".toList
    [braced "itemize".toList, braced "enumerate".toList]).map _).map _

/-- The closing mark of a list. -/
def listEnd : Reader where
  scan t := (Markdown.dropListMark? "end".toList t).map fun after => ([], after)
  commands := ["\\end{itemize}".toList, "\\end{enumerate}".toList]
  needs := (needs_dropAny? "\\end".toList
    [braced "itemize".toList, braced "enumerate".toList]).map _

/-- The command of a list item. -/
def item : Reader where
  scan t := (Markdown.dropItem? t).map fun rest => (['-', ' '], rest)
  commands := ["\\item".toList]
  needs := (((needs_dropCommand? "item".toList).filter _).map _).map _

/-- An environment of formulas. -/
def formula (env : Text) (render : Text → Text) : Reader where
  scan := Scanner.map render (environment env)
  commands := environmentMarks "begin".toList env
  needs := ((needs_environmentName "begin".toList env).bind _).map _

/-- A figure. -/
def figure (render : Text → Text) : Reader where
  scan := Scanner.map render (environmentSource "figure".toList)
  commands := environmentMarks "begin".toList "figure".toList
  needs := (((needs_environmentName "begin".toList "figure".toList).bind _).map _).map _

/-- An algorithm. -/
def algorithm (render : List Text → Text) : Reader where
  scan := Scanner.map (fun inner => render (algorithmLines inner))
    (notedEnvironment "algorithm".toList)
  commands := environmentMarks "begin".toList "algorithm".toList
  needs := ((needs_environmentName "begin".toList "algorithm".toList).bind _).map _

/-- The opening mark of an environment that is flattened. -/
def theoremOpening (render : Text → Text) (kind : TheoremKind) : Reader where
  scan := Scanner.map (fun name => render (namedLabel kind.label name)) (theoremBegin kind.env)
  commands := environmentMarks "begin".toList kind.env
  needs := ((needs_environmentName "begin".toList kind.env).map _).map _

/-- The closing mark of an environment that is flattened. -/
def theoremClosing (kind : TheoremKind) : Reader where
  scan t := (dropEnd? kind.env t).map fun after => ([], after)
  commands := environmentMarks "end".toList kind.env
  needs := (needs_environmentName "end".toList kind.env).map _

/-- The command of emphasis. -/
def emphasis : Reader where
  scan := Markdown.emphasis
  commands := ["\\emph".toList, "\\textit".toList]
  needs := ((needs_dropCommand? "emph".toList).or (needs_dropCommand? "textit".toList)).bind _

/-- A page command. -/
def pageCommand : Reader where
  scan t := (dropPageCommand? t).map fun after => ([], after)
  commands := ["newpage", "clearpage", "onecolumn", "twocolumn"].map fun name => '\\' :: name.toList
  needs := (needs_firstM _).map _

end Reader

/-- A step of a conversion. -/
inductive Step where
  /-- Every occurrence replaced. -/
  | every (reader : Reader)
  /-- The first occurrence replaced. -/
  | first (reader : Reader)
  /-- Comment lines made empty. -/
  | comments
  /-- Bracket lines made empty. -/
  | brackets

namespace Step

/-- A text after a step. -/
def run : Step → Text → Text
  | every reader => Scanner.substitute reader.scan
  | first reader => Scanner.substituteFirst reader.scan
  | comments => eraseComments
  | brackets => fun t => unlines (eraseBracketLines false (lines t))

/-- The commands that a step looks for. -/
def commands : Step → List Text
  | every reader => reader.commands
  | first reader => reader.commands
  | comments => []
  | brackets => []

end Step

/-- A text after a list of steps. -/
def runSteps (steps : List Step) (t : Text) : Text := steps.foldl (fun t step => step.run t) t

@[simp] theorem runSteps_nil (t : Text) : runSteps [] t = t := rfl

@[simp] theorem runSteps_cons (step : Step) (steps : List Step) (t : Text) :
    runSteps (step :: steps) t = runSteps steps (step.run t) := rfl

theorem runSteps_append (steps more : List Step) (t : Text) :
    runSteps (steps ++ more) t = runSteps more (runSteps steps t) := List.foldl_append

/-! ## Passes as steps -/

open Reader Step

/-- Two column headings. -/
def twoColumnSteps : List Step := [every (literal "\\twocolumn[".toList []), brackets]

/-- Package lines and bibliography commands. -/
def preambleSteps : List Step :=
  every package ::
    ["bibliographystyle", "addbibresource", "bibliography"].map fun name =>
      every (argument name.toList fun _ => [])

theorem runSteps_twoColumnSteps (t : Text) : runSteps twoColumnSteps t = stripTwoColumn t := rfl

theorem runSteps_preambleSteps (t : Text) : runSteps preambleSteps t = stripPreamble t := rfl

/-- Labels. -/
def labelStep : Step := every (argument "label".toList fun _ => [])

/-- Page commands. -/
def pageStep : Step := every pageCommand

theorem run_labelStep (t : Text) : labelStep.run t = stripLabels t := rfl

theorem run_pageStep (t : Text) : pageStep.run t = stripPageCommands t := rfl

/-- Environments that are flattened. -/
def theoremSteps (render : Text → Text) (kinds : List TheoremKind) : List Step :=
  kinds.flatMap fun kind => [every (theoremOpening render kind), every (theoremClosing kind)]

theorem runSteps_theoremSteps (render : Text → Text) (kinds : List TheoremKind) (t : Text) :
    runSteps (theoremSteps render kinds) t = flattenTheorems render kinds t := by
  rw [runSteps, theoremSteps, List.foldl_flatMap]
  rfl

namespace Markdown

/-- The title, the authors and their addresses. -/
def titleSteps : List Step :=
  let line (render : Text → Text) (arg : Text) : Text := render arg ++ ['\n']
  [first (argument "aistatstitle".toList (line (heading 1))),
    first (argument "title".toList (line (heading 1))),
    first (argument "aistatsauthor".toList (line (enclose ['*']))),
    first (argument "aistatsaddress".toList (line (enclose ['*']))),
    first (argument "author".toList (line (enclose ['*']))),
    every (literal "\\maketitle".toList [])]

/-- The abstract. -/
def abstractSteps : List Step :=
  [first (literal ("\\begin".toList ++ braced "abstract".toList) (heading 3 "Abstract\n".toList)),
    first (literal ("\\end".toList ++ braced "abstract".toList) ['\n'])]

/-- Sections. -/
def sectionSteps : List Step :=
  [every (starredArgument "section".toList (heading 2)),
    every (starredArgument "subsection".toList (heading 3)),
    every (starredArgument "subsubsection".toList (heading 4))]

/-- Lists. -/
def listSteps : List Step := [every listBegin, every listEnd, every item]

/-- Displayed formulas. -/
def formulaSteps : List Step :=
  [every (formula "equation".toList (displayed ['$', '$'] ['$', '$'])),
    every (formula "gather".toList (displayed ['$', '$'] ['$', '$'])),
    every (formula "align".toList (displayed ['\\', '['] ['\\', ']']))]

/-- Macros that Markdown or a formula can say otherwise. -/
def macroSteps : List Step :=
  [every (argument "textproc".toList (enclose ['`'])),
    every (argument "mathds".toList fun arg => "\\mathbb".toList ++ braced arg)]

/-- Fonts and addresses of prose. -/
def fontSteps : List Step :=
  [every (argument "texttt".toList (enclose ['`'])),
    every (argument "textbf".toList (enclose ['*', '*'])),
    every .emphasis,
    every (argument "url".toList fun arg => '<' :: arg ++ ['>'])]

/-- Algorithms. -/
def algorithmStep : Step :=
  every (algorithm fun ls => "\n```text\n".toList ++ unlines ls ++ "\n```\n".toList)

/-- Figures. -/
def figureStep : Step := every (figure figureQuote)

/-- The steps in front of the labels. -/
def earlySteps (numbers : Citation.Numbering) : List Step :=
  comments :: every (citation .markdown numbers) ::
    (twoColumnSteps ++ preambleSteps ++ titleSteps ++ abstractSteps ++ sectionSteps ++
      listSteps ++ formulaSteps)

/-- The steps up to the algorithms. -/
def stepsToAlgorithms (numbers : Citation.Numbering) : List Step :=
  earlySteps numbers ++ labelStep :: (macroSteps ++ [algorithmStep])

/-- The steps between the heading in two columns and the fonts. -/
def commandSteps : List Step :=
  preambleSteps ++ titleSteps ++ abstractSteps ++ sectionSteps ++ listSteps ++ formulaSteps ++
    labelStep :: (macroSteps ++ [algorithmStep, figureStep])

/-- The steps behind the fonts. -/
def lateSteps : List Step :=
  theoremSteps (enclose ['*', '*']) theoremKinds ++
    [every (literal "\\appendix".toList "\n## Appendix\n".toList), pageStep]

theorem runSteps_titleSteps (t : Text) : runSteps titleSteps t = titleBlock t := rfl

theorem runSteps_abstractSteps (t : Text) : runSteps abstractSteps t = abstractBlock t := by
  simp only [abstractSteps, runSteps_cons, runSteps_nil, Step.run, literal]
  rw [Scanner.substituteFirst_literal (by decide), Scanner.substituteFirst_literal (by decide)]
  rfl

theorem runSteps_sectionSteps (t : Text) : runSteps sectionSteps t = sections t := rfl

theorem runSteps_listSteps (t : Text) : runSteps listSteps t = lists t := rfl

theorem runSteps_formulaSteps (t : Text) : runSteps formulaSteps t = mathEnvironments t := rfl

theorem runSteps_macroSteps (t : Text) : runSteps macroSteps t = inlineMacros t := rfl

theorem runSteps_fontSteps (t : Text) : runSteps fontSteps t = styleProse t := rfl

theorem run_algorithmStep (t : Text) : algorithmStep.run t = algorithms t := rfl

theorem run_figureStep (t : Text) : figureStep.run t = figures t := rfl

end Markdown

/-- Markdown is made by steps, but for the fonts and the blank lines. -/
theorem toMarkdown_eq (numbers : Citation.Numbering) (t : Text) :
    toMarkdown numbers t =
      collapseBlankLines (runSteps Markdown.lateSteps (Markdown.textStyles
        (runSteps [Markdown.figureStep] (runSteps (Markdown.stepsToAlgorithms numbers) t)))) := by
  simp only [Markdown.lateSteps, Markdown.stepsToAlgorithms, Markdown.earlySteps,
    runSteps_append, runSteps_cons, runSteps_nil, runSteps_theoremSteps, runSteps_twoColumnSteps,
    runSteps_preambleSteps, Markdown.runSteps_titleSteps, Markdown.runSteps_abstractSteps,
    Markdown.runSteps_sectionSteps, Markdown.runSteps_listSteps, Markdown.runSteps_formulaSteps,
    Markdown.runSteps_macroSteps, run_labelStep, run_pageStep, Markdown.run_algorithmStep,
    Markdown.run_figureStep]
  simp only [toMarkdown, runPasses, markdownPasses, List.foldl_cons, List.foldl_nil]
  rfl

/-- Comments, citations and the heading in two columns come first. -/
theorem toMarkdown_eq_commandSteps (numbers : Citation.Numbering) (t : Text) :
    toMarkdown numbers t = collapseBlankLines (runSteps Markdown.lateSteps
      (Markdown.textStyles (runSteps Markdown.commandSteps
        (stripTwoColumn (Citation.linkAll .markdown numbers (eraseComments t)))))) := by
  have hsteps : Markdown.stepsToAlgorithms numbers ++ [Markdown.figureStep] =
      comments :: every (citation .markdown numbers) :: (twoColumnSteps ++ Markdown.commandSteps) := by
    simp [Markdown.stepsToAlgorithms, Markdown.earlySteps, Markdown.commandSteps]
  rw [toMarkdown_eq, ← runSteps_append, hsteps, runSteps_cons, runSteps_cons, runSteps_append,
    runSteps_twoColumnSteps]
  rfl

namespace Plain

/-- Pictures. -/
def pictureStep : Step := every (notedArgument "includegraphics".toList fun _ => [])

/-- Figures. -/
def figureStep : Step :=
  every (figure fun t => inEnvironment "quote".toList ((caption? t).getD "Figure".toList))

/-- Algorithms. -/
def algorithmStep : Step :=
  every (algorithm fun ls => inEnvironment "verbatim".toList ('\n' :: unlines ls ++ ['\n']))

/-- The steps in front of the labels. -/
def earlySteps : List Step :=
  comments :: (twoColumnSteps ++ preambleSteps ++
    [pictureStep, pageStep,
      every (literal "\\appendix".toList ("\\section*".toList ++ braced "Appendix".toList))])

/-- The steps between the labels and the algorithms. -/
def middleSteps (numbers : Citation.Numbering) : List Step :=
  every (citation .latex numbers) ::
    (theoremSteps (fun label => "\\paragraph".toList ++ braced label) theoremKinds ++ [figureStep])

/-- The steps up to the algorithms. -/
def stepsToAlgorithms (numbers : Citation.Numbering) : List Step :=
  earlySteps ++ labelStep :: (middleSteps numbers ++ [algorithmStep])

end Plain

/-- Plain LaTeX is made by steps, but for the macro definitions in front. -/
theorem toPlainLatex_eq (numbers : Citation.Numbering) (t : Text) :
    toPlainLatex numbers t =
      Plain.addPrelude (runSteps (Plain.stepsToAlgorithms numbers) t) := by
  simp only [Plain.stepsToAlgorithms, Plain.earlySteps, Plain.middleSteps, runSteps_append,
    runSteps_cons, runSteps_nil, runSteps_theoremSteps, runSteps_twoColumnSteps,
    runSteps_preambleSteps, run_labelStep, run_pageStep]
  simp only [toPlainLatex, runPasses, plainPasses, List.foldl_cons, List.foldl_nil]
  rfl

end PaperHtml.Conversion
