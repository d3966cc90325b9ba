import PaperHtml.Proofs.Conversion.Algorithms
import PaperHtml.Proofs.Conversion.Headings
import PaperHtml.Proofs.Conversion.Prose

/-!
# Prose with block marks

A heading, a list item and a figure are blocks of a page, wherever their commands
stand on a line of the source.  Here prose with such commands is taken apart at
them (`BlockDocument`), and the text is given that the passes into Markdown make
of it, up to the limit on blank lines (`BlockDocument.shown`).

## Strategy

All passes that do anything to such a text scan for commands, and no scan reads
from a part of the text into the next one, which begins with a command or with
the mark that stands for it in Markdown (`AtMark`).  So each part is followed by
itself through the steps (`Becomes`): up to the step for its own command nothing
is found in it, and behind that step it is prose.  A figure changes twice, since
its labels are taken away before it is read.
-/

namespace PaperHtml.Conversion

open Text Latex Conversion.Markdown

/-! ## Steps from mark to mark -/

/-- The characters that begin a block, in LaTeX or in Markdown. -/
def markChars : Text := ['\\', '#', '-', '>']

theorem of_mem_markChars {c : Char} (h : c ∈ markChars) :
    isBlank c = false ∧ isWordChar c = false := by
  simp only [markChars, List.mem_cons, List.not_mem_nil, or_false] at h
  rcases h with rfl | rfl | rfl | rfl <;> decide

/-- A text that is empty or begins with the mark of a block. -/
def AtMark (t : Text) : Prop := ∀ c ∈ t.head?, c ∈ markChars

theorem atMark_append {t : Text} (h : AtMark t) (hne : t ≠ []) (rest : Text) :
    AtMark (t ++ rest) := by
  obtain ⟨c, t, rfl⟩ := List.exists_cons_of_ne_nil hne
  exact h

theorem atMark_flatMap {α : Type} {parts : List α} {text : α → Text}
    (h : ∀ part ∈ parts, AtMark (text part)) : AtMark (parts.flatMap text) := by
  induction parts with
  | nil => simp [AtMark]
  | cons part parts ih =>
      obtain ⟨hpart, hparts⟩ := List.forall_mem_cons.mp h
      rw [List.flatMap_cons]
      by_cases hnil : text part = []
      · rw [hnil]
        exact ih hparts
      · exact atMark_append hpart hnil _

namespace Step

/-- A step turns a text into another one, if a mark follows it or nothing does. -/
def Turns (step : Step) (t u : Text) : Prop :=
  ∀ rest, AtMark rest → step.run (t ++ rest) = u ++ step.run rest

variable {step : Step} {t u : Text}

theorem Apart.goesBy {opening : Text} (h : step.Apart opening) (hopening : IsMark opening)
    (ht : '\\' ∉ t) (rest : Text) : step.GoesBy (opening ++ t) rest := by
  cases step with
  | every reader => exact Reader.Apart.goesBy h hopening ht rest
  | first reader => exact Reader.Apart.goesBy h hopening ht rest
  | comments => exact h
  | brackets => exact h

/-- A closing brace ends what a scan for commands looks at. -/
theorem IsScan.goesBy_of_absent (hstep : step.IsScan) (h : step.Absent (t ++ ['}'])) (rest : Text) :
    step.GoesBy (t ++ ['}']) rest := by
  cases step with
  | every reader =>
      exact fun _ hback hne => Reader.scan_eq_none_of_absent
        (fun command hmem => (hstep command hmem).2.1) h hback hne rest
  | first reader =>
      exact fun _ hback hne => Reader.scan_eq_none_of_absent
        (fun command hmem => (hstep command hmem).2.1) h hback hne rest
  | comments => exact hstep
  | brackets => exact hstep

/-- Parts that begin with marks are turned one by one. -/
theorem run_flatMap {α : Type} {parts : List α} {before after : α → Text}
    (h : ∀ part ∈ parts, step.Turns (before part) (after part))
    (hmark : ∀ part ∈ parts, AtMark (before part)) :
    step.run (parts.flatMap before) = parts.flatMap after := by
  induction parts with
  | nil => exact step.run_nil
  | cons part parts ih =>
      obtain ⟨hpart, hparts⟩ := List.forall_mem_cons.mp h
      obtain ⟨-, hmarks⟩ := List.forall_mem_cons.mp hmark
      rw [List.flatMap_cons, hpart _ (atMark_flatMap hmarks), ih hparts hmarks, List.flatMap_cons]

end Step

/-- What a run of steps makes of a text between two marks. -/
def Becomes : List Step → Text → Text → Prop
  | [], t, u => u = t
  | step :: steps, t, u =>
    ∃ between, step.Turns t between ∧ AtMark between ∧ Becomes steps between u

theorem Becomes.append {steps more : List Step} {t u v : Text} (h : Becomes steps t u)
    (hmore : Becomes more u v) : Becomes (steps ++ more) t v := by
  induction steps generalizing t with
  | nil =>
      obtain rfl : u = t := h
      exact hmore
  | cons step steps ih =>
      obtain ⟨between, hstep, hmark, hsteps⟩ := h
      exact ⟨between, hstep, hmark, ih hsteps⟩

theorem becomes_self {steps : List Step} {t : Text} (h : ∀ step ∈ steps, step.Turns t t)
    (ht : AtMark t) : Becomes steps t t := by
  induction steps with
  | nil => rfl
  | cons step steps ih =>
      obtain ⟨hstep, hsteps⟩ := List.forall_mem_cons.mp h
      exact ⟨t, hstep, ht, ih hsteps⟩

/-- A run of steps goes through parts that begin with marks one by one. -/
theorem runSteps_flatMap {α : Type} {steps : List Step} (hsteps : ∀ step ∈ steps, step.IsScan)
    {opening : Text} (hopening : '\\' ∉ opening) {parts : List α} {before after : α → Text}
    (h : ∀ part ∈ parts, Becomes steps (before part) (after part))
    (hmark : ∀ part ∈ parts, AtMark (before part)) :
    runSteps steps (opening ++ parts.flatMap before) = opening ++ parts.flatMap after := by
  induction steps generalizing before with
  | nil =>
      rw [runSteps_nil]
      exact congrArg (opening ++ ·) (List.flatMap_congr fun part hpart => (h part hpart).symm)
  | cons step steps ih =>
      obtain ⟨hstep, hlater⟩ := List.forall_mem_cons.mp hsteps
      choose! between hturns hbetween hbecomes using h
      have hfront : step.run (opening ++ parts.flatMap before) =
          opening ++ step.run (parts.flatMap before) :=
        (hstep.goesBy hopening _).run_append
      rw [runSteps_cons, hfront, Step.run_flatMap hturns hmark, ih hlater hbecomes hbetween]

/-! ## Blocks as they are written -/

/-- The source of a figure, by the text between its marks. -/
structure WrittenFigure where
  starred : Bool
  inner : Text
  endStarred : Bool

namespace WrittenFigure

/-- A text between the marks of a figure. -/
def enclose (figure : WrittenFigure) (inner : Text) : Text :=
  environmentMark "begin".toList "figure".toList figure.starred ++
    (inner ++ environmentMark "end".toList "figure".toList figure.endStarred)

def source (figure : WrittenFigure) : Text := figure.enclose figure.inner

/-- The source of a figure without its labels. -/
def bare (figure : WrittenFigure) : Text := figure.enclose (stripLabels figure.inner)

/-- The quotation that stands for a figure. -/
def quote (figure : WrittenFigure) : Text := figureQuote figure.bare

end WrittenFigure

/-- The command that begins a block. -/
inductive BlockMark where
  | heading (level : Level) (starred : Bool) (title : Text)
  | item
  | figure (figure : WrittenFigure)

/-- A block, with the text behind its command up to the next one. -/
structure BlockPart where
  mark : BlockMark
  behind : Text

/-- Prose with blocks. -/
structure BlockDocument where
  opening : Text
  parts : List BlockPart

namespace BlockPart

def source : BlockPart → Text
  | ⟨.heading level starred title, behind⟩ => level.opening starred ++ (title ++ '}' :: behind)
  | ⟨.item, behind⟩ => "\\item".toList ++ behind
  | ⟨.figure figure, behind⟩ => figure.source ++ behind

/-- What stands for a block in Markdown, with the text behind it. -/
def shown : BlockPart → Text
  | ⟨.heading level _ title, behind⟩ =>
    level.marker ++ (readPart title ++ (leftPart title ++ behind))
  | ⟨.item, behind⟩ => ['-', ' '] ++ trimStart behind
  | ⟨.figure figure, behind⟩ => figure.quote ++ behind

end BlockPart

namespace BlockDocument

def source (doc : BlockDocument) : Text := doc.opening ++ doc.parts.flatMap BlockPart.source

def shown (doc : BlockDocument) : Text := doc.opening ++ doc.parts.flatMap BlockPart.shown

end BlockDocument

/-! ## Plain blocks -/

/-- No commands and no formulas. -/
def IsPlainProse (t : Text) : Prop := '\\' ∉ t ∧ '$' ∉ t

instance : DecidablePred IsPlainProse := fun _ => inferInstanceAs (Decidable (_ ∧ _))

theorem IsPlainProse.append {t u : Text} (ht : IsPlainProse t) (hu : IsPlainProse u) :
    IsPlainProse (t ++ u) := by
  simp only [IsPlainProse, List.mem_append, not_or]
  exact ⟨⟨ht.1, hu.1⟩, ht.2, hu.2⟩

theorem IsPlainProse.of_subset {t u : Text} (hu : IsPlainProse u) (h : t ⊆ u) : IsPlainProse t :=
  ⟨fun hmem => hu.1 (h hmem), fun hmem => hu.2 (h hmem)⟩

/-- The steps of the passes in front of the labels that scan for commands. -/
def stepsToLabels : List Step :=
  preambleSteps ++ titleSteps ++ abstractSteps ++ sectionSteps ++ listSteps ++ formulaSteps

/-- A figure whose labels are closed and that holds no command that another pass looks for, with a
quotation that is prose. -/
structure WrittenFigure.IsPlain (figure : WrittenFigure) : Prop where
  early : ∀ step ∈ stepsToLabels, step.Absent figure.source
  labels : FreeOf ["\\label\x7b".toList] (stripLabels figure.inner)
  macros : ∀ step ∈ macroSteps ++ [algorithmStep], step.Absent figure.bare
  closing : ∀ starred,
    ¬ environmentMark "end".toList "figure".toList starred <:+: stripLabels figure.inner
  quote : IsPlainProse figure.quote

/-- A block of prose, whose command ends where it is meant to end. -/
def BlockPart.IsPlain (part : BlockPart) : Prop :=
  IsPlainProse part.behind ∧
    match part.mark with
    | .heading _ _ title => IsPlainProse title
    | .item => atWordEnd part.behind = true
    | .figure figure => figure.IsPlain

/-- Plain prose with blocks. -/
structure BlockDocument.IsPlain (doc : BlockDocument) : Prop where
  opening : IsPlainProse doc.opening
  parts : ∀ part ∈ doc.parts, part.IsPlain

/-! ## Headings -/

theorem isScan_commandSteps : ∀ step ∈ commandSteps, step.IsScan := by decide

/-- A block becomes prose by the step for its command: the steps in front of it look for other
commands, and the steps behind it find nothing in prose. -/
theorem becomes_of_turns {before after : List Step} {step : Step} {opening t u : Text}
    (hsteps : commandSteps = before ++ step :: after)
    (hapart : ∀ step ∈ before, step.Apart opening) (hopening : IsMark opening) (ht : '\\' ∉ t)
    (hturns : step.Turns (opening ++ t) u) (hu : '\\' ∉ u) (hmark : AtMark u) :
    Becomes commandSteps (opening ++ t) u := by
  have hbefore : Becomes before (opening ++ t) (opening ++ t) := by
    refine becomes_self (fun step hstep rest _ =>
      ((hapart step hstep).goesBy hopening ht rest).run_append) ?_
    obtain ⟨letters, rfl, -⟩ := hopening.exists_eq
    simp [AtMark, markChars]
  have hscan : ∀ step ∈ after, step.IsScan := by
    intro step hstep
    refine isScan_commandSteps step ?_
    rw [hsteps]
    exact List.mem_append_right _ (List.mem_cons_of_mem _ hstep)
  have hafter : Becomes after u u :=
    becomes_self (fun step hstep rest _ => ((hscan step hstep).goesBy hu rest).run_append) hmark
  rw [hsteps]
  exact hbefore.append ⟨u, hturns, hmark, hafter⟩

namespace Level

/-- The step for headings of a level. -/
def step (level : Level) : Step :=
  .every (.starredArgument level.name (heading level.depth))

theorem exists_commandSteps_eq (level : Level) (starred : Bool) :
    ∃ before after, commandSteps = before ++ level.step :: after ∧
      ∀ step ∈ before, step.Apart (level.opening starred) := by
  let front := preambleSteps ++ titleSteps ++ abstractSteps
  cases level
  · exact ⟨front, _, rfl, by cases starred <;> decide⟩
  · exact ⟨front ++ [Level.section.step], _, rfl, by cases starred <;> decide⟩
  · exact ⟨front ++ [Level.section.step, Level.subsection.step], _, rfl,
      by cases starred <;> decide⟩

theorem isPlainProse_marker (level : Level) : IsPlainProse level.marker := by
  cases level <;> decide

end Level

theorem isPlainProse_parts {title : Text} (h : IsPlainProse title) :
    IsPlainProse (readPart title) ∧ IsPlainProse (leftPart title) := by
  have hclosed : IsPlainProse (title ++ ['}']) := h.append (by decide)
  refine ⟨h.of_subset (List.takeWhile_prefix _).subset, hclosed.of_subset ?_⟩
  exact fun c hc => (List.dropWhile_suffix _).subset (List.mem_of_mem_tail hc)

theorem isPlainProse_shown {part : BlockPart} (h : part.IsPlain) : IsPlainProse part.shown := by
  obtain ⟨mark, behind⟩ := part
  obtain ⟨hbehind, hmark⟩ := h
  cases mark with
  | heading level starred title =>
      obtain ⟨hread, hleft⟩ := isPlainProse_parts hmark
      exact level.isPlainProse_marker.append (hread.append (hleft.append hbehind))
  | item =>
      have htrimmed : IsPlainProse (trimStart behind) :=
        hbehind.of_subset (List.dropWhile_suffix _).subset
      exact .append (t := ['-', ' ']) (by decide) htrimmed
  | figure figure => exact hmark.quote.append hbehind

/-- A heading ends at the first closing brace. -/
theorem Level.turns_heading (level : Level) (starred : Bool) {title behind : Text}
    (htitle : IsPlainProse title) (hbehind : IsPlainProse behind) :
    level.step.Turns (level.opening starred ++ (title ++ '}' :: behind))
      (level.marker ++ (readPart title ++ (leftPart title ++ behind))) := by
  intro rest _
  have hprose : '\\' ∉ leftPart title ++ behind := ((isPlainProse_parts htitle).2.append hbehind).1
  have hsource : level.opening starred ++ (title ++ '}' :: behind) ++ rest =
      level.opening starred ++ (readPart title ++ '}' :: ((leftPart title ++ behind) ++ rest)) := by
    rw [List.append_assoc, List.append_assoc (leftPart title), readPart_append, List.append_assoc,
      List.cons_append]
  change level.reader.run _ = _ ++ level.reader.run rest
  rw [hsource, level.reader.run_opening (level.opening_mem starred) (brace_not_mem_readPart title),
    level.reader.run_prose hprose]
  change heading level.depth (readPart title) ++ _ = _
  rw [heading_eq]
  simp only [List.append_assoc]

theorem becomes_heading (level : Level) (starred : Bool) {title behind : Text}
    (htitle : IsPlainProse title) (hbehind : IsPlainProse behind) :
    Becomes commandSteps (level.opening starred ++ (title ++ '}' :: behind))
      (level.marker ++ (readPart title ++ (leftPart title ++ behind))) := by
  obtain ⟨before, after, hsteps, hapart⟩ := level.exists_commandSteps_eq starred
  have hprose := @isPlainProse_shown ⟨.heading level starred title, behind⟩ ⟨hbehind, htitle⟩
  have hmark : AtMark (level.marker ++ (readPart title ++ (leftPart title ++ behind))) := by
    refine atMark_append ?_ ?_ _ <;> cases level <;>
      simp [Level.marker, Level.depth, AtMark, markChars]
  exact becomes_of_turns hsteps hapart (level.reader.isMark _ (level.opening_mem starred))
    (by simp [htitle.1, hbehind.1]) (level.turns_heading starred htitle hbehind) hprose.1 hmark

/-! ## List items -/

theorem trimStart_append_of_atMark (t : Text) {rest : Text} (h : AtMark rest) :
    trimStart (t ++ rest) = trimStart t ++ rest := by
  cases rest with
  | nil => simp
  | cons c rest =>
      exact trimStart_append_cons (of_mem_markChars (h c rfl)).1 t rest

theorem atWordEnd_append_of_atMark {t rest : Text} (ht : atWordEnd t = true) (h : AtMark rest) :
    atWordEnd (t ++ rest) = true := by
  cases t with
  | cons c t => exact ht
  | nil =>
      cases rest with
      | nil => rfl
      | cons c rest =>
          simp [atWordEnd, (of_mem_markChars (h c rfl)).2]

/-- The command of an item is read with the blanks behind it. -/
theorem turns_item {behind : Text} (hbehind : IsPlainProse behind)
    (hend : atWordEnd behind = true) :
    (Step.every .item).Turns ("\\item".toList ++ behind) (['-', ' '] ++ trimStart behind) := by
  intro rest hrest
  obtain ⟨gap, -, hgap⟩ := exists_trimStart behind
  have hprose : '\\' ∉ trimStart behind := fun hmem =>
    hbehind.1 ((List.dropWhile_suffix _).subset hmem)
  have hitem :
      dropItem? ("\\item".toList ++ (behind ++ rest)) = some (trimStart behind ++ rest) := by
    have hcommand : dropCommand? "item".toList ("\\item".toList ++ (behind ++ rest)) =
        some (behind ++ rest) := dropPrefix?_append _ _
    rw [dropItem?, dropWholeCommand?, hcommand, Option.filter_some,
      if_pos (atWordEnd_append_of_atMark hend hrest), Option.map_some,
      trimStart_append_of_atMark _ hrest]
  have hsource : "\\item".toList ++ behind ++ rest =
      ("\\item".toList ++ gap) ++ (trimStart behind ++ rest) := by
    conv_lhs => rw [hgap]
    simp only [List.append_assoc]
  have hfound : Reader.item.scan (("\\item".toList ++ gap) ++ (trimStart behind ++ rest)) =
      some (['-', ' '], trimStart behind ++ rest) := by
    rw [← hsource, List.append_assoc]
    exact congrArg (Option.map fun rest => (['-', ' '], rest)) hitem
  have hpassed : (Step.every .item).run (trimStart behind ++ rest) =
      trimStart behind ++ (Step.every .item).run rest :=
    ((isScan_commandSteps _ (by simp [commandSteps, listSteps])).goesBy hprose rest).run_append
  rw [hsource, List.append_assoc ['-', ' '], ← hpassed]
  exact Scanner.substitute_append_of_some (by simp) hfound

theorem becomes_item {behind : Text} (hbehind : IsPlainProse behind)
    (hend : atWordEnd behind = true) :
    Becomes commandSteps ("\\item".toList ++ behind) (['-', ' '] ++ trimStart behind) := by
  let before := preambleSteps ++ titleSteps ++ abstractSteps ++ sectionSteps ++
    [.every .listBegin, .every .listEnd]
  have hsteps : commandSteps = before ++ .every .item ::
      (formulaSteps ++ labelStep :: (macroSteps ++ [algorithmStep, figureStep])) := rfl
  have hapart : ∀ step ∈ before, step.Apart "\\item".toList := by decide
  have hprose := @isPlainProse_shown ⟨.item, behind⟩ ⟨hbehind, hend⟩
  exact becomes_of_turns hsteps hapart (by decide) hbehind.1 (turns_item hbehind hend) hprose.1
    (by simp [AtMark, markChars])

/-! ## Figures -/

namespace WrittenFigure

variable {figure : WrittenFigure}

/-- The marks of a figure begin and end it. -/
theorem exists_enclose_eq (figure : WrittenFigure) (inner : Text) :
    ∃ t, figure.enclose inner = '\\' :: t ++ ['}'] := by
  obtain ⟨front, hfront⟩ :=
    exists_environmentMark_eq "begin".toList "figure".toList figure.starred
  obtain ⟨back, hback⟩ := exists_environmentMark_eq "end".toList "figure".toList figure.endStarred
  exact ⟨front ++ ['}'] ++ inner ++ '\\' :: back, by rw [enclose, hfront, hback]; simp⟩

/-- A quotation begins with its mark and ends a line. -/
theorem exists_quote_eq (figure : WrittenFigure) :
    ∃ shown, figure.quote = '>' :: ' ' :: (shown ++ ['\n']) := ⟨_, rfl⟩

/-- The labels of a figure go, and the marks around them stay. -/
theorem run_labelStep_source (h : figure.IsPlain) (rest : Text) :
    labelStep.run (figure.source ++ rest) = figure.bare ++ labelStep.run rest := by
  have hmark : ∀ starred, IsMark (environmentMark "begin".toList "figure".toList starred) ∧
      IsMark (environmentMark "end".toList "figure".toList starred) := by decide
  have hapart : ∀ starred, ∀ mark ∈ ArgumentReader.label.commands,
      (¬ mark <+: environmentMark "begin".toList "figure".toList starred ∧
        ¬ environmentMark "begin".toList "figure".toList starred <+: mark) ∧
      (¬ mark <+: environmentMark "end".toList "figure".toList starred ∧
        ¬ environmentMark "end".toList "figure".toList starred <+: mark) := by decide
  obtain ⟨hbegin, -⟩ := hmark figure.starred
  obtain ⟨-, hend⟩ := hmark figure.endStarred
  obtain ⟨letters, hletters, -⟩ := hend.exists_eq
  have hinner : ArgumentReader.label.run (figure.inner ++
      (environmentMark "end".toList "figure".toList figure.endStarred ++ rest)) =
        stripLabels figure.inner ++ ArgumentReader.label.run
          (environmentMark "end".toList "figure".toList figure.endStarred ++ rest) := by
    rw [hletters, List.cons_append]
    exact ArgumentReader.label.run_append_cons (by decide) h.labels (by decide) _
  change ArgumentReader.label.run _ = _ ++ ArgumentReader.label.run rest
  rw [source, enclose, List.append_assoc, List.append_assoc,
    ArgumentReader.label.run_apart hbegin fun mark hmem => (hapart figure.starred mark hmem).1,
    hinner,
    ArgumentReader.label.run_apart hend fun mark hmem => (hapart figure.endStarred mark hmem).2,
    bare, enclose, List.append_assoc, List.append_assoc]

/-- A figure is read as a whole if nothing within it closes it. -/
theorem scan_enclose (figure : WrittenFigure) {inner : Text}
    (hinner : ∀ starred, ¬ environmentMark "end".toList "figure".toList starred <:+: inner)
    (render : Text → Text) (rest : Text) :
    (Reader.figure render).scan (figure.enclose inner ++ rest) =
      some (render (figure.enclose inner), rest) := by
  have hinside :
      environment "figure".toList (figure.enclose inner ++ rest) = some (inner, rest) := by
    have hbegin : dropBegin? "figure".toList (figure.enclose inner ++ rest) = some
        (inner ++ (environmentMark "end".toList "figure".toList figure.endStarred ++ rest)) := by
      rw [enclose, List.append_assoc, List.append_assoc]
      exact dropEnvironmentName?_mark ..
    rw [environment, hbegin, Option.bind_some]
    exact inside?_mark (by decide) hinner _ _
  have hsource : environmentSource "figure".toList (figure.enclose inner ++ rest) =
      some (figure.enclose inner, rest) := by
    rw [environmentSource, hinside]
    simp
  exact congrArg (Option.map fun found => (render found.1, found.2)) hsource

theorem enclose_ne_nil (figure : WrittenFigure) (inner : Text) : figure.enclose inner ≠ [] := by
  obtain ⟨t, ht⟩ := figure.exists_enclose_eq inner
  exact ht ▸ List.cons_ne_nil _ _

theorem run_figureStep_bare (h : figure.IsPlain) (rest : Text) :
    figureStep.run (figure.bare ++ rest) = figure.quote ++ figureStep.run rest :=
  Scanner.substitute_append_of_some (figure.enclose_ne_nil _) (figure.scan_enclose h.closing _ rest)

theorem becomes_figure (h : figure.IsPlain) {behind : Text} (hbehind : IsPlainProse behind) :
    Becomes commandSteps (figure.source ++ behind) (figure.quote ++ behind) := by
  -- what holds of a figure whatever follows it holds of the figure with the prose behind it
  have hturns {step : Step} (hstep : step ∈ commandSteps) {t u : Text}
      (hrun : ∀ rest, step.run (t ++ rest) = u ++ step.run rest) :
      step.Turns (t ++ behind) (u ++ behind) := fun rest _ => by
    rw [List.append_assoc, hrun,
      ((isScan_commandSteps step hstep).goesBy hbehind.1 rest).run_append, List.append_assoc]
  have hkept {inner : Text} {steps : List Step} (hsteps : steps ⊆ commandSteps)
      (habsent : ∀ step ∈ steps, step.Absent (figure.enclose inner)) :
      Becomes steps (figure.enclose inner ++ behind) (figure.enclose inner ++ behind) := by
    obtain ⟨t, ht⟩ := figure.exists_enclose_eq inner
    rw [ht] at habsent ⊢
    refine becomes_self (fun step hstep => hturns (hsteps hstep) fun rest => ?_)
      (by simp [AtMark, markChars])
    have hscan := isScan_commandSteps step (hsteps hstep)
    exact (hscan.goesBy_of_absent (habsent step hstep) rest).run_append
  have hmark (inner : Text) : AtMark (figure.enclose inner ++ behind) := by
    obtain ⟨t, ht⟩ := figure.exists_enclose_eq inner
    simp [ht, AtMark, markChars]
  have hquote : AtMark (figure.quote ++ behind) := by
    obtain ⟨shown, hshown⟩ := figure.exists_quote_eq
    simp [hshown, AtMark, markChars]
  have hsteps : commandSteps =
      stepsToLabels ++ labelStep :: ((macroSteps ++ [algorithmStep]) ++ [figureStep]) := rfl
  rw [hsteps]
  refine (hkept ?_ h.early).append ⟨figure.bare ++ behind, ?_, hmark _, (hkept ?_ h.macros).append
    ⟨_, hturns ?_ (run_figureStep_bare h), hquote, rfl⟩⟩
  · exact fun step hstep => hsteps ▸ List.mem_append_left _ hstep
  · exact hturns (by simp [commandSteps]) (run_labelStep_source h)
  · intro step hstep
    rw [hsteps]
    exact List.mem_append_right _ (List.mem_cons_of_mem _ (List.mem_append_left _ hstep))
  · simp [commandSteps]

end WrittenFigure

/-! ## Documents -/

theorem BlockPart.becomes_shown {part : BlockPart} (h : part.IsPlain) :
    Becomes commandSteps part.source part.shown := by
  obtain ⟨mark, behind⟩ := part
  obtain ⟨hbehind, hmark⟩ := h
  cases mark with
  | heading level starred title => exact becomes_heading level starred hmark hbehind
  | item => exact becomes_item hbehind hmark
  | figure figure => exact WrittenFigure.becomes_figure hmark hbehind

theorem BlockPart.atMark_source (part : BlockPart) : AtMark part.source := by
  obtain ⟨mark, behind⟩ := part
  cases mark with
  | heading level starred title =>
      obtain ⟨letters, hletters, -⟩ := (level.reader.isMark _ (level.opening_mem starred)).exists_eq
      simp [source, hletters, AtMark, markChars]
  | item => simp [source, AtMark, markChars]
  | figure figure =>
      obtain ⟨t, ht⟩ := figure.exists_enclose_eq figure.inner
      simp [source, WrittenFigure.source, ht, AtMark, markChars]

theorem BlockDocument.isPlainProse_shown {doc : BlockDocument} (h : doc.IsPlain) :
    IsPlainProse doc.shown := by
  have hparts {c : Char} (hc : ∀ part ∈ doc.parts, c ∉ part.shown) :
      c ∉ doc.parts.flatMap BlockPart.shown := fun hmem => by
    obtain ⟨part, hpart, hmem⟩ := List.mem_flatMap.mp hmem
    exact hc part hpart hmem
  exact h.opening.append
    ⟨hparts fun part hpart => (Conversion.isPlainProse_shown (h.parts part hpart)).1,
      hparts fun part hpart => (Conversion.isPlainProse_shown (h.parts part hpart)).2⟩

/-- Plain prose with blocks becomes what stands for its parts, but for the limit on blank lines.
What is read is the body without its comments and bracket lines. -/
theorem toMarkdown_blockDocument (numbers : Citation.Numbering) {doc : BlockDocument} {body : Text}
    (hdoc : doc.IsPlain) (hbody : stripTwoColumn (eraseComments body) = doc.source)
    (hcite : ¬ "\\cite".toList <:+: eraseComments body) :
    toMarkdown numbers body = collapseBlankLines doc.shown := by
  have hlinked : Citation.linkAll .markdown numbers (eraseComments body) = eraseComments body :=
    @Step.run_of_absent _ (.every (.citation .markdown numbers))
      (List.forall_mem_singleton.mpr hcite)
  have hcommands : runSteps commandSteps doc.source = doc.shown :=
    runSteps_flatMap isScan_commandSteps hdoc.opening.1
      (fun part hpart => BlockPart.becomes_shown (hdoc.parts part hpart))
      fun part _ => part.atMark_source
  obtain ⟨hbackslash, hdollar⟩ := doc.isPlainProse_shown hdoc
  rw [toMarkdown_eq_commandSteps, hlinked, hbody, hcommands, textStyles_of_prose hbackslash hdollar,
    runSteps_of_prose (by decide) hbackslash]

end PaperHtml.Conversion
