import PaperHtml.Proofs.Conversion.Arguments

/-!
# Headings and titles

The pass for sections goes through a text once for each level, and the pass for
the title block takes the first of each of its commands.  Here are the texts that
they make of one command with a text around it that holds none, and the arguments
that come out whole.

## Strategy

The other commands are not there, so one scan reads the command and writes what it
has read, and the scans behind it see the result (`Level.sections_eq_passes`,
`TitleCommand.titleBlock_eq`).  In the text that is wanted the first closing brace
of the argument stands elsewhere.  A line feed or a star tells the two apart behind
a title; behind a heading the number of closing braces does, since a scan for
headings leaves fewer of them or changes nothing (`Level.pass_eq_self_or_count_lt`).
-/

namespace PaperHtml.Conversion

open Text Latex Conversion.Markdown

/-! ## Headings -/

/-- The level of a heading. -/
inductive Level where
  | section
  | subsection
  | subsubsection
  deriving DecidableEq

namespace Level

def name : Level → Text
  | .section => "section".toList
  | .subsection => "subsection".toList
  | .subsubsection => "subsubsection".toList

/-- The number of marks in front of a heading of the level. -/
def depth : Level → Nat
  | .section => 2
  | .subsection => 3
  | .subsubsection => 4

/-- The levels in the order of their passes. -/
def all : List Level := [.section, .subsection, .subsubsection]

/-- The levels whose passes come after that of a level. -/
def later : Level → List Level
  | .section => [.subsection, .subsubsection]
  | .subsection => [.subsubsection]
  | .subsubsection => []

/-- The scan for headings of a level. -/
def reader (level : Level) : ArgumentReader :=
  .ofStarredCommand level.name (heading level.depth) (by cases level <;> decide)

/-- The command for a heading of a level up to its argument. -/
def opening (level : Level) (starred : Bool) : Text :=
  '\\' :: level.name ++ (if starred then ['*', '{'] else ['{'])

/-- The mark of a heading of a level. -/
def marker (level : Level) : Text := List.replicate level.depth '#' ++ [' ']

/-- The openings of all headings. -/
def openings : List Text := all.flatMap fun level => level.reader.commands

/-- The pass for headings of a level. -/
def pass (level : Level) (t : Text) : Text := level.reader.run t

/-- The passes for several levels. -/
def passes (levels : List Level) (t : Text) : Text := levels.foldl (fun t level => level.pass t) t

@[simp] theorem passes_nil (t : Text) : passes [] t = t := rfl

@[simp] theorem passes_cons (level : Level) (levels : List Level) (t : Text) :
    passes (level :: levels) t = passes levels (level.pass t) := rfl

theorem passes_append (levels more : List Level) (t : Text) :
    passes (levels ++ more) t = passes more (passes levels t) := List.foldl_append

theorem sections_eq (t : Text) : sections t = passes all t := rfl

theorem heading_eq (level : Level) (title : Text) :
    heading level.depth title = level.marker ++ title := by
  simp [heading, marker]

theorem opening_mem (level : Level) (starred : Bool) :
    level.opening starred ∈ level.reader.commands := by
  cases starred
  · exact List.mem_cons_self ..
  · exact List.mem_cons_of_mem _ (List.mem_singleton_self _)

theorem commands_subset (level : Level) : level.reader.commands ⊆ openings := by
  cases level <;> decide

theorem isMark_of_mem_openings : ∀ mark ∈ openings, IsMark mark ∧ '}' ∉ mark ∧ '#' ∉ mark ∧ ' ' ∉ mark := by
  decide

/-- The commands of two levels begin differently. -/
theorem apart {level other : Level} (h : other ≠ level) (starred : Bool) :
    ∀ mark ∈ other.reader.commands,
      ¬ mark <+: level.opening starred ∧ ¬ level.opening starred <+: mark := by
  revert h
  cases level <;> cases other <;> cases starred <;> decide

theorem exists_all_eq (level : Level) :
    ∃ earlier, all = earlier ++ level :: level.later ∧ level ∉ earlier ∧ level ∉ level.later := by
  cases level
  · exact ⟨[], rfl, by decide, by decide⟩
  · exact ⟨[.section], rfl, by decide, by decide⟩
  · exact ⟨[.section, .subsection], rfl, by decide, by decide⟩

theorem passes_of_freeOf {levels : List Level} {t : Text}
    (h : ∀ level ∈ levels, FreeOf level.reader.commands t) : passes levels t = t := by
  induction levels with
  | nil => rfl
  | cons level levels ih =>
      obtain ⟨hlevel, hlevels⟩ := List.forall_mem_cons.mp h
      have hself : level.pass t = t := ArgumentReader.substitute_of_freeOf hlevel
      rw [passes_cons, hself, ih hlevels]

/-- A pass for headings changes nothing or leaves fewer closing braces. -/
theorem pass_eq_self_or_count_lt (level : Level) (t : Text) :
    level.pass t = t ∨ (level.pass t).count '}' < t.count '}' := by
  refine level.reader.run_eq_self_or_count_lt (fun argument hclosed => ?_) t
  have hmarker : '}' ∉ level.marker := by cases level <;> decide
  change '}' ∉ heading level.depth argument
  rw [heading_eq, List.mem_append, not_or]
  exact ⟨hmarker, hclosed⟩

theorem passes_eq_self_or_count_lt (levels : List Level) (t : Text) :
    passes levels t = t ∨ (passes levels t).count '}' < t.count '}' := by
  induction levels generalizing t with
  | nil => exact .inl rfl
  | cons level levels ih =>
      rw [passes_cons]
      rcases pass_eq_self_or_count_lt level t with heq | hlt
      · rw [heq]
        exact ih t
      · rcases ih (level.pass t) with hself | hless
        · rw [hself]
          exact .inr hlt
        · exact .inr (hless.trans hlt)

variable {level : Level} {before s after : Text}

/-- Behind a marker the passes go on as if nothing stood in front of it. -/
theorem passes_append_marker (hbefore : FreeOf openings before) (levels : List Level) (t : Text) :
    passes levels (before ++ (level.marker ++ t)) = before ++ (level.marker ++ passes levels t) := by
  induction levels generalizing t with
  | nil => rfl
  | cons other levels ih =>
      obtain ⟨marks, hmarker⟩ : ∃ marks, level.marker = '#' :: marks := by
        cases level <;> exact ⟨_, rfl⟩
      have hprose : '\\' ∉ level.marker := by cases level <;> decide
      have hfront : other.reader.scan.GoesBy (before ++ level.marker) t := by
        refine Scanner.GoesBy.append ?_ (other.reader.goesBy_prose hprose t)
        rw [hmarker]
        refine ArgumentReader.goesBy_cons (hbefore.of_subset (commands_subset other)) ?_ _
        exact fun mark hmark hmem =>
          (isMark_of_mem_openings mark (commands_subset other hmark)).2.2.1 (List.mem_of_mem_tail hmem)
      have hpass : other.pass (before ++ (level.marker ++ t)) =
          before ++ (level.marker ++ other.pass t) := by
        rw [pass, ArgumentReader.run, ← List.append_assoc,
          Scanner.substitute_append_of_passed hfront, List.append_assoc]
        rfl
      rw [passes_cons, hpass, ih, passes_cons]

/-- A heading is read up to the first closing brace, and the passes for the levels behind its own
read what comes of it. -/
theorem sections_eq_passes (starred : Bool) (hbefore : FreeOf openings before)
    (hs : FreeOf openings s) (hafter : FreeOf openings after) :
    sections (before ++ (level.opening starred ++ (s ++ '}' :: after))) =
      passes level.later
        (before ++ (level.marker ++ (readPart s ++ (leftPart s ++ after)))) := by
  obtain ⟨earlier, hall, hearlier, -⟩ := level.exists_all_eq
  have hmarks : ∀ other : Level, ∀ mark ∈ other.reader.commands, IsMark mark ∧ '}' ∉ mark := by
    intro other mark hmem
    obtain ⟨hmark, hbrace, -⟩ := isMark_of_mem_openings mark (commands_subset other hmem)
    exact ⟨hmark, hbrace⟩
  have hfree : ∀ other ∈ earlier, FreeOf other.reader.commands
      (before ++ (level.opening starred ++ (s ++ '}' :: after))) := by
    intro other hother
    have hne : other ≠ level := fun heq => hearlier (heq ▸ hother)
    exact FreeOf.around_command (hmarks other)
      (level.reader.isMark _ (level.opening_mem starred)) (apart hne starred)
      (hbefore.of_subset (commands_subset other)) (hs.of_subset (commands_subset other))
      (hafter.of_subset (commands_subset other))
  have hown : FreeOf level.reader.commands (leftPart s ++ after) :=
    FreeOf.leftPart_append (hmarks level) (hs.of_subset (commands_subset level))
      (hafter.of_subset (commands_subset level))
  have hpass : level.pass (before ++ (level.opening starred ++ (s ++ '}' :: after))) =
      before ++ (level.marker ++ (readPart s ++ (leftPart s ++ after))) := by
    rw [← readPart_append, pass, level.reader.run_around (level.opening_mem starred)
      (brace_not_mem_readPart s) (hbefore.of_subset (commands_subset level)) hown,
      ← List.append_assoc level.marker, ← heading_eq]
    rfl
  rw [sections_eq, hall, passes_append, passes_of_freeOf hfree, passes_cons, hpass]

/-- The passes give the whole heading exactly if its first closing brace is followed by such braces
alone, and the heading and the text behind it hold no heading of a later pass between them. -/
theorem sections_whole_iff (starred : Bool) (hbefore : FreeOf openings before)
    (hs : FreeOf openings s) (hafter : FreeOf openings after) :
    sections (before ++ (level.opening starred ++ (s ++ '}' :: after))) =
        before ++ (level.marker ++ (s ++ after)) ↔
      (∃ u count, '}' ∉ u ∧ s = u ++ List.replicate count '}') ∧
        passes level.later (s ++ after) = s ++ after := by
  rw [sections_eq_passes starred hbefore hs hafter, ← readPart_append_leftPart_eq_iff]
  constructor
  · intro h
    have hcount := congrArg (List.count '}') (readPart_append s [])
    have hself : passes level.later
        (before ++ (level.marker ++ (readPart s ++ (leftPart s ++ after)))) =
          before ++ (level.marker ++ (readPart s ++ (leftPart s ++ after))) := by
      rcases passes_eq_self_or_count_lt level.later
        (before ++ (level.marker ++ (readPart s ++ (leftPart s ++ after)))) with hself | hless
      · exact hself
      · rw [h] at hless
        simp only [List.count_append, List.append_nil, List.count_cons_self, List.count_nil] at hless hcount
        omega
    have hsame : readPart s ++ leftPart s = s := by
      rw [h, List.append_cancel_left_eq, List.append_cancel_left_eq, ← List.append_assoc] at hself
      exact (List.append_cancel_right hself).symm
    refine ⟨hsame, ?_⟩
    rw [← List.append_assoc (readPart s), hsame, passes_append_marker hbefore] at h
    exact List.append_cancel_left (List.append_cancel_left h)
  · rintro ⟨hsame, hlater⟩
    rw [← List.append_assoc (readPart s), hsame, passes_append_marker hbefore, hlater]

end Level

/-! ## Titles and authors -/

/-- A command for the title or for the authors. -/
inductive TitleCommand where
  | aistatstitle
  | title
  | aistatsauthor
  | aistatsaddress
  | author
  deriving DecidableEq

namespace TitleCommand

def name : TitleCommand → Text
  | .aistatstitle => "aistatstitle".toList
  | .title => "title".toList
  | .aistatsauthor => "aistatsauthor".toList
  | .aistatsaddress => "aistatsaddress".toList
  | .author => "author".toList

/-- What is written of the argument of a command. -/
def render : TitleCommand → Text → Text
  | .aistatstitle => heading 1
  | .title => heading 1
  | .aistatsauthor => enclose ['*']
  | .aistatsaddress => enclose ['*']
  | .author => enclose ['*']

/-- What is written in front of an argument. -/
def front : TitleCommand → Text
  | .aistatstitle => ['#', ' ']
  | .title => ['#', ' ']
  | .aistatsauthor => ['*']
  | .aistatsaddress => ['*']
  | .author => ['*']

/-- What is written behind an argument, with the end of the line. -/
def back : TitleCommand → Text
  | .aistatstitle => ['\n']
  | .title => ['\n']
  | .aistatsauthor => ['*', '\n']
  | .aistatsaddress => ['*', '\n']
  | .author => ['*', '\n']

/-- The commands in the order in which they are looked for. -/
def all : List TitleCommand := [.aistatstitle, .title, .aistatsauthor, .aistatsaddress, .author]

/-- The scan for a command. -/
def reader (command : TitleCommand) : ArgumentReader :=
  .ofCommand command.name (fun argument => command.render argument ++ ['\n'])
    (by cases command <;> decide)

/-- A command up to its argument. -/
def opening (command : TitleCommand) : Text := '\\' :: command.name ++ ['{']

/-- The command that stands where the title is to be shown. -/
def makeTitle : Reader := .literal "\\maketitle".toList []

/-- The openings of all commands, and the command without an argument. -/
def openings : List Text := all.map opening ++ makeTitle.commands

/-- The first occurrences of several commands rendered. -/
def renderAll (commands : List TitleCommand) (t : Text) : Text :=
  commands.foldl (fun t command => Scanner.substituteFirst command.reader.scan t) t

@[simp] theorem renderAll_nil (t : Text) : renderAll [] t = t := rfl

@[simp] theorem renderAll_cons (command : TitleCommand) (commands : List TitleCommand) (t : Text) :
    renderAll (command :: commands) t =
      renderAll commands (Scanner.substituteFirst command.reader.scan t) := rfl

theorem renderAll_append (commands more : List TitleCommand) (t : Text) :
    renderAll (commands ++ more) t = renderAll more (renderAll commands t) := List.foldl_append

theorem titleBlock_eq_renderAll (t : Text) :
    titleBlock t = Scanner.substitute makeTitle.scan (renderAll all t) := rfl

theorem render_eq (command : TitleCommand) (argument : Text) :
    command.render argument ++ ['\n'] = command.front ++ (argument ++ command.back) := by
  cases command <;> simp [render, front, back, heading, enclose]

theorem isMark_of_mem_openings : ∀ mark ∈ openings, IsMark mark ∧ '}' ∉ mark := by
  decide

theorem foreign (command : TitleCommand) : ∀ mark ∈ openings,
    (∀ c ∈ command.front, c ∉ mark) ∧ ∀ c ∈ command.back, c ∉ mark := by
  have hforeign : ∀ mark ∈ openings, '#' ∉ mark ∧ ' ' ∉ mark ∧ '*' ∉ mark ∧ '\n' ∉ mark := by decide
  intro mark hmark
  obtain ⟨hhash, hblank, hstar, hfeed⟩ := hforeign mark hmark
  cases command <;> simp [front, back, *]

theorem front_ne_nil (command : TitleCommand) : command.front ≠ [] := by
  cases command <;> decide

theorem exists_back_eq (command : TitleCommand) :
    ∃ c rest, command.back = c :: rest ∧ c ≠ '}' := by
  cases command <;> exact ⟨_, _, rfl, by decide⟩

theorem commands_subset (command : TitleCommand) : command.reader.commands ⊆ openings := by
  cases command <;> decide

/-- Two commands begin differently. -/
theorem apart {command other : TitleCommand} (h : other ≠ command) :
    ∀ mark ∈ other.reader.commands, ¬ mark <+: command.opening ∧ ¬ command.opening <+: mark := by
  revert h
  cases command <;> cases other <;> decide

theorem exists_all_eq (command : TitleCommand) :
    ∃ earlier later, all = earlier ++ command :: later ∧ command ∉ earlier := by
  have hmem : command ∈ all := by cases command <;> decide
  exact List.eq_append_cons_of_mem hmem

theorem renderAll_of_freeOf {commands : List TitleCommand} {t : Text}
    (h : ∀ command ∈ commands, FreeOf command.reader.commands t) : renderAll commands t = t := by
  induction commands with
  | nil => rfl
  | cons command commands ih =>
      obtain ⟨hcommand, hcommands⟩ := List.forall_mem_cons.mp h
      rw [renderAll_cons, ArgumentReader.substituteFirst_of_freeOf hcommand, ih hcommands]

variable {command : TitleCommand} {before s after : Text}

/-- The argument of a command is read up to the first closing brace. -/
theorem titleBlock_eq (hbefore : FreeOf openings before) (hs : FreeOf openings s)
    (hafter : FreeOf openings after) :
    titleBlock (before ++ (command.opening ++ (s ++ '}' :: after))) =
      before ++ (command.front ++ (readPart s ++ (command.back ++ (leftPart s ++ after)))) := by
  obtain ⟨earlier, later, hall, hearlier⟩ := command.exists_all_eq
  have hopening : command.opening ∈ command.reader.commands := List.mem_singleton_self _
  have hfree : ∀ other ∈ earlier, FreeOf other.reader.commands
      (before ++ (command.opening ++ (s ++ '}' :: after))) := by
    intro other hother
    have hne : other ≠ command := fun heq => hearlier (heq ▸ hother)
    exact FreeOf.around_command
      (fun mark hmem => isMark_of_mem_openings mark (commands_subset other hmem))
      (command.reader.isMark _ hopening) (apart hne) (hbefore.of_subset (commands_subset other))
      (hs.of_subset (commands_subset other)) (hafter.of_subset (commands_subset other))
  have hown : Scanner.substituteFirst command.reader.scan
      (before ++ (command.opening ++ (s ++ '}' :: after))) =
        before ++ (command.front ++ (readPart s ++ (command.back ++ (leftPart s ++ after)))) := by
    rw [← readPart_append, command.reader.substituteFirst_around hopening (brace_not_mem_readPart s)
      (hbefore.of_subset (commands_subset command))]
    change before ++ (command.render (readPart s) ++ ['\n'] ++ (leftPart s ++ after)) = _
    rw [render_eq]
    simp
  -- the marks keep apart what the command has left, so no command comes about
  have hresult : FreeOf openings
      (before ++ (command.front ++ (readPart s ++ (command.back ++ (leftPart s ++ after))))) := by
    have hmark : ∀ mark ∈ openings, IsMark mark := fun mark hmem => (isMark_of_mem_openings mark hmem).1
    have hback : command.back ≠ [] := by
      obtain ⟨c, rest, heq, -⟩ := command.exists_back_eq
      exact heq ▸ List.cons_ne_nil c rest
    refine FreeOf.append_foreign_append command.front_ne_nil (fun mark hmem => (command.foreign mark hmem).1)
      hmark hbefore ?_
    refine FreeOf.append_foreign_append hback (fun mark hmem => (command.foreign mark hmem).2)
      hmark (hs.of_infix (readPart_infix_self s)) ?_
    exact FreeOf.leftPart_append isMark_of_mem_openings hs hafter
  rw [titleBlock_eq_renderAll, hall, renderAll_append, renderAll_of_freeOf hfree, renderAll_cons,
    hown, renderAll_of_freeOf fun other _ => hresult.of_subset (commands_subset other)]
  exact ArgumentReader.substitute_of_freeOf (hresult.of_subset (List.subset_append_right _ _))

/-- The pass gives the whole argument exactly if there is no closing brace in it. -/
theorem titleBlock_whole_iff (hbefore : FreeOf openings before) (hs : FreeOf openings s)
    (hafter : FreeOf openings after) :
    titleBlock (before ++ (command.opening ++ (s ++ '}' :: after))) =
        before ++ (command.render s ++ '\n' :: after) ↔ '}' ∉ s := by
  have hwhole : command.render s ++ '\n' :: after =
      command.front ++ (s ++ (command.back ++ after)) := by
    rw [← List.singleton_append, ← List.append_assoc, render_eq]
    simp
  rw [titleBlock_eq hbefore hs hafter, hwhole, List.append_cancel_left_eq,
    List.append_cancel_left_eq]
  rcases parts_cases s with ⟨hclosed, hread, hleft⟩ | ⟨v, hsplit, hleft⟩
  · rw [hread, hleft]
    exact iff_of_true rfl hclosed
  · refine iff_of_false (fun h => ?_) (fun hclosed => hclosed (hsplit ▸ by simp))
    obtain ⟨c, rest, hback, hc⟩ := command.exists_back_eq
    rw [hback, hleft] at h
    conv_rhs at h => rw [hsplit]
    simp only [List.append_assoc, List.append_cancel_left_eq, List.cons_append] at h
    exact hc (List.cons.inj h).1

end TitleCommand

end PaperHtml.Conversion
