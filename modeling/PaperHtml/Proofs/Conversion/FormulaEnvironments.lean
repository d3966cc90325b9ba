import PaperHtml.Proofs.Conversion.Listing
import PaperHtml.Proofs.Math.SideBySide

/-!
# Environments of formulas

The environments of displayed formulas become formulas between delimiters, and
guarding takes exactly these: a span for each environment, with what was between
its marks (`guard_mathEnvironments`).

## Strategy

There is a step for each of the three environments.  Before it, the environments
whose turn is over are formulas and the others stand as they were written
(`shownBefore`).  A step goes by prose, which has no backslash; by a formula, since
what it looks for ends in a brace and a formula ends in a dollar or a bracket; and
by an environment of another name, of which it reads the marks and what is between
them one after the other (`goesBy_source`).

After all steps the text consists of formulas side by side, so what guarding
makes of it is known.
-/

namespace PaperHtml.Conversion.Markdown

open Text Latex Math

/-! ## The environments -/

/-- The environments of displayed formulas. -/
inductive FormulaEnvironment where
  | equation
  | gather
  | align
  deriving DecidableEq

namespace FormulaEnvironment

/-- The name of an environment. -/
def name : FormulaEnvironment → Text
  | equation => "equation".toList
  | gather => "gather".toList
  | align => "align".toList

/-- The delimiters that an environment becomes. -/
def kind : FormulaEnvironment → FormulaKind
  | equation => .display
  | gather => .display
  | align => .brackets

/-- The turn of an environment. -/
def turn : FormulaEnvironment → Nat
  | equation => 0
  | gather => 1
  | align => 2

/-- The scan for an environment. -/
def reader (env : FormulaEnvironment) : Reader :=
  .formula env.name (displayed env.kind.opening env.kind.closing)

theorem turn_injective : Function.Injective turn := by
  intro env other h
  cases env <;> cases other <;> first | rfl | exact absurd h (by decide)

theorem turn_lt_three (env : FormulaEnvironment) : env.turn < 3 := by
  cases env <;> decide

end FormulaEnvironment

theorem mathEnvironments_eq (t : Text) :
    mathEnvironments t =
      Scanner.substitute FormulaEnvironment.align.reader.scan
        (Scanner.substitute FormulaEnvironment.gather.reader.scan
          (Scanner.substitute FormulaEnvironment.equation.reader.scan t)) := rfl

/-- An environment in a text, and the prose behind it.  Either mark may carry a star. -/
structure Display where
  env : FormulaEnvironment
  starred : Bool
  endStarred : Bool
  body : Text
  behind : Text

namespace Display

/-- The source of an environment. -/
def source (display : Display) : Text :=
  environmentMark "begin".toList display.env.name display.starred ++
    (display.body ++ environmentMark "end".toList display.env.name display.endStarred)

/-- What stands between the delimiters: what was between the marks, trimmed, on lines of its
own. -/
def inner (display : Display) : Text := '\n' :: (trim display.body ++ ['\n'])

/-- The formula that an environment becomes. -/
def formula (display : Display) : Text := display.env.kind.enclose display.inner

end Display

/-- Prose in which nothing looks like a command, a dollar or a token. -/
structure IsProse (t : Text) : Prop where
  backslash_not_mem : '\\' ∉ t
  dollar_not_mem : '$' ∉ t
  unmarked : TextPart.Unmarked t

instance (t : Text) : Decidable (IsProse t) :=
  decidable_of_iff ('\\' ∉ t ∧ '$' ∉ t ∧ TextPart.Unmarked t)
    ⟨fun h => ⟨h.1, h.2.1, h.2.2⟩, fun h => ⟨h.backslash_not_mem, h.dollar_not_mem, h.unmarked⟩⟩

/-- What may stand between the marks of an environment: anything without a dollar, a closing
bracket and a mark of one of the environments, in which nothing looks like a token. -/
structure IsBody (t : Text) : Prop where
  dollar_not_mem : '$' ∉ t
  brackets_absent : ¬ ['\\', ']'] <:+: t
  unmarked : TextPart.Unmarked t
  marks_absent : ∀ (env : FormulaEnvironment) (starred : Bool),
    ¬ environmentMark "begin".toList env.name starred <:+: t ∧
      ¬ environmentMark "end".toList env.name starred <:+: t

/-- A text of prose with environments in it. -/
def document (first : Text) (displays : List Display) : Text :=
  interleave first (displays.map Display.source) (displays.map Display.behind)

/-! ## What a step goes by -/

/-- The marks that a step looks for. -/
theorem exists_of_mem_commands {env : FormulaEnvironment} {command : Text}
    (h : command ∈ env.reader.commands) :
    ∃ starred, command = environmentMark "begin".toList env.name starred := by
  have hmarks : command ∈ environmentMarks "begin".toList env.name := h
  simp only [environmentMarks, List.mem_cons, List.not_mem_nil, or_false] at hmarks
  rcases hmarks with rfl | rfl
  · exact ⟨false, rfl⟩
  · exact ⟨true, rfl⟩

theorem isCommand_of_mem_commands {env : FormulaEnvironment} :
    ∀ command ∈ env.reader.commands, IsCommand command := by
  cases env <;> decide

theorem goesBy_prose (env : FormulaEnvironment) {t : Text} (ht : IsProse t) (rest : Text) :
    env.reader.scan.GoesBy t rest := fun _ hback hne =>
  Reader.scan_eq_none_of_prose isCommand_of_mem_commands ht.backslash_not_mem hback hne rest

theorem goesBy_of_absent {env : FormulaEnvironment} {t : Text} {c : Char}
    (hlast : ∀ command ∈ env.reader.commands, c ∉ command.dropLast)
    (habsent : ∀ command ∈ env.reader.commands, ¬ command <:+: t ++ [c]) (rest : Text) :
    env.reader.scan.GoesBy (t ++ [c]) rest := fun _ hback hne =>
  Reader.scan_eq_none_of_absent hlast habsent hback hne rest

/-- A step goes by a formula that a step before it has made. -/
theorem goesBy_formula (env : FormulaEnvironment) {display : Display} (hbody : IsBody display.body)
    (rest : Text) : env.reader.scan.GoesBy display.formula rest := by
  have habsent : ∀ command ∈ env.reader.commands, ¬ command <:+: display.formula := by
    intro command hcommand hinfix
    obtain ⟨starred, rfl⟩ := exists_of_mem_commands hcommand
    have hfeed : '\n' ∉ environmentMark "begin".toList env.name starred := by
      cases env <;> cases starred <;> decide
    have hshort (kind : FormulaKind) :
        ¬ environmentMark "begin".toList env.name starred <:+: kind.opening ∧
          ¬ environmentMark "begin".toList env.name starred <:+: kind.closing := by
      cases kind <;> cases env <;> cases starred <;> decide
    have hlines : display.formula = display.env.kind.opening ++
        '\n' :: (trim display.body ++ '\n' :: display.env.kind.closing) := by
      simp [Display.formula, FormulaKind.enclose, Display.inner]
    rw [hlines] at hinfix
    rcases infix_append_cons hfeed hinfix with hopening | hbehind
    · exact (hshort _).1 hopening
    · rcases infix_append_cons hfeed hbehind with hinside | hclosing
      · exact (hbody.marks_absent env starred).1 (hinside.trans (infix_of_trim _))
      · exact (hshort _).2 hclosing
  obtain ⟨t, c, hformula, hc⟩ : ∃ t c, display.formula = t ++ [c] ∧ (c = '$' ∨ c = ']') := by
    cases henv : display.env.kind with
    | display => exact ⟨['$', '$'] ++ (display.inner ++ ['$']), '$', by
        simp [Display.formula, henv, FormulaKind.enclose, FormulaKind.opening,
          FormulaKind.closing], .inl rfl⟩
    | brackets => exact ⟨['\\', '['] ++ (display.inner ++ ['\\']), ']', by
        simp [Display.formula, henv, FormulaKind.enclose, FormulaKind.opening,
          FormulaKind.closing], .inr rfl⟩
    | inline => exact absurd henv (by cases display.env <;> decide)
  have hlast : ∀ command ∈ env.reader.commands, c ∉ command.dropLast := by
    rcases hc with rfl | rfl <;> cases env <;> decide
  rw [hformula] at habsent ⊢
  exact goesBy_of_absent hlast habsent rest

/-- A step goes by a mark that is none of its own. -/
theorem goesBy_mark {env : FormulaEnvironment} (command name : Text) (starred : Bool)
    (habsent : ∀ own, ¬ environmentMark "begin".toList env.name own <:+:
      environmentMark command name starred) (rest : Text) :
    env.reader.scan.GoesBy (environmentMark command name starred) rest := by
  obtain ⟨t, hmark⟩ : ∃ t, environmentMark command name starred = t ++ ['}'] :=
    ⟨'\\' :: command ++ '{' :: (if starred then name ++ ['*'] else name), by
      simp [environmentMark, braced]⟩
  rw [hmark] at habsent ⊢
  refine goesBy_of_absent (by cases env <;> decide) (fun own hown => ?_) rest
  obtain ⟨ownStarred, rfl⟩ := exists_of_mem_commands hown
  exact habsent ownStarred

/-- A step goes by what is between two marks. -/
theorem goesBy_body (env : FormulaEnvironment) {t : Text} (hbody : IsBody t) (command name : Text)
    (starred : Bool) (rest : Text) :
    env.reader.scan.GoesBy t (environmentMark command name starred ++ rest) := by
  intro back hback hne
  by_contra hsome
  obtain ⟨found, hfound⟩ := Option.ne_none_iff_exists'.mp hsome
  obtain ⟨own, hmem, hbegins⟩ := env.reader.needs _ found hfound
  obtain ⟨ownStarred, rfl⟩ := exists_of_mem_commands hmem
  -- a mark that goes on into the next one would have a backslash in its middle
  have htail : '\\' ∉ (environmentMark "begin".toList env.name ownStarred).tail := by
    cases env <;> cases ownStarred <;> decide
  have hinside := prefix_of_prefix_append_cons htail hne hbegins
  exact (hbody.marks_absent env ownStarred).1 (hinside.isInfix.trans hback.isInfix)

/-- A step goes by an environment of another name. -/
theorem goesBy_source {env : FormulaEnvironment} {display : Display} (henv : display.env ≠ env)
    (hbody : IsBody display.body) (rest : Text) : env.reader.scan.GoesBy display.source rest := by
  have hbegin (own starred : Bool) : ¬ environmentMark "begin".toList env.name own <:+:
      environmentMark "begin".toList display.env.name starred := by
    cases env <;> cases hname : display.env <;> first
      | exact absurd hname henv
      | cases own <;> cases starred <;> decide
  have hend (own starred : Bool) : ¬ environmentMark "begin".toList env.name own <:+:
      environmentMark "end".toList display.env.name starred := by
    cases env <;> cases display.env <;> cases own <;> cases starred <;> decide
  refine Scanner.GoesBy.append ?_ (Scanner.GoesBy.append ?_ ?_)
  · exact goesBy_mark _ _ _ (fun own => hbegin own _) _
  · exact goesBy_body env hbody _ _ _ _
  · exact goesBy_mark _ _ _ (fun own => hend own _) _

/-- A step makes a formula of an environment of its own. -/
theorem scan_source {display : Display} (hbody : IsBody display.body) (rest : Text) :
    display.env.reader.scan (display.source ++ rest) = some (display.formula, rest) := by
  have henv : '\\' ∉ display.env.name := by
    cases display.env <;> decide
  have hinside := inside?_mark henv (fun starred => (hbody.marks_absent display.env starred).2)
    display.endStarred rest
  have hbegin : dropBegin? display.env.name (display.source ++ rest) =
      some (display.body ++
        (environmentMark "end".toList display.env.name display.endStarred ++ rest)) := by
    rw [Display.source, List.append_assoc, List.append_assoc]
    exact dropEnvironmentName?_mark ..
  have hfound : environment display.env.name (display.source ++ rest) =
      some (display.body, rest) := by
    rw [environment, hbegin, Option.bind_some, hinside]
  have hformula : displayed display.env.kind.opening display.env.kind.closing display.body =
      display.formula := by
    simp [displayed, Display.formula, FormulaKind.enclose, Display.inner]
  have hscan : display.env.reader.scan (display.source ++ rest) =
      (environment display.env.name (display.source ++ rest)).map fun found =>
        (displayed display.env.kind.opening display.env.kind.closing found.1, found.2) := rfl
  rw [hscan, hfound, Option.map_some, hformula]

/-! ## The steps -/

/-- An environment before a turn: a formula if its own turn is over. -/
def Display.shownBefore (turn : Nat) (display : Display) : Text :=
  if display.env.turn < turn then display.formula else display.source

/-- A document before a turn. -/
def documentBefore (turn : Nat) (first : Text) (displays : List Display) : Text :=
  interleave first (displays.map (Display.shownBefore turn)) (displays.map Display.behind)

variable {first : Text} {displays : List Display}

/-- The step of an environment makes formulas of the environments of its name. -/
theorem substitute_shownBefore (env : FormulaEnvironment) (hfirst : IsProse first)
    (hdisplays : ∀ display ∈ displays, IsBody display.body ∧ IsProse display.behind) :
    Scanner.substitute env.reader.scan (documentBefore env.turn first displays) =
      documentBefore (env.turn + 1) first displays := by
  induction displays generalizing first with
  | nil =>
      have hpassed := Scanner.substitute_append_of_passed (goesBy_prose env hfirst [])
      have hempty : Scanner.substitute env.reader.scan [] = [] := rfl
      simpa [documentBefore, hempty] using hpassed
  | cons display displays ih =>
      obtain ⟨⟨hbody, hbehind⟩, hrest⟩ := List.forall_mem_cons.mp hdisplays
      have hmore := ih hbehind hrest
      have hcons (turn : Nat) : documentBefore turn first (display :: displays) =
          first ++ (display.shownBefore turn ++ documentBefore turn display.behind displays) := rfl
      rw [hcons, hcons, Scanner.substitute_append_of_passed (goesBy_prose env hfirst _), ← hmore,
        Display.shownBefore, Display.shownBefore]
      congr 1
      by_cases henv : display.env = env
      · subst henv
        rw [if_neg (lt_irrefl _), if_pos (Nat.lt_succ_self _)]
        have hne : display.source ≠ [] := List.cons_ne_nil _ _
        exact Scanner.substitute_append_of_some hne (scan_source hbody _)
      · rcases Nat.lt_or_gt_of_ne fun heq => henv (FormulaEnvironment.turn_injective heq) with
          hlt | hgt
        · rw [if_pos hlt, if_pos (hlt.trans (Nat.lt_succ_self _))]
          exact Scanner.substitute_append_of_passed (goesBy_formula env hbody _)
        · rw [if_neg hgt.not_gt, if_neg (Nat.not_lt.mpr hgt)]
          exact Scanner.substitute_append_of_passed (goesBy_source henv hbody _)

/-- Every environment of a document becomes a formula, and the prose stays. -/
theorem mathEnvironments_document (hfirst : IsProse first)
    (hdisplays : ∀ display ∈ displays, IsBody display.body ∧ IsProse display.behind) :
    mathEnvironments (document first displays) =
      interleave first (displays.map Display.formula) (displays.map Display.behind) := by
  have hstep (env : FormulaEnvironment) := substitute_shownBefore env hfirst hdisplays
  have hnone : document first displays = documentBefore 0 first displays := by
    have hsource : Display.source = Display.shownBefore 0 := by
      funext display
      exact (if_neg (Nat.not_lt_zero _)).symm
    rw [document, documentBefore, hsource]
  have hall : documentBefore 3 first displays =
      interleave first (displays.map Display.formula) (displays.map Display.behind) := by
    have hformula : Display.shownBefore 3 = Display.formula := by
      funext display
      exact if_pos display.env.turn_lt_three
    rw [documentBefore, hformula]
  rw [mathEnvironments_eq, hnone, ← hall]
  calc Scanner.substitute FormulaEnvironment.align.reader.scan
        (Scanner.substitute FormulaEnvironment.gather.reader.scan
          (Scanner.substitute FormulaEnvironment.equation.reader.scan
            (documentBefore 0 first displays)))
      = Scanner.substitute FormulaEnvironment.align.reader.scan
          (Scanner.substitute FormulaEnvironment.gather.reader.scan
            (documentBefore 1 first displays)) :=
        congrArg (fun t => Scanner.substitute _ (Scanner.substitute _ t)) (hstep .equation)
    _ = Scanner.substitute FormulaEnvironment.align.reader.scan
          (documentBefore 2 first displays) := congrArg (Scanner.substitute _) (hstep .gather)
    _ = documentBefore 3 first displays := hstep .align

/-! ## Guarding what they become -/

/-- The delimiters that an environment becomes. -/
def Display.kind (display : Display) : FormulaKind := display.env.kind

theorem isPiece_of_isProse {t : Text} (h : IsProse t) : IsPiece t :=
  ⟨h.dollar_not_mem, fun hbrackets =>
    h.backslash_not_mem (hbrackets.subset (List.mem_cons_self ..))⟩

theorem fits_inner {display : Display} (h : IsBody display.body) :
    display.kind.Fits display.inner := by
  have hdollar : '$' ∉ display.inner := by
    intro hmem
    rw [Display.inner, List.mem_cons, List.mem_append, List.mem_singleton] at hmem
    rcases hmem with heq | hbody | heq
    · exact absurd heq (by decide)
    · exact h.dollar_not_mem (trim_subset _ hbody)
    · exact absurd heq (by decide)
  have hbrackets : ¬ ['\\', ']'] <:+: display.inner := by
    intro hinfix
    have hfeed : ∀ c ∈ ['\n'], c ∉ ['\\', ']'] := List.forall_mem_singleton.mpr (by decide)
    have hbehind : ['\\', ']'] <:+: trim display.body ++ ['\n'] :=
      infix_of_infix_foreign_append (List.cons_ne_nil _ _) hfeed hinfix
    have hinside := infix_of_infix_append_foreign (List.cons_ne_nil _ _) hfeed hbehind
    exact h.brackets_absent (hinside.trans (infix_of_trim _))
  rw [Display.kind]
  cases display.env with
  | equation => exact hdollar
  | gather => exact hdollar
  | align => exact ⟨hdollar, hbrackets⟩

theorem unmarked_inner {display : Display} (h : IsBody display.body) :
    TextPart.Unmarked display.inner := by
  have hfeed : ∀ c ∈ ['\n'], isTokenChar c = false := List.forall_mem_singleton.mpr (by decide)
  exact unmarked_around (h.unmarked.within (infix_of_trim _)) hfeed hfeed

theorem sideBySide_of_displays (hfirst : IsProse first)
    (hdisplays : ∀ display ∈ displays, IsBody display.body ∧ IsProse display.behind) :
    SideBySide first (displays.map Display.kind) (displays.map Display.inner)
      (displays.map Display.behind) := by
  induction displays generalizing first with
  | nil => exact .nil (isPiece_of_isProse hfirst)
  | cons display displays ih =>
      obtain ⟨⟨hbody, hbehind⟩, hrest⟩ := List.forall_mem_cons.mp hdisplays
      refine .cons (isPiece_of_isProse hfirst) (fits_inner hbody) (fun hinline => ?_)
        (ih hbehind hrest)
      -- no environment becomes a formula of a line
      exact absurd hinline (by unfold Display.kind; cases display.env <;> decide)

theorem enclosed_displays (displays : List Display) :
    enclosed (displays.map Display.kind) (displays.map Display.inner) =
      displays.map Display.formula := by
  induction displays with
  | nil => rfl
  | cons display displays ih => exact congrArg (display.formula :: ·) ih

theorem enclosedOf_displays (kind : FormulaKind) (displays : List Display) :
    enclosedOf kind (displays.map Display.kind) (displays.map Display.inner) =
      (displays.filter fun display => display.kind = kind).map Display.formula := by
  induction displays with
  | nil => rfl
  | cons display displays ih =>
      rw [List.map_cons, List.map_cons, enclosedOf, ih]
      by_cases hkind : display.kind = kind
      · rw [if_pos hkind, List.filter_cons, if_pos (decide_eq_true hkind), List.map_cons, ← hkind]
        rfl
      · rw [if_neg hkind, List.filter_cons, if_neg (by simpa using hkind)]

theorem spansOf_displays (displays : List Display) :
    spansOf (displays.map Display.kind) (displays.map Display.inner) =
      (displays.filter fun display => display.env ≠ .align).map Display.formula ++
        (displays.filter fun display => display.env = .align).map Display.formula := by
  have hdollars (display : Display) : display.kind = .display ↔ display.env ≠ .align := by
    rw [Display.kind]
    cases display.env <;> decide
  have hbrackets (display : Display) : display.kind = .brackets ↔ display.env = .align := by
    rw [Display.kind]
    cases display.env <;> decide
  have hinline : displays.filter (fun display => display.kind = .inline) = [] := by
    refine List.filter_eq_nil_iff.mpr fun display _ => ?_
    rw [Display.kind]
    cases display.env <;> decide
  rw [spansOf, enclosedOf_displays, enclosedOf_displays, enclosedOf_displays, hinline, List.map_nil,
    List.append_nil]
  simp only [hdollars, hbrackets]

/-- The environments of a document become formulas between its prose, and guarding takes a span for
each of them: first those of the equations and gathered formulas in their order, then those of the
aligned formulas in theirs.  The prose stays, and restoring gives back what the environments have
become. -/
theorem guard_mathEnvironments (first : Text) (displays : List Display) (hfirst : IsProse first)
    (hdisplays : ∀ display ∈ displays, IsBody display.body ∧ IsProse display.behind) :
    let set := mathEnvironments (document first displays)
    set = interleave first (displays.map Display.formula) (displays.map Display.behind) ∧
      (guard set).text = interleave first (tokens (displays.map Display.kind))
        (displays.map Display.behind) ∧
      (guard set).spans =
        (displays.filter fun display => display.env ≠ .align).map Display.formula ++
          (displays.filter fun display => display.env = .align).map Display.formula ∧
      restore (guard set).spans (guard set).text = set := by
  intro set
  have hset : set = interleave first (displays.map Display.formula) (displays.map Display.behind) :=
    mathEnvironments_document hfirst hdisplays
  have hside := sideBySide_of_displays hfirst hdisplays
  have hguard := hside.guard_eq
  rw [enclosed_displays, ← hset] at hguard
  have hrestore : restore (guard set).spans (guard set).text = set := by
    have hinners : ∀ inner ∈ displays.map Display.inner, TextPart.Unmarked inner :=
      List.forall_mem_map.mpr fun display hdisplay => unmarked_inner (hdisplays display hdisplay).1
    have hbehind : ∀ piece ∈ displays.map Display.behind, TextPart.Unmarked piece :=
      List.forall_mem_map.mpr fun display hdisplay => (hdisplays display hdisplay).2.unmarked
    have hrestored := hside.restore_eq hinners hfirst.unmarked hbehind (by simp)
    rw [hguard, hrestored, enclosed_displays, hset]
  exact ⟨hset, by rw [hguard], by rw [hguard, spansOf_displays], hrestore⟩

/-- Two environments side by side, with line breaks that hold a bracket and an environment of
another kind between their marks. -/
theorem guard_mathEnvironments_side_by_side :
    let displays : List Display :=
      [⟨.align, true, false,
          "\n\\begin\x7baligned\x7da &= b \\\\[2pt] c\\end\x7baligned\x7d".toList, []⟩,
        ⟨.gather, false, true, " x \\\\[1ex] y ".toList, " and so on".toList⟩]
    let set := mathEnvironments (document "We set ".toList displays)
    IsProse "We set ".toList ∧
      (∀ display ∈ displays, IsBody display.body ∧ IsProse display.behind) ∧
      (guard set).text = "We set @@MATH1@@@@MATH0@@ and so on".toList ∧
      (guard set).spans = ["$$\nx \\\\[1ex] y\n$$".toList,
        "\\[\n\\begin\x7baligned\x7da &= b \\\\[2pt] c\\end\x7baligned\x7d\n\\]".toList] ∧
      restore (guard set).spans (guard set).text = set := by
  intro displays set
  have hfirst : IsProse "We set ".toList := by decide
  have hmarks (t : Text) (h : ∀ env ∈ [FormulaEnvironment.equation, .gather, .align],
      ∀ starred ∈ [true, false], ¬ environmentMark "begin".toList env.name starred <:+: t ∧
        ¬ environmentMark "end".toList env.name starred <:+: t)
      (env : FormulaEnvironment) (starred : Bool) :
      ¬ environmentMark "begin".toList env.name starred <:+: t ∧
        ¬ environmentMark "end".toList env.name starred <:+: t :=
    h env (by cases env <;> decide) starred (by cases starred <;> decide)
  have hdisplays : ∀ display ∈ displays, IsBody display.body ∧ IsProse display.behind := by
    refine List.forall_mem_cons.mpr ⟨⟨?_, by decide⟩, List.forall_mem_singleton.mpr ⟨?_, by decide⟩⟩
    · exact ⟨by decide, by decide, by decide, hmarks _ (by decide)⟩
    · exact ⟨by decide, by decide, by decide, hmarks _ (by decide)⟩
  obtain ⟨-, htext, hspans, hrestore⟩ := guard_mathEnvironments _ displays hfirst hdisplays
  refine ⟨hfirst, hdisplays, ?_, ?_, hrestore⟩
  · exact htext.trans (by decide +kernel)
  · exact hspans.trans (by decide +kernel)

end PaperHtml.Conversion.Markdown
