import PaperHtml.Proofs.Conversion.Crossing
import PaperHtml.Proofs.Conversion.Styling
import PaperHtml.Proofs.Latex.Groups

/-!
# Plain arguments

Many passes read a command with an argument in braces, up to the next closing
brace, whatever is nested in the argument.  This file says what such a scan makes
of one command, and how the argument as it is read (`readPart`) and what is left
behind it (`leftPart`) make up the argument that was meant.

## Strategy

A mark begins with its only backslash and holds no closing brace, so no mark lies
across the ends of a command or of its argument.  A text is free of some marks if
its pieces are (`FreeOf.around_command`, `FreeOf.leftPart_append`), and a scan
goes by what is free of its marks.  A balanced argument does not end in a mark
that its own closing brace would complete, since the brace in such a mark would be
closed outside of the argument (`not_infix_of_balanced`).
-/

namespace PaperHtml.Conversion

open Text Latex Conversion.Markdown

/-! ## Texts free of marks -/

/-- A mark that begins a command: a backslash, and no other one behind it. -/
def IsMark (mark : Text) : Prop := mark.head? = some '\\' ∧ '\\' ∉ mark.tail

instance : DecidablePred IsMark := fun _ => inferInstanceAs (Decidable (_ ∧ _))

/-- None of some marks stands in a text. -/
def FreeOf (marks : List Text) (t : Text) : Prop := ∀ mark ∈ marks, ¬ mark <:+: t

instance (marks : List Text) (t : Text) : Decidable (FreeOf marks t) :=
  inferInstanceAs (Decidable (∀ mark ∈ marks, ¬ mark <:+: t))

variable {marks : List Text} {t u : Text}

theorem IsMark.exists_eq {mark : Text} (h : IsMark mark) :
    ∃ letters, mark = '\\' :: letters ∧ '\\' ∉ letters := by
  obtain ⟨hhead, htail⟩ := h
  cases mark with
  | nil => simp at hhead
  | cons c letters =>
      obtain rfl : c = '\\' := by simpa using hhead
      exact ⟨letters, rfl, htail⟩

/-- A mark does not begin a text that begins with another mark. -/
theorem not_prefix_append_of_apart {mark opening : Text}
    (h : ¬ mark <+: opening ∧ ¬ opening <+: mark) (t : Text) : ¬ mark <+: opening ++ t :=
  fun hfront =>
    (List.prefix_or_prefix_of_prefix hfront (List.prefix_append opening t)).elim h.1 h.2

/-- Behind the other mark it begins only where the text goes on. -/
theorem IsMark.infix_of_infix_append {mark opening : Text} (hmark : IsMark mark)
    (hopening : IsMark opening) (hapart : ¬ mark <+: opening ∧ ¬ opening <+: mark)
    (h : mark <:+: opening ++ t) : mark <:+: t := by
  obtain ⟨letters, rfl, hletters⟩ := hopening.exists_eq
  rcases List.infix_cons_iff.mp h with hfront | hinside
  · exact absurd hfront (not_prefix_append_of_apart hapart t)
  · obtain ⟨others, rfl, -⟩ := hmark.exists_eq
    exact Text.infix_of_infix_append hletters hinside

namespace FreeOf

theorem of_subset {others : List Text} (h : FreeOf marks t) (hothers : others ⊆ marks) :
    FreeOf others t := fun mark hmark => h mark (hothers hmark)

theorem of_infix (h : FreeOf marks t) (hu : u <:+: t) : FreeOf marks u :=
  fun mark hmark hwithin => h mark hmark (hwithin.trans hu)

/-- Texts free of marks stay so with characters between them that the marks do not hold. -/
theorem append_foreign_append {gap : Text} (hne : gap ≠ [])
    (hgap : ∀ mark ∈ marks, ∀ c ∈ gap, c ∉ mark) (hmarks : ∀ mark ∈ marks, IsMark mark)
    (ht : FreeOf marks t) (hu : FreeOf marks u) : FreeOf marks (t ++ (gap ++ u)) := by
  intro mark hmark hinfix
  obtain ⟨c, gap, rfl⟩ := List.exists_cons_of_ne_nil hne
  obtain ⟨hc, hrest⟩ := List.forall_mem_cons.mp (hgap mark hmark)
  rcases infix_append_cons hc hinfix with hfront | hback
  · exact ht mark hmark hfront
  · obtain ⟨letters, rfl, -⟩ := (hmarks mark hmark).exists_eq
    exact hu _ hmark (infix_of_infix_foreign_append (List.cons_ne_nil _ _) hrest hback)

/-- A text without backslashes is free of all marks. -/
theorem of_prose (hmarks : ∀ mark ∈ marks, IsMark mark) (ht : '\\' ∉ t) : FreeOf marks t := by
  intro mark hmark hwithin
  obtain ⟨letters, rfl, -⟩ := (hmarks mark hmark).exists_eq
  exact ht (hwithin.subset (List.mem_cons_self ..))

/-- A mark does not lie across the backslash of another command. -/
theorem append_command (hmarks : ∀ mark ∈ marks, IsMark mark) (ht : FreeOf marks t)
    (hu : FreeOf marks ('\\' :: u)) : FreeOf marks (t ++ '\\' :: u) := by
  intro mark hmark hinfix
  obtain ⟨letters, rfl, hletters⟩ := (hmarks mark hmark).exists_eq
  rcases infix_append_cons_first hletters hinfix with hfront | hback
  · exact ht _ hmark hfront
  · exact hu _ hmark hback

/-- Nor do they come about in a text without a backslash in front. -/
theorem prose_append (hmarks : ∀ mark ∈ marks, IsMark mark) {gap : Text} (hgap : '\\' ∉ gap)
    (ht : FreeOf marks t) : FreeOf marks (gap ++ t) := by
  intro mark hmark hinfix
  obtain ⟨letters, rfl, -⟩ := (hmarks mark hmark).exists_eq
  exact ht _ hmark (infix_of_infix_append hgap hinfix)

/-- A command that begins otherwise than the marks brings none of them about. -/
theorem command_append (hmarks : ∀ mark ∈ marks, IsMark mark) {opening : Text}
    (hopening : IsMark opening)
    (hapart : ∀ mark ∈ marks, ¬ mark <+: opening ∧ ¬ opening <+: mark) (ht : FreeOf marks t) :
    FreeOf marks (opening ++ t) := fun mark hmark hwithin =>
  ht mark hmark ((hmarks mark hmark).infix_of_infix_append hopening (hapart mark hmark) hwithin)

/-- A command whose argument is free of the marks brings none of them about. -/
theorem around_command (hmarks : ∀ mark ∈ marks, IsMark mark ∧ '}' ∉ mark) {opening : Text}
    (hopening : IsMark opening)
    (hapart : ∀ mark ∈ marks, ¬ mark <+: opening ∧ ¬ opening <+: mark) {before s after : Text}
    (hbefore : FreeOf marks before) (hs : FreeOf marks s) (hafter : FreeOf marks after) :
    FreeOf marks (before ++ (opening ++ (s ++ '}' :: after))) := by
  have hmark : ∀ mark ∈ marks, IsMark mark := fun mark hmem => (hmarks mark hmem).1
  have hbehind : FreeOf marks (s ++ (['}'] ++ after)) :=
    append_foreign_append (List.cons_ne_nil _ _)
      (fun mark hmem => List.forall_mem_singleton.mpr (hmarks mark hmem).2) hmark hs hafter
  have hcommand := command_append hmark hopening hapart hbehind
  obtain ⟨letters, rfl, -⟩ := hopening.exists_eq
  exact append_command hmark hbefore hcommand

end FreeOf

/-! ## Scans for an argument -/

/-- A scan for a command that reads its argument up to the next closing brace. -/
structure ArgumentReader extends Reader where
  render : Text → Text
  isMark : ∀ opening ∈ commands, IsMark opening
  scan_eq_some_iff : ∀ t out rest, scan t = some (out, rest) ↔
    ∃ opening ∈ commands, ∃ argument, '}' ∉ argument ∧
      t = opening ++ (argument ++ '}' :: rest) ∧ out = render argument

theorem withStarredArgument_eq_some_iff {name t out rest : Text} {render : Text → Text} :
    withStarredArgument name render t = some (out, rest) ↔
      ∃ opening ∈ ['\\' :: name ++ ['{'], '\\' :: name ++ ['*', '{']], ∃ argument, '}' ∉ argument ∧
        t = opening ++ (argument ++ '}' :: rest) ∧ out = render argument := by
  simp only [withStarredArgument, dropCommand?, Option.bind_eq_some_iff, Option.map_eq_some_iff,
    dropPrefix?_eq_some_iff]
  constructor
  · rintro ⟨behind, rfl, ⟨argument, after⟩, hargument, heq⟩
    obtain ⟨rfl, rfl⟩ := Prod.mk.inj heq
    obtain ⟨hclosed, hbehind⟩ := argument?_eq_some_iff.mp hargument
    cases behind with
    | nil => simp [dropStar, dropOptional] at hbehind
    | cons c behind =>
        by_cases hc : c = '*'
        · rw [dropStar, dropOptional, if_pos hc] at hbehind
          exact ⟨_, List.mem_cons_of_mem _ (List.mem_singleton_self _), argument, hclosed,
            by simp [hc, hbehind], rfl⟩
        · rw [dropStar, dropOptional, if_neg hc] at hbehind
          exact ⟨_, List.mem_cons_self .., argument, hclosed, by simp [hbehind], rfl⟩
  · rintro ⟨opening, hopening, argument, hclosed, rfl, rfl⟩
    have hargument : argument? ('{' :: (argument ++ '}' :: rest)) = some (argument, rest) :=
      argument?_eq_some_iff.mpr ⟨hclosed, rfl⟩
    rw [List.mem_cons, List.mem_singleton] at hopening
    rcases hopening with rfl | rfl
    · exact ⟨'{' :: (argument ++ '}' :: rest), by simp, (argument, rest), hargument, rfl⟩
    · exact ⟨'*' :: '{' :: (argument ++ '}' :: rest), by simp, (argument, rest), hargument, rfl⟩

namespace ArgumentReader

/-- A command with its argument. -/
def ofCommand (name : Text) (render : Text → Text) (hname : '\\' ∉ name) : ArgumentReader where
  scan := withArgument name render
  commands := ['\\' :: name ++ ['{']]
  needs := fun t found h => by
    obtain ⟨argument, -, rfl, -⟩ := withArgument_eq_some_iff.mp (h : _ = some (found.1, found.2))
    exact ⟨_, List.mem_singleton_self _, List.prefix_append ..⟩
  render := render
  isMark := List.forall_mem_singleton.mpr ⟨rfl, by simp [hname]⟩
  scan_eq_some_iff := fun t out rest => by
    rw [withArgument_eq_some_iff]
    simp

/-- The scan for a label. -/
def label : ArgumentReader := .ofCommand "label".toList (fun _ => []) (by decide)

/-- A command with its argument, which may carry a star. -/
def ofStarredCommand (name : Text) (render : Text → Text) (hname : '\\' ∉ name) :
    ArgumentReader where
  scan := withStarredArgument name render
  commands := ['\\' :: name ++ ['{'], '\\' :: name ++ ['*', '{']]
  needs := fun t found h => by
    obtain ⟨opening, hopening, argument, -, rfl, -⟩ :=
      withStarredArgument_eq_some_iff.mp (h : _ = some (found.1, found.2))
    exact ⟨opening, hopening, List.prefix_append ..⟩
  render := render
  isMark := by
    rw [List.forall_mem_cons, List.forall_mem_singleton]
    exact ⟨⟨rfl, by simp [hname]⟩, ⟨rfl, by simp [hname]⟩⟩
  scan_eq_some_iff := fun t out rest => withStarredArgument_eq_some_iff

/-- A font or an address, by commands that begin with a backslash. -/
def ofStyle (style : Style) (h : ∀ opening ∈ style.openings, IsMark opening) : ArgumentReader where
  scan := style.scan
  commands := style.openings
  needs := fun t found hfound => by
    obtain ⟨opening, hopening, argument, -, rfl, -⟩ :=
      (style.scan_eq_some_iff _ _ _).mp (hfound : _ = some (found.1, found.2))
    exact ⟨opening, hopening, List.prefix_append ..⟩
  render argument := style.before ++ (argument ++ style.after)
  isMark := h
  scan_eq_some_iff := style.scan_eq_some_iff

/-- Nothing is read in a text that is free of the commands. -/
theorem goesBy_of_freeOf {reader : Reader} (h : FreeOf reader.commands t) :
    reader.scan.GoesBy t [] := by
  intro back hback _
  rw [List.append_nil, Option.eq_none_iff_forall_ne_some]
  intro found hfound
  obtain ⟨command, hcommand, hbegins⟩ := reader.needs _ _ hfound
  exact h command hcommand (hbegins.isInfix.trans hback.isInfix)

/-- Nor where a character follows that stands in no command behind its first character. -/
theorem goesBy_cons {reader : Reader} (h : FreeOf reader.commands t) {c : Char}
    (hc : ∀ command ∈ reader.commands, c ∉ command.tail) (rest : Text) :
    reader.scan.GoesBy t (c :: rest) := by
  intro back hback hne
  rw [Option.eq_none_iff_forall_ne_some]
  intro found hfound
  obtain ⟨command, hcommand, hbegins⟩ := reader.needs _ _ hfound
  have hinside := prefix_of_prefix_append_cons (hc command hcommand) hne hbegins
  exact h command hcommand (hinside.isInfix.trans hback.isInfix)

theorem substitute_of_freeOf {reader : Reader} (h : FreeOf reader.commands t) :
    Scanner.substitute reader.scan t = t := by
  simpa [Scanner.substitute] using Scanner.substitute_append_of_passed (goesBy_of_freeOf h)

theorem substituteFirst_of_freeOf {reader : Reader} (h : FreeOf reader.commands t) :
    Scanner.substituteFirst reader.scan t = t := by
  simpa [Scanner.substituteFirst] using Scanner.substituteFirst_append_of_passed (goesBy_of_freeOf h)

variable (reader : ArgumentReader)

theorem goesBy_command (h : FreeOf reader.commands t) (rest : Text) :
    reader.scan.GoesBy t ('\\' :: rest) :=
  goesBy_cons h (fun command hcommand => (reader.isMark command hcommand).2) rest

theorem goesBy_prose (h : '\\' ∉ t) (rest : Text) : reader.scan.GoesBy t rest := by
  intro back hback hne
  rw [Option.eq_none_iff_forall_ne_some]
  intro found hfound
  obtain ⟨command, hcommand, hbegins⟩ := reader.needs _ _ hfound
  obtain ⟨letters, rfl, -⟩ := (reader.isMark command hcommand).exists_eq
  obtain ⟨c, back, rfl⟩ := List.exists_cons_of_ne_nil hne
  obtain ⟨rfl, -⟩ := List.cons_prefix_cons.mp hbegins
  exact h (hback.subset (List.mem_cons_self ..))

/-- A text with every command rendered. -/
def run (t : Text) : Text := Scanner.substitute reader.scan t

variable {opening argument before rest : Text}

theorem exists_opening_eq (hopening : opening ∈ reader.commands) (t : Text) :
    ∃ behind, opening ++ t = '\\' :: behind := by
  obtain ⟨letters, rfl, -⟩ := (reader.isMark opening hopening).exists_eq
  exact ⟨letters ++ t, rfl⟩

theorem scan_opening (hopening : opening ∈ reader.commands) (hclosed : '}' ∉ argument)
    (rest : Text) :
    reader.scan (opening ++ (argument ++ '}' :: rest)) = some (reader.render argument, rest) :=
  (reader.scan_eq_some_iff _ _ _).mpr ⟨opening, hopening, argument, hclosed, rfl, rfl⟩

/-- The first command of a text is replaced where it is the only one that is looked for. -/
theorem substituteFirst_around (hopening : opening ∈ reader.commands) (hclosed : '}' ∉ argument)
    (hbefore : FreeOf reader.commands before) (rest : Text) :
    Scanner.substituteFirst reader.scan (before ++ (opening ++ (argument ++ '}' :: rest))) =
      before ++ (reader.render argument ++ rest) := by
  obtain ⟨behind, heq⟩ := reader.exists_opening_eq hopening (argument ++ '}' :: rest)
  have hfound := reader.scan_opening hopening hclosed rest
  rw [heq] at hfound ⊢
  rw [Scanner.substituteFirst_append_of_passed (reader.goesBy_command hbefore behind),
    Scanner.substituteFirst, hfound]

/-- A command is replaced, and the scan goes on behind its argument. -/
theorem run_opening (hopening : opening ∈ reader.commands) (hclosed : '}' ∉ argument)
    (rest : Text) :
    reader.run (opening ++ (argument ++ '}' :: rest)) =
      reader.render argument ++ reader.run rest :=
  substitute_argument reader.scan_eq_some_iff hopening hclosed rest

/-- A command is replaced where no other one stands around it. -/
theorem run_around (hopening : opening ∈ reader.commands) (hclosed : '}' ∉ argument)
    (hbefore : FreeOf reader.commands before) (hrest : FreeOf reader.commands rest) :
    reader.run (before ++ (opening ++ (argument ++ '}' :: rest))) =
      before ++ (reader.render argument ++ rest) := by
  obtain ⟨behind, heq⟩ := reader.exists_opening_eq hopening (argument ++ '}' :: rest)
  have hpassed := reader.goesBy_command hbefore behind
  rw [← heq] at hpassed
  rw [run, Scanner.substitute_append_of_passed hpassed, ← run, reader.run_opening hopening hclosed,
    run, substitute_of_freeOf hrest]

theorem run_cons_of_none {c : Char} {rest : Text} (h : reader.scan (c :: rest) = none) :
    reader.run (c :: rest) = c :: reader.run rest := Scanner.substitute_cons_of_none h

theorem run_prose (h : '\\' ∉ t) (rest : Text) : reader.run (t ++ rest) = t ++ reader.run rest :=
  Scanner.substitute_append_of_passed (reader.goesBy_prose h rest)

/-- Another command at the front stays. -/
theorem run_apart (hopening : IsMark opening)
    (hapart : ∀ mark ∈ reader.commands, ¬ mark <+: opening ∧ ¬ opening <+: mark) (rest : Text) :
    reader.run (opening ++ rest) = opening ++ reader.run rest := by
  obtain ⟨letters, rfl, hletters⟩ := hopening.exists_eq
  have hnone : reader.scan ('\\' :: (letters ++ rest)) = none := by
    rw [Option.eq_none_iff_forall_ne_some]
    intro found hfound
    obtain ⟨command, hcommand, hbegins⟩ := reader.needs _ _ hfound
    exact not_prefix_append_of_apart (hapart command hcommand) rest hbegins
  rw [List.cons_append, run_cons_of_none _ hnone, run_prose _ hletters, List.cons_append]

/-- What holds of a text and of the text with every command rendered. -/
theorem run_induction {motive : Text → Text → Prop} (nil : motive [] [])
    (pass : ∀ c rest, reader.scan (c :: rest) = none → motive rest (reader.run rest) →
      motive (c :: rest) (c :: reader.run rest))
    (found : ∀ opening ∈ reader.commands, ∀ argument, '}' ∉ argument → ∀ rest,
      motive rest (reader.run rest) →
        motive (opening ++ (argument ++ '}' :: rest)) (reader.render argument ++ reader.run rest))
    (t : Text) : motive t (reader.run t) :=
  argument_induction reader.scan_eq_some_iff nil pass found t

/-- Without a closing brace no command has an argument. -/
theorem run_of_brace_not_mem (h : '}' ∉ t) : reader.run t = t := by
  refine reader.run_induction (motive := fun t u => '}' ∉ t → u = t) (fun _ => rfl) ?_ ?_ t h
  · intro c rest _ ih h
    rw [ih fun hmem => h (List.mem_cons_of_mem _ hmem)]
  · intro opening _ argument _ rest _ h
    exact absurd (by simp) h

/-- A scan that has left no command behind reads nothing from a text into what follows it. -/
theorem run_append_cons (hbrace : ∀ command ∈ reader.commands, '}' ∉ command)
    (h : FreeOf reader.commands (reader.run t)) {c : Char}
    (hc : ∀ command ∈ reader.commands, c ∉ command.tail) (rest : Text) :
    reader.run (t ++ c :: rest) = reader.run t ++ reader.run (c :: rest) := by
  refine reader.run_induction (motive := fun t u => FreeOf reader.commands u →
    reader.run (t ++ c :: rest) = u ++ reader.run (c :: rest)) (fun _ => rfl) ?_ ?_ t h
  · intro d t hnone ih hfree
    have hscan : reader.scan (d :: (t ++ c :: rest)) = none := by
      rw [Option.eq_none_iff_forall_ne_some]
      rintro ⟨out, after⟩ hfound
      obtain ⟨command, hcommand, hbegins⟩ := reader.needs _ _ hfound
      obtain ⟨behind, hsplit⟩ := prefix_of_prefix_append_cons (t := d :: t) (hc command hcommand)
        (List.cons_ne_nil _ _) hbegins
      -- the command would have been read, unless its argument is not closed
      by_cases hclosed : '}' ∈ behind
      · obtain ⟨argument, more, rfl, hargument⟩ := List.eq_append_cons_of_mem hclosed
        rw [← hsplit, reader.scan_opening hcommand hargument] at hnone
        exact absurd hnone (Option.some_ne_none _)
      · have hopen : '}' ∉ d :: t := by
          rw [← hsplit, List.mem_append, not_or]
          exact ⟨hbrace command hcommand, hclosed⟩
        have hself := reader.run_of_brace_not_mem hopen
        rw [run_cons_of_none _ hnone] at hself
        exact hfree command hcommand (hself ▸ ⟨[], behind, hsplit⟩)
    rw [List.cons_append, run_cons_of_none _ hscan, ih (hfree.of_infix (List.suffix_cons ..).isInfix),
      List.cons_append]
  · intro opening hopening argument hargument t ih hfree
    have hsource : opening ++ (argument ++ '}' :: t) ++ c :: rest =
        opening ++ (argument ++ '}' :: (t ++ c :: rest)) := by simp
    rw [hsource, reader.run_opening hopening hargument,
      ih (hfree.of_infix (List.suffix_append ..).isInfix), List.append_assoc]

/-- Where a scan renders a command, the other commands in its argument stay. -/
theorem infix_run_of_infix {mark : Text} (hmark : IsMark mark) (hbrace : '}' ∉ mark)
    (hapart : ∀ opening ∈ reader.commands, ¬ opening <+: mark ∧ ¬ mark <+: opening)
    (hrender : ∀ argument, argument <:+: reader.render argument) (h : mark <:+: t) :
    mark <:+: reader.run t := by
  refine reader.run_induction (motive := fun t u => mark <:+: t → mark <:+: u) id ?_ ?_ t h
  · intro c rest hnone ih h
    rcases List.infix_cons_iff.mp h with ⟨behind, hfront⟩ | hinside
    · rw [← run_cons_of_none _ hnone, ← hfront, reader.run_apart hmark hapart]
      exact (List.prefix_append _ _).isInfix
    · exact (ih hinside).trans (List.suffix_cons c _).isInfix
  · intro opening hopening argument _ rest ih h
    rw [← List.append_assoc] at h
    rcases infix_append_cons hbrace h with hhere | hbehind
    · have hargument := hmark.infix_of_infix_append (reader.isMark opening hopening)
        (hapart opening hopening).symm hhere
      exact (hargument.trans (hrender argument)).trans (List.prefix_append _ _).isInfix
    · exact (ih hbehind).trans (List.suffix_append _ _).isInfix

/-- A scan that writes no closing brace of its own changes nothing or leaves fewer of them. -/
theorem run_eq_self_or_count_lt (hrender : ∀ argument, '}' ∉ argument →
    '}' ∉ reader.render argument) (t : Text) :
    reader.run t = t ∨ (reader.run t).count '}' < t.count '}' := by
  refine reader.run_induction (motive := fun t u => u = t ∨ u.count '}' < t.count '}')
    (.inl rfl) ?_ ?_ t
  · rintro c rest - (heq | hlt)
    · exact .inl (congrArg (c :: ·) heq)
    · rw [List.count_cons, List.count_cons]
      exact .inr (Nat.add_lt_add_right hlt _)
  · intro opening _ argument hclosed rest ih
    have hle : (reader.run rest).count '}' ≤ rest.count '}' := by
      rcases ih with heq | hlt
      · rw [heq]
      · exact hlt.le
    rw [List.count_append, List.count_eq_zero.mpr (hrender argument hclosed), List.count_append,
      List.count_append, List.count_cons_self]
    exact .inr (by omega)

end ArgumentReader

/-! ## Steps that find nothing -/

theorem eraseBracketLines_eq_self {ls : List Text} (h : ∀ line ∈ ls, isBracketLine line = false) :
    eraseBracketLines false ls = ls := by
  induction ls with
  | nil => rfl
  | cons line ls ih =>
      obtain ⟨hline, hrest⟩ := List.forall_mem_cons.mp h
      simp [eraseBracketLines, hline, ih hrest]

/-- A step leaves a text in which there is nothing that it looks for. -/
theorem Step.run_of_absent {step : Step} (h : step.Absent t) : step.run t = t := by
  cases step with
  | every reader => exact ArgumentReader.substitute_of_freeOf h
  | first reader => exact ArgumentReader.substituteFirst_of_freeOf h
  | comments =>
      exact unlines_map_lines_eq_self fun line hline => if_neg (by simp [h line hline])
  | brackets =>
      change unlines (eraseBracketLines false (lines t)) = t
      rw [eraseBracketLines_eq_self h, unlines_lines]

theorem runSteps_of_absent {steps : List Step} (h : ∀ step ∈ steps, step.Absent t) :
    runSteps steps t = t := by
  induction steps with
  | nil => rfl
  | cons step steps ih =>
      obtain ⟨hstep, hsteps⟩ := List.forall_mem_cons.mp h
      rw [runSteps_cons, Step.run_of_absent hstep, ih hsteps]

/-- A scan looks for commands that begin otherwise than the given one. -/
def Reader.Apart (opening : Text) (reader : Reader) : Prop :=
  ∀ mark ∈ reader.commands, IsMark mark ∧ ¬ mark <+: opening ∧ ¬ opening <+: mark

instance (opening : Text) : DecidablePred (Reader.Apart opening) := fun reader =>
  inferInstanceAs (Decidable
    (∀ mark ∈ reader.commands, IsMark mark ∧ ¬ mark <+: opening ∧ ¬ opening <+: mark))

theorem Reader.Apart.freeOf {reader : Reader} {opening : Text} (h : reader.Apart opening)
    (hopening : IsMark opening) (ht : '\\' ∉ t) : FreeOf reader.commands (opening ++ t) :=
  FreeOf.command_append (fun mark hmark => (h mark hmark).1) hopening
    (fun mark hmark => (h mark hmark).2) (FreeOf.of_prose (fun mark hmark => (h mark hmark).1) ht)

/-- A scan goes by a command that begins otherwise, with a text without commands behind it. -/
theorem Reader.Apart.goesBy {reader : Reader} {opening : Text} (h : reader.Apart opening)
    (hopening : IsMark opening) (ht : '\\' ∉ t) (rest : Text) :
    reader.scan.GoesBy (opening ++ t) rest := by
  obtain ⟨letters, rfl, hletters⟩ := hopening.exists_eq
  intro back hback hne
  rw [Option.eq_none_iff_forall_ne_some]
  intro found hfound
  obtain ⟨mark, hmark, hbegins⟩ := reader.needs _ _ hfound
  obtain ⟨hmark', hdiffers⟩ := h mark hmark
  rw [List.cons_append] at hback
  rcases List.suffix_cons_iff.mp hback with rfl | hbehind
  · rw [← List.cons_append, List.append_assoc] at hbegins
    exact not_prefix_append_of_apart hdiffers _ hbegins
  · obtain ⟨others, rfl, -⟩ := hmark'.exists_eq
    obtain ⟨c, back, rfl⟩ := List.exists_cons_of_ne_nil hne
    obtain ⟨rfl, -⟩ := List.cons_prefix_cons.mp hbegins
    rcases List.mem_append.mp (hbehind.subset (List.mem_cons_self ..)) with hmem | hmem
    · exact hletters hmem
    · exact ht hmem

/-- A step scans for commands that begin otherwise than the given one. -/
def Step.Apart (opening : Text) : Step → Prop
  | every reader => reader.Apart opening
  | first reader => reader.Apart opening
  | comments => False
  | brackets => False

instance (opening : Text) : DecidablePred (Step.Apart opening)
  | .every reader => inferInstanceAs (Decidable (reader.Apart opening))
  | .first reader => inferInstanceAs (Decidable (reader.Apart opening))
  | .comments => inferInstanceAs (Decidable False)
  | .brackets => inferInstanceAs (Decidable False)

theorem Step.Apart.absent {step : Step} {opening : Text} (h : step.Apart opening)
    (hopening : IsMark opening) (ht : '\\' ∉ t) : step.Absent (opening ++ t) := by
  cases step with
  | every reader => exact Reader.Apart.freeOf h hopening ht
  | first reader => exact Reader.Apart.freeOf h hopening ht
  | comments => exact h.elim
  | brackets => exact h.elim

/-! ## Where an argument is taken to end -/

/-- An argument as it is read, up to its first closing brace. -/
def readPart (s : Text) : Text := s.takeWhile (· != '}')

/-- What is left behind an argument as it is read, with the brace that closes it. -/
def leftPart (s : Text) : Text := ((s ++ ['}']).dropWhile (· != '}')).tail

theorem parts_of_not_mem {s : Text} (h : '}' ∉ s) : readPart s = s ∧ leftPart s = [] := by
  have hall : ∀ c ∈ s, (c != '}') = true := fun c hc => bne_iff_ne.mpr (ne_of_mem_of_not_mem hc h)
  refine ⟨List.takeWhile_eq_self_iff.mpr hall, ?_⟩
  rw [leftPart, List.dropWhile_append_of_pos hall]
  rfl

theorem parts_of_not_mem_front {u : Text} (h : '}' ∉ u) (v : Text) :
    readPart (u ++ '}' :: v) = u ∧ leftPart (u ++ '}' :: v) = v ++ ['}'] := by
  have hall : ∀ c ∈ u, (c != '}') = true := fun c hc => bne_iff_ne.mpr (ne_of_mem_of_not_mem hc h)
  constructor
  · rw [readPart, List.takeWhile_append_of_pos hall]
    simp
  · rw [leftPart, List.append_assoc, List.dropWhile_append_of_pos hall]
    simp

/-- An argument has no closing brace, or the first one is where reading ends. -/
theorem parts_cases (s : Text) :
    ('}' ∉ s ∧ readPart s = s ∧ leftPart s = []) ∨
      ∃ v, s = readPart s ++ '}' :: v ∧ leftPart s = v ++ ['}'] := by
  by_cases h : '}' ∈ s
  · obtain ⟨u, v, rfl, hu⟩ := List.eq_append_cons_of_mem h
    obtain ⟨hread, hleft⟩ := parts_of_not_mem_front hu v
    exact .inr ⟨v, by rw [hread], hleft⟩
  · exact .inl ⟨h, parts_of_not_mem h⟩

theorem brace_not_mem_readPart (s : Text) : '}' ∉ readPart s := fun hmem => by
  simpa using List.mem_takeWhile_imp hmem

theorem readPart_append (s after : Text) :
    readPart s ++ '}' :: (leftPart s ++ after) = s ++ '}' :: after := by
  rcases parts_cases s with ⟨-, hread, hleft⟩ | ⟨v, hs, hleft⟩
  · rw [hread, hleft, List.nil_append]
  · rw [hleft]
    conv_rhs => rw [hs]
    simp

theorem readPart_append_of_not_mem {u : Text} (h : '}' ∉ u) (v : Text) :
    readPart (u ++ v) = u ++ readPart v :=
  List.takeWhile_append_of_pos fun _ hc => bne_iff_ne.mpr (ne_of_mem_of_not_mem hc h)

theorem readPart_append_cons (s v : Text) : readPart (s ++ '}' :: v) = readPart s := by
  induction s with
  | nil => rfl
  | cons c s ih =>
      rw [readPart, List.cons_append, List.takeWhile_cons, ← readPart, ih, readPart, readPart,
        List.takeWhile_cons]

theorem readPart_infix_self (s : Text) : readPart s <:+: s := (List.takeWhile_prefix _).isInfix

theorem leftPart_eq_nil_iff {s : Text} : leftPart s = [] ↔ '}' ∉ s := by
  rcases parts_cases s with ⟨hclosed, -, hleft⟩ | ⟨v, hs, hleft⟩
  · simp [hclosed, hleft]
  · rw [hleft, hs]
    simp

theorem eq_replicate_of_append_singleton_eq_cons {c : Char} {v : Text} (h : v ++ [c] = c :: v) :
    v = List.replicate v.length c := by
  induction v with
  | nil => rfl
  | cons d v ih =>
      obtain ⟨rfl, hrest⟩ := List.cons.inj h
      rw [List.length_cons, List.replicate_succ, ← ih hrest]

/-- Reading up to the first closing brace loses no brace if only such braces follow it. -/
theorem readPart_append_leftPart_eq_iff {s : Text} :
    readPart s ++ leftPart s = s ↔ ∃ u count, '}' ∉ u ∧ s = u ++ List.replicate count '}' := by
  constructor
  · intro h
    rcases parts_cases s with ⟨hclosed, -, -⟩ | ⟨v, hs, hleft⟩
    · exact ⟨s, 0, hclosed, by simp⟩
    · have hsame : v ++ ['}'] = '}' :: v := by
        rw [hleft] at h
        exact List.append_cancel_left (h.trans hs)
      refine ⟨readPart s, v.length + 1, brace_not_mem_readPart s, ?_⟩
      rw [List.replicate_succ, ← eq_replicate_of_append_singleton_eq_cons hsame]
      exact hs
  · rintro ⟨u, count, hclosed, rfl⟩
    cases count with
    | zero =>
        obtain ⟨hread, hleft⟩ := parts_of_not_mem hclosed
        rw [List.replicate_zero, List.append_nil, hread, hleft, List.append_nil]
    | succ count =>
        obtain ⟨hread, hleft⟩ := parts_of_not_mem_front hclosed (List.replicate count '}')
        rw [List.replicate_succ, hread, hleft, ← List.replicate_succ', List.replicate_succ]

/-- What is left holds no mark that neither the argument nor the text behind it holds. -/
theorem FreeOf.leftPart_append (hmarks : ∀ mark ∈ marks, IsMark mark ∧ '}' ∉ mark) {s after : Text}
    (hs : FreeOf marks s) (hafter : FreeOf marks after) : FreeOf marks (leftPart s ++ after) := by
  rcases parts_cases s with ⟨-, -, hleft⟩ | ⟨v, hsplit, hleft⟩
  · rwa [hleft, List.nil_append]
  · have hv : v <:+: s := ⟨readPart s ++ ['}'], [], by simp [← hsplit]⟩
    rw [hleft, List.append_assoc]
    refine FreeOf.append_foreign_append (List.cons_ne_nil _ _) ?_ (fun mark hmark => (hmarks mark hmark).1)
      (hs.of_infix hv) hafter
    exact fun mark hmark => List.forall_mem_singleton.mpr (hmarks mark hmark).2

/-- What stands up to the closing brace behind a command is still there when it is rendered. -/
theorem ArgumentReader.readPart_infix_readPart_run (reader : ArgumentReader) {opening : Text}
    (hopening : opening ∈ reader.commands) (hbrace : '}' ∉ opening)
    (hrender : ∀ argument, '}' ∉ argument →
      '}' ∉ reader.render argument ∧ argument <:+: reader.render argument) (t : Text) :
    readPart t <:+: readPart (reader.run (opening ++ t)) := by
  rcases parts_cases t with ⟨hclosed, -, -⟩ | ⟨v, hsplit, -⟩
  · have hnone : '}' ∉ opening ++ t := by simp [hbrace, hclosed]
    rw [reader.run_of_brace_not_mem hnone, readPart_append_of_not_mem hbrace]
    exact (List.suffix_append _ _).isInfix
  · obtain ⟨hread, hthere⟩ := hrender _ (brace_not_mem_readPart t)
    conv_rhs => rw [hsplit]
    rw [reader.run_opening hopening (brace_not_mem_readPart t), readPart_append_of_not_mem hread]
    exact hthere.trans (List.prefix_append _ _).isInfix

/-- What is left of an argument is passed over where the argument holds no command of a scan. -/
theorem ArgumentReader.goesBy_leftPart {reader : Reader}
    (hmarks : ∀ mark ∈ reader.commands, IsMark mark ∧ '}' ∉ mark) {s : Text}
    (hs : FreeOf reader.commands s) (rest : Text) : reader.scan.GoesBy (leftPart s) rest := by
  have hfree := FreeOf.leftPart_append hmarks hs (fun mark hmem hinfix => by
    obtain ⟨letters, rfl, -⟩ := (hmarks mark hmem).1.exists_eq
    simp at hinfix : FreeOf reader.commands [])
  rw [List.append_nil] at hfree
  rcases parts_cases s with ⟨-, -, hleft⟩ | ⟨v, -, hleft⟩
  · rw [hleft]
    exact fun back hback hne => absurd (List.suffix_nil.mp hback) hne
  · rw [hleft] at hfree ⊢
    intro back hback hne
    exact Reader.scan_eq_none_of_absent
      (fun mark hmem hlast => (hmarks mark hmem).2 (List.dropLast_subset _ hlast)) hfree hback hne rest

/-! ## Balanced arguments -/

/-- A balanced argument does not close the brace of a mark at its end. -/
theorem not_infix_of_balanced {s front y : Text} {c : Char} (hc : c ≠ '\\') (hy : '}' ∉ y)
    (hbalanced : group? (braced s) = some (s, []))
    (hs : ¬ front ++ c :: '{' :: (y ++ ['}']) <:+: s) :
    ¬ front ++ c :: '{' :: (y ++ ['}']) <:+: s ++ ['}'] := by
  intro hinfix
  rcases List.infix_concat_iff.mp hinfix with hsuffix | hinside
  · obtain ⟨before, heq⟩ := hsuffix
    have hsplit : s = (before ++ front) ++ c :: '{' :: y := by
      have hlast : (before ++ front ++ c :: '{' :: y) ++ ['}'] = s ++ ['}'] := by simp [← heq]
      exact (List.append_cancel_right hlast).symm
    have hclosed : closeGroup? 0 (s ++ ['}']) = some (s, []) := hbalanced
    rw [hsplit] at hclosed
    exact hy (brace_mem_of_closeGroup? hc hclosed)
  · exact hs hinside

end PaperHtml.Conversion
