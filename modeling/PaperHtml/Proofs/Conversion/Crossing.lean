import Mathlib
import PaperHtml.Proofs.Conversion.Steps

/-!
# Blocks that a conversion leaves alone

A block is a stretch of a text that ends in a closing brace or a backtick.  A
step leaves a block as it is if the block holds no command that the step looks
for, and none of the lines that it looks for, and if the step reads nothing from
the text in front into the block.

## Strategy

Every command begins with a backslash and holds a closing brace or a backtick at
its end at most, so no command lies across the end of a block.  With that one
step is settled for every text behind the block (`Step.spares_of_absent`), and a
run of steps follows by induction (`runSteps_block`): the text in front changes
from step to step (`Clear`), and the text behind may become anything.
-/

namespace PaperHtml.Conversion

open Text Latex

/-! ## Steps that deal with lines -/

/-- A change of lines that goes by line and starts with those that `bad` names. -/
def StartsAt (bad : Text → Bool) (edit : List Text → List Text) : Prop :=
  ∃ more : List Text → List Text, ∀ above line below, (∀ l ∈ above, bad l = false) →
    bad line = false → edit (above ++ line :: below) = above ++ line :: more below

theorem startsAt_isCommentLine :
    StartsAt isCommentLine
      (List.map fun line => if isCommentLine line then [] else line) := by
  refine ⟨List.map fun line => if isCommentLine line then [] else line, ?_⟩
  intro above line below habove hline
  have hsame : above.map (fun line => if isCommentLine line then [] else line) = above := by
    conv_rhs => rw [← List.map_id above]
    exact List.map_congr_left fun l hl => if_neg (by rw [habove l hl]; exact Bool.false_ne_true)
  rw [List.map_append, List.map_cons, hsame, hline]
  rfl

theorem startsAt_isBracketLine : StartsAt isBracketLine (eraseBracketLines false) := by
  refine ⟨eraseBracketLines false, ?_⟩
  intro above line below habove hline
  induction above with
  | nil => simp [eraseBracketLines, hline]
  | cons l above ih =>
      have hl := habove l (List.mem_cons_self ..)
      rw [List.cons_append, eraseBracketLines, hl,
        ih fun line hmem => habove line (List.mem_cons_of_mem _ hmem)]
      rfl

/-- A change of lines leaves a text alone that has no line it starts with, even if the last line
goes on. -/
theorem unlines_edit_append_cons {bad : Text → Bool} {edit : List Text → List Text}
    (hedit : StartsAt bad edit) {t : Text} {c : Char} (hc : c ≠ '\n')
    (hmore : ∀ line first, bad (line ++ [c]) = false → bad (line ++ c :: first) = false)
    (hfirst : bad [c] = false) (h : ∀ line ∈ lines (t ++ [c]), bad line = false) (rest : Text) :
    ∃ rest', unlines (edit (lines (c :: rest))) = c :: rest' ∧
      unlines (edit (lines (t ++ c :: rest))) = t ++ c :: rest' := by
  obtain ⟨more, hedit⟩ := hedit
  obtain ⟨above, last, first, below, ht, hend, hrest, hall⟩ := exists_lines_append_cons t hc rest
  rw [hend] at h
  have habove : ∀ line ∈ above, bad line = false :=
    fun line hline => h line (List.mem_append_left _ hline)
  have hlast : bad (last ++ [c]) = false := h _ (by simp)
  have hbehind : unlines ((c :: first) :: more below) = c :: unlines (first :: more below) := by
    simpa using unlines_parted [] (more below) [c] first
  refine ⟨unlines (first :: more below), ?_, ?_⟩
  · have hhere := hedit [] (c :: first) below (by simp) (hmore [] first hfirst)
    rw [hrest, ← hbehind]
    exact congrArg unlines hhere
  · rw [hall, hedit above _ below habove (hmore last first hlast), unlines_parted, ht, hbehind]

theorem isCommentLine_append {c : Char} {line first : Text}
    (h : isCommentLine (line ++ [c]) = false) : isCommentLine (line ++ c :: first) = false := by
  cases line <;> simpa [isCommentLine] using h

theorem isBracketLine_append {c : Char} (hbracket : c ≠ ']') (hblank : isBlank c = false)
    (line first : Text) : isBracketLine (line ++ c :: first) = false := by
  cases line with
  | nil =>
      rw [List.nil_append]
      unfold isBracketLine
      split
      · rename_i heq
        exact absurd (List.cons.inj heq).1 hbracket
      · rfl
  | cons d line =>
      rw [List.cons_append]
      unfold isBracketLine
      split
      · rename_i heq
        obtain ⟨-, rfl⟩ := List.cons.inj heq
        simp [isBlankText, hblank]
      · rfl

/-! ## Commands -/

/-- A command as steps look for it. -/
def IsCommand (command : Text) : Prop :=
  command.head? = some '\\' ∧ '}' ∉ command.dropLast ∧ '`' ∉ command.dropLast

instance : DecidablePred IsCommand := fun _ => inferInstanceAs (Decidable (_ ∧ _ ∧ _))

/-- Steps look for commands if steps do that look for the same. -/
theorem isCommand_of_map_eq {steps others : List Step}
    (heq : steps.map Step.commands = others.map Step.commands)
    (hothers : ∀ step ∈ others, ∀ command ∈ step.commands, IsCommand command) :
    ∀ step ∈ steps, ∀ command ∈ step.commands, IsCommand command := by
  intro step hstep
  have hmem : step.commands ∈ others.map Step.commands := heq ▸ List.mem_map_of_mem hstep
  obtain ⟨other, hother, hcommands⟩ := List.mem_map.mp hmem
  exact hcommands ▸ hothers other hother

/-- The characters at which blocks begin and end. -/
def blockMarks : List Char := ['\\', '}', '`']

/-- They begin no comment and no bracket line, and end no line. -/
theorem of_mem_blockMarks {c : Char} (hc : c ∈ blockMarks) :
    c ≠ '\n' ∧ isCommentLine [c] = false ∧ c ≠ ']' ∧ isBlank c = false := by
  rcases List.mem_cons.mp hc with rfl | hc
  · decide
  rcases List.mem_cons.mp hc with rfl | hc
  · decide
  obtain rfl := List.mem_singleton.mp hc
  decide

/-- A character that ends a block. -/
def EndsBlock (c : Char) : Prop := c = '}' ∨ c = '`'

theorem EndsBlock.mem_blockMarks {c : Char} (hc : EndsBlock c) : c ∈ blockMarks := by
  rcases hc with rfl | rfl <;> decide

/-- No command goes on behind the end of a block. -/
theorem not_mem_dropLast {command : Text} {c : Char} (h : IsCommand command) (hc : EndsBlock c) :
    c ∉ command.dropLast := by
  rcases hc with rfl | rfl
  · exact h.2.1
  · exact h.2.2

/-- A scanner recognises nothing at any place of a text that holds none of its commands and ends
in a character behind which none of them goes on. -/
theorem Reader.scan_eq_none_of_absent {reader : Reader} {t : Text} {c : Char}
    (hlast : ∀ command ∈ reader.commands, c ∉ command.dropLast)
    (habsent : ∀ command ∈ reader.commands, ¬ command <:+: t ++ [c]) {back : Text}
    (hback : back <:+ t ++ [c]) (hne : back ≠ []) (rest : Text) :
    reader.scan (back ++ rest) = none := by
  by_contra hsome
  obtain ⟨found, hfound⟩ := Option.ne_none_iff_exists'.mp hsome
  obtain ⟨command, hmem, hbegins⟩ := reader.needs _ found hfound
  obtain ⟨back, rfl⟩ : ∃ front, back = front ++ [c] := by
    rcases List.suffix_concat_iff.mp hback with rfl | ⟨front, rfl, -⟩
    · exact absurd rfl hne
    · exact ⟨front, rfl⟩
  have hinside := prefix_of_prefix_append_last (hlast command hmem) hbegins
  exact habsent command hmem (hinside.isInfix.trans hback.isInfix)

/-- Nor at any place of a text without a backslash. -/
theorem Reader.scan_eq_none_of_prose {reader : Reader} {t : Text}
    (hcommands : ∀ command ∈ reader.commands, IsCommand command) (ht : '\\' ∉ t) {back : Text}
    (hback : back <:+ t) (hne : back ≠ []) (rest : Text) : reader.scan (back ++ rest) = none := by
  by_contra hsome
  obtain ⟨found, hfound⟩ := Option.ne_none_iff_exists'.mp hsome
  obtain ⟨command, hmem, hbegins⟩ := reader.needs _ found hfound
  obtain ⟨hhead, -, -⟩ := hcommands command hmem
  obtain ⟨c, back, rfl⟩ := List.exists_cons_of_ne_nil hne
  obtain ⟨more, rfl⟩ : ∃ more, command = '\\' :: more := by
    cases command with
    | nil => simp at hhead
    | cons d more => exact ⟨more, by simpa using hhead⟩
  obtain ⟨rfl, -⟩ := List.cons_prefix_cons.mp hbegins
  exact ht (hback.subset (List.mem_cons_self ..))

/-! ## One step -/

namespace Step

/-- The text holds nothing that a step looks for. -/
def Absent (t : Text) : Step → Prop
  | every reader => ∀ command ∈ reader.commands, ¬ command <:+: t
  | first reader => ∀ command ∈ reader.commands, ¬ command <:+: t
  | comments => ∀ line ∈ lines t, isCommentLine line = false
  | brackets => ∀ line ∈ lines t, isBracketLine line = false

instance (t : Text) : (step : Step) → Decidable (step.Absent t)
  | every reader => inferInstanceAs (Decidable (∀ command ∈ reader.commands, ¬ command <:+: t))
  | first reader => inferInstanceAs (Decidable (∀ command ∈ reader.commands, ¬ command <:+: t))
  | comments => inferInstanceAs (Decidable (∀ line ∈ lines t, isCommentLine line = false))
  | brackets => inferInstanceAs (Decidable (∀ line ∈ lines t, isBracketLine line = false))

theorem run_comments_append_cons {t : Text} {c : Char} (hc : c ∈ blockMarks)
    (h : comments.Absent (t ++ [c])) (rest : Text) :
    ∃ rest', comments.run (c :: rest) = c :: rest' ∧
      comments.run (t ++ c :: rest) = t ++ c :: rest' := by
  obtain ⟨hfeed, hcomment, -, -⟩ := of_mem_blockMarks hc
  exact unlines_edit_append_cons startsAt_isCommentLine hfeed (fun _ _ => isCommentLine_append)
    hcomment h rest

theorem run_brackets_append_cons {t : Text} {c : Char} (hc : c ∈ blockMarks)
    (h : brackets.Absent (t ++ [c])) (rest : Text) :
    ∃ rest', brackets.run (c :: rest) = c :: rest' ∧
      brackets.run (t ++ c :: rest) = t ++ c :: rest' := by
  obtain ⟨hfeed, -, hbracket, hblank⟩ := of_mem_blockMarks hc
  have hline := isBracketLine_append hbracket hblank
  exact unlines_edit_append_cons startsAt_isBracketLine hfeed
    (fun line first _ => hline line first) (hline [] []) h rest

/-- A step leaves a block at the front of a text as it is. -/
def Spares (step : Step) (block : Text) : Prop :=
  ∀ rest, ∃ rest', step.run (block ++ rest) = block ++ rest'

theorem spares_of_absent {step : Step} {t : Text} {c : Char}
    (hcommands : ∀ command ∈ step.commands, IsCommand command) (hc : EndsBlock c)
    (habsent : step.Absent (t ++ [c])) : step.Spares (t ++ [c]) := by
  intro rest
  have hlast : ∀ command ∈ step.commands, c ∉ command.dropLast :=
    fun command hmem => not_mem_dropLast (hcommands command hmem) hc
  cases step with
  | every reader =>
      exact ⟨_, Scanner.substitute_append_of_passed fun back hback hne =>
        Reader.scan_eq_none_of_absent hlast habsent hback hne rest⟩
  | first reader =>
      exact ⟨_, Scanner.substituteFirst_append_of_passed fun back hback hne =>
        Reader.scan_eq_none_of_absent hlast habsent hback hne rest⟩
  | comments =>
      obtain ⟨rest', -, hrun⟩ := run_comments_append_cons hc.mem_blockMarks habsent rest
      exact ⟨rest', by simpa using hrun⟩
  | brackets =>
      obtain ⟨rest', -, hrun⟩ := run_brackets_append_cons hc.mem_blockMarks habsent rest
      exact ⟨rest', by simpa using hrun⟩

/-- Whether a step looks for one occurrence only. -/
def isOnce : Step → Bool
  | first _ => true
  | _ => false

/-- A step reads nothing from the text `front` into what follows, which begins with `next`: it
makes `front'` of it and then goes on as if there were nothing in front, or is done. -/
def Settled (next : Char) (step : Step) (front front' : Text) : Prop :=
  ∀ rest, step.run (front ++ next :: rest) = front' ++ step.run (next :: rest) ∨
    step.isOnce = true ∧ step.run (front ++ next :: rest) = front' ++ next :: rest

theorem Settled.run_eq {next : Char} {step : Step} {front front' : Text}
    (h : step.Settled next front front') (honce : step.isOnce = false) (rest : Text) :
    step.run (front ++ next :: rest) = front' ++ step.run (next :: rest) := by
  rcases h rest with hrun | ⟨hdone, -⟩
  · exact hrun
  · rw [honce] at hdone
    exact absurd hdone Bool.false_ne_true

/-- Nothing is read from a text without a backslash. -/
theorem settled_of_prose {step : Step} {front : Text} {next : Char}
    (hcommands : ∀ command ∈ step.commands, IsCommand command) (hnext : next ∈ blockMarks)
    (hfront : '\\' ∉ front) (hcomments : comments.Absent (front ++ [next]))
    (hbrackets : brackets.Absent (front ++ [next])) : step.Settled next front front := by
  intro rest
  left
  cases step with
  | every reader =>
      exact Scanner.substitute_append_of_passed fun back hback hne =>
        Reader.scan_eq_none_of_prose hcommands hfront hback hne _
  | first reader =>
      exact Scanner.substituteFirst_append_of_passed fun back hback hne =>
        Reader.scan_eq_none_of_prose hcommands hfront hback hne _
  | comments =>
      obtain ⟨rest', hhere, hrun⟩ := run_comments_append_cons hnext hcomments rest
      rw [hrun, hhere]
  | brackets =>
      obtain ⟨rest', hhere, hrun⟩ := run_brackets_append_cons hnext hbrackets rest
      rw [hrun, hhere]

end Step

/-! ## A run of steps -/

/-- A run of steps reads nothing from the text in front into what follows, and makes another text
of it. -/
def Clear (next : Char) : List Step → (front front' : Text) → Prop
  | [], front, front' => front' = front
  | step :: steps, front, front' =>
    ∃ between, step.Settled next front between ∧ Clear next steps between front'

variable {next : Char} {steps more : List Step} {front front' : Text}

theorem clear_append :
    Clear next (steps ++ more) front front' ↔
      ∃ between, Clear next steps front between ∧ Clear next more between front' := by
  induction steps generalizing front with
  | nil => simp [Clear]
  | cons step steps ih =>
      simp only [List.cons_append, Clear, ih]
      constructor
      · rintro ⟨first, hfirst, second, hsecond, hmore⟩
        exact ⟨second, ⟨first, hfirst, hsecond⟩, hmore⟩
      · rintro ⟨second, ⟨first, hfirst, hsecond⟩, hmore⟩
        exact ⟨first, hfirst, second, hsecond, hmore⟩

theorem clear_of_prose (hcommands : ∀ step ∈ steps, ∀ command ∈ step.commands, IsCommand command)
    (hnext : next ∈ blockMarks) (hfront : '\\' ∉ front)
    (hcomments : Step.comments.Absent (front ++ [next]))
    (hbrackets : Step.brackets.Absent (front ++ [next])) : Clear next steps front front := by
  induction steps with
  | nil => rfl
  | cons step steps ih =>
      exact ⟨front,
        Step.settled_of_prose (hcommands step (List.mem_cons_self ..)) hnext hfront hcomments
          hbrackets,
        ih fun step hstep => hcommands step (List.mem_cons_of_mem _ hstep)⟩

/-- A run of steps that leave a block as it is carries it through, whatever stands behind it. -/
theorem runSteps_block {block : Text} (hclear : Clear next steps front front')
    (hspares : ∀ step ∈ steps, step.Spares (next :: block)) (rest : Text) :
    ∃ rest', runSteps steps (front ++ (next :: block ++ rest)) =
      front' ++ (next :: block ++ rest') := by
  induction steps generalizing front rest with
  | nil =>
      obtain rfl : front' = front := hclear
      exact ⟨rest, rfl⟩
  | cons step steps ih =>
      obtain ⟨between, hsettled, hclear⟩ := hclear
      have hmore := fun rest => ih hclear
        (fun step hstep => hspares step (List.mem_cons_of_mem _ hstep)) rest
      rw [runSteps_cons, List.cons_append]
      rcases hsettled (block ++ rest) with hrun | ⟨-, hrun⟩
      · obtain ⟨rest', hblock⟩ := hspares step (List.mem_cons_self ..) rest
        rw [hrun, ← List.cons_append, hblock]
        exact hmore rest'
      · rw [hrun, ← List.cons_append]
        exact hmore rest

end PaperHtml.Conversion
