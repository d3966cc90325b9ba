import Mathlib
import PaperHtml.Proofs.Conversion.Crossing
import PaperHtml.Proofs.Math.Unguarded

/-!
# Prose on its way through a conversion

A text without backslashes holds no command, and a pass that looks for commands
leaves it as it is.  Of all passes only five do anything to it: the one that
takes comments away, the one that links citations, the one for two column
headings, for the sake of its bracket lines, the one that limits blank lines,
and the one that puts the macro definitions in front.

## Strategy

A pass that looks for commands is a list of steps, and a scan for a command
recognises nothing in prose (`runSteps_of_prose`).  The fonts are set between
fenced blocks: a stretch of prose has no formula and no command, and the
stretches and the blocks put side by side are the text (`textStyles_of_prose`).
-/

namespace PaperHtml.Conversion

open Text Latex

/-! ## Steps -/

namespace Step

/-- A step that looks for commands, and for nothing else. -/
def IsScan : Step → Prop
  | every reader => ∀ command ∈ reader.commands, IsCommand command
  | first reader => ∀ command ∈ reader.commands, IsCommand command
  | comments => False
  | brackets => False

instance : DecidablePred IsScan
  | every reader => inferInstanceAs (Decidable (∀ command ∈ reader.commands, IsCommand command))
  | first reader => inferInstanceAs (Decidable (∀ command ∈ reader.commands, IsCommand command))
  | comments => inferInstanceAs (Decidable False)
  | brackets => inferInstanceAs (Decidable False)

/-- Nothing is recognised at any place of a text that `rest` follows. -/
def GoesBy (t rest : Text) : Step → Prop
  | every reader => reader.scan.GoesBy t rest
  | first reader => reader.scan.GoesBy t rest
  | comments => False
  | brackets => False

variable {step : Step} {t : Text}

theorem GoesBy.run_append {rest : Text} (h : step.GoesBy t rest) :
    step.run (t ++ rest) = t ++ step.run rest := by
  cases step with
  | every reader => exact Scanner.substitute_append_of_passed h
  | first reader => exact Scanner.substituteFirst_append_of_passed h
  | comments => exact h.elim
  | brackets => exact h.elim

theorem IsScan.goesBy (hstep : step.IsScan) (ht : '\\' ∉ t) (rest : Text) : step.GoesBy t rest := by
  cases step with
  | every reader => exact fun _ hback hne => Reader.scan_eq_none_of_prose hstep ht hback hne rest
  | first reader => exact fun _ hback hne => Reader.scan_eq_none_of_prose hstep ht hback hne rest
  | comments => exact hstep
  | brackets => exact hstep

theorem run_nil (step : Step) : step.run [] = [] := by cases step <;> rfl

/-- A scan for commands leaves a text without backslashes as it is. -/
theorem run_of_prose (hstep : step.IsScan) (ht : '\\' ∉ t) : step.run t = t := by
  have hpassed := (hstep.goesBy ht []).run_append
  rwa [run_nil, List.append_nil] at hpassed

end Step

theorem runSteps_of_prose {steps : List Step} (hsteps : ∀ step ∈ steps, step.IsScan) {t : Text}
    (ht : '\\' ∉ t) : runSteps steps t = t := by
  induction steps with
  | nil => rfl
  | cons step steps ih =>
      rw [runSteps_cons, Step.run_of_prose (hsteps step (List.mem_cons_self ..)) ht]
      exact ih fun other hother => hsteps other (List.mem_cons_of_mem _ hother)

theorem isScan_citation (style : Citation.LinkStyle) (numbers : Citation.Numbering) :
    (Step.every (.citation style numbers)).IsScan := fun command hcommand =>
  List.mem_singleton.mp hcommand ▸ by decide

theorem linkAll_of_prose (style : Citation.LinkStyle) (numbers : Citation.Numbering) {t : Text}
    (ht : '\\' ∉ t) : Citation.linkAll style numbers t = t :=
  Step.run_of_prose (isScan_citation style numbers) ht

/-! ## Two column headings -/

theorem mem_eraseBracketLines {dropping : Bool} {ls : List Text} {line : Text}
    (h : line ∈ eraseBracketLines dropping ls) : line = [] ∨ line ∈ ls := by
  induction ls generalizing dropping with
  | nil => simp [eraseBracketLines] at h
  | cons first ls ih =>
      have hlater {more : Bool} (hmem : line ∈ eraseBracketLines more ls) :
          line = [] ∨ line ∈ first :: ls :=
        (ih hmem).imp_right (List.mem_cons_of_mem _)
      rw [eraseBracketLines] at h
      split at h
      · rcases List.mem_cons.mp h with hempty | hmem
        · exact .inl hempty
        · exact hlater hmem
      · split at h
        · exact hlater h
        · rcases List.mem_cons.mp h with hfirst | hmem
          · exact .inr (hfirst ▸ List.mem_cons_self ..)
          · exact hlater hmem

/-- Taking the wrapper of a heading away brings no character in. -/
theorem stripTwoColumn_subset (t : Text) : stripTwoColumn t ⊆ '\n' :: t := by
  intro c hc
  have herased : replaceAll "\\twocolumn[".toList [] t ⊆ t := by
    refine Scanner.substitute_subset (fun u out after hfound => ?_) t
    simp only [Scanner.literal, Option.map_eq_some_iff, Prod.mk.injEq] at hfound
    obtain ⟨-, -, hout, -⟩ := hfound
    exact hout.symm
  rcases mem_of_mem_unlines hc with hfeed | ⟨line, hline, hmem⟩
  · exact hfeed ▸ List.mem_cons_self ..
  · rcases mem_eraseBracketLines hline with rfl | hline
    · simp at hmem
    · exact List.mem_cons_of_mem _ (herased (subset_of_mem_splitOn hline hmem))

/-! ## Fonts -/

namespace Markdown

theorem styleAround_of_prose {t : Text} (hbackslash : '\\' ∉ t) (hdollar : '$' ∉ t) :
    styleAround t = t := by
  rw [styleAround, Math.guard_eq_self hdollar hbackslash, ← runSteps_fontSteps,
    runSteps_of_prose (by decide) hbackslash]
  rfl

/-- The stretches between blocks are set as prose, and the blocks are left. -/
theorem styleStretches_of_prose {prose : Text} {pieces : List (Piece Text)}
    (hbackslash : '\\' ∉ prose ∧ .plain '\\' ∉ pieces)
    (hdollar : '$' ∉ prose ∧ .plain '$' ∉ pieces) :
    styleStretches prose pieces = prose.reverse ++ pieces.flatMap fun
      | .plain c => [c]
      | .hit block => block := by
  induction pieces generalizing prose with
  | nil =>
      rw [styleStretches, styleAround_of_prose (by simpa using hbackslash.1)
        (by simpa using hdollar.1), List.flatMap_nil, List.append_nil]
  | cons piece pieces ih =>
      rw [List.mem_cons, not_or] at hbackslash hdollar
      cases piece with
      | plain c =>
          have hc : '\\' ≠ c ∧ '$' ≠ c :=
            ⟨fun e => hbackslash.2.1 (e ▸ rfl), fun e => hdollar.2.1 (e ▸ rfl)⟩
          rw [styleStretches, ih ⟨by simp [hc, hbackslash.1], hbackslash.2.2⟩
            ⟨by simp [hc, hdollar.1], hdollar.2.2⟩]
          simp
      | hit block =>
          rw [styleStretches, styleAround_of_prose (by simpa using hbackslash.1)
            (by simpa using hdollar.1), ih ⟨by simp, hbackslash.2.2⟩ ⟨by simp, hdollar.2.2⟩]
          simp

/-- Setting the fonts leaves a text without commands and formulas as it is, fenced blocks and
single fences included. -/
theorem textStyles_of_prose {t : Text} (hbackslash : '\\' ∉ t) (hdollar : '$' ∉ t) :
    textStyles t = t := by
  have hfence (u out after : Text) (h : fence u = some (out, after)) :
      out ≠ [] ∧ u = out ++ after := by
    obtain ⟨inner, rfl, hu⟩ := Math.exists_of_delimited h
    exact ⟨by simp, hu⟩
  have hplain {c : Char} (hc : c ∉ t) : .plain c ∉ Scanner.pieces fence t := fun hmem =>
    hc (Scanner.mem_of_plain_mem_pieces hmem)
  rw [textStyles, styleStretches_of_prose ⟨by simp, hplain hbackslash⟩ ⟨by simp, hplain hdollar⟩]
  exact Scanner.substitute_eq_self hfence t

end Markdown

/-! ## Passes -/

theorem runPasses_eq_self {passes : List Pass} {t : Text} (h : ∀ pass ∈ passes, pass.run t = t) :
    runPasses passes t = t := by
  unfold runPasses
  induction passes with
  | nil => rfl
  | cons pass passes ih =>
      rw [List.foldl_cons, h pass (List.mem_cons_self ..)]
      exact ih fun other hother => h other (List.mem_cons_of_mem _ hother)

/-- The passes into Markdown between the one for two column headings and the one that limits
blank lines. -/
def Markdown.innerPasses (numbers : Citation.Numbering) : List Pass :=
  ((markdownPasses numbers).drop 3).dropLast

/-- The passes into plain LaTeX between the one for two column headings and the one for the macro
definitions. -/
def Plain.innerPasses (numbers : Citation.Numbering) : List Pass :=
  ((plainPasses numbers).drop 2).dropLast

variable {numbers : Citation.Numbering} {pass : Pass} {t : Text}

theorem Markdown.run_of_prose (hpass : pass ∈ innerPasses numbers) (hbackslash : '\\' ∉ t)
    (hdollar : '$' ∉ t) : pass.run t = t := by
  have hsteps (steps : List Step) (hscan : ∀ step ∈ steps, step.IsScan) : runSteps steps t = t :=
    runSteps_of_prose hscan hbackslash
  simp only [innerPasses, markdownPasses, List.drop_succ_cons, List.drop_zero,
    List.dropLast_cons_cons, List.dropLast_singleton, List.mem_cons, List.not_mem_nil,
    or_false] at hpass
  rcases hpass with rfl | rfl | rfl | rfl | rfl | rfl | rfl | rfl | rfl | rfl | rfl | rfl | rfl | rfl
  · exact hsteps preambleSteps (by decide)
  · exact hsteps titleSteps (by decide)
  · dsimp only
    rw [← runSteps_abstractSteps, hsteps abstractSteps (by decide)]
  · exact hsteps sectionSteps (by decide)
  · exact hsteps listSteps (by decide)
  · exact hsteps formulaSteps (by decide)
  · exact hsteps [labelStep] (by decide)
  · exact hsteps macroSteps (by decide)
  · exact hsteps [algorithmStep] (by decide)
  · exact hsteps [figureStep] (by decide)
  · exact textStyles_of_prose hbackslash hdollar
  · dsimp only
    rw [theorems, ← runSteps_theoremSteps, hsteps (theoremSteps _ _) (by decide)]
  · exact hsteps [.every (.literal "\\appendix".toList "\n## Appendix\n".toList)] (by decide)
  · exact hsteps [pageStep] (by decide)

theorem Plain.run_of_prose (hpass : pass ∈ innerPasses numbers) (ht : '\\' ∉ t) :
    pass.run t = t := by
  have hsteps (steps : List Step) (hscan : ∀ step ∈ steps, step.IsScan) : runSteps steps t = t :=
    runSteps_of_prose hscan ht
  simp only [innerPasses, plainPasses, List.drop_succ_cons, List.drop_zero,
    List.dropLast_cons_cons, List.dropLast_singleton, List.mem_cons, List.not_mem_nil,
    or_false] at hpass
  rcases hpass with rfl | rfl | rfl | rfl | rfl | rfl | rfl | rfl | rfl
  · exact hsteps preambleSteps (by decide)
  · exact hsteps [pictureStep] (by decide)
  · exact hsteps [pageStep] (by decide)
  · exact hsteps [.every (.literal "\\appendix".toList
      ("\\section*".toList ++ braced "Appendix".toList))] (by decide)
  · exact hsteps [labelStep] (by decide)
  · exact linkAll_of_prose .latex numbers ht
  · dsimp only
    rw [theorems, ← runSteps_theoremSteps, hsteps (theoremSteps _ _) (by decide)]
  · exact hsteps [figureStep] (by decide)
  · exact hsteps [algorithmStep] (by decide)

theorem toMarkdown_eq_innerPasses (numbers : Citation.Numbering) (body : Text) :
    toMarkdown numbers body = collapseBlankLines (runPasses (Markdown.innerPasses numbers)
      (stripTwoColumn (Citation.linkAll .markdown numbers (eraseComments body)))) := by
  simp only [toMarkdown, runPasses, Markdown.innerPasses, markdownPasses, List.drop_succ_cons,
    List.drop_zero, List.dropLast_cons_cons, List.dropLast_singleton, List.foldl_cons,
    List.foldl_nil]

theorem toPlainLatex_eq_innerPasses (numbers : Citation.Numbering) (body : Text) :
    toPlainLatex numbers body = Plain.addPrelude (runPasses (Plain.innerPasses numbers)
      (stripTwoColumn (eraseComments body))) := by
  simp only [toPlainLatex, runPasses, Plain.innerPasses, plainPasses, List.drop_succ_cons,
    List.drop_zero, List.dropLast_cons_cons, List.dropLast_singleton, List.foldl_cons,
    List.foldl_nil]

/-- Prose is kept.  If the text of a body with its citations linked holds neither backslash nor
dollar, every pass into Markdown that is left, but for the one for two column headings and the one
that limits blank lines, leaves it as it is; and if the text of a body holds no backslash, every
pass into plain LaTeX does, but for the one for two column headings and the macro definitions. -/
theorem prose_kept (numbers : Citation.Numbering) (body : Text) :
    let stripped := eraseComments body
    let linked := Citation.linkAll .markdown numbers stripped
    ('\\' ∉ linked → '$' ∉ linked →
      toMarkdown numbers body = collapseBlankLines (stripTwoColumn linked) ∧
        ∀ pass ∈ Markdown.innerPasses numbers,
          pass.run (stripTwoColumn linked) = stripTwoColumn linked) ∧
    ('\\' ∉ stripped →
      toPlainLatex numbers body = Plain.prelude ++ '\n' :: stripTwoColumn stripped ∧
        ∀ pass ∈ Plain.innerPasses numbers,
          pass.run (stripTwoColumn stripped) = stripTwoColumn stripped) := by
  intro stripped linked
  have hkept {u : Text} {c : Char} (hc : c ≠ '\n') (hu : c ∉ u) : c ∉ stripTwoColumn u := by
    intro hmem
    rcases List.mem_cons.mp (stripTwoColumn_subset u hmem) with hfeed | hmem
    · exact hc hfeed
    · exact hu hmem
  constructor
  · intro hbackslash hdollar
    have hpasses : ∀ pass ∈ Markdown.innerPasses numbers,
        pass.run (stripTwoColumn linked) = stripTwoColumn linked := fun pass hpass =>
      Markdown.run_of_prose hpass (hkept (by decide) hbackslash) (hkept (by decide) hdollar)
    refine ⟨?_, hpasses⟩
    rw [toMarkdown_eq_innerPasses, runPasses_eq_self hpasses]
  · intro hbackslash
    have hpasses : ∀ pass ∈ Plain.innerPasses numbers,
        pass.run (stripTwoColumn stripped) = stripTwoColumn stripped := fun pass hpass =>
      Plain.run_of_prose hpass (hkept (by decide) hbackslash)
    refine ⟨?_, hpasses⟩
    rw [toPlainLatex_eq_innerPasses, runPasses_eq_self hpasses]
    rfl

/-- Prose with a comment, a citation, a bracket line and a fence that stays open. -/
def proseBody : Text :=
  "% $note$\n\\cite{a} @ `x` <b>&amp;</b>\n]\n\n```\n*y* [z]\n\n\n\n".toList

/-- Prose with a formula between comments. -/
def formulaBody : Text := "% note\n$x$\n]\n\n%\n\ny".toList

theorem prose_kept_of_proseBody :
    let linked := Citation.linkAll .markdown [(['a'], 1)] (eraseComments proseBody)
    ('\\' ∉ linked ∧ '$' ∉ linked ∧ toMarkdown [(['a'], 1)] proseBody =
      "<a class=\"citation\" href=\"#ref-a\" data-cite-key=\"a\">[1]</a>".toList ++
        " @ `x` <b>&amp;</b>\n\n```\n*y* [z]".toList) ∧
    ('\\' ∉ eraseComments formulaBody ∧
      toPlainLatex [] formulaBody = Plain.addPrelude "\n$x$\n\ny".toList) := by
  intro linked
  have hbackslash : '\\' ∉ linked := by decide +kernel
  have hdollar : '$' ∉ linked := by decide +kernel
  have hplain : '\\' ∉ eraseComments formulaBody := by decide
  obtain ⟨hmarkdown, -⟩ := (prose_kept [(['a'], 1)] proseBody).1 hbackslash hdollar
  obtain ⟨hlatex, -⟩ := (prose_kept [] formulaBody).2 hplain
  exact ⟨⟨hbackslash, hdollar, hmarkdown.trans (by decide +kernel)⟩,
    hplain, hlatex.trans (by decide +kernel)⟩

end PaperHtml.Conversion
