import PaperHtml.Proofs.Conversion.Arguments
import PaperHtml.Proofs.Conversion.Fences
import PaperHtml.Proofs.Math.Unguarded

/-!
# Fonts in fonts

Bold face and emphasis are set by one pass each, bold face first, and each pass
ends an argument at the first closing brace.  For texts with fonts nested in any
way this file says which of them come out as Markdown with each font around what
is set in it (`textStyles_latexAll_iff`).

## Strategy

A closing brace goes to the command that reads it, not to the one that it was
written for.  What the two passes make of one part of a text, whatever stands
behind it, is one of a few shapes (`SetAs`):

```text
  leaves                          the same leaves
  bold face around leaves         all of it set
  emphasis around light parts     all of it set, a light part being a leaf
                                  or bold face around leaves
  bold face around leaves, then   both set, each ending where the other
  emphasis around leaves, then    should (`Crossing`)
  light parts
```

In all other parts a command is read into the argument of another one of its own
pass and stays (`setAs_or_opening_stays`).  No command is left in the Markdown, and
each shape has the length of the Markdown, so the texts can be compared part by
part (`setFonts_latexAll_iff`).
-/

namespace PaperHtml.Conversion

open Text Latex Conversion.Markdown

/-! ## Passes for fonts -/

namespace ArgumentReader

/-- The scan for typewriter face. -/
def typewriter : ArgumentReader := .ofCommand "texttt".toList (enclose ['`']) (by decide)

/-- The scan for bold face. -/
def bold : ArgumentReader := .ofCommand "textbf".toList (enclose ['*', '*']) (by decide)

/-- The scan for emphasis, under either of its names. -/
def emphasis : ArgumentReader := .ofStyle .emphasis (by decide)

/-- The scan for addresses. -/
def address : ArgumentReader :=
  .ofCommand "url".toList (fun argument => '<' :: argument ++ ['>']) (by decide)

end ArgumentReader

/-- Bold face and emphasis set in a text. -/
def setFonts (t : Text) : Text := ArgumentReader.emphasis.run (ArgumentReader.bold.run t)

@[simp] theorem setFonts_nil : setFonts [] = [] := rfl

theorem styleProse_eq_setFonts (t : Text) :
    styleProse t = ArgumentReader.address.run (setFonts (ArgumentReader.typewriter.run t)) := rfl

/-- A command for bold face or for emphasis. -/
inductive Font where
  | textbf
  | emph
  | textit
  deriving DecidableEq

namespace Font

/-- The command up to its argument. -/
def opening : Font → Text
  | .textbf => "\\textbf\x7b".toList
  | .emph => "\\emph\x7b".toList
  | .textit => "\\textit\x7b".toList

/-- The mark on either side of what is set in the font. -/
def mark : Font → Text
  | .textbf => ['*', '*']
  | .emph => ['*']
  | .textit => ['*']

/-- The scan that reads the command. -/
def reader : Font → ArgumentReader
  | .textbf => .bold
  | .emph => .emphasis
  | .textit => .emphasis

variable (font : Font)

theorem opening_mem : font.opening ∈ font.reader.commands := by
  cases font <;> decide

theorem isMark_opening : IsMark font.opening := font.reader.isMark _ font.opening_mem

theorem brace_not_mem_opening : '}' ∉ font.opening := by
  cases font <;> decide

theorem backslash_mem_of_opening_infix {t : Text} (h : font.opening <:+: t) : '\\' ∈ t := by
  obtain ⟨letters, heq, -⟩ := font.isMark_opening.exists_eq
  exact h.subset (heq ▸ List.mem_cons_self ..)

theorem render_eq (argument : Text) :
    font.reader.render argument = font.mark ++ (argument ++ font.mark) := by
  cases font with
  | textbf => exact List.append_assoc _ _ _
  | emph => rfl
  | textit => rfl

theorem run_opening {argument : Text} (hclosed : '}' ∉ argument) (rest : Text) :
    font.reader.run (font.opening ++ (argument ++ '}' :: rest)) =
      font.mark ++ (argument ++ (font.mark ++ font.reader.run rest)) := by
  rw [font.reader.run_opening font.opening_mem hclosed, render_eq]
  simp

/-- A command keeps what stands in front of the closing brace behind it. -/
theorem readPart_infix_readPart_run (t : Text) :
    readPart t <:+: readPart (font.reader.run (font.opening ++ t)) := by
  refine font.reader.readPart_infix_readPart_run font.opening_mem font.brace_not_mem_opening
    (fun argument hclosed => ?_) t
  have hmark : '}' ∉ font.mark := by cases font <;> decide
  rw [render_eq]
  exact ⟨by simp [hmark, hclosed], ⟨font.mark, font.mark, by simp⟩⟩

variable {font}

@[simp] theorem mark_textbf : Font.textbf.mark = ['*', '*'] := rfl

theorem mark_of_ne_textbf (h : font ≠ .textbf) : font.mark = ['*'] := by
  cases font with
  | textbf => exact absurd rfl h
  | emph => rfl
  | textit => rfl

theorem reader_of_ne_textbf (h : font ≠ .textbf) : font.reader = .emphasis := by
  cases font with
  | textbf => exact absurd rfl h
  | emph => rfl
  | textit => rfl

/-- The pass for bold face leaves emphasis. -/
theorem bold_run_of_ne_textbf (h : font ≠ .textbf) (rest : Text) :
    ArgumentReader.bold.run (font.opening ++ rest) =
      font.opening ++ ArgumentReader.bold.run rest := by
  refine ArgumentReader.bold.run_apart font.isMark_opening (List.forall_mem_singleton.mpr ?_) rest
  cases font with
  | textbf => exact absurd rfl h
  | emph => decide
  | textit => decide

theorem bold_run_textbf {argument : Text} (hclosed : '}' ∉ argument) (rest : Text) :
    ArgumentReader.bold.run (Font.textbf.opening ++ (argument ++ '}' :: rest)) =
      ['*', '*'] ++ (argument ++ (['*', '*'] ++ ArgumentReader.bold.run rest)) :=
  Font.textbf.run_opening hclosed rest

theorem emphasis_run_of_ne_textbf (h : font ≠ .textbf) {argument : Text} (hclosed : '}' ∉ argument)
    (rest : Text) :
    ArgumentReader.emphasis.run (font.opening ++ (argument ++ '}' :: rest)) =
      ['*'] ++ (argument ++ (['*'] ++ ArgumentReader.emphasis.run rest)) := by
  have hrun := font.run_opening hclosed rest
  rwa [reader_of_ne_textbf h, mark_of_ne_textbf h] at hrun

end Font

/-! ## Styled texts -/

/-- The characters that do not stand for themselves. -/
def reserved : Text := ['\\', '{', '}', '`', '*', '$', '@', '<', '>']

/-- Whether a text holds no reserved character. -/
def isPlain (t : Text) : Bool := reserved.all fun c => !t.contains c

/-- A text without reserved characters. -/
structure PlainText where
  text : Text
  plain : isPlain text = true

theorem PlainText.not_mem (plain : PlainText) {c : Char} (hc : c ∈ reserved) : c ∉ plain.text := by
  simpa using List.all_eq_true.mp plain.plain c hc

/-- Plain text, or a font around several styled texts. -/
inductive StyledText where
  | leaf (plain : PlainText)
  | styled (font : Font) (children : List StyledText)

namespace StyledText

mutual

/-- A styled text as it is written. -/
def latex : StyledText → Text
  | .leaf plain => plain.text
  | .styled font children => font.opening ++ (latexAll children ++ ['}'])

/-- Several styled texts as they are written. -/
def latexAll : List StyledText → Text
  | [] => []
  | node :: rest => latex node ++ latexAll rest

end

mutual

/-- A styled text in Markdown, with the mark of each font around all that is set in it. -/
def markdown : StyledText → Text
  | .leaf plain => plain.text
  | .styled font children => font.mark ++ (markdownAll children ++ font.mark)

/-- Several styled texts in Markdown. -/
def markdownAll : List StyledText → Text
  | [] => []
  | node :: rest => markdown node ++ markdownAll rest

end

theorem latexAll_append (nodes more : List StyledText) :
    latexAll (nodes ++ more) = latexAll nodes ++ latexAll more := by
  induction nodes with
  | nil => rfl
  | cons node nodes ih => rw [List.cons_append, latexAll, latexAll, ih, List.append_assoc]

theorem markdownAll_append (nodes more : List StyledText) :
    markdownAll (nodes ++ more) = markdownAll nodes ++ markdownAll more := by
  induction nodes with
  | nil => rfl
  | cons node nodes ih => rw [List.cons_append, markdownAll, markdownAll, ih, List.append_assoc]

theorem latex_styled_append (font : Font) (children : List StyledText) (rest : Text) :
    latex (.styled font children) ++ rest =
      font.opening ++ (latexAll children ++ '}' :: rest) := by
  simp [latex]

/-! ## Characters of styled texts -/

variable {c : Char}

mutual

/-- A reserved character is written only as a part of a command. -/
theorem not_mem_latex (hc : c ∈ reserved) (hbrace : c ≠ '}')
    (hfont : ∀ font : Font, c ∉ font.opening) : (node : StyledText) → c ∉ latex node
  | .leaf plain => plain.not_mem hc
  | .styled font children => by
      simp [latex, hfont font, hbrace, not_mem_latexAll hc hbrace hfont children]

theorem not_mem_latexAll (hc : c ∈ reserved) (hbrace : c ≠ '}')
    (hfont : ∀ font : Font, c ∉ font.opening) : (nodes : List StyledText) → c ∉ latexAll nodes
  | [] => List.not_mem_nil
  | node :: nodes => by
      simp [latexAll, not_mem_latex hc hbrace hfont node, not_mem_latexAll hc hbrace hfont nodes]

end

mutual

/-- No reserved character but the star of a font is left in Markdown. -/
theorem not_mem_markdown (hc : c ∈ reserved) (hstar : c ≠ '*') :
    (node : StyledText) → c ∉ markdown node
  | .leaf plain => plain.not_mem hc
  | .styled font children => by
      have hmark : c ∉ font.mark := by cases font <;> simp [Font.mark, hstar]
      simp [markdown, hmark, not_mem_markdownAll hc hstar children]

theorem not_mem_markdownAll (hc : c ∈ reserved) (hstar : c ≠ '*') :
    (nodes : List StyledText) → c ∉ markdownAll nodes
  | [] => List.not_mem_nil
  | node :: nodes => by
      simp [markdownAll, not_mem_markdown hc hstar node, not_mem_markdownAll hc hstar nodes]

end

theorem backslash_not_mem_markdown (node : StyledText) : '\\' ∉ markdown node :=
  not_mem_markdown (by decide) (by decide) node

theorem backslash_not_mem_markdownAll (nodes : List StyledText) : '\\' ∉ markdownAll nodes :=
  not_mem_markdownAll (by decide) (by decide) nodes

theorem brace_not_mem_markdownAll (nodes : List StyledText) : '}' ∉ markdownAll nodes :=
  not_mem_markdownAll (by decide) (by decide) nodes

mutual

/-- No commands are written but those of the fonts. -/
theorem freeOf_latex_append {marks : List Text} (hmarks : ∀ mark ∈ marks, IsMark mark)
    (hapart : ∀ font : Font, ∀ mark ∈ marks, ¬ mark <+: font.opening ∧ ¬ font.opening <+: mark)
    {rest : Text} (hrest : FreeOf marks rest) :
    (node : StyledText) → FreeOf marks (latex node ++ rest)
  | .leaf plain => FreeOf.prose_append hmarks (plain.not_mem (by decide)) hrest
  | .styled font children => by
      have hprose : '\\' ∉ ['}'] := by decide
      have hbehind : FreeOf marks ('}' :: rest) := FreeOf.prose_append hmarks hprose hrest
      rw [latex_styled_append]
      exact FreeOf.command_append hmarks font.isMark_opening (hapart font)
        (freeOf_latexAll_append hmarks hapart hbehind children)

theorem freeOf_latexAll_append {marks : List Text} (hmarks : ∀ mark ∈ marks, IsMark mark)
    (hapart : ∀ font : Font, ∀ mark ∈ marks, ¬ mark <+: font.opening ∧ ¬ font.opening <+: mark)
    {rest : Text} (hrest : FreeOf marks rest) :
    (nodes : List StyledText) → FreeOf marks (latexAll nodes ++ rest)
  | [] => hrest
  | node :: nodes => by
      rw [latexAll, List.append_assoc]
      exact freeOf_latex_append hmarks hapart (freeOf_latexAll_append hmarks hapart hrest nodes) node

end

/-- A styled text holds no fence, no formula and no typewriter face, so the other passes see all of
it. -/
theorem textStyles_latexAll (nodes : List StyledText) :
    textStyles (latexAll nodes) = ArgumentReader.address.run (setFonts (latexAll nodes)) := by
  have hbacktick : '`' ∉ latexAll nodes :=
    not_mem_latexAll (by decide) (by decide) (fun font => by cases font <;> decide) nodes
  have hdollar : '$' ∉ latexAll nodes :=
    not_mem_latexAll (by decide) (by decide) (fun font => by cases font <;> decide) nodes
  have hfree : FreeOf ["\\[".toList, "\\texttt\x7b".toList] (latexAll nodes) := by
    rw [← List.append_nil (latexAll nodes)]
    exact freeOf_latexAll_append (by decide) (fun font => by cases font <;> decide) (by decide) nodes
  have hformula : Math.FormulaFree (latexAll nodes) := by
    refine ⟨fun _ h => ?_, fun inner h => ?_, fun _ _ _ h => ?_⟩
    · exact hdollar (h.subset (List.mem_cons_self ..))
    · rw [List.append_assoc] at h
      exact hfree _ (List.mem_cons_self ..) ((List.prefix_append _ _).isInfix.trans h)
    · exact hdollar (h.subset (List.mem_cons_self ..))
  have htypewriter : ArgumentReader.typewriter.run (latexAll nodes) = latexAll nodes :=
    ArgumentReader.substitute_of_freeOf (hfree.of_subset (by decide))
  rw [textStyles_of_not_mem hbacktick, styleAround, hformula.guard_eq_self, styleProse_eq_setFonts,
    htypewriter]
  rfl

/-! ## Parts that are set -/

/-- A leaf. -/
def IsLeaf : StyledText → Prop
  | .leaf _ => True
  | .styled _ _ => False

/-- A leaf, or bold face around leaves. -/
def IsLight : StyledText → Prop
  | .leaf _ => True
  | .styled font children => font = .textbf ∧ ∀ child ∈ children, child.IsLeaf

/-- A part in which every command reads its own closing brace. -/
inductive IsWhole : StyledText → Prop where
  | leaf (plain : PlainText) : IsWhole (.leaf plain)
  | bold {children : List StyledText} (h : ∀ child ∈ children, child.IsLeaf) :
      IsWhole (.styled .textbf children)
  | emphasis {font : Font} {children : List StyledText} (hfont : font ≠ .textbf)
      (h : ∀ child ∈ children, child.IsLight) : IsWhole (.styled font children)

/-- Bold face around leaves, emphasis around leaves, and light parts: the bold face reads the
closing brace of the emphasis, and the emphasis that of the bold face. -/
structure Crossing where
  font : Font
  before : List StyledText
  inner : List StyledText
  behind : List StyledText
  font_ne_textbf : font ≠ .textbf
  before_isLeaf : ∀ child ∈ before, child.IsLeaf
  inner_isLeaf : ∀ child ∈ inner, child.IsLeaf
  behind_isLight : ∀ child ∈ behind, child.IsLight

namespace Crossing

/-- The part as a styled text. -/
def node (x : Crossing) : StyledText :=
  .styled .textbf (x.before ++ .styled x.font x.inner :: x.behind)

/-- What comes of it. -/
def result (x : Crossing) : Text :=
  ['*', '*'] ++ (markdownAll x.before ++ ('*' :: (markdownAll x.inner ++
    (['*', '*'] ++ (markdownAll x.behind ++ ['*'])))))

theorem markdown_node (x : Crossing) :
    markdown x.node = ['*', '*'] ++ (markdownAll x.before ++ ('*' :: (markdownAll x.inner ++
      ('*' :: (markdownAll x.behind ++ ['*', '*']))))) := by
  simp [node, markdown, markdownAll_append, markdownAll, Font.mark_of_ne_textbf x.font_ne_textbf]

theorem length_result (x : Crossing) : x.result.length = (markdown x.node).length := by
  rw [markdown_node]
  simp [result]

theorem backslash_not_mem_result (x : Crossing) : '\\' ∉ x.result := by
  simp [result, backslash_not_mem_markdownAll]

/-- The marks make no difference if they stand around nothing but stars. -/
theorem result_eq_markdown_iff (x : Crossing) :
    x.result = markdown x.node ↔ ∀ c ∈ markdownAll x.behind, c = '*' := by
  let front := ['*', '*'] ++ (markdownAll x.before ++ ('*' :: markdownAll x.inner))
  have hresult : x.result = front ++ ('*' :: (('*' :: markdownAll x.behind) ++ ['*'])) := by
    simp [result, front]
  have hmarkdown : markdown x.node = front ++ ('*' :: ((markdownAll x.behind ++ ['*']) ++ ['*'])) := by
    simp [markdown_node, front]
  rw [hresult, hmarkdown, List.append_cancel_left_eq, List.cons_inj_right,
    List.append_cancel_right_eq, eq_comm]
  constructor
  · intro h c hc
    rw [eq_replicate_of_append_singleton_eq_cons h] at hc
    exact List.eq_of_mem_replicate hc
  · intro h
    rw [List.eq_replicate_of_mem h, ← List.replicate_succ', List.replicate_succ]

end Crossing

/-- What bold face and emphasis make of a part of a text of which they leave no command. -/
inductive SetAs : StyledText → Text → Prop where
  | whole {node : StyledText} (h : node.IsWhole) : SetAs node node.markdown
  | crossed (x : Crossing) : SetAs x.node x.result

/-- A part that nests properly: each command reads its own closing brace, or two commands read
each other's and what stands behind the emphasis is nothing but stars. -/
inductive Nests : StyledText → Prop where
  | whole {node : StyledText} (h : node.IsWhole) : Nests node
  | crossed (x : Crossing) (h : ∀ c ∈ markdownAll x.behind, c = '*') : Nests x.node

variable {before children nodes : List StyledText} {node : StyledText} {font : Font} {out : Text}

theorem latexAll_of_isLeaf (h : ∀ node ∈ nodes, node.IsLeaf) : latexAll nodes = markdownAll nodes := by
  induction nodes with
  | nil => rfl
  | cons node nodes ih =>
      obtain ⟨hnode, hnodes⟩ := List.forall_mem_cons.mp h
      cases node with
      | leaf plain => rw [latexAll, markdownAll, ih hnodes, latex, markdown]
      | styled font children => exact hnode.elim

/-- The pass for bold face sets light parts. -/
theorem bold_run_latexAll_append (h : ∀ node ∈ nodes, node.IsLight) (rest : Text) :
    ArgumentReader.bold.run (latexAll nodes ++ rest) =
      markdownAll nodes ++ ArgumentReader.bold.run rest := by
  induction nodes with
  | nil => rfl
  | cons node nodes ih =>
      obtain ⟨hnode, hnodes⟩ := List.forall_mem_cons.mp h
      rw [latexAll, markdownAll, List.append_assoc, List.append_assoc, ← ih hnodes]
      cases node with
      | leaf plain => exact ArgumentReader.bold.run_prose (plain.not_mem (by decide)) _
      | styled font children =>
          obtain ⟨rfl, hchildren⟩ := hnode
          rw [latex_styled_append, latexAll_of_isLeaf hchildren, markdown,
            Font.bold_run_textbf (brace_not_mem_markdownAll children)]
          simp

theorem bold_run_brace (rest : Text) :
    ArgumentReader.bold.run ('}' :: rest) = '}' :: ArgumentReader.bold.run rest :=
  ArgumentReader.bold.run_prose (t := ['}']) (by decide) rest

/-- The pass for bold face goes on in the argument of emphasis. -/
theorem bold_run_emphasis_append (hfont : font ≠ .textbf) (h : ∀ child ∈ children, child.IsLight)
    (rest : Text) :
    ArgumentReader.bold.run (latex (.styled font children) ++ rest) =
      font.opening ++ (markdownAll children ++ '}' :: ArgumentReader.bold.run rest) := by
  rw [latex_styled_append, Font.bold_run_of_ne_textbf hfont, bold_run_latexAll_append h, bold_run_brace]

/-- In bold face a command is read together with the mark that ends the bold face. -/
theorem setFonts_bold_append (hbefore : ∀ child ∈ before, child.IsLeaf) {t : Text}
    (hclosed : '}' ∉ t) (rest : Text) :
    setFonts (Font.textbf.opening ++ (latexAll before ++ (font.opening ++ (t ++ '}' :: rest)))) =
      ['*', '*'] ++ (markdownAll before ++ ArgumentReader.emphasis.run
        (font.opening ++ (t ++ (['*', '*'] ++ ArgumentReader.bold.run rest)))) := by
  have hargument : '}' ∉ markdownAll before ++ (font.opening ++ t) := by
    simp [brace_not_mem_markdownAll, font.brace_not_mem_opening, hclosed]
  have hsplit : latexAll before ++ (font.opening ++ (t ++ '}' :: rest)) =
      (markdownAll before ++ (font.opening ++ t)) ++ '}' :: rest := by
    simp [latexAll_of_isLeaf hbefore]
  have hbold : ArgumentReader.bold.run
      (Font.textbf.opening ++ (latexAll before ++ (font.opening ++ (t ++ '}' :: rest)))) =
        (['*', '*'] ++ markdownAll before) ++
          (font.opening ++ (t ++ (['*', '*'] ++ ArgumentReader.bold.run rest))) := by
    rw [hsplit, Font.bold_run_textbf hargument]
    simp
  have hprose : '\\' ∉ ['*', '*'] ++ markdownAll before := by
    simp [backslash_not_mem_markdownAll]
  rw [setFonts, hbold, ArgumentReader.emphasis.run_prose hprose, List.append_assoc]

theorem setFonts_whole_append (h : node.IsWhole) (rest : Text) :
    setFonts (latex node ++ rest) = markdown node ++ setFonts rest := by
  cases h with
  | leaf plain =>
      have hprose : '\\' ∉ latex (.leaf plain) := plain.not_mem (by decide)
      rw [setFonts, ArgumentReader.bold.run_prose hprose, ArgumentReader.emphasis.run_prose hprose,
        setFonts, latex, markdown]
  | @bold children h =>
      have hlight : ∀ node ∈ [styled .textbf children], node.IsLight :=
        List.forall_mem_singleton.mpr ⟨rfl, h⟩
      have hbold := bold_run_latexAll_append hlight rest
      simp only [latexAll, markdownAll, List.append_nil] at hbold
      rw [setFonts, hbold, ArgumentReader.emphasis.run_prose (backslash_not_mem_markdown _), setFonts]
  | @emphasis font children hfont h =>
      rw [setFonts, bold_run_emphasis_append hfont h,
        Font.emphasis_run_of_ne_textbf hfont (brace_not_mem_markdownAll children), markdown,
        Font.mark_of_ne_textbf hfont, setFonts, List.append_assoc, List.append_assoc]

theorem setFonts_crossed_append (x : Crossing) (rest : Text) :
    setFonts (latex x.node ++ rest) = x.result ++ setFonts rest := by
  have hclosed : '}' ∉ markdownAll x.inner ++ (['*', '*'] ++ markdownAll x.behind) := by
    simp [brace_not_mem_markdownAll]
  have hrun := Font.emphasis_run_of_ne_textbf x.font_ne_textbf hclosed (ArgumentReader.bold.run rest)
  simp only [List.append_assoc] at hrun
  rw [Crossing.node, latex_styled_append, latexAll_append, latexAll, List.append_assoc,
    List.append_assoc, latex_styled_append, latexAll_of_isLeaf x.inner_isLeaf,
    setFonts_bold_append x.before_isLeaf (brace_not_mem_markdownAll x.inner),
    bold_run_latexAll_append x.behind_isLight, bold_run_brace, hrun, Crossing.result, setFonts]
  simp

namespace SetAs

/-- The passes go on behind a part of which they leave no command. -/
theorem setFonts_append (h : SetAs node out) (rest : Text) :
    setFonts (latex node ++ rest) = out ++ setFonts rest := by
  cases h with
  | whole h => exact setFonts_whole_append h rest
  | crossed x => exact setFonts_crossed_append x rest

theorem length_eq (h : SetAs node out) : out.length = (markdown node).length := by
  cases h with
  | whole _ => rfl
  | crossed x => exact x.length_result

theorem backslash_not_mem (h : SetAs node out) : '\\' ∉ out := by
  cases h with
  | whole _ => exact backslash_not_mem_markdown _
  | crossed x => exact x.backslash_not_mem_result

theorem nests (h : SetAs node (markdown node)) : node.Nests := by
  generalize hout : markdown node = out at h
  cases h with
  | whole h => exact .whole h
  | crossed x => exact .crossed x (x.result_eq_markdown_iff.mp hout.symm)

end SetAs

theorem Nests.setAs (h : node.Nests) : SetAs node (markdown node) := by
  cases h with
  | whole h => exact .whole h
  | crossed x h =>
      rw [← x.result_eq_markdown_iff.mpr h]
      exact .crossed x

theorem SetAs.eq_markdown_iff (h : SetAs node out) : out = markdown node ↔ node.Nests := by
  refine ⟨fun heq => (heq ▸ h).nests, fun hnests => ?_⟩
  exact List.append_cancel_right ((h.setFonts_append []).symm.trans (hnests.setAs.setFonts_append []))

/-! ## Parts of which a command stays -/

/-- The first member of a list without a property. -/
theorem exists_first_not {p : StyledText → Prop} (h : ¬ ∀ node ∈ nodes, p node) :
    ∃ before node behind, nodes = before ++ node :: behind ∧ (∀ other ∈ before, p other) ∧ ¬ p node := by
  classical
  obtain ⟨node, hfound⟩ : ∃ node, nodes.find? (fun node => decide (¬ p node)) = some node := by
    rw [← Option.isSome_iff_exists, List.find?_isSome]
    simpa using h
  obtain ⟨hnode, before, behind, hsplit, hbefore⟩ := List.find?_eq_some_iff_append.mp hfound
  exact ⟨before, node, behind, hsplit, by simpa using hbefore, by simpa using hnode⟩

/-- A command stands in front of the first closing brace, unless there are leaves only. -/
theorem exists_opening_infix_latexAll (h : ¬ ∀ node ∈ nodes, node.IsLeaf) :
    ∃ font : Font, font.opening <:+: readPart (latexAll nodes) := by
  obtain ⟨before, node, behind, rfl, hbefore, hnode⟩ := exists_first_not h
  cases node with
  | leaf plain => exact absurd trivial hnode
  | styled font children =>
      refine ⟨font, ?_⟩
      rw [latexAll_append, latexAll, latex_styled_append, latexAll_of_isLeaf hbefore,
        readPart_append_of_not_mem (brace_not_mem_markdownAll before),
        readPart_append_of_not_mem font.brace_not_mem_opening]
      exact List.infix_append' _ _ _

/-- Behind the pass for bold face it still does, unless there are light parts only. -/
theorem exists_opening_infix_bold_run (h : ¬ ∀ node ∈ nodes, node.IsLight) (rest : Text) :
    ∃ font : Font, font.opening <:+: readPart (ArgumentReader.bold.run (latexAll nodes ++ rest)) := by
  obtain ⟨before, node, behind, rfl, hbefore, hnode⟩ := exists_first_not h
  cases node with
  | leaf plain => exact absurd trivial hnode
  | styled font children =>
      have hrun : ∃ other : Font, other.opening <:+: readPart (ArgumentReader.bold.run
          (latex (.styled font children) ++ (latexAll behind ++ rest))) := by
        rw [latex_styled_append]
        by_cases hfont : font = .textbf
        · subst hfont
          have hchildren : ¬ ∀ child ∈ children, child.IsLeaf := fun hleaf => hnode ⟨rfl, hleaf⟩
          obtain ⟨other, hother⟩ := exists_opening_infix_latexAll hchildren
          rw [← readPart_append_cons] at hother
          exact ⟨other, hother.trans (Font.textbf.readPart_infix_readPart_run _)⟩
        · rw [Font.bold_run_of_ne_textbf hfont, readPart_append_of_not_mem font.brace_not_mem_opening]
          exact ⟨font, (List.prefix_append _ _).isInfix⟩
      obtain ⟨other, hother⟩ := hrun
      rw [latexAll_append, latexAll, List.append_assoc, List.append_assoc,
        bold_run_latexAll_append hbefore,
        readPart_append_of_not_mem (brace_not_mem_markdownAll before)]
      exact ⟨other, hother.trans (List.suffix_append _ _).isInfix⟩

/-- A command that is read into the argument of emphasis stays. -/
theorem infix_emphasis_run (hfont : font ≠ .textbf) {mark t : Text} (h : mark <:+: readPart t) :
    mark <:+: ArgumentReader.emphasis.run (font.opening ++ t) := by
  rw [← Font.reader_of_ne_textbf hfont]
  exact (h.trans (font.readPart_infix_readPart_run t)).trans (readPart_infix_self _)

/-- A command for bold face stays in bold face. -/
theorem opening_infix_setFonts_of_textbf (hbefore : ∀ child ∈ before, child.IsLeaf) (rest : Text) :
    Font.textbf.opening <:+:
      setFonts (Font.textbf.opening ++ (latexAll before ++ (Font.textbf.opening ++ rest))) := by
  have hread : Font.textbf.opening <:+:
      readPart (latexAll before ++ (Font.textbf.opening ++ rest)) := by
    rw [latexAll_of_isLeaf hbefore, readPart_append_of_not_mem (brace_not_mem_markdownAll before),
      readPart_append_of_not_mem (Font.brace_not_mem_opening _)]
    exact List.infix_append' _ _ _
  have hbold := (hread.trans (Font.textbf.readPart_infix_readPart_run _)).trans (readPart_infix_self _)
  refine ArgumentReader.emphasis.infix_run_of_infix (by decide) (by decide) (by decide)
    (fun argument => ?_) hbold
  exact ⟨['*'], ['*'], by simp [ArgumentReader.emphasis, ArgumentReader.ofStyle, Style.emphasis]⟩

/-- A command stays that stands in bold face behind the beginning of emphasis, be it in front of the
next closing brace or in front of the one behind it. -/
theorem infix_setFonts_of_emphasis (hfont : font ≠ .textbf) (hbefore : ∀ child ∈ before, child.IsLeaf)
    {mark t : Text} (hclosed : '}' ∉ t) {rest : Text}
    (h : mark <:+: t ∨ mark <:+: readPart (ArgumentReader.bold.run rest)) :
    mark <:+: setFonts (Font.textbf.opening ++
      (latexAll before ++ (font.opening ++ (t ++ '}' :: rest)))) := by
  have hread : mark <:+: readPart (t ++ (['*', '*'] ++ ArgumentReader.bold.run rest)) := by
    have hstars : '}' ∉ ['*', '*'] := by decide
    rw [readPart_append_of_not_mem hclosed, readPart_append_of_not_mem hstars]
    rcases h with hfront | hbehind
    · exact hfront.trans (List.prefix_append _ _).isInfix
    · exact (hbehind.trans (List.suffix_append _ _).isInfix).trans (List.suffix_append _ _).isInfix
  rw [setFonts_bold_append hbefore hclosed, ← List.append_assoc]
  exact (infix_emphasis_run hfont hread).trans (List.suffix_append _ _).isInfix

/-- Bold face around other parts than leaves is set only if it crosses with emphasis. -/
theorem setAs_or_opening_stays_of_textbf (h : ¬ ∀ child ∈ children, child.IsLeaf) :
    (∃ out, SetAs (.styled .textbf children) out) ∨
      ∀ rest, ∃ font : Font, font.opening <:+: setFonts (latex (.styled .textbf children) ++ rest) := by
  obtain ⟨before, node, behind, rfl, hbefore, hnode⟩ := exists_first_not h
  cases node with
  | leaf plain => exact absurd trivial hnode
  | styled font inner =>
      have hlatex (rest : Text) :
          latex (.styled .textbf (before ++ .styled font inner :: behind)) ++ rest =
            Font.textbf.opening ++ (latexAll before ++ (font.opening ++
              (latexAll inner ++ '}' :: (latexAll behind ++ '}' :: rest)))) := by
        rw [latex_styled_append, latexAll_append, latexAll, List.append_assoc, List.append_assoc,
          latex_styled_append]
      simp only [hlatex]
      by_cases hfont : font = .textbf
      · subst hfont
        exact .inr fun rest => ⟨_, opening_infix_setFonts_of_textbf hbefore _⟩
      by_cases hinner : ∀ child ∈ inner, child.IsLeaf
      · by_cases hbehind : ∀ child ∈ behind, child.IsLight
        · exact .inl ⟨_, .crossed ⟨font, before, inner, behind, hfont, hbefore, hinner, hbehind⟩⟩
        · refine .inr fun rest => ?_
          obtain ⟨other, hother⟩ := exists_opening_infix_bold_run hbehind ('}' :: rest)
          rw [latexAll_of_isLeaf hinner]
          exact ⟨other, infix_setFonts_of_emphasis hfont hbefore (brace_not_mem_markdownAll inner)
            (.inr hother)⟩
      · refine .inr fun rest => ?_
        obtain ⟨other, hother⟩ := exists_opening_infix_latexAll hinner
        rw [← readPart_append (latexAll inner)]
        exact ⟨other, infix_setFonts_of_emphasis hfont hbefore (brace_not_mem_readPart _)
          (.inl hother)⟩

/-- Of a part of a text the passes leave no command, or they leave one whatever stands behind. -/
theorem setAs_or_opening_stays (node : StyledText) :
    (∃ out, SetAs node out) ∨
      ∀ rest, ∃ font : Font, font.opening <:+: setFonts (latex node ++ rest) := by
  cases node with
  | leaf plain => exact .inl ⟨_, .whole (.leaf plain)⟩
  | styled font children =>
      by_cases hfont : font = .textbf
      · subst hfont
        by_cases hleaf : ∀ child ∈ children, child.IsLeaf
        · exact .inl ⟨_, .whole (.bold hleaf)⟩
        · exact setAs_or_opening_stays_of_textbf hleaf
      · by_cases hlight : ∀ child ∈ children, child.IsLight
        · exact .inl ⟨_, .whole (.emphasis hfont hlight)⟩
        · refine .inr fun rest => ?_
          obtain ⟨other, hother⟩ := exists_opening_infix_bold_run hlight ('}' :: rest)
          rw [latex_styled_append, setFonts, Font.bold_run_of_ne_textbf hfont]
          exact ⟨other, infix_emphasis_run hfont hother⟩

/-! ## Whole texts -/

/-- The passes for fonts leave no backslash, or the opening of a command. -/
theorem opening_infix_or_backslash_not_mem (nodes : List StyledText) :
    (∃ font : Font, font.opening <:+: setFonts (latexAll nodes)) ∨
      '\\' ∉ setFonts (latexAll nodes) := by
  induction nodes with
  | nil => exact .inr List.not_mem_nil
  | cons node nodes ih =>
      rw [latexAll]
      rcases setAs_or_opening_stays node with ⟨out, hout⟩ | hstays
      · rw [hout.setFonts_append]
        rcases ih with ⟨font, hfont⟩ | hnone
        · exact .inl ⟨font, hfont.trans (List.suffix_append _ _).isInfix⟩
        · exact .inr (by simp [hout.backslash_not_mem, hnone])
      · exact .inl (hstays _)

/-- The passes for fonts give Markdown exactly if every part nests properly. -/
theorem setFonts_latexAll_iff (nodes : List StyledText) :
    setFonts (latexAll nodes) = markdownAll nodes ↔ ∀ node ∈ nodes, node.Nests := by
  induction nodes with
  | nil => exact iff_of_true rfl (List.forall_mem_nil _)
  | cons node nodes ih =>
      rw [latexAll, markdownAll, List.forall_mem_cons]
      rcases setAs_or_opening_stays node with ⟨out, hout⟩ | hstays
      · rw [hout.setFonts_append, ← hout.eq_markdown_iff, ← ih]
        exact ⟨fun h => List.append_inj h hout.length_eq, fun h => congrArg₂ _ h.1 h.2⟩
      · refine iff_of_false (fun h => ?_) (fun h => ?_)
        · obtain ⟨font, hfont⟩ := hstays (latexAll nodes)
          rw [h] at hfont
          exact backslash_not_mem_markdownAll (node :: nodes)
            (font.backslash_mem_of_opening_infix hfont)
        · obtain ⟨font, hfont⟩ := hstays []
          rw [h.1.setAs.setFonts_append, setFonts_nil, List.append_nil] at hfont
          exact backslash_not_mem_markdown node (font.backslash_mem_of_opening_infix hfont)

/-- Styled texts come out as Markdown with each font around all that is set in it exactly if each of
them nests properly: leaves, bold face around leaves, emphasis around leaves and such bold face, and
bold face around leaves, emphasis around leaves and parts of which only stars come. -/
theorem textStyles_latexAll_iff (nodes : List StyledText) :
    textStyles (latexAll nodes) = markdownAll nodes ↔ ∀ node ∈ nodes, node.Nests := by
  rw [textStyles_latexAll, ← setFonts_latexAll_iff]
  rcases opening_infix_or_backslash_not_mem nodes with ⟨font, hfont⟩ | hnone
  · have hstays : font.opening <:+: ArgumentReader.address.run (setFonts (latexAll nodes)) := by
      refine ArgumentReader.address.infix_run_of_infix font.isMark_opening font.brace_not_mem_opening
        ?_ (fun argument => ⟨['<'], ['>'], ?_⟩) hfont
      · cases font <;> decide
      · simp [ArgumentReader.address, ArgumentReader.ofCommand]
    have hmarkdown := backslash_not_mem_markdownAll nodes
    refine iff_of_false (fun h => hmarkdown ?_) (fun h => hmarkdown ?_)
    · exact font.backslash_mem_of_opening_infix (h ▸ hstays)
    · exact font.backslash_mem_of_opening_infix (h ▸ hfont)
  · have hself := ArgumentReader.address.run_prose hnone []
    rw [List.append_nil, ArgumentReader.address.run_of_brace_not_mem List.not_mem_nil,
      List.append_nil] at hself
    rw [hself]

-- nothing stands behind the emphasis, and the stars come out right
example : textStyles "\\textbf\x7ba \\emph\x7bb\x7d\x7d".toList = "**a *b***".toList := by
  decide

/-- Emphasis in the middle of bold face: the bold face ends where the emphasis should, and the
emphasis where the bold face should. -/
theorem emphasis_crosses_bold :
    let nodes := [styled .textbf [.leaf ⟨"a ".toList, by decide⟩,
      .styled .emph [.leaf ⟨['b'], by decide⟩], .leaf ⟨" c".toList, by decide⟩]]
    latexAll nodes = "\\textbf\x7ba \\emph\x7bb\x7d c\x7d".toList ∧
      markdownAll nodes = "**a *b* c**".toList ∧
      textStyles (latexAll nodes) = "**a *b** c*".toList ∧
      textStyles (latexAll nodes) ≠ markdownAll nodes := by
  intro nodes
  exact ⟨by decide +kernel, by decide +kernel, by decide +kernel, by decide +kernel⟩

end StyledText

end PaperHtml.Conversion
