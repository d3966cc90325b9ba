import PaperHtml.Markdown.Inline
import PaperHtml.Text.Blank
import PaperHtml.Text.Punctuation

/-!
# Emphasis

A run of asterisks, underscores or tildes may open and may close emphasis; what
it may depends on the characters at its two sides.  A run that closes looks for
the nearest open run of its kind.  What was opened in between has not been
closed and stands for itself.

## Strategy

The open runs form a stack, each with the parts that came after it.  Closing
takes an entry of the stack and folds those above it into its parts.
-/

namespace PaperHtml.Markdown

/-- A run of marks. -/
structure Run where
  mark : Char
  /-- How many marks stand there; a tilde counts for two. -/
  length : Nat
  opens : Bool
  closes : Bool

/-- Whether a character is white space beside a run. -/
def isSpaceBeside (c : Char) : Bool := isBlank c && !(28 ≤ c.toNat && c.toNat ≤ 31)

/-- What a run may do, between the characters at its sides.  Underscores do nothing inside a
word. -/
def Run.between (before after mark : Char) (length : Nat) : Run :=
  let spaceBefore := isSpaceBeside before
  let spaceAfter := isSpaceBeside after
  let left := !spaceAfter && (!isPunctuation after || spaceBefore || isPunctuation before)
  let right := !spaceBefore && (!isPunctuation before || spaceAfter || isPunctuation after)
  let splitsWords := mark != '_'
  ⟨mark, length, left && (splitsWords || !right || isPunctuation before),
    right && (splitsWords || !left || isPunctuation after)⟩

/-- A run that has been opened. -/
structure Opening where
  run : Run
  /-- The marks that nothing has been closed with. -/
  left : Nat
  /-- What came after it, in reverse order. -/
  content : List Inline

/-- What has been read: the open runs, the last one first, and what came before them, in
reverse order. -/
structure Progress where
  openings : List Opening
  before : List Inline

/-- One part more. -/
def Progress.push (progress : Progress) (part : Inline) : Progress :=
  match progress.openings with
  | [] => ⟨[], part :: progress.before⟩
  | top :: rest => ⟨⟨top.run, top.left, part :: top.content⟩ :: rest, progress.before⟩

/-- Marks that stand for themselves. -/
def marksText (mark : Char) (count : Nat) : Inline :=
  .text (List.replicate (if mark = '~' then 2 * count else count) mark)

/-- Whether a run may close another one.  If one of the two can both open and close, their
lengths together must not be a multiple of three, unless each of them is one. -/
def Run.closesRun (closing opening : Run) : Bool :=
  closing.mark == opening.mark && opening.opens &&
    (closing.mark == '~' || !(opening.closes || closing.opens) ||
      (opening.length + closing.length) % 3 != 0 ||
      (opening.length % 3 == 0 && closing.length % 3 == 0))

/-- The parts of an open run that stays open and of what came after it, in reverse order. -/
def Opening.fold (opening : Opening) (later : List Inline) : List Inline :=
  later ++ opening.content ++ [marksText opening.run.mark opening.left]

/-- The stack cut at the nearest run that a closing one closes: what came after that run, in
reverse order, the run itself and the stack below. -/
def cutAt? (closing : Run) : (later : List Inline) → List Opening →
    Option (List Inline × Opening × List Opening)
  | _, [] => none
  | later, top :: rest =>
    if closing.closesRun top.run then some (later ++ top.content, top, rest)
    else cutAt? closing (top.fold later) rest

/-- The progress after one mark has closed a run, if there is one for it. -/
def Progress.close? (closing : Run) (progress : Progress) : Option Progress :=
  (cutAt? closing [] progress.openings).map fun (content, opening, below) =>
    let content := content.reverse
    let part := if closing.mark = '~' then .styled .struck content
      else Inline.emphasized closing.mark content
    if opening.left ≤ 1 then Progress.push ⟨below, progress.before⟩ part
    else ⟨⟨opening.run, opening.left - 1, [part]⟩ :: below, progress.before⟩

/-- The progress after as many marks of a run as can have closed something, and the number
of marks left. -/
def Progress.closeAll (run : Run) : (marks : Nat) → Progress → Nat × Progress
  | 0, progress => (0, progress)
  | marks + 1, progress =>
    match if run.closes then progress.close? run else none with
    | some closed => closeAll run marks closed
    | none => (marks + 1, progress)

/-- The progress after a run; `odd` tells that one tilde more than pairs of them stands there,
which comes behind what the run closes. -/
def Progress.run (run : Run) (odd : Bool) (progress : Progress) : Progress :=
  let (left, progress) := progress.closeAll run run.length
  let progress := if odd then progress.push (.text ['~']) else progress
  if left = 0 then progress
  else if run.opens then ⟨⟨run, left, []⟩ :: progress.openings, progress.before⟩
  else progress.push (marksText run.mark left)

/-- The parts that have been read.  What is still open stands for itself. -/
def Progress.parts (progress : Progress) : List Inline :=
  (progress.openings.foldl (fun later opening => opening.fold later) [] ++ progress.before).reverse

end PaperHtml.Markdown
