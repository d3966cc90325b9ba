import PaperHtml.Html.CharacterReference
import PaperHtml.Markdown.Line
import PaperHtml.Markdown.Tag

/-!
# How blocks begin

Most blocks can be told from their first line.  What may begin there depends on
the block around it, which asks for some indentation of its lines.
-/

namespace PaperHtml.Markdown

open Text

/-- What the block around asks of a line. -/
structure Setting where
  /-- The columns that the lines of the block are indented by. -/
  indent : Nat
  /-- The columns that the lines around the nearest list are indented by. -/
  listIndent : Option Nat

/-- Whether a line is indented as code is. -/
def Setting.isCode (setting : Setting) (line : Line) : Bool :=
  (setting.indent : Int) + 4 ≤ line.indent

/-- Whether a line is indented less than the block asks. -/
def Setting.isOutside (setting : Setting) (line : Line) : Bool :=
  line.indent < setting.indent

/-! ## Fences, rules and headings -/

/-- A line that begins or ends fenced code: its mark, how often it stands there, and the text
behind it. -/
structure Fence where
  mark : Char
  length : Nat
  info : Text

/-- The fence in the body of a line. -/
def fence? : Text → Option Fence
  | [] => none
  | c :: rest =>
    if c = '`' ∨ c = '~' then
      let marks := (c :: rest).takeWhile (· == c)
      let info := (c :: rest).dropWhile (· == c)
      if marks.length < 3 ∨ (c = '`' ∧ '`' ∈ info) then none else some ⟨c, marks.length, info⟩
    else none

/-- Whether the body of a line ends the code behind a fence. -/
def Fence.isClosedBy (fence : Fence) (body : Text) : Bool :=
  fence.length ≤ (body.takeWhile (· == fence.mark)).length &&
    (body.dropWhile (· == fence.mark)).all isSpace

/-- Whether the body of a line is a rule. -/
def isRule : Text → Bool
  | [] => false
  | c :: rest =>
    (c == '*' || c == '-' || c == '_') && rest.all (fun d => d == c || isSpace d) &&
      3 ≤ ((c :: rest).count c)

/-- The text without the spaces at its end. -/
def dropEndSpaces (t : Text) : Text := (t.reverse.dropWhile isSpace).reverse

/-- The text of a heading without the number signs that may close it. -/
def dropClosingSigns (t : Text) : Text :=
  let t := dropEndSpaces t
  match t.reverse.dropWhile (· == '#') with
  | c :: before => if isSpace c then (c :: before).reverse else t
  | [] => t

/-- The level and the text of a heading that number signs mark. -/
def heading? (body : Text) : Option (Nat × Text) :=
  let level := (body.takeWhile (· == '#')).length
  let rest := body.dropWhile (· == '#')
  if level = 0 ∨ 6 < level ∨ !(rest.head?.all isSpace) then none
  else some (level, trim (dropClosingSigns rest))

/-- The level of a heading that a line under it marks. -/
def underlineLevel? : Text → Option Nat
  | [] => none
  | c :: rest =>
    if (c = '=' ∨ c = '-') ∧ (rest.dropWhile (· == c)).all isSpace then
      some (if c = '=' then 1 else 2)
    else none

/-! ## Quotes -/

/-- A line of a quote without the mark and the space behind it.  A tab behind the mark gives
one of its columns to it. -/
def unquote? (line : Line) : Option Line :=
  match line.body with
  | '>' :: rest =>
    let column := (line.column + line.indent + 1).toNat
    let (column, rest) :=
      match rest with
      | ' ' :: rest => (column + 1, rest)
      | '\t' :: rest => (column + 1, if column % 4 = 3 then rest else '\t' :: rest)
      | _ => (column, rest)
    let (lead, body) := rest.span isSpace
    some ⟨column - line.column, lead, body, columnAfter column lead - column, line.ended⟩
  | _ => none

/-! ## Lists -/

/-- The mark of a list item. -/
structure Marker where
  /-- The number, for an item of a numbered list. -/
  number? : Option Nat
  /-- The bullet, or what follows the number. -/
  sign : Char
  /-- The characters of the mark. -/
  width : Nat
  /-- The line behind the mark. -/
  rest : Text

/-- The mark of an item at the front of the body of a line. -/
def marker? (body : Text) : Option Marker :=
  let digits := body.takeWhile Char.isDigit
  match body.dropWhile Char.isDigit with
  | [] => none
  | c :: rest =>
    let isSign := if digits.isEmpty then c ∈ ['*', '-', '+'] else c ∈ ['.', ')']
    if isSign && digits.length ≤ 9 && rest.head?.all isSpace then
      some ⟨if digits.isEmpty then none else some (numberIn 10 digits), c,
        digits.length + 1, rest⟩
    else none

/-- Whether an item can follow one in the same list. -/
def Marker.continues (later first : Marker) : Bool :=
  later.sign == first.sign && later.number?.isSome == first.number?.isSome

/-- Whether an item may stand behind a paragraph without an empty line: not if it is empty
or is numbered with something else than one. -/
def Marker.mayInterrupt (marker : Marker) : Bool :=
  marker.number?.all (· == 1) && !marker.rest.all isSpace

/-- The mark with which a line begins a list. -/
def Setting.listMarker? (setting : Setting) (line : Line) : Option Marker :=
  let isTooDeep :=
    match setting.listIndent with
    | some outer => (outer : Int) + 4 ≤ line.indent && setting.isOutside line
    | none => false
  if isTooDeep then none else marker? line.body

/-! ## What ends a block without an empty line -/

/-- Whether a line ends a list that it does not belong to. -/
def Setting.endsList (setting : Setting) (line : Line) : Bool :=
  !setting.isCode line &&
    ((fence? line.body).isSome || (unquote? line).isSome || isRule line.body)

/-- Whether a line ends a quote or a table that it does not belong to. -/
def Setting.endsQuote (setting : Setting) (line : Line) : Bool :=
  setting.endsList line ||
    (!setting.isCode line &&
      ((setting.listMarker? line).isSome || (htmlBlock? line.body).any Prod.snd ||
        (heading? line.body).isSome))

end PaperHtml.Markdown
