import PaperHtml.Markdown.Address
import PaperHtml.Markdown.Table

/-!
# Reading the blocks of a document

## Strategy

A *reader* takes the lines from some place on and gives the blocks that begin
there, up to the first line that the block around does not hold.  The reader
for one level of nesting is built from those for the levels inside, so the
recursion is on the levels that are left; twenty are enough for any document,
and what is nested deeper is left out.
-/

namespace PaperHtml.Markdown

open Text

/-- The blocks at the front of some lines. -/
structure Reading where
  blocks : List Block
  /-- The lines that the blocks take up. -/
  used : Nat
  /-- Whether no empty line stands in front of the last block. -/
  tight : Bool

/-- Reads the blocks at the front of some lines. -/
abbrev Reader := Setting → List Line → Reading

/-- A block and the lines it takes up. -/
abbrev Found := Block × Nat

/-! ## Blocks without blocks inside -/

/-- The number of lines of code at the front, without the empty ones behind it. -/
def Setting.codeLength (setting : Setting) : List Line → Nat
  | [] => 0
  | line :: rest =>
    let further := setting.codeLength rest
    if line.isEmpty then if further = 0 then 0 else further + 1
    else if setting.isCode line then further + 1
    else 0

/-- Code marked by its indentation. -/
def Setting.code? (setting : Setting) (line : Line) (rest : List Line) : Option Found :=
  if setting.isCode line then
    let count := setting.codeLength (line :: rest)
    some (.code (textOf (setting.indent + 4) false ((line :: rest).take count) ++ ['\n']), count)
  else none

/-- The lines behind a fence, and how many lines the code takes up behind it. -/
def Setting.fenceLines (setting : Setting) (fence : Fence) : List Line → List Line × Nat
  | [] => ([], 0)
  | line :: rest =>
    if line.isEmpty && !line.ended || !line.isEmpty && setting.isOutside line then ([], 0)
    else if !setting.isCode line && !line.isEmpty && fence.isClosedBy line.body then ([], 1)
    else
      let later := setting.fenceLines fence rest
      (line :: later.1, later.2 + 1)

/-- Code between fences. -/
def Setting.fence? (setting : Setting) (line : Line) (rest : List Line) : Option Found :=
  if setting.isCode line then none
  else
    (Markdown.fence? line.body).map fun fence =>
      let inside := setting.fenceLines fence rest
      (.fence fence.info (textOf line.indent.toNat true inside.1), inside.2 + 1)

/-- The number of lines behind the first that a block of HTML takes up. -/
def Setting.htmlLength (setting : Setting) (ending : HtmlEnd) : List Line → Nat
  | [] => 0
  | line :: rest =>
    if setting.isOutside line then 0
    else if endsHtml ending line.body then if line.isEmpty then 0 else 1
    else setting.htmlLength ending rest + 1

/-- A block of HTML. -/
def Setting.html? (setting : Setting) (line : Line) (rest : List Line) : Option Found :=
  if setting.isCode line then none
  else
    (htmlBlock? line.body).map fun (ending, _) =>
      let count := if endsHtml ending line.body then 1 else setting.htmlLength ending rest + 1
      (.html (textOf setting.indent true ((line :: rest).take count)), count)

/-- A rule. -/
def Setting.rule? (setting : Setting) (line : Line) : Option Found :=
  if !setting.isCode line && isRule line.body then some (.rule, 1) else none

/-- A heading that number signs mark. -/
def Setting.heading? (setting : Setting) (line : Line) : Option Found :=
  if setting.isCode line then none
  else (Markdown.heading? line.body).map fun (level, text) => (.heading level text, 1)

/-- A table. -/
def Setting.table? (setting : Setting) (line : Line) (rest : List Line) : Option Found :=
  (setting.tableHeader? line rest).map fun (columns, header) =>
    let rows := setting.tableRows columns.length rest.tail
    (.table columns header rows, rows.length + 2)

/-! ## Paragraphs -/

/-- Whether a line ends a paragraph that it does not belong to. -/
def Setting.endsParagraph (setting : Setting) (line : Line) (rest : List Line) : Bool :=
  let mayBeItem :=
    match setting.listMarker? line with
    | some marker => setting.isOutside line || marker.mayInterrupt
    | none => false
  (setting.tableHeader? line rest).isSome || setting.endsList line ||
    (!setting.isCode line &&
      (mayBeItem || (htmlBlock? line.body).any Prod.snd || (Markdown.heading? line.body).isSome))

/-- Whether a line goes on with a paragraph, whatever it looks like. -/
def Setting.isLazy (setting : Setting) (line : Line) : Bool :=
  setting.isCode line || line.indent < 0

/-- The number of lines by which a paragraph goes on. -/
def Setting.paragraphLength (setting : Setting) : List Line → Nat
  | [] => 0
  | line :: rest =>
    if line.isEmpty || !setting.isLazy line && setting.endsParagraph line rest then 0
    else setting.paragraphLength rest + 1

/-- The number of lines in front of a line that makes a heading of them, and its level. -/
def Setting.underline? (setting : Setting) : List Line → Option (Nat × Nat)
  | [] => none
  | line :: rest =>
    let later := (setting.underline? rest).map fun found => (found.1 + 1, found.2)
    if line.isEmpty then none
    else if setting.isCode line then later
    else
      match if setting.isOutside line then none else underlineLevel? line.body with
      | some level => some (0, level)
      | none =>
        if !setting.isLazy line && setting.endsParagraph line rest then none else later

/-- The text of a paragraph's lines. -/
def Setting.paragraphText (setting : Setting) (ls : List Line) : Text :=
  trim (textOf setting.indent false ls)

/-- A heading that a line under it marks. -/
def Setting.underlined? (setting : Setting) (line : Line) (rest : List Line) : Option Found :=
  (setting.underline? rest).map fun (count, level) =>
    (.heading level (setting.paragraphText (line :: rest.take count)), count + 2)

/-- A definition for links. -/
def Setting.definition? (setting : Setting) (line : Line) (rest : List Line) : Option Found :=
  let ls := line :: rest.take (setting.paragraphLength rest)
  if setting.isCode line then none
  else
    (Markdown.definition? (unlines (ls.map Line.body))).map fun (target, after) =>
      (.definition target, if after.isEmpty then ls.length else ls.length - (lines after).length)

/-- A paragraph. -/
def Setting.paragraph (setting : Setting) (line : Line) (rest : List Line) : Found :=
  let count := setting.paragraphLength rest
  (.paragraph (setting.paragraphText (line :: rest.take count)), count + 1)

/-! ## Quotes -/

/-- The lines of a quote behind its first; `afterEmpty` tells that the last one was empty.
A line without mark can only go on with a paragraph. -/
def Setting.quoteLines (setting : Setting) : (afterEmpty : Bool) → List Line → List Line
  | _, [] => []
  | afterEmpty, line :: rest =>
    if line.isEmpty then []
    else
      match if setting.isOutside line then none else unquote? line with
      | some inner => inner :: setting.quoteLines inner.isEmpty rest
      | none =>
        if afterEmpty || setting.endsQuote line then []
        else ⟨line.column, line.lead, line.body, -1, line.ended⟩ :: setting.quoteLines false rest

/-- A quote. -/
def Setting.quote? (inside : Reader) (setting : Setting) (line : Line) (rest : List Line) :
    Option Found :=
  if setting.isCode line then none
  else
    (unquote? line).map fun first =>
      let reading := inside ⟨0, setting.listIndent⟩ (first :: setting.quoteLines first.isEmpty rest)
      (.quote reading.blocks, reading.used)

/-! ## Lists -/

/-- The items of a list that has begun. -/
structure Items where
  items : List (List Block)
  used : Nat
  /-- Whether no empty line stands between the items or their blocks. -/
  tight : Bool

/-- The columns in front of the content of an item, and its first line without the mark. -/
def Marker.enter (marker : Marker) (line : Line) : Nat × Line :=
  let (gap, body) := marker.rest.span isSpace
  let start := line.column + line.indent.toNat + marker.width
  let wide := columnAfter start gap - start
  let space := if body.isEmpty || 4 < wide then 1 else wide
  (line.indent.toNat + marker.width + space,
    ⟨line.column, line.lead ++ List.replicate marker.width ' ' ++ gap, body,
      line.indent.toNat + marker.width + wide, line.ended⟩)

/-- The blocks of an item.  An item without content ends at an empty line. -/
def Setting.item (inside : Reader) (setting : Setting) (marker : Marker) (line : Line)
    (rest : List Line) : Reading :=
  let (indent, first) := marker.enter line
  if first.isEmpty && rest.head?.all Line.isEmpty then ⟨[], min 2 (rest.length + 1), true⟩
  else inside ⟨indent, some setting.indent⟩ (first :: rest)

/-- The mark with which a line goes on with a list. -/
def Setting.nextMarker? (setting : Setting) (first : Marker) (line : Line) : Option Marker :=
  if setting.isOutside line || setting.isCode line || setting.endsList line then none
  else
    (marker? line.body).bind fun marker =>
      if marker.continues first then some marker else none

/-- The items of a list from one whose mark is known; `afterEmpty` tells that the one before
ended with an empty line. -/
def Setting.itemsFrom (inside : Reader) (setting : Setting) (afterEmpty : Bool) (marker : Marker)
    (line : Line) (rest : List Line) : Items :=
  let item := setting.item inside marker line rest
  let tight := item.tight && !afterEmpty
  let further := item.used - 1
  let endsEmpty := 1 < item.used && (rest[further - 1]?).any Line.isEmpty
  match h : rest.drop further with
  | [] => ⟨[item.blocks], further + 1, tight⟩
  | next :: after =>
    match setting.nextMarker? marker next with
    | none => ⟨[item.blocks], further + 1, tight⟩
    | some later =>
      let others := setting.itemsFrom inside endsEmpty later next after
      ⟨item.blocks :: others.items, further + 1 + others.used, tight && others.tight⟩
termination_by rest.length
decreasing_by
  have := congrArg List.length h
  simp only [List.length_drop, List.length_cons] at this
  omega

/-- A list. -/
def Setting.list? (inside : Reader) (setting : Setting) (line : Line) (rest : List Line) :
    Option Found :=
  if setting.isCode line then none
  else
    (setting.listMarker? line).map fun marker =>
      let found := setting.itemsFrom inside false marker line rest
      let kind :=
        match marker.number? with
        | some number => .numbers number
        | none => .bullets
      (.list kind found.tight found.items, found.used)

/-! ## All blocks -/

/-- The block that a line begins. -/
def Setting.block (inQuote inList : Reader) (setting : Setting) (line : Line)
    (rest : List Line) : Found :=
  (setting.table? line rest).getD <|
    (setting.code? line rest).getD <|
      (setting.fence? line rest).getD <|
        (setting.quote? inQuote line rest).getD <|
          (setting.rule? line).getD <|
            (setting.list? inList line rest).getD <|
              (setting.definition? line rest).getD <|
                (setting.html? line rest).getD <|
                  (setting.heading? line).getD <|
                    (setting.underlined? line rest).getD <| setting.paragraph line rest

/-- The blocks at the front of some lines; `afterEmpty` tells that an empty line came after
a block. -/
def blocksFrom (block : Line → List Line → Found) (setting : Setting) (afterEmpty tight : Bool) :
    List Line → Reading
  | [] => ⟨[], 0, tight⟩
  | line :: rest =>
    if line.isEmpty then
      let later := blocksFrom block setting afterEmpty tight rest
      ⟨later.blocks, later.used + 1, later.tight⟩
    -- a line that is further out belongs to the blocks around
    else if setting.isOutside line then ⟨[], 0, tight⟩
    else
      let found := block line rest
      let further := found.2 - 1
      let remaining := rest.drop further
      let endsEmpty := 0 < further && (rest[further - 1]?).any Line.isEmpty
      let isFollowed := remaining.head?.any Line.isEmpty
      let later :=
        blocksFrom block setting (afterEmpty || endsEmpty || isFollowed) (!afterEmpty) remaining
      ⟨found.1 :: later.blocks, further + 1 + later.used, later.tight⟩
termination_by lines => lines.length
decreasing_by all_goals simp only [List.length_drop, List.length_cons]; omega

/-- The reader where no more blocks may be nested: the lines are passed over. -/
def passOver : Reader := fun setting ls =>
  let empty := (ls.takeWhile Line.isEmpty).length
  match ls.drop empty with
  | [] => ⟨[], empty, true⟩
  | line :: _ => ⟨[], if setting.isOutside line then empty else ls.length, true⟩

/-- The reader for a number of levels.  A list takes two of them, for itself and its items. -/
def reader : (levels : Nat) → Reader
  | 0 => passOver
  | 1 => fun setting ls =>
    blocksFrom (setting.block passOver passOver) setting false true ls
  | levels + 2 => fun setting ls =>
    blocksFrom (setting.block (reader (levels + 1)) (reader levels)) setting false true ls

/-- The levels of blocks inside each other that a document may have. -/
def levelLimit : Nat := 20

/-- The blocks of a text. -/
def blocks (t : Text) : List Block := (reader levelLimit ⟨0, none⟩ (linesOf t)).blocks

end PaperHtml.Markdown
