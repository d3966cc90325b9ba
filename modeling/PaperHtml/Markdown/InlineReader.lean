import PaperHtml.Markdown.Address
import PaperHtml.Markdown.Emphasis
import PaperHtml.Markdown.Line
import PaperHtml.Markdown.Tag

/-!
# Reading the parts of a paragraph

## Strategy

Whether a bracket begins a link depends on what stands behind it, so the widths
of all tokens are found first, from the end of the text to its front.  Then the
tokens are taken from the left, and the runs of marks among them are matched by
`Progress`.  The text of a link is read in the same way, with one level less.
-/

namespace PaperHtml.Markdown

open Text

/-! ## Tokens without parts inside -/

/-- A line feed with the spaces around it.  Two spaces in front of it break the line. -/
def lineBreak? : Scanner Inline := fun t =>
  let spaces := (t.takeWhile (· == ' ')).length
  match t.drop spaces with
  | '\n' :: after => some (.lineBreak (2 ≤ spaces), after.dropWhile isSpace)
  | _ => none

/-- A backslash, with the character behind it if it is no mark of punctuation. -/
def backslash? : Scanner Inline
  | '\\' :: '\n' :: after => some (.lineBreak true, after.dropWhile isSpace)
  | '\\' :: c :: after => some (.text (if isAsciiPunctuation c then [c] else ['\\', c]), after)
  | _ => none

/-- The text before the next run of exactly `length` backticks, and the text behind it;
`run` is the number of backticks just passed. -/
def codeUntil? (length : Nat) : (run : Nat) → Text → Option (Text × Text)
  | run, [] => if run = length then some ([], []) else none
  | run, c :: rest =>
    if c = '`' then (codeUntil? length (run + 1) rest).map fun found => (c :: found.1, found.2)
    else if run = length then some ([], c :: rest)
    else (codeUntil? length 0 rest).map fun found => (c :: found.1, found.2)

/-- The text of code: on one line, without one space at each end if both are there and
something else is. -/
def codeText (t : Text) : Text :=
  let t := t.map fun c => if c = '\n' then ' ' else c
  if t.head? == some ' ' && t.getLast? == some ' ' && !isBlankText t then (t.drop 1).dropLast
  else t

/-- Code between two runs of backticks, or the first run alone. -/
def backticks? : Scanner Inline
  | '`' :: rest =>
    let length := (rest.takeWhile (· == '`')).length + 1
    let inside := rest.dropWhile (· == '`')
    match codeUntil? length 0 inside with
    | some (found, after) => some (.code (codeText (found.take (found.length - length))), after)
    | none => some (.text (List.replicate length '`'), inside)
  | _ => none

/-- Whether a text is an address with its scheme. -/
def isAddressWithScheme (t : Text) : Bool :=
  match t.span fun c => c.isAlphanum || c ∈ ['+', '.', '-'] with
  | (scheme, ':' :: rest) =>
    scheme.head?.any Char.isAlpha && 2 ≤ scheme.length && scheme.length ≤ 32 &&
      rest.all fun c => 32 < c.toNat && c != '<' && c != '>'
  | _ => false

/-- Whether a text is a part of a host's name. -/
def isHostPart (t : Text) : Bool :=
  t.all (fun c => c.isAlphanum || c == '-') && t.head?.any Char.isAlphanum &&
    t.getLast?.any Char.isAlphanum && t.length ≤ 63

/-- Whether a text is an address for mail. -/
def isMailAddress (t : Text) : Bool :=
  match t.span fun c => c.isAlphanum || c ∈ ".!#$%&'*+/=?^_`\x7b|\x7d~-".toList with
  | (user, '@' :: host) => !user.isEmpty && (splitOn '.' host).all isHostPart
  | _ => false

/-- A link that is its own text, between angle brackets. -/
def autolink? : Scanner Inline
  | '<' :: rest =>
    match rest.span fun c => c != '<' && c != '>' with
    | (inside, '>' :: after) =>
      let linked (address : Text) :=
        let address := encodeAddress address
        if isSafeAddress address then
          some (Inline.link address [] [.text (showAddress inside)], after)
        else none
      if isAddressWithScheme inside then linked inside
      else if isMailAddress inside then linked ("mailto:".toList ++ inside)
      else none
    | _ => none
  | _ => none

/-- A token that holds no other parts. -/
def leaf? (t : Text) : Option (Inline × Text) :=
  match t with
  | '\\' :: _ => backslash? t
  | '`' :: _ => backticks? t
  | '<' :: _ => (autolink? t).or ((inlineHtml? t).map fun (html, after) => (.html html, after))
  | '&' :: _ => (reference? t).map fun (out, after) => (.text out, after)
  | _ => lineBreak? t

/-! ## Links -/

/-- Where a link leads, with the number of characters of its label and what follows it. -/
structure Target where
  address : Text
  title : Text
  label : Nat
  after : Text

/-- The number of characters before the bracket that closes a label, given the widths of the
tokens.  A link must not stand in the label of a link. -/
def labelLength? (mayHoldLinks : Bool) :
    (depth skip : Nat) → Text → List Nat → Option Nat
  | depth, skip + 1, _ :: rest, _ :: widths =>
    (labelLength? mayHoldLinks depth skip rest widths).map (· + 1)
  | depth, 0, c :: rest, width :: widths =>
    -- a bracket of width one begins no link, so it opens a level of brackets
    if c = ']' ∧ depth = 0 then some 0
    else if c = '[' ∧ 1 < width ∧ !mayHoldLinks then none
    else
      let depth := if c = ']' then depth - 1 else if c = '[' ∧ width = 1 then depth + 1 else depth
      (labelLength? mayHoldLinks depth (width - 1) rest widths).map (· + 1)
  | _, _, _, _ => none

/-- The address and the title in the parentheses behind a label. -/
def parenthesized? (t : Text) : Option (Text × Text × Text) :=
  match t with
  | '(' :: t =>
    let t := t.dropWhile isGap
    let (address, behind) :=
      match address? t with
      | some (address, behind) =>
        let address := encodeAddress address
        if isSafeAddress address then (address, behind) else ([], t)
      | none => ([], t)
    let (title, behind) :=
      match if (behind.takeWhile isGap).isEmpty then none else title? (behind.dropWhile isGap) with
      | some found => found
      | none => ([], behind)
    match behind.dropWhile isGap with
    | ')' :: after => some (address, title, after)
    | _ => none
  | _ => none

/-- What a label behind another one refers to by, if it is not empty, and what follows. -/
def secondLabel? (mayHoldLinks : Bool) (t : Text) (widths : List Nat) : Option (Text × Text) :=
  match t with
  | '[' :: t =>
    (labelLength? mayHoldLinks 0 0 t (widths.drop 1)).map fun length =>
      (t.take length, t.drop (length + 1))
  | _ => none

/-- The target of a link behind its opening bracket. -/
def target? (definitions : List Definition) (mayHoldLinks : Bool) (t : Text)
    (widths : List Nat) : Option Target :=
  (labelLength? mayHoldLinks 0 0 t widths).bind fun length =>
    let label := t.take length
    let behind := t.drop (length + 1)
    match parenthesized? behind with
    | some (address, title, after) => some ⟨address, title, length, after⟩
    | none =>
      let (name, after) := (secondLabel? true behind (widths.drop (length + 1))).getD ([], behind)
      let key := labelKey (if name.isEmpty then label else name)
      (definitions.find? (·.label == key)).map fun found =>
        ⟨found.address, found.title, length, after⟩

/-- The number of characters of the token that begins with a character. -/
def tokenWidth (definitions : List Definition) (c : Char) (rest : Text) (widths : List Nat) :
    Nat :=
  let width (after : Text) := rest.length + 1 - after.length
  if c = '[' then
    ((target? definitions false rest widths).map fun found => width found.after).getD 1
  else if c = '!' then
    match rest with
    | '[' :: inside =>
      ((target? definitions true inside (widths.drop 1)).map fun found => width found.after).getD 1
    | _ => 1
  else ((leaf? (c :: rest)).map fun found => width found.2).getD 1

/-- The widths of the tokens at all places of a text. -/
def tokenWidths (definitions : List Definition) : Text → List Nat
  | [] => []
  | c :: rest =>
    -- from the end on, for how far a link goes depends on the tokens in its label
    let widths := tokenWidths definitions rest
    tokenWidth definitions c rest widths :: widths

/-! ## All parts -/

/-- What stands at a place of a text: a part, or a run of marks. -/
inductive Token where
  | part (part : Inline)
  | run (run : Run) (odd : Bool)

/-- A run of marks, between the character before it and the one behind it. -/
def runAt? (before : Char) : Scanner Token
  | [] => none
  | c :: rest =>
    let length := (rest.takeWhile (· == c)).length + 1
    let after := rest.dropWhile (· == c)
    let run := Run.between before (after.headD ' ') c
    if c = '*' ∨ c = '_' then some (.run (run length) false, after)
    else if c = '~' ∧ 2 ≤ length then some (.run (run (length / 2)) (length % 2 == 1), after)
    else none

/-- A link or an image; `inside` reads its text. -/
def linkAt? (inside : (before : Char) → Text → List Inline) (definitions : List Definition)
    (t : Text) (widths : List Nat) : Option (Token × Text) :=
  match t with
  | '[' :: label =>
    (target? definitions false label (widths.drop 1)).map fun found =>
      (.part (.link found.address found.title (inside '[' (label.take found.label))), found.after)
  | '!' :: '[' :: label =>
    (target? definitions true label (widths.drop 2)).map fun found =>
      (.part (.image found.address found.title (inside ' ' (label.take found.label))), found.after)
  | _ => none

/-- The tokens of a text, with the character before it, `skip` characters of the last token
and the widths of the tokens. -/
def tokensFrom (inside : (before : Char) → Text → List Inline) (definitions : List Definition) :
    (before : Char) → (skip : Nat) → Text → List Nat → List Token
  | _, _, [], _ => []
  | _, skip + 1, c :: rest, widths => tokensFrom inside definitions c skip rest (widths.drop 1)
  | before, 0, c :: rest, widths =>
    let found := (runAt? before (c :: rest)).or <|
      (linkAt? inside definitions (c :: rest) widths).or <|
        (leaf? (c :: rest)).map fun (part, after) => (.part part, after)
    match found with
    | some (token, after) =>
      token ::
        tokensFrom inside definitions c (rest.length - after.length) rest (widths.drop 1)
    | none =>
      .part (.text [c]) :: tokensFrom inside definitions c 0 rest (widths.drop 1)

/-- The progress after a token. -/
def Progress.take (progress : Progress) : Token → Progress
  | .part part => progress.push part
  | .run run odd => progress.run run odd

/-- The parts of a text behind a character, with links inside each other up to a number of
levels. -/
def inlinesFrom (definitions : List Definition) : (levels : Nat) → (before : Char) → Text →
    List Inline
  | 0, _, t => [.text t]
  | levels + 1, before, t =>
    let tokens := tokensFrom (inlinesFrom definitions levels) definitions before 0 t
      (tokenWidths definitions t)
    (tokens.foldl Progress.take ⟨[], []⟩).parts

/-- The levels of links inside each other that a text may have. -/
def linkLimit : Nat := 20

/-- The parts of a text. -/
def inlines (definitions : List Definition) (t : Text) : List Inline :=
  inlinesFrom definitions linkLimit ' ' t

end PaperHtml.Markdown
