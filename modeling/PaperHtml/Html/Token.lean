import PaperHtml.Html.StartTag

/-!
# Tokens of a page's source

The source of a page is a sequence of texts, tags and other markup.  A bracket
or an ampersand that begins none of these is text.  Where something cannot be
read, the source ends rejected.

## Strategy

`step` reads what is at the front of the source.  What is cut off by the end of
the source is held back at first (`Step.hold`); the source is then read on with
the knowledge that no more will come, and what is still cut off is text.  The
reading is structurally recursive, with the characters of a token counted down.
-/

namespace PaperHtml.Html

open Text

/-- A part of a page's source. -/
inductive Token where
  | text (content : Text)
  | startTag (tag : StartTag)
  | endTag (name : Text)
  | markup (kind : TextKind) (content : Text)
  /-- What cannot be read, whatever comes behind it. -/
  | rejected (why : Rejection)
  deriving DecidableEq

/-- What is at the front of the source. -/
inductive Step where
  | go (tokens : List Token) (rest : Text)
  /-- Cut off by the end of the source. -/
  | hold
  /-- Text, after which reading stops until no more will come. -/
  | bail (content rest : Text)

/-! ## Markup with angle brackets -/

/-- The source up to a closing bracket, and what follows the bracket. -/
def toBracket? (t : Text) : Option (Text × Text) := cutChar? '>' t

/-- A closing mark of a comment: two hyphens, blanks and a bracket. -/
def dropCommentEnd? : Text → Option Text
  | '-' :: '-' :: rest => dropPrefix? ['>'] (trimStart rest)
  | _ => none

/-- Markup of a kind up to its end, or held back. -/
def markupStep (kind : TextKind) : Option (Text × Text) → Step
  | some (content, rest) => .go [.markup kind content] rest
  | none => .hold

/-! ### Marked sections -/

/-- A character of the name of a section behind its first letter. -/
def isSectionNameChar (c : Char) : Bool := c.isAlphanum || c ∈ ['-', '_', '.']

/-- A closing mark of a section: two square brackets and a bracket, with blanks between them. -/
def dropSectionEnd? : Text → Option Text
  | ']' :: rest =>
    (dropPrefix? [']'] (trimStart rest)).bind fun rest => dropPrefix? ['>'] (trimStart rest)
  | _ => none

/-- A closing mark of a section that holds a condition: one square bracket is enough. -/
def dropConditionEnd? : Text → Option Text
  | ']' :: rest => dropPrefix? ['>'] (trimStart rest)
  | _ => none

/-- How a section of a name ends, if there are such sections. -/
def sectionEnd? (name : Text) : Option (Text → Option Text) :=
  if (["temp", "cdata", "ignore", "include", "rcdata"].map String.toList).contains name then
    some dropSectionEnd?
  else if (["if", "else", "endif"].map String.toList).contains name then some dropConditionEnd?
  else none

/-- A section as markup: character data, or a declaration. -/
def sectionStep (content rest : Text) : Step :=
  if lower (content.take 6) = "cdata[".toList then
    .go [.markup .characterData (content.drop 6)] rest
  else .go [.markup .declaration content] rest

/-- What an exclamation mark and a square bracket behind an opening bracket begin. -/
def markedStep (t : Text) : Step :=
  match t with
  | [] => .hold
  | c :: rest =>
    if !c.isAlpha then .go [.rejected (.noName (['<', '!', '['] ++ t.take 17))] []
    else
      let name := c :: rest.takeWhile isSectionNameChar
      let seen := name ++ (t.drop name.length).takeWhile isBlank
      -- the end of the source may have cut the name off
      if seen.length = t.length then .hold
      else
        match sectionEnd? (lower name) with
        | none => .go [.rejected (.unknownSection seen)] []
        | some ending =>
          match breakAt ending t with
          | some (content, after) => sectionStep content after
          | none => .hold

/-- What an exclamation mark behind an opening bracket begins. -/
def declarationStep (t : Text) : Step :=
  match dropPrefix? ['-', '-'] t with
  | some rest => markupStep .comment (breakAt dropCommentEnd? rest)
  | none =>
    match dropPrefix? ['['] t with
    | some rest => markedStep rest
    | none =>
      if lower (t.take 7) = "doctype".toList then
        markupStep .doctype ((toBracket? (t.drop 7)).map fun found => (found.1.drop 1, found.2))
      else markupStep .comment (toBracket? t)

/-- What a slash behind an opening bracket begins. -/
def endTagStep (t : Text) : Step :=
  match toBracket? t with
  | none => .hold
  | some (inner, after) =>
    match trimStart inner with
    | c :: rest =>
      let isNamePart (d : Char) : Bool :=
        d.isAlphanum || d == '-' || d == '.' || d == ':' || d == '_'
      let more := rest.takeWhile isNamePart
      -- a name alone between blanks; else whatever could be a name in a start tag is taken
      if c.isAlpha && isBlankText (rest.drop more.length) then
        .go [.endTag (lower (c :: more))] after
      else
        match inner with
        | d :: _ =>
          if d.isAlpha then .go [.endTag (lower (inner.takeWhile isTagNameChar))] after
          else .go [.markup .comment inner] after
        | [] => .go [] after
    | [] => if inner = [] then .go [] after else .go [.markup .comment inner] after

/-- The names of the elements whose content is not read as markup. -/
def rawNames : List Text := ["script".toList, "style".toList]

/-- The end tag of a raw element, in any case. -/
def dropRawEnd? (name : Text) : Text → Option Text
  | '<' :: '/' :: rest =>
    let inner := trimStart rest
    if lower (inner.take name.length) = name then
      dropPrefix? ['>'] (trimStart (inner.drop name.length))
    else none
  | _ => none

/-- A start tag, with the content and the end tag of a raw element.  The content of one
that is never closed is lost. -/
def startTagStep (t : Text) : Step :=
  match readStartTag t with
  | .cutOff => .hold
  | .junk source rest => .go [.text source] rest
  | .rejected why => .go [.rejected why] []
  | .tag tag rest =>
    if rawNames.contains tag.name && !tag.closed then
      match breakAt (dropRawEnd? tag.name) rest with
      | some (content, after) =>
        .go [.startTag tag, .text content, .endTag tag.name] after
      | none => .go [.startTag tag] []
    else .go [.startTag tag] rest

/-- What an opening bracket begins. -/
def bracketStep : Text → Step
  | [] => .hold
  | c :: rest =>
    if c.isAlpha then startTagStep (c :: rest)
    else if c = '/' then endTagStep rest
    else if c = '!' then declarationStep rest
    else if c = '?' then markupStep .instruction (toBracket? rest)
    else .go [.text ['<']] (c :: rest)

/-- A bracket that begins something cut off, when no more will come: text up to the next
closing bracket, or else up to the next opening one. -/
def cutOffBracket (t : Text) : Step :=
  match toBracket? t with
  | some (inner, after) => .go [.text ('<' :: inner ++ ['>'])] after
  | none =>
    match cutChar? '<' t with
    | some (inner, after) => .go [.text ('<' :: inner)] ('<' :: after)
    | none => .go [.text ['<']] t

/-! ## References and text -/

/-- What an ampersand begins; `ended` tells that no more will come. -/
def ampersandStep (ended : Bool) : Text → Step
  | [] => .hold
  | '#' :: rest =>
    match numericInText? rest with
    | some (.ok c, after) => .go [.text [c]] after
    | some (.error why, _) => .go [.rejected why] []
    | none => if rest.contains ';' then .bail ['&', '#'] rest else .hold
  | c :: rest =>
    match nameInText? (c :: rest) with
    | some (name, after) => .go [.text (named name)] after
    | none =>
      if c.isAlpha then if ended && rest.isEmpty then .bail [] [c] else .hold
      else .go [.text ['&']] (c :: rest)

/-- What is at the front of the source; `ended` tells that no more will come. -/
def step (ended : Bool) : Text → Step
  | [] => .hold
  | '<' :: rest =>
    match bracketStep rest with
    | .hold => if ended && !rest.isEmpty then cutOffBracket rest else .hold
    | found => found
  | '&' :: rest => ampersandStep ended rest
  | c :: rest =>
    let more := rest.takeWhile fun d => d != '<' && d != '&'
    .go [.text (c :: more)] (rest.drop more.length)

/-- The tokens of a source, with `skip` characters of a token still to pass over. -/
def tokensFrom : (ended : Bool) → (skip : Nat) → Text → List Token
  | _, _, [] => []
  | ended, skip + 1, _ :: rest => tokensFrom ended skip rest
  | true, 0, c :: rest =>
    match step true (c :: rest) with
    | .go tokens after => tokens ++ tokensFrom true (rest.length - after.length) rest
    | .bail content after => [.text content, .text after]
    | .hold => [.text (c :: rest)]
  | false, 0, c :: rest =>
    match step false (c :: rest) with
    | .go tokens after => tokens ++ tokensFrom false (rest.length - after.length) rest
    | .bail content after => .text content :: tokensFrom true (rest.length - after.length) rest
    | .hold =>
      -- what was held back is read once more, now that nothing comes behind it
      match step true (c :: rest) with
      | .go tokens after => tokens ++ tokensFrom true (rest.length - after.length) rest
      | .bail content after => [.text content, .text after]
      | .hold => [.text (c :: rest)]

/-- The tokens of a page's source. -/
def tokens (source : Text) : List Token := tokensFrom false 0 source

end PaperHtml.Html
