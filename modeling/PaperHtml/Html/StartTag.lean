import PaperHtml.Html.CharacterReference
import PaperHtml.Html.Tree
import PaperHtml.Text.Lowercase

/-!
# Start tags

A start tag is a name and attributes.  Attributes are set apart by blanks and
slashes; a value may be quoted, unquoted or missing.  A tag that is cut off is
told apart from one that is not a tag at all.
-/

namespace PaperHtml.Html

open Text

/-- What follows blanks and slashes, but for a slash right before a closing bracket. -/
def dropSeparators : Text → Text
  | '/' :: '>' :: rest => '/' :: '>' :: rest
  | c :: rest => if isBlank c || c == '/' then dropSeparators rest else c :: rest
  | [] => []

/-- Characters that end a tag name. -/
def isTagNameChar (c : Char) : Bool :=
  !(c ∈ ['\t', '\n', '\r', Char.ofNat 12, ' ', '/', '>', Char.ofNat 0])

/-- A character of an unquoted value. -/
def isBareChar (c : Char) : Bool := c != '>' && !isBlank c

/-- An unquoted value, which may be empty. -/
def bareValue (t : Text) : Text × Text := t.span isBareChar

/-- A value in quotation marks. -/
def quotedValue? : Text → Option (Text × Text)
  | c :: rest => if c = '"' ∨ c = '\'' then cutChar? c rest else none
  | [] => none

/-- Whether a quotation mark is at the front. -/
def atQuotationMark : Text → Bool
  | c :: _ => c == '"' || c == '\''
  | [] => false

/-- The value behind an attribute name.  A quotation mark that is never closed begins no
value: then a blank before it is taken for an empty one, or a second equals sign for the
beginning of an unquoted one. -/
def attributeValue? (t : Text) : Option (Text × Text) :=
  match trimStart t with
  | '=' :: rest =>
    let ahead := rest.dropWhile (· = '=')
    let inner := trimStart ahead
    match quotedValue? inner with
    | some found => some found
    | none =>
      if !atQuotationMark inner then some (bareValue inner)
      else if ahead.length ≠ inner.length then some ([], inner)
      else if rest.length ≠ ahead.length then some (bareValue ('=' :: ahead))
      else none
  | _ => none

/-- Whether a new attribute can begin behind a character. -/
def canPrecedeAttribute (c : Char) : Bool := isBlank c || c == '/' || c == '"' || c == '\''

/-- An attribute at the front of a text: name, value if there is one, and the rest. -/
def attribute? : Text → Option (Text × Option Text × Text)
  | c :: rest =>
    if isBlank c || c == '/' || c == '>' then none
    else
      let more := rest.takeWhile fun d => !isBlank d && d != '/' && d != '=' && d != '>'
      let after := rest.drop more.length
      match attributeValue? after with
      | some (value, after) => some (c :: more, some value, after)
      | none => some (c :: more, none, after)
  | [] => none

/-- The attributes at the front of a text that follows `previous`, with their values as they are
written, and what follows them. -/
def attributesFrom : (fuel : Nat) → (previous : Char) → Text → List (Text × Text) × Text
  | 0, _, t => ([], t)
  | fuel + 1, previous, t =>
    if canPrecedeAttribute previous then
      match attribute? t with
      | none => ([], t)
      | some (name, value, after) =>
        let ahead := dropSeparators after
        let last := (t.take (t.length - ahead.length)).getLastD ' '
        let (more, rest) := attributesFrom fuel last ahead
        ((lower name, value.getD []) :: more, rest)
    else ([], t)

/-- Attributes with their values as they are meant. -/
def decodeValues : (written : List (Text × Text)) → Except Rejection (List (Text × Text))
  | [] => .ok []
  | (name, value) :: rest =>
    match decodeValue value, decodeValues rest with
    | .error why, _ => .error why
    | .ok _, .error why => .error why
    | .ok value, .ok rest => .ok ((name, value) :: rest)

/-- A start tag as it is read. -/
structure StartTag where
  name : Text
  attributes : Assoc Text
  /-- Whether a slash stands before the closing bracket. -/
  closed : Bool
  deriving DecidableEq

/-- What an opening bracket before a letter begins. -/
inductive TagReading where
  | tag (tag : StartTag) (rest : Text)
  /-- Not a tag: what has been read stands for itself. -/
  | junk (source rest : Text)
  | cutOff
  | rejected (why : Rejection)

/-- Reads the start tag behind an opening bracket. -/
def readStartTag (t : Text) : TagReading :=
  let (name, after) := t.span isTagNameChar
  let ahead := dropSeparators after
  let last := (t.take (t.length - ahead.length)).getLastD ' '
  let (written, rest) := attributesFrom ahead.length last ahead
  -- the values count as soon as the tag is not cut off, be it a tag or not
  let decoded (reading : List (Text × Text) → TagReading) : TagReading :=
    match decodeValues written with
    | .ok attributes => reading attributes
    | .error why => .rejected why
  let start (closed : Bool) (attributes : List (Text × Text)) : StartTag :=
    ⟨lower name, Assoc.ofList attributes, closed⟩
  match rest with
  | '>' :: rest => decoded fun attributes => .tag (start false attributes) rest
  | '/' :: '>' :: rest => decoded fun attributes => .tag (start true attributes) rest
  | [] => .cutOff
  | c :: _ =>
    if c.isAlpha || c == '=' || c == '/' then .cutOff
    else decoded fun _ => .junk ('<' :: t.take (t.length - rest.length)) rest

end PaperHtml.Html
