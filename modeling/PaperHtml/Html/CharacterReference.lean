import PaperHtml.Html.NamedCharacter
import PaperHtml.Html.Rejection
import PaperHtml.Text.Blank
import PaperHtml.Text.Digits

/-!
# Character references

A reference stands for a character by name or by number.  In running text a
reference needs a character behind it that cannot belong to it, and an unknown
name stands for itself; in an attribute value a reference may also be cut off
after the longest name that is known.  A number of too many digits is rejected.
-/

namespace PaperHtml.Html

open Text

/-- The mark for what is no character. -/
def noCharacter : Char := Char.ofNat 0xFFFD

/-- Whether a number is a code point of a character. -/
def isCodePoint (n : Nat) : Bool := n < 0xD800 || (0xDFFF < n && n < 0x110000)

/-- The character that a number stands for. -/
def numbered (n : Nat) : Char :=
  if 0x80 ≤ n ∧ n < 0xA0 then Char.ofNat (windowsCharacters.getD (n - 0x80) n)
  else if isCodePoint n then Char.ofNat n
  else noCharacter

/-- The digits of a numeric reference behind its number sign, with their base and the rest. -/
def digits? : Text → Option (Nat × Text × Text)
  | [] => none
  | c :: rest =>
    let found := if c = 'x' ∨ c = 'X' then (16, rest.span isHexDigit)
      else (10, (c :: rest).span Char.isDigit)
    if found.2.1 = [] then none else some (found.1, found.2.1, found.2.2)

/-- The most digits that a decimal number may have. -/
def digitLimit : Nat := 4300

/-- The number that digits in a base stand for, unless there are too many of them. -/
def number (base : Nat) (digits : Text) : Except Rejection Nat :=
  if base = 10 ∧ digitLimit < digits.length then .error (.longNumber digits.length)
  else .ok (numberIn base digits)

/-- What follows an optional semicolon. -/
def dropSemicolon (t : Text) : Text := dropOptional ';' t

/-- What a name stands for, which may be an old one without semicolon. -/
def named? (name : Text) : Option Text :=
  let name := String.ofList name
  let single :=
    ((oldNames.lookup name).or (capitalNames.lookup name)).or <|
      (earlyNames.lookup name).or (lateNames.lookup name)
  (single.map fun n => [Char.ofNat n]).or <|
    (pairNames.lookup name).map fun pair => [Char.ofNat pair.1, Char.ofNat pair.2]

/-! ## References in running text -/

/-- A numeric reference behind its number sign: its character and the rest.  A character
that is no hexadecimal digit has to follow. -/
def numericInText? (t : Text) : Option (Except Rejection Char × Text) :=
  match digits? t with
  | some (base, digits, c :: rest) =>
    if isHexDigit c then none
    else some ((number base digits).map numbered, dropSemicolon (c :: rest))
  | _ => none

/-- A character that can stand in a name behind its first letter. -/
def isNameChar (c : Char) : Bool := c.isAlphanum || c == '-' || c == '.'

/-- The longest beginning of a name that a mark inside it ends. -/
def shorterName (name : Text) : Text :=
  ((name.reverse.dropWhile Char.isAlphanum).drop 1).reverse

/-- The name of a reference behind its ampersand, and the rest.  A character that is no
letter or digit has to follow; where the text ends, it is looked for inside the name. -/
def nameInText? : Text → Option (Text × Text)
  | [] => none
  | c :: rest =>
    if c.isAlpha then
      match (c :: rest).span isNameChar with
      | (name, d :: after) => some (name, dropSemicolon (d :: after))
      | (name, []) =>
        match shorterName name with
        | [] => none
        | shorter => some (shorter, name.drop shorter.length)
    else none

/-- What a name in running text stands for: its characters, or itself if it is unknown. -/
def named (name : Text) : Text := (named? name).getD ('&' :: name)

/-! ## References in attribute values -/

/-- Code points that stand for nothing in an attribute value. -/
def isDropped (n : Nat) : Bool :=
  (0x1 ≤ n && n ≤ 0x8) || n == 0xB || (0xE ≤ n && n ≤ 0x1F) || (0x7F ≤ n && n ≤ 0x9F) ||
    (0xFDD0 ≤ n && n ≤ 0xFDEF) || n % 0x10000 == 0xFFFE || n % 0x10000 == 0xFFFF

/-- What a number in an attribute value stands for. -/
def numberedValue (n : Nat) : Text :=
  if n = 0 then [noCharacter]
  else if 0x80 ≤ n ∧ n < 0xA0 then [numbered n]
  else if !isCodePoint n then [noCharacter]
  else if isDropped n then []
  else [Char.ofNat n]

/-- A character that can stand in a reference of an attribute value. -/
def isValueNameChar (c : Char) : Bool :=
  !(c ∈ ['\t', '\n', Char.ofNat 12, ' ', '<', '&', '#', ';'])

/-- The longest beginning of at least two characters that is an old name. -/
def oldName? (name : Text) : (length : Nat) → Option (Char × Text)
  | 0 => none
  | 1 => none
  | length + 1 =>
    match oldNames.lookup (String.ofList (name.take (length + 1))) with
    | some n => some (Char.ofNat n, name.drop (length + 1))
    | none => oldName? name length

/-- What a name in an attribute value stands for, if a semicolon follows it or not. -/
def namedValue (name : Text) (closed : Bool) : Text :=
  let known :=
    if closed then named? name
    else (oldNames.lookup (String.ofList name)).map fun n => [Char.ofNat n]
  match known with
  | some found => found
  | none =>
    let tail := if closed then [';'] else []
    match oldName? name (if closed then name.length else name.length - 1) with
    | some (c, rest) => c :: rest ++ tail
    | none => '&' :: name ++ tail

/-- A reference behind its ampersand in an attribute value: what it stands for, and the rest. -/
def valueReference? (t : Text) : Option (Except Rejection Text × Text) :=
  match t with
  | '#' :: digits =>
    (digits? digits).map fun found =>
      ((number found.1 found.2.1).map numberedValue, dropSemicolon found.2.2)
  | t =>
    let name := (t.takeWhile isValueNameChar).take 32
    if name = [] then none
    else
      match t.drop name.length with
      | ';' :: rest => some (.ok (namedValue name true), rest)
      | rest => some (.ok (namedValue name false), rest)

/-- An attribute value with `skip` characters of a reference still to pass over. -/
def decodeValueFrom : (skip : Nat) → Text → Except Rejection Text
  | _, [] => .ok []
  | skip + 1, _ :: rest => decodeValueFrom skip rest
  | 0, c :: rest =>
    if c = '&' then
      match valueReference? rest with
      | some (.ok out, after) =>
        (decodeValueFrom (rest.length - after.length) rest).map (out ++ ·)
      | some (.error why, _) => .error why
      | none => (decodeValueFrom 0 rest).map (c :: ·)
    else (decodeValueFrom 0 rest).map (c :: ·)

/-- An attribute value as it is meant. -/
def decodeValue (t : Text) : Except Rejection Text := decodeValueFrom 0 t

end PaperHtml.Html
