import PaperHtml.Markdown.Block
import PaperHtml.Markdown.Literal
import PaperHtml.Text.Blank
import PaperHtml.Text.Lowercase
import PaperHtml.Text.Quoted
import PaperHtml.Text.Utf8

/-!
# The address and the title of a link

An address stands in angle brackets or runs to the next blank; its parentheses
have to balance.  A title stands in quotes or parentheses.  A definition gives
both under a label.
-/

namespace PaperHtml.Markdown

open Text

/-- An address behind its opening angle bracket. -/
def bracketed? : Scanner Text
  | [] => none
  | '\n' :: _ => none
  | '<' :: _ => none
  | '>' :: after => some ([], after)
  | '\\' :: c :: rest => (bracketed? rest).map fun found => ('\\' :: c :: found.1, found.2)
  | c :: rest => (bracketed? rest).map fun found => (c :: found.1, found.2)

/-- An address without brackets, inside a number of open parentheses. -/
def bare? : (depth : Nat) → Scanner Text
  | depth, [] => if depth = 0 then some ([], []) else none
  | depth, '\\' :: c :: rest =>
    if c = ' ' then if depth = 0 then some ([], '\\' :: c :: rest) else none
    else (bare? depth rest).map fun found => ('\\' :: c :: found.1, found.2)
  | depth, c :: rest =>
    let more (depth : Nat) := (bare? depth rest).map fun found => (c :: found.1, found.2)
    if c.toNat ≤ 32 ∨ c.toNat = 127 then if depth = 0 then some ([], c :: rest) else none
    else if c = '(' then if 32 ≤ depth then none else more (depth + 1)
    else if c = ')' then if depth = 0 then some ([], c :: rest) else more (depth - 1)
    else more depth

/-- The address of a link. -/
def address? (t : Text) : Option (Text × Text) :=
  let found :=
    match t with
    | '<' :: rest => bracketed? rest
    | _ => (bare? 0 t).bind fun found => if found.1.isEmpty then none else some found
  found.map fun found => (unescape found.1, found.2)

/-- What stands before the mark that closes a title. -/
def titleUntil? (closing : Char) : Scanner Text
  | [] => none
  | '\\' :: c :: rest =>
    (titleUntil? closing rest).map fun found => ('\\' :: c :: found.1, found.2)
  | c :: rest =>
    if c = closing then some ([], rest)
    else if c = '(' ∧ closing = ')' then none
    else (titleUntil? closing rest).map fun found => (c :: found.1, found.2)

/-- The title of a link. -/
def title? : Scanner Text
  | '"' :: rest => (titleUntil? '"' rest).map fun found => (unescape found.1, found.2)
  | '\'' :: rest => (titleUntil? '\'' rest).map fun found => (unescape found.1, found.2)
  | '(' :: rest => (titleUntil? ')' rest).map fun found => (unescape found.1, found.2)
  | _ => none

/-! ## Addresses as they are printed -/

/-- Whether a character stands for itself in an address. -/
def isAddressChar (c : Char) : Bool := c.isAlphanum || c ∈ ";/?:@&=+$,-_.!~*'()#".toList

/-- A byte as a percent sign and two digits. -/
def percent (b : Byte) : Text := '%' :: (hex 2 b).map Char.toUpper

/-- A byte written with a percent sign. -/
def percentByte? : Scanner Byte
  | '%' :: a :: b :: rest =>
    match hexValue? a, hexValue? b with
    | some x, some y => some (x * 16 + y, rest)
    | _, _ => none
  | _ => none

/-- The address with all other characters written as bytes; bytes already written so stay. -/
def encodeAddress (t : Text) : Text :=
  (Scanner.pieces (fun u => (percentByte? u).map fun found => (u.take 3, found.2)) t).flatMap fun
    | .hit kept => kept
    | .plain c => if isAddressChar c then [c] else (Utf8.encodeChar c).flatMap percent

/-- The text of the bytes in a run of them; marks that separate the parts of an address stay
bytes. -/
def decodeBytes (bytes : List Byte) : Text :=
  (Utf8.decode bytes).flatMap fun c =>
    if c ∈ ";/?:@&=+$,#%".toList then percent c.toNat else [c]

/-- The address as a reader sees it; `run` holds the bytes just read, in reverse order. -/
def showFrom : (run : List Byte) → List (Piece Byte) → Text
  | run, [] => decodeBytes run.reverse
  | run, .hit b :: rest => showFrom (b :: run) rest
  | run, .plain c :: rest => decodeBytes run.reverse ++ c :: showFrom [] rest

/-- The address as a reader sees it. -/
def showAddress (t : Text) : Text := showFrom [] (Scanner.pieces percentByte? t)

/-- Whether a link may lead to an address: not if it runs or opens something in place. -/
def isSafeAddress (t : Text) : Bool :=
  let t := lower (trim t)
  let scheme := ["vbscript:", "javascript:", "file:", "data:"].map String.toList
  let picture := ["gif;", "png;", "jpeg;", "webp;"].map fun kind => ("data:image/" ++ kind).toList
  (dropAny? scheme t).isNone || (dropAny? picture t).isSome

/-! ## Definitions -/

/-- A label, as it is compared. -/
def labelKey (t : Text) : Text := lower (collapseBlanks (trim t))

/-- What stands before the bracket that closes a label. -/
def labelText? : Scanner Text
  | [] => none
  | '[' :: _ => none
  | ']' :: after => some ([], after)
  | '\\' :: c :: rest => (labelText? rest).map fun found => ('\\' :: c :: found.1, found.2)
  | c :: rest => (labelText? rest).map fun found => (c :: found.1, found.2)

/-- Whether a character is a space, a tab or a line feed. -/
def isGap (c : Char) : Bool := c == ' ' || c == '\t' || c == '\n'

/-- What follows the line, if only spaces are left in it. -/
def dropLineEnd? (t : Text) : Option Text :=
  match t.dropWhile fun c => c == ' ' || c == '\t' with
  | [] => some []
  | '\n' :: rest => some rest
  | _ => none

/-- A definition at the front of a paragraph. -/
def definition? : Scanner Definition
  | '[' :: t =>
    (labelText? t).bind fun (label, after) =>
      (dropPrefix? [':'] after).bind fun after =>
        (address? (after.dropWhile isGap)).bind fun (address, behind) =>
          let address := encodeAddress address
          let key := labelKey label
          let titled := do
            let gap := behind.takeWhile isGap
            if gap.isEmpty then none
            let (title, after) ← title? (behind.dropWhile isGap)
            let rest ← dropLineEnd? after
            pure (title, rest)
          let found := titled.or ((dropLineEnd? behind).map fun rest => ([], rest))
          if key.isEmpty || !isSafeAddress address then none
          else found.map fun (title, rest) => (⟨key, address, title⟩, rest)
  | _ => none

end PaperHtml.Markdown
