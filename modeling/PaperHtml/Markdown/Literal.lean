import PaperHtml.Html.CharacterReference
import PaperHtml.Text.Punctuation
import PaperHtml.Text.Scan

/-!
# Characters written in another way

A backslash takes the meaning from a mark of punctuation, and a character
reference stands for the character it names.  Both hold in the text of a
paragraph and in the parts of a link.
-/

namespace PaperHtml.Markdown

open Text

/-- Whether a number in a reference stands for a character of its own. -/
def isReferable (n : Nat) : Bool :=
  Html.isCodePoint n && !Html.isDropped n && n != 0

/-- What a number or a name between `&` and `;` stands for. -/
def referred? : Text → Option Text
  | '#' :: x :: digits =>
    let (base, digits, limit) :=
      if x = 'x' ∨ x = 'X' then (16, digits, 6) else (10, x :: digits, 7)
    let isIn := if base = 16 then isHexDigit else Char.isDigit
    if digits.isEmpty || limit < digits.length || !digits.all isIn then none
    else
      let n := numberIn base digits
      some [if isReferable n then Char.ofNat n else Html.noCharacter]
  | name => Html.named? name

/-- A reference with its semicolon. -/
def reference? : Scanner Text
  | '&' :: rest =>
    let (inside, after) := rest.span fun c => c.isAlphanum || c == '#'
    match after with
    | ';' :: after => (referred? inside).map fun out => (out, after)
    | _ => none
  | _ => none

/-- A mark of punctuation behind a backslash. -/
def escaped? : Scanner Char
  | '\\' :: c :: after => if isAsciiPunctuation c then some (c, after) else none
  | _ => none

/-- The text with backslashes and references taken for what they stand for. -/
def unescape (t : Text) : Text :=
  Scanner.substitute
    (fun u => ((escaped? u).map fun found => ([found.1], found.2)).or (reference? u)) t

end PaperHtml.Markdown
