import PaperHtml.Bibliography.Entry
import PaperHtml.Text.Blank
import PaperHtml.Text.Lowercase
import PaperHtml.Text.Scan
import PaperHtml.Text.Word

/-!
# Fields of an entry

A field is a name, an equals sign and a value.  The value is a group without
braces in it, a quoted text, or whatever stands before the next comma or line
end.  A comma after the value belongs to the field.
-/

namespace PaperHtml.Bibliography

open Text

/-! ## Values -/

/-- The value without one mark at its front and one at its end, the latter also when a
last line feed follows it. -/
def dropOuter (first last : Char) (t : Text) : Text :=
  let inner := dropOptional first t
  match inner.reverse with
  | c :: rest =>
    if c = last then rest.reverse
    else
      match c, rest with
      | '\n', d :: rest => if d = last then (c :: rest).reverse else inner
      | _, _ => inner
  | [] => inner

/-- A value as written made one: trimmed, freed of its braces and its quotation marks, and
every run of blanks made one space. -/
def cleanValue (raw : Text) : Text :=
  collapseBlanks (dropOuter '"' '"' (dropOuter '{' '}' (trim raw)))

/-! ## Reading -/

/-- A group that holds no brace, with its braces. -/
def flatGroup? : Scanner Text
  | '{' :: rest =>
    let inner := rest.takeWhile fun c => c ≠ '{' ∧ c ≠ '}'
    match rest.drop inner.length with
    | '}' :: after => some (braced inner, after)
    | _ => none
  | _ => none

/-- A text between quotation marks, with the marks. -/
def quotation? : Scanner Text
  | '"' :: rest => (cutChar? '"' rest).map fun found => ('"' :: found.1 ++ ['"'], found.2)
  | _ => none

/-- What stands before the next comma or line end, if that is anything. -/
def bareValue? : Scanner Text := fun t =>
  match t.takeWhile fun c => c ≠ ',' ∧ c ≠ '\n' with
  | [] => none
  | value => some (value, t.drop value.length)

/-- The value behind an equals sign.  Where nothing follows the blanks there, a blank that
is no line end counts as the value. -/
def value? : Scanner Text := fun t =>
  let rest := trimStart t
  match (flatGroup? rest).or ((quotation? rest).or (bareValue? rest)) with
  | some found => some found
  | none =>
    if (t.takeWhile isBlank).any (· ≠ '\n') then some ([' '], rest) else none

/-- A field at the front of a text, by name and value as written. -/
def rawField? : Scanner (Text × Text) := fun t =>
  match spanWord t with
  | ([], _) => none
  | (name, rest) =>
    match trimStart rest with
    | '=' :: rest =>
      (value? rest).map fun found => ((name, found.1), dropOptional ',' (trimStart found.2))
    | _ => none

/-- The fields in the body of an entry, by lower case name. -/
def readFields (body : Text) : Fields :=
  Assoc.ofList <| (Scanner.findAll rawField? body).map fun field =>
    (lower field.1, cleanValue field.2)

end PaperHtml.Bibliography
