import PaperHtml.Bibliography.Field

/-!
# Reading a bibliography

An entry runs from an at sign to the first closing brace that opens a line,
whatever its braces do in between.  Anything that does not have this shape is
passed over, and the blocks that hold no record are dropped.
-/

namespace PaperHtml.Bibliography

open Text

/-- Lines that are a comment after spaces and tabs made empty. -/
def eraseComments (t : Text) : Text :=
  unlines <| (lines t).map fun line =>
    if (line.dropWhile fun c => c = ' ' ∨ c = '\t').head? = some '%' then [] else line

/-- A character that can stand in a key. -/
def isKeyChar (c : Char) : Bool := !(c ∈ [',', '{', '}', '@'] || isBlank c)

/-- The kinds of block that hold no record. -/
def recordless : List Text := ["comment".toList, "preamble".toList, "string".toList]

/-- An entry as written: kind, key and body. -/
structure RawEntry where
  kind : Text
  key : Text
  body : Text

/-- An entry at the front of a text. -/
def rawEntry? : Scanner RawEntry
  | '@' :: rest =>
    match spanWord rest with
    | ([], _) => none
    | (kind, rest) =>
      match trimStart rest with
      | '{' :: rest =>
        match (trimStart rest).span isKeyChar with
        | ([], _) => none
        | (key, rest) =>
          match trimStart rest with
          | ',' :: rest =>
            -- whether the braces of the body are balanced does not matter
            (cut? ['\n', '}'] rest).map fun found => (⟨kind, key, found.1⟩, found.2)
          | _ => none
      | _ => none
  | _ => none

/-- The entries of a bibliography, in the order of the file. -/
def read (t : Text) : List Entry :=
  (Scanner.findAll rawEntry? (eraseComments t)).filterMap fun raw =>
    let kind := lower raw.kind
    if recordless.contains kind then none else some ⟨kind, raw.key, readFields raw.body⟩

end PaperHtml.Bibliography
