import PaperHtml.Text.Scan

/-!
# Guarding mathematics

Before a text is read as Markdown, every formula in it is replaced by a token
that Markdown leaves alone, and afterwards the formulas are put back.

## Strategy

The three kinds of delimiter are guarded one after the other: first `$$` pairs,
then `\[` with `\]`, then single dollars within a line.  Later kinds may take
in tokens of earlier ones; the formulas are put back in the order in which they
were taken, which is the order of their numbers.
-/

namespace PaperHtml.Math

open Text

/-- The token for the formula with a number. -/
def token (index : Nat) : Text := "@@MATH".toList ++ ofNat index ++ ['@', '@']

/-- The text from an opening to a closing delimiter, with both. -/
def delimited (opening closing : Text) : Scanner Text := fun t =>
  (dropPrefix? opening t).bind fun rest =>
    (cut? closing rest).map fun found => (opening ++ found.1 ++ closing, found.2)

/-- What is recognised between delimiters is a beginning of the text, with its delimiters. -/
theorem exists_of_delimited {opening closing t formula after : Text}
    (h : delimited opening closing t = some (formula, after)) :
    ∃ inner, formula = opening ++ inner ++ closing ∧ t = formula ++ after := by
  simp only [delimited, Option.bind_eq_some_iff, Option.map_eq_some_iff, Prod.mk.injEq] at h
  obtain ⟨rest, hrest, found, hcut, rfl, rfl⟩ := h
  refine ⟨found.1, rfl, ?_⟩
  rw [dropPrefix?_eq_some_iff.mp hrest, cut?_eq_some hcut]
  simp

/-- The text between two single dollars of one line, with both. -/
def inlineDollars : Scanner Text
  | '$' :: rest =>
    let inner := rest.takeWhile fun c => c ≠ '$' ∧ c ≠ '\n'
    match rest.drop inner.length with
    | '$' :: after => some ('$' :: inner ++ ['$'], after)
    | _ => none
  | _ => none

/-- The delimiters of formulas, in the order in which they are guarded. -/
def delimiters : List (Scanner Text) :=
  [delimited ['$', '$'] ['$', '$'], delimited ['\\', '['] ['\\', ']'], inlineDollars]

/-- A text with tokens in place of formulas, and the formulas by number. -/
structure Guarded where
  text : Text
  spans : List Text
  deriving DecidableEq

/-- The pieces of a text with tokens for the formulas among them, which are numbered from
`next` on. -/
def stash : (next : Nat) → List (Piece Text) → Text
  | _, [] => []
  | next, .plain c :: rest => c :: stash next rest
  | next, .hit _ :: rest => token next ++ stash (next + 1) rest

theorem stash_map_plain_append (next : Nat) (front : Text) (pieces : List (Piece Text)) :
    stash next (front.map .plain ++ pieces) = front ++ stash next pieces := by
  induction front with
  | nil => rfl
  | cons c front ih => simp [stash, ih]

/-- The formulas of one kind guarded. -/
def guardKind (guarded : Guarded) (scan : Scanner Text) : Guarded :=
  { text := stash guarded.spans.length (Scanner.pieces scan guarded.text)
    spans := guarded.spans ++ Scanner.findAll scan guarded.text }

/-- Every formula of a text guarded. -/
def guard (t : Text) : Guarded := delimiters.foldl guardKind ⟨t, []⟩

/-- The formulas put back, the first of them numbered `next`: each in the place of the
first occurrence of its token. -/
def restoreFrom : (next : Nat) → (spans : List Text) → Text → Text
  | _, [], t => t
  | next, span :: spans, t => restoreFrom (next + 1) spans (replaceFirst (token next) span t)

/-- The formulas put back. -/
def restore (spans : List Text) (t : Text) : Text := restoreFrom 0 spans t

end PaperHtml.Math
