import PaperHtml.Html.Printer
import PaperHtml.Latex.Group

/-!
# Formulas as markup

Simple formulas are converted to MathML: letters, numbers, operators, Greek
letters, sub- and superscripts, fractions and roots.

## Strategy

A formula is read into a tree of atoms, and the tree is written.  Reading takes
one unit at a time: an atom, a group or a command with its arguments, and then
the scripts that follow it.
-/

namespace PaperHtml.Math

open Text

/-- A part of a formula. -/
inductive Atom where
  | identifier (name : Text)
  | number (digits : Text)
  | operator (sign : Text)
  | bracket (sign : Char)
  | row (parts : List Atom)
  | fraction (above below : Atom)
  | root (inner : Atom)
  | scripts (base : Atom) (below above : Option Atom)

/-! ## Reading -/

/-- The Greek letters by name. -/
def greekLetters : List (String × Char) :=
  [("alpha", 'α'), ("beta", 'β'), ("gamma", 'γ'), ("delta", 'δ'), ("epsilon", 'ϵ'),
    ("zeta", 'ζ'), ("eta", 'η'), ("theta", 'θ'), ("iota", 'ι'), ("kappa", 'κ'),
    ("lambda", 'λ'), ("mu", 'μ'), ("nu", 'ν'), ("xi", 'ξ'), ("pi", 'π'), ("rho", 'ρ'),
    ("sigma", 'σ'), ("tau", 'τ'), ("upsilon", 'υ'), ("phi", 'ϕ'), ("chi", 'χ'),
    ("psi", 'ψ'), ("omega", 'ω'), ("Gamma", 'Γ'), ("Delta", 'Δ'), ("Theta", 'Θ'),
    ("Lambda", 'Λ'), ("Xi", 'Ξ'), ("Pi", 'Π'), ("Sigma", 'Σ'), ("Phi", 'Φ'), ("Psi", 'Ψ'),
    ("Omega", 'Ω')]

/-- A single sign as an atom. -/
def signAtom (c : Char) : Atom :=
  if c.isAlpha then .identifier [c]
  else if c = '-' then .operator ['−']
  else if c = '(' ∨ c = ')' ∨ c = '[' ∨ c = ']' then .bracket c
  else .operator [c]

/-- What follows an atom: the scripts, which may come in either order. -/
def withScripts (base : Atom) (below above : Option Atom) : Atom :=
  if below.isNone && above.isNone then base else .scripts base below above

mutual

/-- A unit without its scripts, and what follows it. -/
def readUnit : (fuel : Nat) → Text → Option (Atom × Text)
  | 0, _ => none
  | _ + 1, [] => none
  | fuel + 1, c :: rest =>
    if isBlank c then readUnit fuel rest
    else if c.isDigit then
      let (digits, after) := (c :: rest).span fun d => d.isDigit || d == '.'
      some (.number digits, after)
    else if c = '{' then
      match Latex.group? (c :: rest) with
      | some (inner, after) => some (.row (readRow fuel inner), after)
      -- a brace that is never closed stands for itself
      | none => some (.operator [c], rest)
    else if c = '\\' then
      match rest.span Char.isAlpha with
      | ([], []) => some (.identifier ['\\'], [])
      | ([], d :: after) => some (.operator [d], after)
      | (name, after) => readCommand fuel (String.ofList name) after
    else some (signAtom c, rest)

/-- A command with its arguments, and what follows it. -/
def readCommand : (fuel : Nat) → String → Text → Option (Atom × Text)
  | 0, _, _ => none
  | fuel + 1, name, t =>
    if name = "frac" then
      (readUnit fuel t).bind fun (above, rest) =>
        (readUnit fuel rest).map fun (below, rest) => (.fraction above below, rest)
    else if name = "sqrt" then
      (readUnit fuel t).map fun (inner, rest) => (.root inner, rest)
    else
      match greekLetters.lookup name with
      | some letter => some (.identifier [letter], t)
      | none => some (.identifier ('\\' :: name.toList), t)

/-- The scripts behind a unit, and what follows them. -/
def readScripts : (fuel : Nat) → (below above : Option Atom) → Text →
    Option Atom × Option Atom × Text
  | 0, below, above, t => (below, above, t)
  | fuel + 1, below, above, t =>
    -- the sign of a second script of one kind is left to the row, where it stands for itself
    match trimStart t with
    | '_' :: rest =>
      match below, readUnit fuel rest with
      | none, some (atom, rest) => readScripts fuel (some atom) above rest
      | _, _ => (below, above, t)
    | '^' :: rest =>
      match above, readUnit fuel rest with
      | none, some (atom, rest) => readScripts fuel below (some atom) rest
      | _, _ => (below, above, t)
    | _ => (below, above, t)

/-- The units of a formula, each with its scripts. -/
def readRow : (fuel : Nat) → Text → List Atom
  | 0, _ => []
  | fuel + 1, t =>
    match readUnit fuel t with
    | none => []
    | some (base, rest) =>
      let (below, above, rest) := readScripts fuel none none rest
      withScripts base below above :: readRow fuel rest

end

/-- The parts of a formula. -/
def readFormula (t : Text) : List Atom := readRow (4 * t.length + 4) t

/-! ## Writing -/

/-- A text in an element. -/
def wrap (name : String) (content : Text) : Text :=
  '<' :: name.toList ++ '>' :: content ++ '<' :: '/' :: name.toList ++ ['>']

mutual

/-- An atom as markup. -/
def Atom.markup : Atom → Text
  | .identifier name => wrap "mi" (Html.escapeMarkup name)
  | .number digits => wrap "mn" digits
  | .operator sign => wrap "mo" (Html.escapeMarkup sign)
  | .bracket sign => "<mo stretchy=\"false\">".toList ++ sign :: "</mo>".toList
  | .row parts => wrap "mrow" (Atom.markups parts)
  | .fraction above below => wrap "mfrac" (above.markup ++ below.markup)
  | .root inner => wrap "msqrt" inner.markup
  | .scripts base none none => base.markup
  | .scripts base (some below) none => wrap "msub" (base.markup ++ below.markup)
  | .scripts base none (some above) => wrap "msup" (base.markup ++ above.markup)
  | .scripts base (some below) (some above) =>
    wrap "msubsup" (base.markup ++ below.markup ++ above.markup)

/-- Several atoms as markup. -/
def Atom.markups : List Atom → Text
  | [] => []
  | atom :: rest => atom.markup ++ Atom.markups rest

end

/-- A formula as MathML. -/
def toMathml (display : Bool) (formula : Text) : Text :=
  "<math xmlns=\"http://www.w3.org/1998/Math/MathML\" display=\"".toList ++
    (if display then "block" else "inline").toList ++ "\">".toList ++
    wrap "mrow" (Atom.markups (readFormula formula)) ++ "</math>".toList

end PaperHtml.Math
