import PaperHtml.Proofs.Math.Substituting
import PaperHtml.Proofs.Text.Interleaving

/-!
# Formulas side by side

What guarding makes of a text can be said exactly if its formulas stand side by
side: pieces of prose alternate with formulas that hold no delimiters of others
(`SideBySide`).  Then every formula is taken with its own delimiters, the spans
are the displayed formulas, those in brackets and those of a line, each kind in
its order (`SideBySide.guard_eq`), and they are put back between any pieces
(`SideBySide.restore_eq`).

## Strategy

There is a turn for each kind.  Before it, the kinds whose turn is over show as
tokens and the others are written out (`shownAt`).  A pass goes by the pieces, the
tokens and the kinds whose turn comes later, for a reason of each kind of its own,
and takes the formulas of its kind (`SideBySide.takes`).

```text
            turn of $$         turn of \[ \]          turn of $
piece       no dollar          no \[, none behind     no dollar
$$ $$       taken              a token                a token
\[ \]       no dollar          taken                  a token
$ $         no pair, none      no \[, and a dollar    taken
            behind             at the end
```

The numbers of a kind go up by one from formula to formula (`numbering`); they
begin where those of the kinds before it end.
-/

namespace PaperHtml.Math

open Text TextPart

/-! ## The kinds of formulas -/

/-- The kinds of formulas, by their delimiters. -/
inductive FormulaKind where
  /-- Between pairs of dollars. -/
  | display
  /-- Between brackets with a backslash. -/
  | brackets
  /-- Between single dollars of one line. -/
  | inline
  deriving DecidableEq

namespace FormulaKind

/-- The delimiter in front of a formula. -/
def opening : FormulaKind → Text
  | display => ['$', '$']
  | brackets => ['\\', '[']
  | inline => ['$']

/-- The delimiter behind a formula. -/
def closing : FormulaKind → Text
  | display => ['$', '$']
  | brackets => ['\\', ']']
  | inline => ['$']

/-- A formula in its delimiters. -/
def enclose (kind : FormulaKind) (inner : Text) : Text := kind.opening ++ (inner ++ kind.closing)

/-- The pass that takes the formulas of a kind. -/
def scan : FormulaKind → Scanner Text
  | display => delimited ['$', '$'] ['$', '$']
  | brackets => delimited ['\\', '['] ['\\', ']']
  | inline => inlineDollars

/-- The turn of a kind. -/
def turn : FormulaKind → Nat
  | display => 0
  | brackets => 1
  | inline => 2

/-- A formula of a kind that is taken with its own delimiters. -/
def Fits : FormulaKind → Text → Prop
  | display, inner => '$' ∉ inner
  | brackets, inner => '$' ∉ inner ∧ ¬ ['\\', ']'] <:+: inner
  | inline, inner => inner ≠ [] ∧ '$' ∉ inner ∧ '\n' ∉ inner ∧ ¬ ['\\', '['] <:+: inner

instance : (kind : FormulaKind) → (inner : Text) → Decidable (kind.Fits inner)
  | display, _ => inferInstanceAs (Decidable (_ ∉ _))
  | brackets, _ => inferInstanceAs (Decidable (_ ∧ _))
  | inline, _ => inferInstanceAs (Decidable (_ ∧ _ ∧ _ ∧ _))

theorem turn_injective : Function.Injective turn := by
  intro kind other h
  cases kind <;> cases other <;> first | rfl | exact absurd h (by decide)

theorem turn_lt_three (kind : FormulaKind) : kind.turn < 3 := by
  cases kind <;> decide

theorem enclose_ne_nil (kind : FormulaKind) (inner : Text) : kind.enclose inner ≠ [] := by
  cases kind <;> exact List.cons_ne_nil _ _

theorem bracketed_scan (kind : FormulaKind) : Bracketed kind.scan := by
  apply bracketed_of_mem_delimiters
  cases kind <;> simp [delimiters, scan]

end FormulaKind

/-! ## Formulas between pieces -/

/-- Formulas in their delimiters. -/
def enclosed (kinds : List FormulaKind) (inners : List Text) : List Text :=
  List.zipWith FormulaKind.enclose kinds inners

/-- A piece of text that holds no beginning of a formula. -/
structure IsPiece (t : Text) : Prop where
  dollar_not_mem : '$' ∉ t
  brackets_absent : ¬ ['\\', '['] <:+: t

instance (t : Text) : Decidable (IsPiece t) :=
  decidable_of_iff ('$' ∉ t ∧ ¬ ['\\', '['] <:+: t)
    ⟨fun h => ⟨h.1, h.2⟩, fun h => ⟨h.dollar_not_mem, h.brackets_absent⟩⟩

/-- Formulas between pieces, where something stands between a formula with single dollars and the
formula behind it. -/
inductive SideBySide : (first : Text) → List FormulaKind → (inners behind : List Text) → Prop
  | nil {first : Text} (hfirst : IsPiece first) : SideBySide first [] [] []
  | cons {first inner piece : Text} {kind : FormulaKind} {kinds : List FormulaKind}
      {inners behind : List Text} (hfirst : IsPiece first) (hinner : kind.Fits inner)
      (hapart : kind = .inline → kinds ≠ [] → piece ≠ [])
      (hrest : SideBySide piece kinds inners behind) :
      SideBySide first (kind :: kinds) (inner :: inners) (piece :: behind)

variable {first : Text} {kinds : List FormulaKind} {inners behind : List Text}

namespace SideBySide

theorem length_inners (h : SideBySide first kinds inners behind) :
    inners.length = kinds.length := by
  induction h with
  | nil => rfl
  | cons hfirst hinner hapart hrest ih => exact congrArg Nat.succ ih

theorem length_behind (h : SideBySide first kinds inners behind) :
    behind.length = kinds.length := by
  induction h with
  | nil => rfl
  | cons hfirst hinner hapart hrest ih => exact congrArg Nat.succ ih

end SideBySide

/-! ## What a pass goes by -/

/-- What begins with a character that is not in the text begins nowhere in it. -/
theorem goesBy_delimited_of_not_mem {c : Char} {t : Text} (ht : c ∉ t)
    (opening closing rest : Text) : Scanner.GoesBy (delimited (c :: opening) closing) t rest := by
  intro back hback hne
  obtain ⟨d, back, rfl⟩ := List.exists_cons_of_ne_nil hne
  rw [delimited, Option.bind_eq_none_iff]
  intro after hafter
  have hfront : c = d := (List.cons.inj (dropPrefix?_eq_some_iff.mp hafter)).1.symm
  exact absurd (hback.subset (List.mem_cons_self ..)) (hfront ▸ ht)

/-- What begins with two characters begins nowhere in a text in which they do not stand, if the
second one does not follow. -/
theorem goesBy_delimited_of_absent {c d : Char} {t rest : Text} (ht : ¬ [c, d] <:+: t)
    (hrest : ¬ [d] <+: rest) (closing : Text) :
    Scanner.GoesBy (delimited [c, d] closing) t rest := by
  intro back hback hne
  obtain ⟨b, back, rfl⟩ := List.exists_cons_of_ne_nil hne
  rw [delimited, Option.bind_eq_none_iff]
  intro after hafter
  obtain ⟨rfl, htail⟩ := List.cons.inj (dropPrefix?_eq_some_iff.mp hafter)
  cases back with
  | nil => exact absurd ⟨after, htail.symm⟩ hrest
  | cons e back =>
      obtain ⟨rfl, -⟩ := List.cons.inj htail
      exact absurd ((List.prefix_append [b, e] back).isInfix.trans hback.isInfix) ht

theorem goesBy_inlineDollars {t : Text} (ht : '$' ∉ t) (rest : Text) :
    Scanner.GoesBy inlineDollars t rest := by
  intro back hback hne
  obtain ⟨c, back, rfl⟩ := List.exists_cons_of_ne_nil hne
  exact inlineDollars_eq_none (ne_of_mem_of_not_mem (hback.subset (List.mem_cons_self ..)) ht) _

namespace FormulaKind

/-- A pass goes by a piece of text, unless a bracket follows that a backslash at its end would make
a delimiter of. -/
theorem goesBy_piece (kind : FormulaKind) {t rest : Text} (ht : IsPiece t)
    (hrest : ¬ ['['] <+: rest) : Scanner.GoesBy kind.scan t rest := by
  cases kind with
  | display => exact goesBy_delimited_of_not_mem ht.dollar_not_mem _ _ _
  | brackets => exact goesBy_delimited_of_absent ht.brackets_absent hrest _
  | inline => exact goesBy_inlineDollars ht.dollar_not_mem _

/-- A pass goes by a token. -/
theorem goesBy_token (kind : FormulaKind) (number : Nat) (rest : Text) :
    Scanner.GoesBy kind.scan (token number) rest := by
  intro back hback hne
  obtain ⟨c, back, rfl⟩ := List.exists_cons_of_ne_nil hne
  exact kind.bracketed_scan.eq_none
    (isTokenChar_of_mem_token (hback.subset (List.mem_cons_self ..))) _

/-- A pass goes by a formula whose turn comes later. -/
theorem goesBy_enclose {kind other : FormulaKind} (hturn : kind.turn < other.turn)
    {inner rest : Text} (hinner : other.Fits inner) (hrest : other = inline → ¬ ['$'] <+: rest) :
    Scanner.GoesBy kind.scan (other.enclose inner) rest := by
  cases other with
  | display => exact absurd hturn (Nat.not_lt_zero _)
  | brackets =>
      have hkind : kind = display := by
        cases kind with
        | display => rfl
        | brackets => exact absurd hturn (by decide)
        | inline => exact absurd hturn (by decide)
      have hdollar : '$' ∉ brackets.enclose inner := by
        simpa [enclose, opening, closing] using hinner.1
      rw [hkind]
      exact goesBy_delimited_of_not_mem hdollar _ _ _
  | inline =>
      obtain ⟨hne, hdollar, -, hbrackets⟩ := hinner
      cases kind with
      | display =>
          -- each of the two dollars has another character behind it
          have hopening : ¬ ['$'] <+: inner ++ (['$'] ++ rest) := by
            obtain ⟨c, inner, rfl⟩ := List.exists_cons_of_ne_nil hne
            rw [List.cons_append, List.cons_prefix_cons]
            exact fun h => hdollar (h.1 ▸ List.mem_cons_self ..)
          have hlone : ¬ ['$', '$'] <:+: ['$'] := by decide
          refine Scanner.GoesBy.append ?_ (Scanner.GoesBy.append ?_ ?_)
          · rw [List.append_assoc]
            exact goesBy_delimited_of_absent hlone hopening _
          · exact goesBy_delimited_of_not_mem hdollar _ _ _
          · exact goesBy_delimited_of_absent hlone (hrest rfl) _
      | brackets =>
          refine Scanner.GoesBy.append ?_ (Scanner.GoesBy.append ?_ ?_)
          · exact goesBy_delimited_of_not_mem (by decide) _ _ _
          · exact goesBy_delimited_of_absent hbrackets (by simp [closing]) _
          · exact goesBy_delimited_of_not_mem (by decide) _ _ _
      | inline => exact absurd hturn (lt_irrefl _)

/-- A pass takes a formula of its kind. -/
theorem scan_enclose {kind : FormulaKind} {inner : Text} (hinner : kind.Fits inner) (rest : Text) :
    kind.scan (kind.enclose inner ++ rest) = some (kind.enclose inner, rest) := by
  cases kind with
  | display =>
      have hcut : cut? ['$', '$'] (inner ++ (['$', '$'] ++ rest)) = some (inner, rest) := by
        have hhere : cut? ['$', '$'] (['$', '$'] ++ rest) = some ([], rest) := rfl
        rw [cut?_append_of_not_mem hinner, hhere, Option.map_some, List.append_nil]
      simp only [scan, enclose, opening, closing, List.append_assoc]
      rw [delimited, dropPrefix?_append, Option.bind_some, hcut, Option.map_some,
        List.append_assoc]
  | brackets =>
      have hcut : cut? ['\\', ']'] (inner ++ (['\\', ']'] ++ rest)) = some (inner, rest) :=
        (cut?_eq_some_iff (by decide)).mpr ⟨(List.append_assoc ..).symm, hinner.2⟩
      simp only [scan, enclose, opening, closing, List.append_assoc]
      rw [delimited, dropPrefix?_append, Option.bind_some, hcut, Option.map_some,
        List.append_assoc]
  | inline =>
      obtain ⟨-, hdollar, hfeed, -⟩ := hinner
      have hfound := inlineDollars_append hdollar hfeed rest
      simpa [scan, enclose, opening, closing] using hfound

end FormulaKind

/-! ## One pass -/

/-- A pass that numbers formulas from `next` on makes `out` of a text and takes `spans` out of
it. -/
structure Takes (scan : Scanner Text) (next : Nat) (t out : Text) (spans : List Text) : Prop where
  text_eq : stash next (Scanner.pieces scan t) = out
  spans_eq : Scanner.findAll scan t = spans

theorem takes_nil (scan : Scanner Text) (next : Nat) : Takes scan next [] [] [] := ⟨rfl, rfl⟩

theorem Takes.append_of_goesBy {scan : Scanner Text} {next : Nat} {front t out : Text}
    {spans : List Text} (h : Takes scan next t out spans) (hfront : Scanner.GoesBy scan front t) :
    Takes scan next (front ++ t) (front ++ out) spans := by
  have hpieces := Scanner.pieces_append_of_passed hfront
  refine ⟨?_, ?_⟩
  · rw [hpieces, stash_map_plain_append, h.text_eq]
  · rw [Scanner.findAll, hpieces, List.filterMap_append, ← h.spans_eq]
    simp [Scanner.findAll, List.filterMap_map]

theorem Takes.append_of_some {scan : Scanner Text} {next : Nat} {formula t out : Text}
    {spans : List Text} (h : Takes scan (next + 1) t out spans) (hne : formula ≠ [])
    (hfound : scan (formula ++ t) = some (formula, t)) :
    Takes scan next (formula ++ t) (token next ++ out) (formula :: spans) := by
  obtain ⟨c, formula, rfl⟩ := List.exists_cons_of_ne_nil hne
  refine ⟨?_, ?_⟩
  · rw [Scanner.pieces_of_some hfound, stash, h.text_eq]
  · rw [Scanner.findAll_of_some hfound, h.spans_eq]

/-- The numbers that the next formula of each kind is given, after one of a kind. -/
def bump (next : FormulaKind → Nat) (kind : FormulaKind) : FormulaKind → Nat :=
  Function.update next kind (next kind + 1)

/-- Formulas at the beginning of a turn: those of the kinds whose turn is over are tokens. -/
def shownAt (turn : Nat) : (next : FormulaKind → Nat) → List FormulaKind → (inners : List Text) →
    List Text
  | next, kind :: kinds, inner :: inners =>
    (if kind.turn < turn then token (next kind) else kind.enclose inner) ::
      shownAt turn (bump next kind) kinds inners
  | _, _, _ => []

/-- The formulas of one kind, in their delimiters. -/
def enclosedOf (kind : FormulaKind) : List FormulaKind → (inners : List Text) → List Text
  | other :: kinds, inner :: inners =>
    if other = kind then kind.enclose inner :: enclosedOf kind kinds inners
    else enclosedOf kind kinds inners
  | _, _ => []

/-- What follows a piece does not begin with a bracket. -/
private theorem not_bracket_prefix_shownAt (turn number : Nat) (kind : FormulaKind)
    (inner rest : Text) :
    ¬ ['['] <+: (if kind.turn < turn then token number else kind.enclose inner) ++ rest := by
  intro h
  split at h
  · rw [token_eq, List.cons_append, List.cons_prefix_cons] at h
    exact absurd h.1 (by decide)
  · cases kind with
    | display => exact absurd (List.cons_prefix_cons.mp h).1 (by decide)
    | brackets => exact absurd (List.cons_prefix_cons.mp h).1 (by decide)
    | inline => exact absurd (List.cons_prefix_cons.mp h).1 (by decide)

/-- No dollar follows a formula with single dollars. -/
private theorem not_dollar_prefix_interleave {piece : Text}
    (h : SideBySide piece kinds inners behind) (hapart : kinds ≠ [] → piece ≠ []) (turn : Nat)
    (next : FormulaKind → Nat) :
    ¬ ['$'] <+: interleave piece (shownAt turn next kinds inners) behind := by
  intro hdollar
  cases h with
  | nil hpiece =>
      exact hpiece.dollar_not_mem (hdollar.subset (List.mem_singleton_self _))
  | cons hpiece =>
      obtain ⟨c, piece, rfl⟩ := List.exists_cons_of_ne_nil (hapart (List.cons_ne_nil _ _))
      rw [shownAt, interleave_cons, List.cons_append, List.cons_prefix_cons] at hdollar
      exact hpiece.dollar_not_mem (hdollar.1 ▸ List.mem_cons_self ..)

/-- The pass of a kind takes the formulas of that kind out of a text and leaves everything else. -/
theorem SideBySide.takes (h : SideBySide first kinds inners behind) (kind : FormulaKind)
    (next : FormulaKind → Nat) :
    Takes kind.scan (next kind) (interleave first (shownAt kind.turn next kinds inners) behind)
      (interleave first (shownAt (kind.turn + 1) next kinds inners) behind)
      (enclosedOf kind kinds inners) := by
  induction h generalizing next with
  | @nil first hfirst =>
      have hgoesBy := @FormulaKind.goesBy_piece kind first [] hfirst (by simp)
      simpa [shownAt, enclosedOf] using (takes_nil kind.scan (next kind)).append_of_goesBy hgoesBy
  | @cons first inner piece other kinds inners behind hfirst hinner hapart hrest ih =>
      have hpiece (turn : Nat) (rest : Text) := kind.goesBy_piece hfirst
        (not_bracket_prefix_shownAt turn (next other) other inner rest)
      rw [shownAt, shownAt, interleave_cons, interleave_cons, enclosedOf]
      refine Takes.append_of_goesBy ?_ (hpiece _ _)
      have hmore := ih (bump next other)
      by_cases hother : other = kind
      · subst hother
        rw [if_neg (lt_irrefl _), if_pos (Nat.lt_succ_self _), if_pos rfl]
        rw [bump, Function.update_self] at hmore
        exact hmore.append_of_some (other.enclose_ne_nil inner)
          (FormulaKind.scan_enclose hinner _)
      · have hnumber : bump next other kind = next kind :=
          Function.update_of_ne (Ne.symm hother) _ _
        rw [hnumber] at hmore
        rw [if_neg hother]
        rcases Nat.lt_or_gt_of_ne fun heq => hother (FormulaKind.turn_injective heq) with hlt | hgt
        · rw [if_pos hlt, if_pos (hlt.trans (Nat.lt_succ_self _))]
          exact hmore.append_of_goesBy (kind.goesBy_token _ _)
        · rw [if_neg hgt.not_gt, if_neg (Nat.not_lt.mpr hgt)]
          refine hmore.append_of_goesBy (FormulaKind.goesBy_enclose hgt hinner fun hinline => ?_)
          exact not_dollar_prefix_interleave hrest (hapart hinline) _ _

/-! ## All passes -/

/-- The numbers of formulas in the order in which they stand; `next` is the number that the next
formula of each kind is given. -/
def numbering : (next : FormulaKind → Nat) → List FormulaKind → List Nat
  | _, [] => []
  | next, kind :: kinds => next kind :: numbering (bump next kind) kinds

/-- The first number of each kind. -/
def firstNumber (kinds : List FormulaKind) : FormulaKind → Nat
  | .display => 0
  | .brackets => kinds.count .display
  | .inline => kinds.count .display + kinds.count .brackets

/-- The tokens of formulas, in the order in which the formulas stand. -/
def tokens (kinds : List FormulaKind) : List Text :=
  (numbering (firstNumber kinds) kinds).map token

/-- The spans of formulas: the formulas of one kind after those of another. -/
def spansOf (kinds : List FormulaKind) (inners : List Text) : List Text :=
  enclosedOf .display kinds inners ++ enclosedOf .brackets kinds inners ++
    enclosedOf .inline kinds inners

@[simp] theorem length_numbering (next : FormulaKind → Nat) (kinds : List FormulaKind) :
    (numbering next kinds).length = kinds.length := by
  induction kinds generalizing next with
  | nil => rfl
  | cons kind kinds ih => simp [numbering, ih]

theorem length_enclosedOf (kind : FormulaKind) (h : inners.length = kinds.length) :
    (enclosedOf kind kinds inners).length = kinds.count kind := by
  induction kinds generalizing inners with
  | nil => rfl
  | cons other kinds ih =>
      obtain ⟨inner, inners, rfl⟩ := List.exists_cons_of_length_eq_add_one h
      have hrest := ih (Nat.succ.inj h)
      by_cases hother : other = kind
      · rw [enclosedOf, if_pos hother, List.length_cons, hrest, hother, List.count_cons_self]
      · rw [enclosedOf, if_neg hother, hrest, List.count_cons_of_ne hother]

/-- Before the first turn every formula is written out. -/
theorem shownAt_zero (next : FormulaKind → Nat) (kinds : List FormulaKind) (inners : List Text) :
    shownAt 0 next kinds inners = enclosed kinds inners := by
  induction kinds generalizing next inners with
  | nil => rfl
  | cons kind kinds ih =>
      cases inners with
      | nil => rfl
      | cons inner inners => rw [shownAt, if_neg (Nat.not_lt_zero _), ih, enclosed, enclosed,
          List.zipWith_cons_cons]

/-- After the last turn every formula is a token. -/
theorem shownAt_three (next : FormulaKind → Nat) (h : inners.length = kinds.length) :
    shownAt 3 next kinds inners = (numbering next kinds).map token := by
  induction kinds generalizing next inners with
  | nil => rfl
  | cons kind kinds ih =>
      obtain ⟨inner, inners, rfl⟩ := List.exists_cons_of_length_eq_add_one h
      rw [shownAt, if_pos kind.turn_lt_three, ih _ (Nat.succ.inj h), numbering, List.map_cons]

/-- A text at the beginning of a turn. -/
def textAt (turn : Nat) (first : Text) (kinds : List FormulaKind) (inners behind : List Text) :
    Text :=
  interleave first (shownAt turn (firstNumber kinds) kinds inners) behind

/-- A turn, after as many formulas as there are of the kinds before it. -/
theorem SideBySide.guardKind_eq (h : SideBySide first kinds inners behind) (kind : FormulaKind)
    (spans : List Text) (hspans : spans.length = firstNumber kinds kind) :
    guardKind ⟨textAt kind.turn first kinds inners behind, spans⟩ kind.scan =
      ⟨textAt (kind.turn + 1) first kinds inners behind, spans ++ enclosedOf kind kinds inners⟩ := by
  have htakes := h.takes kind (firstNumber kinds)
  rw [guardKind, textAt, textAt, hspans, htakes.text_eq, htakes.spans_eq]

/-- Formulas side by side are guarded by their tokens, and the spans are the formulas of one kind
after those of another. -/
theorem SideBySide.guard_eq (h : SideBySide first kinds inners behind) :
    guard (interleave first (enclosed kinds inners) behind) =
      ⟨interleave first (tokens kinds) behind, spansOf kinds inners⟩ := by
  have hlength (kind : FormulaKind) := length_enclosedOf kind h.length_inners
  have hnone : interleave first (enclosed kinds inners) behind =
      textAt 0 first kinds inners behind := by
    rw [textAt, shownAt_zero]
  have hall : textAt 3 first kinds inners behind = interleave first (tokens kinds) behind := by
    rw [textAt, shownAt_three _ h.length_inners, tokens]
  have hboth : (enclosedOf .display kinds inners ++ enclosedOf .brackets kinds inners).length =
      firstNumber kinds .inline := by
    rw [List.length_append, hlength, hlength, firstNumber]
  have hfirst := h.guardKind_eq .display [] rfl
  have hsecond := h.guardKind_eq .brackets _ (hlength .display)
  have hthird := h.guardKind_eq .inline _ hboth
  rw [hnone, ← hall]
  calc guard (textAt 0 first kinds inners behind)
      = guardKind (guardKind ⟨textAt 1 first kinds inners behind, enclosedOf .display kinds inners⟩
          FormulaKind.brackets.scan) FormulaKind.inline.scan :=
        congrArg (fun guarded => guardKind (guardKind guarded _) _) hfirst
    _ = guardKind ⟨textAt 2 first kinds inners behind,
          enclosedOf .display kinds inners ++ enclosedOf .brackets kinds inners⟩
          FormulaKind.inline.scan := congrArg (guardKind · _) hsecond
    _ = ⟨textAt 3 first kinds inners behind, spansOf kinds inners⟩ := hthird

/-! ## The formulas put back -/

/-- The numbers that the formulas of two kinds are given lie apart. -/
def Apart (next : FormulaKind → Nat) (kinds : List FormulaKind) : Prop :=
  ∀ kind other, kind ≠ other → next kind + kinds.count kind ≤ next other ∨
    next other + kinds.count other ≤ next kind

theorem apart_firstNumber (kinds : List FormulaKind) : Apart (firstNumber kinds) kinds := by
  intro kind other hne
  cases kind <;> cases other <;> simp [firstNumber] at hne ⊢

theorem Apart.of_cons {next : FormulaKind → Nat} {kind : FormulaKind}
    (h : Apart next (kind :: kinds)) : Apart (bump next kind) kinds := by
  have hcount (other : FormulaKind) :
      bump next kind other + kinds.count other = next other + (kind :: kinds).count other := by
    by_cases hother : other = kind
    · rw [hother, bump, Function.update_self, List.count_cons_self]
      omega
    · rw [bump, Function.update_of_ne hother, List.count_cons_of_ne (Ne.symm hother)]
  have hle (other : FormulaKind) : next other ≤ bump next kind other := by
    by_cases hother : other = kind
    · rw [hother, bump, Function.update_self]
      omega
    · rw [bump, Function.update_of_ne hother]
  intro one other hne
  rw [hcount, hcount]
  rcases h one other hne with hbelow | habove
  · exact .inl (hbelow.trans (hle other))
  · exact .inr (habove.trans (hle one))

theorem exists_of_mem_numbering {next : FormulaKind → Nat} {number : Nat}
    (h : number ∈ numbering next kinds) :
    ∃ kind, next kind ≤ number ∧ number < next kind + kinds.count kind := by
  induction kinds generalizing next with
  | nil => simp [numbering] at h
  | cons other kinds ih =>
      rcases List.mem_cons.mp h with rfl | hrest
      · exact ⟨other, le_rfl, by rw [List.count_cons_self]; omega⟩
      · obtain ⟨kind, hle, hlt⟩ := ih hrest
        refine ⟨kind, ?_⟩
        by_cases hkind : kind = other
        · subst hkind
          rw [bump, Function.update_self] at hle hlt
          rw [List.count_cons_self]
          omega
        · rw [bump, Function.update_of_ne hkind] at hle hlt
          rw [List.count_cons_of_ne (Ne.symm hkind)]
          exact ⟨hle, hlt⟩

/-- No number is given twice. -/
theorem nodup_numbering {next : FormulaKind → Nat} (h : Apart next kinds) :
    (numbering next kinds).Nodup := by
  induction kinds generalizing next with
  | nil => exact List.nodup_nil
  | cons kind kinds ih =>
      rw [numbering, List.nodup_cons]
      refine ⟨fun hmem => ?_, ih h.of_cons⟩
      obtain ⟨other, hle, hlt⟩ := exists_of_mem_numbering hmem
      by_cases hother : other = kind
      · rw [hother, bump, Function.update_self] at hle
        omega
      · rw [bump, Function.update_of_ne hother] at hle hlt
        have hapart := h other kind hother
        rw [List.count_cons_of_ne (Ne.symm hother), List.count_cons_self] at hapart
        omega

/-- Formulas are found by their numbers. -/
theorem map_numbering {next : FormulaKind → Nat} {spans : List Text}
    (hlength : inners.length = kinds.length)
    (hspans : ∀ kind, enclosedOf kind kinds inners <+: spans.drop (next kind)) :
    (numbering next kinds).map (fun number => spans[number]?.getD (token number)) =
      enclosed kinds inners := by
  induction kinds generalizing next inners with
  | nil => rfl
  | cons kind kinds ih =>
      obtain ⟨inner, inners, rfl⟩ := List.exists_cons_of_length_eq_add_one hlength
      have hhere := hspans kind
      rw [enclosedOf, if_pos rfl] at hhere
      obtain ⟨later, hlater⟩ := hhere
      rw [List.cons_append] at hlater
      have hfound : spans[next kind]? = some (kind.enclose inner) := by
        rw [← List.head?_drop, ← hlater, List.head?_cons]
      have hrest : (numbering (bump next kind) kinds).map
          (fun number => spans[number]?.getD (token number)) = enclosed kinds inners := by
        refine ih (Nat.succ.inj hlength) fun other => ?_
        by_cases hother : other = kind
        · rw [hother, bump, Function.update_self, ← List.tail_drop, ← hlater]
          exact List.prefix_append _ _
        · have hthere := hspans other
          rw [enclosedOf, if_neg (Ne.symm hother)] at hthere
          rwa [bump, Function.update_of_ne hother]
      rw [numbering, List.map_cons, hrest, hfound]
      rfl

theorem map_numbering_spansOf (h : inners.length = kinds.length) :
    (numbering (firstNumber kinds) kinds).map
        (fun number => (spansOf kinds inners)[number]?.getD (token number)) =
      enclosed kinds inners := by
  have hlength (kind : FormulaKind) := length_enclosedOf kind h
  refine map_numbering h fun kind => ?_
  cases kind with
  | display =>
      rw [firstNumber, List.drop_zero, spansOf, List.append_assoc]
      exact List.prefix_append _ _
  | brackets =>
      rw [firstNumber, spansOf, List.append_assoc, ← hlength, List.drop_left]
      exact List.prefix_append _ _
  | inline =>
      rw [firstNumber, spansOf, ← hlength, ← hlength, ← List.length_append, List.drop_left]

/-- Numbers with the pieces of text behind their tokens. -/
def slotsOf (numbers : List Nat) (behind : List Text) : List Slot :=
  (numbers.zip behind).map fun entry => ⟨entry.1, entry.2⟩

theorem map_number_slotsOf {numbers : List Nat} (h : behind.length = numbers.length) :
    (slotsOf numbers behind).map Slot.number = numbers := by
  rw [slotsOf, List.map_map]
  exact List.map_fst_zip h.ge

theorem mem_of_mem_slotsOf {numbers : List Nat} {slot : Slot} (h : slot ∈ slotsOf numbers behind) :
    slot.piece ∈ behind := by
  obtain ⟨⟨number, piece⟩, hmem, rfl⟩ := List.mem_map.mp h
  exact (List.of_mem_zip hmem).2

/-- Tokens between pieces, filled with spans. -/
theorem filled_slotsOf (spans : List Text) (first : Text) {numbers : List Nat}
    (h : behind.length = numbers.length) :
    filled spans first (slotsOf numbers behind) =
      interleave first (numbers.map fun number => spans[number]?.getD (token number)) behind := by
  induction numbers generalizing first behind with
  | nil =>
      obtain rfl : behind = [] := List.length_eq_zero_iff.mp h
      exact filled_nil spans first
  | cons number numbers ih =>
      obtain ⟨piece, behind, rfl⟩ := List.exists_cons_of_length_eq_add_one h
      have hrest := ih piece (Nat.succ.inj h)
      rw [List.map_cons, interleave_cons, ← hrest]
      simp [slotsOf, filled, Slot.filled]

/-- A text that is unmarked stays so between characters that stand in no token. -/
theorem unmarked_around {t before after : Text} (h : Unmarked t)
    (hbefore : ∀ c ∈ before, isTokenChar c = false) (hafter : ∀ c ∈ after, isTokenChar c = false) :
    Unmarked (before ++ (t ++ after)) := by
  have hword (c : Char) (hc : c ∈ tokenWord) : isTokenChar c = true := by
    simp [isTokenChar, hc]
  have hforeign {gap : Text} (hgap : ∀ c ∈ gap, isTokenChar c = false) :
      ∀ c ∈ gap, c ∉ tokenWord := by
    intro c hc hmem
    exact absurd (hgap c hc) (by simp [hword c hmem])
  have hne : tokenWord ≠ [] := by decide
  refine ⟨fun hat => ?_, fun hmark => ?_⟩
  · rw [List.mem_append, List.mem_append] at hat
    rcases hat with hat | hat | hat
    · exact absurd (hbefore _ hat) (by decide)
    · exact h.at_not_mem hat
    · exact absurd (hafter _ hat) (by decide)
  · have hinside := infix_of_infix_foreign_append hne (hforeign hbefore) hmark
    exact h.word_absent (infix_of_infix_append_foreign hne (hforeign hafter) hinside)

theorem unmarked_enclose (kind : FormulaKind) {inner : Text} (h : Unmarked inner) :
    Unmarked (kind.enclose inner) := by
  refine unmarked_around h ?_ ?_
  · cases kind <;> simp [FormulaKind.opening, isTokenChar, tokenWord]
  · cases kind <;> simp [FormulaKind.closing, isTokenChar, tokenWord]

theorem exists_of_mem_enclosedOf {kind : FormulaKind} {span : Text}
    (h : span ∈ enclosedOf kind kinds inners) : ∃ inner ∈ inners, span = kind.enclose inner := by
  induction kinds generalizing inners with
  | nil => simp [enclosedOf] at h
  | cons other kinds ih =>
      cases inners with
      | nil => simp [enclosedOf] at h
      | cons inner inners =>
          rw [enclosedOf] at h
          split at h
          · rcases List.mem_cons.mp h with rfl | hrest
            · exact ⟨inner, List.mem_cons_self .., rfl⟩
            · obtain ⟨found, hmem, hspan⟩ := ih hrest
              exact ⟨found, List.mem_cons_of_mem _ hmem, hspan⟩
          · obtain ⟨found, hmem, hspan⟩ := ih h
            exact ⟨found, List.mem_cons_of_mem _ hmem, hspan⟩

theorem unmarked_of_mem_spansOf (h : ∀ inner ∈ inners, Unmarked inner) {span : Text}
    (hspan : span ∈ spansOf kinds inners) : Unmarked span := by
  obtain ⟨kind, hkind⟩ : ∃ kind, span ∈ enclosedOf kind kinds inners := by
    rw [spansOf, List.mem_append, List.mem_append] at hspan
    rcases hspan with (hdisplay | hbrackets) | hinline
    · exact ⟨_, hdisplay⟩
    · exact ⟨_, hbrackets⟩
    · exact ⟨_, hinline⟩
  obtain ⟨inner, hinner, rfl⟩ := exists_of_mem_enclosedOf hkind
  exact unmarked_enclose kind (h inner hinner)

/-- The formulas of a text are put back between any pieces in which nothing looks like a token. -/
theorem SideBySide.restore_eq (h : SideBySide first kinds inners behind)
    (hinners : ∀ inner ∈ inners, Unmarked inner) {first' : Text} {behind' : List Text}
    (hfirst : Unmarked first') (hbehind : ∀ piece ∈ behind', Unmarked piece)
    (hlength : behind'.length = kinds.length) :
    restore (spansOf kinds inners) (interleave first' (tokens kinds) behind') =
      interleave first' (enclosed kinds inners) behind' := by
  let numbers := numbering (firstNumber kinds) kinds
  have hslots : behind'.length = numbers.length := by rw [hlength, length_numbering]
  have hsubstitutable : Substitutable (spansOf kinds inners) first' (slotsOf numbers behind') := by
    refine ⟨fun span => unmarked_of_mem_spansOf hinners, hfirst, ?_, ?_⟩
    · exact fun slot hslot => hbehind _ (mem_of_mem_slotsOf hslot)
    · rw [map_number_slotsOf hslots]
      exact nodup_numbering (apart_firstNumber kinds)
  have hforged : ∀ number < (spansOf kinds inners).length,
      ¬ Forges (spansOf kinds inners) (slotsOf numbers behind') number := by
    have hspans : (guard (interleave first (enclosed kinds inners) behind)).spans =
        spansOf kinds inners := congrArg Guarded.spans h.guard_eq
    rw [← hspans]
    exact fun number hlt => not_forges_of_guard _ _ hlt
  have hrestored := restoreFrom_filled hsubstitutable hforged 0
  rw [List.drop_zero, List.take_zero, filled_slotsOf [] first' hslots,
    filled_slotsOf (spansOf kinds inners) first' hslots,
    map_numbering_spansOf h.length_inners] at hrestored
  exact hrestored

end PaperHtml.Math
