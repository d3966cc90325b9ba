import Mathlib
import PaperHtml.Math.Typeset
import PaperHtml.Proofs.Html.Selecting
import PaperHtml.Proofs.Math.Unguarded
import PaperHtml.Proofs.Text.Seams

/-!
# What becomes of the texts of a page

Setting the formulas of a page loses nothing.  A plain text in which formulas
are set becomes stretches of text with converted formulas between them, and with
the source of each formula in place of its markup the stretches are the text
again.  A formula that cannot be converted is a part of the stretch in which it
stands, and is reported once.  Everything else on the page stays as it is, and so
does everything from the text on in which the markup of a formula is rejected.

## Strategy

A scan cuts a text into characters and formulas, and what it recognises is what
it cuts off (`written_pieces`), so nothing is lost by the scan.  Setting goes
through these pieces and keeps the stretch that has begun: the pieces of that
stretch are what the induction is generalised over (`exists_setPieces`).  The tree
follows the constructors of its nodes (`Settled`).
-/

namespace PaperHtml.Math

open Text Html Html.Node

/-! ## A text cut at its formulas -/

/-- The source of a piece of text. -/
def pieceSource : Piece Span → Text
  | .plain c => [c]
  | .hit span => span.source

/-- The text of several pieces. -/
def written (pieces : List (Piece Span)) : Text := pieces.flatMap pieceSource

@[simp] theorem written_nil : written [] = [] := rfl

@[simp] theorem written_cons (piece : Piece Span) (pieces : List (Piece Span)) :
    written (piece :: pieces) = pieceSource piece ++ written pieces := rfl

@[simp] theorem written_append (before after : List (Piece Span)) :
    written (before ++ after) = written before ++ written after := List.flatMap_append

section Kinds

variable {display : Bool} {opening closing t after : Text} {span : Span}

/-- A formula between delimiters ends at the first closing one behind its first character. -/
theorem delimitedSpan_eq_some_iff :
    delimitedSpan display opening closing t = some (span, after) ↔
      ∃ c inner, t = opening ++ c :: (inner ++ (closing ++ after)) ∧
        cut? closing (inner ++ (closing ++ after)) = some (inner, after) ∧
        span = ⟨opening ++ c :: inner ++ closing, trim (c :: inner), display⟩ := by
  constructor
  · intro h
    unfold delimitedSpan at h
    split at h
    · rename_i c rest hdrop
      obtain ⟨⟨inner, behind⟩, hcut, heq⟩ := Option.map_eq_some_iff.mp h
      obtain ⟨rfl, rfl⟩ := Prod.mk.inj heq
      obtain rfl := (cut?_eq_some hcut).trans (List.append_assoc ..)
      exact ⟨c, inner, dropPrefix?_eq_some_iff.mp hdrop, hcut, rfl⟩
    · simp at h
  · rintro ⟨c, inner, rfl, hcut, rfl⟩
    simp only [delimitedSpan, dropPrefix?_append, hcut, Option.map_some]

/-- A formula of a line is not empty and ends at the next dollar. -/
theorem inlineSpan_eq_some_iff :
    inlineSpan t = some (span, after) ↔
      ∃ inner, inner ≠ [] ∧ '$' ∉ inner ∧ '\n' ∉ inner ∧ t = '$' :: (inner ++ '$' :: after) ∧
        span = ⟨'$' :: inner ++ ['$'], trim inner, false⟩ := by
  constructor
  · intro h
    unfold inlineSpan at h
    split at h
    · rename_i rest
      dsimp only at h
      split at h
      · rename_i c inner behind hinner hbehind
        obtain ⟨rfl, rfl⟩ := Prod.mk.inj (Option.some.inj h)
        have hmem : ∀ d ∈ rest.takeWhile fun d => decide (d ≠ '$' ∧ d ≠ '\n'),
            d ≠ '$' ∧ d ≠ '\n' := fun d hd => by simpa using List.mem_takeWhile_imp hd
        have hsplit := List.prefix_iff_eq_append.mp
          (List.takeWhile_prefix (l := rest) fun d => decide (d ≠ '$' ∧ d ≠ '\n'))
        rw [hbehind] at hsplit
        refine ⟨_, ?_, fun hd => (hmem _ hd).1 rfl, fun hd => (hmem _ hd).2 rfl,
          congrArg ('$' :: ·) hsplit.symm, rfl⟩
        rw [hinner]
        exact List.cons_ne_nil _ _
      · simp at h
    · simp at h
  · rintro ⟨inner, hne, hdollar, hfeed, rfl, rfl⟩
    obtain ⟨c, rest, rfl⟩ := List.exists_cons_of_ne_nil hne
    simp only [inlineSpan, takeWhile_inline hdollar hfeed, List.drop_left]

private theorem exists_of_delimitedSpan
    (h : delimitedSpan display opening closing t = some (span, after)) :
    span.source ≠ [] ∧ t = span.source ++ after := by
  obtain ⟨c, inner, rfl, -, rfl⟩ := delimitedSpan_eq_some_iff.mp h
  exact ⟨by simp, by simp⟩

private theorem exists_of_inlineSpan (h : inlineSpan t = some (span, after)) :
    span.source ≠ [] ∧ t = span.source ++ after := by
  obtain ⟨inner, -, -, -, rfl, rfl⟩ := inlineSpan_eq_some_iff.mp h
  exact ⟨by simp, by simp⟩

end Kinds

/-- A formula that is recognised is a beginning of the text, with its delimiters. -/
theorem exists_of_span? {t after : Text} {span : Span} (h : span? t = some (span, after)) :
    span.source ≠ [] ∧ t = span.source ++ after := by
  simp only [span?, Option.or_eq_some_iff] at h
  rcases h with h | ⟨-, h | ⟨-, h | ⟨-, h⟩⟩⟩
  · exact exists_of_delimitedSpan h
  · exact exists_of_delimitedSpan h
  · exact exists_of_delimitedSpan h
  · exact exists_of_inlineSpan h

/-- A text is what is written in its pieces. -/
theorem written_pieces (t : Text) : written (Scanner.pieces span? t) = t := by
  have hself : Scanner.substitute (Scanner.map Span.source span?) t = t := by
    refine Scanner.substitute_eq_self (fun u out after h => ?_) t
    obtain ⟨⟨span, rest⟩, hspan, heq⟩ := Option.map_eq_some_iff.mp h
    obtain ⟨rfl, rfl⟩ := Prod.mk.inj heq
    exact exists_of_span? hspan
  rw [Scanner.substitute, Scanner.pieces_map, List.flatMap_map] at hself
  conv_rhs => rw [← hself]
  refine List.flatMap_congr fun piece _ => ?_
  cases piece <;> rfl

/-! ## A text with its formulas set -/

/-- A formula that has been set: its source, its markup with the nodes of it, and the pieces of
the text behind it. -/
structure SetFormula where
  span : Span
  markup : Text
  inner : List Node
  behind : List (Piece Span)

namespace SetFormula

/-- The pieces that a formula and the text behind it come from. -/
def pieces (formula : SetFormula) : List (Piece Span) := .hit formula.span :: formula.behind

/-- The nodes of a formula and of the text behind it. -/
def nodes (formula : SetFormula) : List Node :=
  formula.inner ++ [.text .prose (written formula.behind)]

end SetFormula

/-- The converter fails on every formula among some pieces. -/
def Fails (convert : Converter) (pieces : List (Piece Span)) : Prop :=
  ∀ span, .hit span ∈ pieces → ∃ reason, convert span.display span.formula = .error reason

/-- The formulas of a text are set: the nodes are a first stretch of text and then formulas with
stretches of text behind them; the stretches hold the formulas that the converter fails on, where
they stand; and with the source of each formula in place of its markup all is the text again. -/
structure IsSet (convert : Converter) (t : Text) (first : List (Piece Span))
    (formulas : List SetFormula) (nodes : List Node) : Prop where
  nodes_eq : nodes = .text .prose (written first) :: formulas.flatMap SetFormula.nodes
  pieces_eq : first ++ formulas.flatMap SetFormula.pieces = Scanner.pieces span? t
  source_eq : written first ++
    formulas.flatMap (fun formula => formula.span.source ++ written formula.behind) = t
  fails : Fails convert first ∧ ∀ formula ∈ formulas, Fails convert formula.behind
  converts : ∀ formula ∈ formulas,
    convert formula.span.display formula.span.formula = .ok formula.markup ∧
      parse formula.markup = .ok formula.inner

/-- Whether the converter gives markup for a formula. -/
def isConverted (convert : Converter) (span : Span) : Bool :=
  (convert span.display span.formula).isOk

/-- The report on a formula, if the converter fails on it. -/
def failure? (convert : Converter) (span : Span) : Option Text :=
  match convert span.display span.formula with
  | .ok _ => none
  | .error reason => some (report span.formula reason)

/-- Why the markup for a formula is rejected, if it is. -/
def rejection? (convert : Converter) (span : Span) : Option Rejection :=
  match convert span.display span.formula with
  | .ok markup =>
    match parse markup with
    | .ok _ => none
    | .error why => some why
  | .error _ => none

/-- Whether no markup for a formula is rejected. -/
def isAccepted (convert : Converter) (span : Span) : Bool := (rejection? convert span).isNone

variable {convert : Converter}

theorem isAccepted_iff {span : Span} :
    isAccepted convert span = true ↔ rejection? convert span = none := Option.isNone_iff_eq_none

theorem findSome?_rejection?_eq_none_iff {formulas : List Span} :
    formulas.findSome? (rejection? convert) = none ↔
      ∀ span ∈ formulas, isAccepted convert span = true := by
  simp [List.findSome?_eq_none_iff, isAccepted_iff]

/-- Whether the converter fails on a formula, gives markup for it, or gives something that is
rejected: what becomes of the formula in each case. -/
theorem converted_cases (convert : Converter) (span : Span) :
    (∃ reason, convert span.display span.formula = .error reason ∧
      rejection? convert span = none ∧ isConverted convert span = false ∧
      failure? convert span = some (report span.formula reason)) ∨
    (∃ markup nodes, convert span.display span.formula = .ok markup ∧ parse markup = .ok nodes ∧
      rejection? convert span = none ∧ isConverted convert span = true ∧
      failure? convert span = none) ∨
    ∃ markup why, convert span.display span.formula = .ok markup ∧ parse markup = .error why ∧
      rejection? convert span = some why := by
  unfold rejection? isConverted failure?
  cases hmarkup : convert span.display span.formula with
  | error reason => exact .inl ⟨reason, rfl, rfl, rfl, rfl⟩
  | ok markup =>
      cases hnodes : parse markup with
      | ok nodes => exact .inr (.inl ⟨markup, nodes, rfl, hnodes, by simp [hnodes], rfl, rfl⟩)
      | error why => exact .inr (.inr ⟨markup, why, rfl, hnodes, by simp [hnodes]⟩)

/-- The formulas among some pieces. -/
def hits (pieces : List (Piece Span)) : List Span :=
  pieces.filterMap fun
    | .plain _ => none
    | .hit span => some span

@[simp] theorem hits_hit_cons (span : Span) (pieces : List (Piece Span)) :
    hits (.hit span :: pieces) = span :: hits pieces := rfl

theorem hits_pieces (t : Text) : hits (Scanner.pieces span? t) = spans t := by
  rw [hits, spans, Scanner.findAll]
  refine List.filterMap_congr fun piece _ => ?_
  cases piece <;> rfl

theorem Fails.append_singleton {before : List (Piece Span)} {piece : Piece Span}
    (h : Fails convert before) (hpiece : Fails convert [piece]) :
    Fails convert (before ++ [piece]) := by
  intro span hspan
  rcases List.mem_append.mp hspan with hbefore | hhere
  · exact h span hbefore
  · exact hpiece span hhere

/-- Setting goes through the pieces of a text, as long as no markup is rejected; `before` are the
pieces of the stretch that has begun. -/
theorem exists_setPieces {before : List (Piece Span)} (hbefore : Fails convert before)
    {pieces : List (Piece Span)}
    (haccepted : ∀ span ∈ hits pieces, isAccepted convert span = true) :
    ∃ (first : List (Piece Span)) (formulas : List SetFormula),
      first ++ formulas.flatMap SetFormula.pieces = before ++ pieces ∧
      (setPieces convert (written before).reverse pieces).nodes =
        .text .prose (written first) :: formulas.flatMap SetFormula.nodes ∧
      (Fails convert first ∧ ∀ formula ∈ formulas, Fails convert formula.behind) ∧
      (∀ formula ∈ formulas,
        convert formula.span.display formula.span.formula = .ok formula.markup ∧
          parse formula.markup = .ok formula.inner) := by
  induction pieces generalizing before with
  | nil => exact ⟨before, [], rfl, by simp [setPieces], ⟨hbefore, by simp⟩, by simp⟩
  | cons piece rest ih =>
      have hjoin : before ++ piece :: rest = before ++ [piece] ++ rest := by simp
      cases piece with
      | plain c =>
          have hplain : Fails convert [.plain c] := fun span hspan => by simp at hspan
          have hstretch : (written (before ++ [.plain c])).reverse =
              c :: (written before).reverse := by
            simp [pieceSource]
          have hmore := ih (hbefore.append_singleton hplain) haccepted
          rw [hstretch, ← hjoin] at hmore
          exact hmore
      | hit span =>
          rw [hits_hit_cons, List.forall_mem_cons] at haccepted
          rw [setPieces]
          rcases converted_cases convert span with ⟨reason, hmarkup, -⟩ |
            ⟨markup, inner, hmarkup, hinner, -⟩ | ⟨markup, why, -, -, hrejected⟩
          · have hspan : Fails convert [.hit span] := by
              intro other hother
              obtain rfl : other = span := by simpa using hother
              exact ⟨reason, hmarkup⟩
            have hstretch : (written (before ++ [.hit span])).reverse =
                span.source.reverse ++ (written before).reverse := by
              simp [pieceSource]
            have hmore := ih (hbefore.append_singleton hspan) haccepted.2
            rw [hstretch, ← hjoin] at hmore
            simp only [hmarkup]
            exact hmore
          · have hnone : Fails convert [] := fun other hother => absurd hother List.not_mem_nil
            obtain ⟨first, formulas, hpieces, hnodes, ⟨hfirst, hbehind⟩, hconverts⟩ :=
              ih hnone haccepted.2
            rw [List.nil_append] at hpieces
            rw [written_nil, List.reverse_nil] at hnodes
            -- the stretch that has begun ends here, and the next one begins behind the formula
            refine ⟨before, ⟨span, markup, inner, first⟩ :: formulas, ?_, ?_, ⟨hbefore, ?_⟩, ?_⟩
            · rw [List.flatMap_cons, SetFormula.pieces, List.cons_append, hpieces]
            · simp [hmarkup, hinner, SetFormula.nodes, hnodes]
            · exact List.forall_mem_cons.mpr ⟨hfirst, hbehind⟩
            · exact List.forall_mem_cons.mpr ⟨⟨hmarkup, hinner⟩, hconverts⟩
          · rw [isAccepted_iff.mp haccepted.1] at hrejected
            cases hrejected

/-- Up to the first formula whose markup is rejected every formula is reported if it is not
converted; and if there is none, every formula counts that is. -/
theorem tally_setPieces (convert : Converter) (stretch : Text) (pieces : List (Piece Span)) :
    let set := setPieces convert stretch pieces
    set.rejected = (hits pieces).findSome? (rejection? convert) ∧
      set.reports =
        ((hits pieces).takeWhile (isAccepted convert)).filterMap (failure? convert) ∧
      (set.rejected = none → set.count = (hits pieces).countP (isConverted convert)) := by
  induction pieces generalizing stretch with
  | nil => exact ⟨rfl, rfl, fun _ => rfl⟩
  | cons piece rest ih =>
      cases piece with
      | plain c => exact ih (c :: stretch)
      | hit span =>
          rw [setPieces, hits_hit_cons]
          rcases converted_cases convert span with ⟨reason, hmarkup, hnone, hconverts, hfailure⟩ |
            ⟨markup, inner, hmarkup, hinner, hnone, hconverts, hfailure⟩ |
            ⟨markup, why, hmarkup, hinner, hrejected⟩
          · have haccepted := isAccepted_iff.mpr hnone
            obtain ⟨hrejected, hreports, hcount⟩ := ih (span.source.reverse ++ stretch)
            simp only [hmarkup, List.findSome?_cons, hnone, List.takeWhile_cons, haccepted, if_true,
              List.filterMap_cons, hfailure, List.countP_cons, hconverts]
            exact ⟨hrejected, by rw [hreports], hcount⟩
          · have haccepted := isAccepted_iff.mpr hnone
            obtain ⟨hrejected, hreports, hcount⟩ := ih []
            simp only [hmarkup, hinner, List.findSome?_cons, hnone, List.takeWhile_cons, haccepted,
              if_true, List.filterMap_cons, hfailure, List.countP_cons, hconverts]
            exact ⟨hrejected, hreports, fun hrest => by rw [hcount hrest]⟩
          · have haccepted : isAccepted convert span = false := by simp [isAccepted, hrejected]
            simp [hmarkup, hinner, hrejected, haccepted]

/-- Whether no markup for the formulas of a text is rejected. -/
def isSound (convert : Converter) (t : Text) : Bool := (spans t).all (isAccepted convert)

/-- What setting the formulas of some texts comes to: it breaks off at the first formula whose
markup is rejected; in front of it each formula is reported that is not converted; and in the texts
in front of the text with it each formula counts that is. -/
structure Tally (convert : Converter) (texts : List Text) (set : Typeset) : Prop where
  rejected : set.rejected = (texts.flatMap spans).findSome? (rejection? convert)
  reports : set.reports =
    ((texts.flatMap spans).takeWhile (isAccepted convert)).filterMap (failure? convert)
  count : set.count =
    ((texts.takeWhile (isSound convert)).flatMap spans).countP (isConverted convert)

theorem isSound_iff {t : Text} :
    isSound convert t = true ↔ (spans t).findSome? (rejection? convert) = none := by
  rw [isSound, List.all_eq_true, findSome?_rejection?_eq_none_iff]

private theorem isSome_rejected_setPieces {t : Text} (h : isSound convert t = false) :
    (setPieces convert [] (Scanner.pieces span? t)).rejected.isSome := by
  have hrejected := (tally_setPieces convert [] (Scanner.pieces span? t)).1
  rw [hits_pieces] at hrejected
  rw [hrejected, Option.isSome_iff_ne_none]
  exact fun hnone => Bool.false_ne_true (h.symm.trans (isSound_iff.mpr hnone))

theorem tally_setText (convert : Converter) (t : Text) : Tally convert [t] (setText convert t) := by
  obtain ⟨hrejected, hreports, hcount⟩ := tally_setPieces convert [] (Scanner.pieces span? t)
  rw [hits_pieces] at hrejected hreports hcount
  have hspans : [t].flatMap spans = spans t := List.flatMap_singleton ..
  cases hsound : isSound convert t with
  | true =>
      rw [isSound_iff.mp hsound] at hrejected
      have hall : ([t].takeWhile (isSound convert)).flatMap spans = spans t := by
        rw [List.takeWhile_cons_of_pos hsound, List.takeWhile_nil, hspans]
      have hcount := hcount hrejected
      have hset : Tally convert [t] (setPieces convert [] (Scanner.pieces span? t)) :=
        ⟨by rw [hspans, isSound_iff.mp hsound, hrejected], by rw [hspans, hreports],
          by rw [hall, hcount]⟩
      by_cases hzero : (setPieces convert [] (Scanner.pieces span? t)).count = 0
      · rw [setText, if_pos (.inl hzero)]
        exact ⟨hset.rejected, hset.reports, by rw [← hset.count, hzero]⟩
      · rw [setText, if_neg (by simp [hzero, hrejected])]
        exact hset
  | false =>
      have hzero : ([t].takeWhile (isSound convert)).flatMap spans = [] := by
        rw [List.takeWhile_cons_of_neg (by simp [hsound]), List.flatMap_nil]
      rw [setText, if_pos (.inr (isSome_rejected_setPieces hsound))]
      exact ⟨by rw [hspans, ← hrejected], by rw [hspans, ← hreports], by rw [hzero]; rfl⟩

/-- Setting the formulas of a text breaks off if markup in it is rejected. -/
theorem rejected_setText {t : Text} :
    (setText convert t).rejected = none ↔ isSound convert t = true := by
  rw [(tally_setText convert t).rejected, List.flatMap_singleton, isSound_iff]

/-- A text in which markup is rejected stays as it is. -/
theorem setText_nodes_of_rejected {t : Text} (h : isSound convert t = false) :
    (setText convert t).nodes = [.text .prose t] := by
  rw [setText, if_pos (.inr (isSome_rejected_setPieces h))]

/-- A text in which no formula is set has no other nodes than the text itself. -/
theorem IsSet.nodes_eq_of_count_eq_zero {t : Text} {first : List (Piece Span)}
    {formulas : List SetFormula} {nodes : List Node} (h : IsSet convert t first formulas nodes)
    (hcount : (spans t).countP (isConverted convert) = 0) : nodes = [.text .prose t] := by
  have hnone : formulas = [] := by
    cases formulas with
    | nil => rfl
    | cons formula formulas =>
        have hhit : .hit formula.span ∈ Scanner.pieces span? t := by
          rw [← h.pieces_eq]
          simp [SetFormula.pieces]
        have hmem : formula.span ∈ spans t := List.mem_filterMap.mpr ⟨_, hhit, rfl⟩
        have hconverts : isConverted convert formula.span = true := by
          rw [isConverted, (h.converts formula (List.mem_cons_self ..)).1]
          rfl
        exact absurd hconverts (List.countP_eq_zero.mp hcount _ hmem)
  have hsource := h.source_eq
  rw [h.nodes_eq, hnone]
  rw [hnone, List.flatMap_nil, List.append_nil] at hsource
  rw [hsource, List.flatMap_nil]

/-- The formulas of a text are set, if no markup in it is rejected. -/
theorem exists_isSet_setText {t : Text} (h : isSound convert t = true) :
    ∃ first formulas, IsSet convert t first formulas (setText convert t).nodes := by
  have hnone : Fails convert [] := fun other hother => absurd hother List.not_mem_nil
  have haccepted : ∀ span ∈ hits (Scanner.pieces span? t), isAccepted convert span = true := by
    rw [hits_pieces]
    exact List.all_eq_true.mp h
  obtain ⟨hrejected, -, hcount⟩ := tally_setPieces convert [] (Scanner.pieces span? t)
  rw [findSome?_rejection?_eq_none_iff.mpr haccepted] at hrejected
  obtain ⟨first, formulas, hpieces, hnodes, hfails, hconverts⟩ := exists_setPieces hnone haccepted
  rw [List.nil_append] at hpieces
  rw [written_nil, List.reverse_nil] at hnodes
  have hsource : written first ++
      formulas.flatMap (fun formula => formula.span.source ++ written formula.behind) = t := by
    conv_rhs => rw [← written_pieces t, ← hpieces, written_append]
    congr 1
    rw [written, List.flatMap_assoc]
    rfl
  have hset : IsSet convert t first formulas
      (setPieces convert [] (Scanner.pieces span? t)).nodes :=
    ⟨hnodes, hpieces, hsource, hfails, hconverts⟩
  refine ⟨first, formulas, ?_⟩
  by_cases hzero : (setPieces convert [] (Scanner.pieces span? t)).count = 0
  · rw [setText, if_pos (.inl hzero)]
    -- where nothing is set the text is left, and that is the one stretch that there is
    rw [hcount hrejected, hits_pieces] at hzero
    rw [← hset.nodes_eq_of_count_eq_zero hzero]
    exact hset
  · rw [setText, if_neg (by simp [hzero, hrejected])]
    exact hset

/-! ## The tree -/

/-- The formulas of a forest are set: a plain text without formulas and everything that is no
plain text stays as it is, and so does everything below an element that is passed over; a plain text
with formulas becomes a text with its formulas set.  If the forest is not set as a whole, there is
a text in which markup is rejected, and that text and all behind it stay as they are. -/
inductive Settled (convert : Converter) : (whole : Bool) → List Node → List Node → Prop
  | nil : Settled convert true [] []
  | plain {whole : Bool} {t : Text} {rest rest' : List Node} (hplain : spans t = [])
      (hrest : Settled convert whole rest rest') :
      Settled convert whole (.text .prose t :: rest) (.text .prose t :: rest')
  | formulas {whole : Bool} {t : Text} {first : List (Piece Span)} {formulas : List SetFormula}
      {nodes rest rest' : List Node} (hspans : spans t ≠ [])
      (hset : IsSet convert t first formulas nodes) (hrest : Settled convert whole rest rest') :
      Settled convert whole (.text .prose t :: rest) (nodes ++ rest')
  | rejected {t : Text} {rest : List Node}
      (hrejected : ∃ span ∈ spans t, isAccepted convert span = false) :
      Settled convert false (.text .prose t :: rest) (.text .prose t :: rest)
  | other {whole : Bool} {kind : TextKind} {t : Text} {rest rest' : List Node}
      (hkind : kind ≠ .prose) (hrest : Settled convert whole rest rest') :
      Settled convert whole (.text kind t :: rest) (.text kind t :: rest')
  | passedOver {whole : Bool} {tag : Tag} {children rest rest' : List Node}
      (htag : isPassedOver tag.name = true) (hrest : Settled convert whole rest rest') :
      Settled convert whole (.element tag children :: rest) (.element tag children :: rest')
  | inside {whole : Bool} {tag : Tag} {children children' rest rest' : List Node}
      (htag : isPassedOver tag.name = false) (hchildren : Settled convert true children children')
      (hrest : Settled convert whole rest rest') :
      Settled convert whole (.element tag children :: rest) (.element tag children' :: rest')
  | rejectedInside {tag : Tag} {children children' rest : List Node}
      (htag : isPassedOver tag.name = false)
      (hchildren : Settled convert false children children') :
      Settled convert false (.element tag children :: rest) (.element tag children' :: rest)

mutual

/-- The plain texts at or below a node, but for those below an element that is passed over. -/
def openTextsAt : Node → List Text
  | .text .prose t => [t]
  | .text _ _ => []
  | .element tag children => if isPassedOver tag.name then [] else openTexts children

/-- The same, at or below several nodes. -/
def openTexts : List Node → List Text
  | [] => []
  | node :: rest => openTextsAt node ++ openTexts rest

end

/-! ### Several nodes, one after another -/

/-- Where the first of several nodes is set as a whole, setting goes on behind it. -/
theorem setNodes_cons_of_whole {node : Node} (h : (setNode convert node).rejected = none)
    (rest : List Node) :
    setNodes convert (node :: rest) =
      { nodes := (setNode convert node).nodes ++ (setNodes convert rest).nodes
        count := (setNode convert node).count + (setNodes convert rest).count
        reports := (setNode convert node).reports ++ (setNodes convert rest).reports
        rejected := (setNodes convert rest).rejected } := by
  rw [setNodes]
  simp [h]

/-- Where it is not, all behind it stays. -/
theorem setNodes_cons_of_rejected {node : Node} {why : Rejection}
    (h : (setNode convert node).rejected = some why) (rest : List Node) :
    setNodes convert (node :: rest) =
      { setNode convert node with nodes := (setNode convert node).nodes ++ rest } := by
  rw [setNodes]
  simp [h]

/-- A node that is not set, and in which nothing is rejected. -/
theorem setNodes_cons_of_kept {node : Node} (h : setNode convert node = { nodes := [node] })
    (rest : List Node) :
    setNodes convert (node :: rest) =
      { setNodes convert rest with nodes := node :: (setNodes convert rest).nodes } := by
  rw [setNodes_cons_of_whole (by rw [h]), h]
  simp

theorem setNode_of_kind {kind : TextKind} (hkind : kind ≠ .prose) (t : Text) :
    setNode convert (.text kind t) = { nodes := [.text kind t] } :=
  setNode.eq_2 convert kind t fun hprose => hkind hprose

theorem setNode_of_isPassedOver {tag : Tag} (htag : isPassedOver tag.name = true)
    (children : List Node) :
    setNode convert (.element tag children) = { nodes := [.element tag children] } := by
  rw [setNode, if_pos htag]

theorem setNode_of_not_isPassedOver {tag : Tag} (htag : isPassedOver tag.name = false)
    (children : List Node) :
    setNode convert (.element tag children) =
      { setNodes convert children with
        nodes := [.element tag (setNodes convert children).nodes] } := by
  rw [setNode, if_neg (by simp [htag])]

/-- Setting the formulas of some nodes settles them, as a whole unless markup is rejected. -/
theorem settled_setNodes (convert : Converter) (nodes : List Node) :
    Settled convert (setNodes convert nodes).rejected.isNone nodes
      (setNodes convert nodes).nodes := by
  induction nodes using forest with
  | nil => exact .nil
  | text kind content rest ih =>
      by_cases hkind : kind = .prose
      · subst hkind
        have hhere : setNode convert (.text .prose content) = setText convert content := by
          rw [setNode]
        cases hsound : isSound convert content with
        | true =>
            rw [setNodes_cons_of_whole (by rw [hhere, rejected_setText, hsound]), hhere]
            obtain ⟨first, formulas, hset⟩ := exists_isSet_setText hsound
            by_cases hspans : spans content = []
            · rw [hset.nodes_eq_of_count_eq_zero (by rw [hspans]; rfl)]
              exact .plain hspans ih
            · exact .formulas hspans hset ih
        | false =>
            obtain ⟨why, hwhy⟩ : ∃ why, (setText convert content).rejected = some why := by
              rw [← Option.ne_none_iff_exists', ne_eq, rejected_setText, hsound]
              exact Bool.false_ne_true
            rw [setNodes_cons_of_rejected (by rw [hhere, hwhy]), hhere, hwhy,
              setText_nodes_of_rejected hsound]
            exact .rejected (by simpa [isSound] using hsound)
      · rw [setNodes_cons_of_kept (setNode_of_kind hkind content)]
        exact .other hkind ih
  | element tag children rest ihChildren ih =>
      cases htag : isPassedOver tag.name with
      | true =>
          rw [setNodes_cons_of_kept (setNode_of_isPassedOver htag children)]
          exact .passedOver htag ih
      | false =>
          have hhere := @setNode_of_not_isPassedOver convert _ htag children
          cases hrejected : (setNodes convert children).rejected with
          | none =>
              rw [hrejected] at ihChildren
              rw [setNodes_cons_of_whole (by rw [hhere, hrejected]), hhere]
              exact .inside htag ihChildren ih
          | some why =>
              rw [hrejected] at ihChildren
              rw [setNodes_cons_of_rejected (by rw [hhere, hrejected]), hhere, hrejected]
              exact .rejectedInside htag ihChildren

/-! ### Counting and reporting -/

theorem tally_nil {nodes : List Node} : Tally convert [] { nodes } := ⟨rfl, rfl, rfl⟩

private theorem takeWhile_append_of_exists {α : Type} {p : α → Bool} {before : List α}
    (h : ∃ a ∈ before, p a = false) (after : List α) :
    (before ++ after).takeWhile p = before.takeWhile p := by
  obtain ⟨a, ha, hp⟩ := h
  rw [List.takeWhile_append, if_neg]
  intro hlength
  have hall := List.takeWhile_eq_self_iff.mp ((List.takeWhile_prefix p).eq_of_length hlength)
  exact Bool.false_ne_true (hp.symm.trans (hall a ha))

/-- What is rejected in some texts is rejected in more of them. -/
theorem Tally.of_rejected {texts : List Text} {set : Typeset} (h : Tally convert texts set)
    {why : Rejection} (hrejected : set.rejected = some why) (more : List Text)
    (nodes : List Node) : Tally convert (texts ++ more) { set with nodes } := by
  have hsome := h.rejected.symm.trans hrejected
  obtain ⟨span, hspan, hwhy⟩ := List.exists_of_findSome?_eq_some hsome
  obtain ⟨t, ht, hmem⟩ := List.mem_flatMap.mp hspan
  have hspans : isAccepted convert span = false := by simp [isAccepted, hwhy]
  have hsound : isSound convert t = false :=
    List.all_eq_false.mpr ⟨span, hmem, by simp [hspans]⟩
  refine ⟨?_, ?_, ?_⟩
  · rw [List.flatMap_append, List.findSome?_append, hsome]
    exact hrejected
  · rw [List.flatMap_append, takeWhile_append_of_exists ⟨span, hspan, hspans⟩]
    exact h.reports
  · rw [takeWhile_append_of_exists ⟨t, ht, hsound⟩]
    exact h.count

theorem Tally.isAccepted {texts : List Text} {set : Typeset} (h : Tally convert texts set)
    (hrejected : set.rejected = none) :
    (∀ span ∈ texts.flatMap spans, isAccepted convert span = true) ∧
      ∀ t ∈ texts, isSound convert t = true := by
  have haccepted := findSome?_rejection?_eq_none_iff.mp (h.rejected.symm.trans hrejected)
  exact ⟨haccepted, fun t ht => List.all_eq_true.mpr fun span hspan =>
    haccepted span (List.mem_flatMap.mpr ⟨t, ht, hspan⟩)⟩

/-- Where nothing is rejected, all formulas are counted and reported. -/
theorem Tally.whole {texts : List Text} {set : Typeset} (h : Tally convert texts set)
    (hrejected : set.rejected = none) :
    set.count = (texts.flatMap spans).countP (isConverted convert) ∧
      set.reports = (texts.flatMap spans).filterMap (failure? convert) := by
  obtain ⟨haccepted, hsound⟩ := h.isAccepted hrejected
  refine ⟨?_, ?_⟩
  · rw [h.count, List.takeWhile_eq_self_iff.mpr hsound]
  · rw [h.reports, List.takeWhile_eq_self_iff.mpr haccepted]

/-- Where nothing is rejected in some texts, others are counted and reported with them. -/
theorem Tally.append {texts more : List Text} {set others : Typeset}
    (h : Tally convert texts set) (hrejected : set.rejected = none)
    (hmore : Tally convert more others) (nodes : List Node) :
    Tally convert (texts ++ more)
      ⟨nodes, set.count + others.count, set.reports ++ others.reports, others.rejected⟩ := by
  obtain ⟨haccepted, hsound⟩ := h.isAccepted hrejected
  obtain ⟨hcount, hreports⟩ := h.whole hrejected
  refine ⟨?_, ?_, ?_⟩
  · rw [List.flatMap_append, List.findSome?_append, ← h.rejected, hrejected]
    exact hmore.rejected
  · rw [List.flatMap_append, List.takeWhile_append_of_pos haccepted, List.filterMap_append,
      ← hreports, ← hmore.reports]
  · rw [List.takeWhile_append_of_pos hsound, List.flatMap_append, List.countP_append, ← hcount,
      ← hmore.count]

theorem tally_setNodes_cons {node : Node} (h : Tally convert (openTextsAt node) (setNode convert node))
    {rest : List Node} (hrest : Tally convert (openTexts rest) (setNodes convert rest)) :
    Tally convert (openTexts (node :: rest)) (setNodes convert (node :: rest)) := by
  rw [openTexts]
  cases hrejected : (setNode convert node).rejected with
  | none =>
      rw [setNodes_cons_of_whole hrejected]
      exact h.append hrejected hrest _
  | some why =>
      rw [setNodes_cons_of_rejected hrejected]
      exact h.of_rejected hrejected _ _

theorem tally_setNodes (convert : Converter) (nodes : List Node) :
    Tally convert (openTexts nodes) (setNodes convert nodes) := by
  induction nodes using forest with
  | nil => exact tally_nil
  | text kind content rest ih =>
      refine tally_setNodes_cons ?_ ih
      by_cases hkind : kind = .prose
      · subst hkind
        rw [setNode, openTextsAt]
        exact tally_setText convert content
      · rw [setNode_of_kind hkind, openTextsAt.eq_2 _ _ fun hprose => hkind hprose]
        exact tally_nil
  | element tag children rest ihChildren ih =>
      refine tally_setNodes_cons ?_ ih
      cases htag : isPassedOver tag.name with
      | true =>
          rw [setNode_of_isPassedOver htag, openTextsAt, if_pos htag]
          exact tally_nil
      | false =>
          rw [setNode_of_not_isPassedOver htag, openTextsAt, if_neg (by simp [htag])]
          exact ⟨ihChildren.rejected, ihChildren.reports, ihChildren.count⟩

/-- The plain texts below an element, unless it or one around it is passed over. -/
def openBelow (around : List Text) (nodes : List Node) : List Text :=
  if around.any isPassedOver then [] else openTexts nodes

/-- Setting the formulas below an element changes its plain texts with formulas alone, each into
stretches of text and converted formulas that make up the text if the sources are put back; and of
all its formulas each counts if it is converted, and is reported once if it is not.  Where the
markup for a formula is rejected, the setting breaks off: the text with that formula and all behind
it stay as they are, and no formula behind it is reported. -/
theorem setBelow_conserves (convert : Converter) (around : List Text) (nodes : List Node) :
    let set := setBelow convert around nodes
    let texts := openBelow around nodes
    let formulas := texts.flatMap spans
    set.rejected = formulas.findSome? (rejection? convert) ∧
      (if around.any isPassedOver then set.nodes = nodes
        else Settled convert set.rejected.isNone nodes set.nodes) ∧
      set.count = ((texts.takeWhile (isSound convert)).flatMap spans).countP (isConverted convert) ∧
      set.reports = (formulas.takeWhile (isAccepted convert)).filterMap (failure? convert) ∧
      (set.rejected = none →
        set.count = formulas.countP (isConverted convert) ∧
          set.reports = formulas.filterMap (failure? convert)) := by
  intro set texts formulas
  have htally : Tally convert texts set := by
    by_cases haround : around.any isPassedOver
    · have hset : set = { nodes } := if_pos haround
      have hnone : texts = [] := if_pos haround
      rw [hset, hnone]
      exact tally_nil
    · have hset : set = setNodes convert nodes := if_neg haround
      have hall : texts = openTexts nodes := if_neg haround
      rw [hset, hall]
      exact tally_setNodes convert nodes
  refine ⟨htally.rejected, ?_, htally.count, htally.reports, htally.whole⟩
  by_cases haround : around.any isPassedOver
  · have hset : set = { nodes } := if_pos haround
    rw [if_pos haround, hset]
  · have hset : set = setNodes convert nodes := if_neg haround
    rw [if_neg haround, hset]
    exact settled_setNodes convert nodes

end PaperHtml.Math
