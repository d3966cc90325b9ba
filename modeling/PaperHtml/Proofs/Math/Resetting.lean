import PaperHtml.Math.Markup
import PaperHtml.Proofs.Math.Recognition

/-!
# Setting the formulas of a page again

Setting the formulas of a page once is enough.  A second run converts nothing,
leaves every node as it is, and reports again what could not be converted
(`setBelow_again`), as long as the markup of a converted formula is made up of
elements in which no formula is set.

## Strategy

The first run cuts a text into stretches, and the question is whether a stretch
holds a formula that the scan of the whole text has not seen.  It does not: a
stretch is scanned as it is in the whole text (`pieces_written_stretch`), so the
formulas in it are those that the converter has failed on, and it fails on them
again (`setText_written`).  What the first run makes of a tree is the relation
`Settled`, and the second run follows it.
-/

namespace PaperHtml.Math

open Text Html Html.Node

variable {convert : Converter}

/-! ## Several nodes -/

/-- What stands behind nodes that are set as a whole is set after them. -/
theorem setNodes_append {nodes : List Node} (h : (setNodes convert nodes).rejected = none)
    (more : List Node) :
    setNodes convert (nodes ++ more) =
      { nodes := (setNodes convert nodes).nodes ++ (setNodes convert more).nodes
        count := (setNodes convert nodes).count + (setNodes convert more).count
        reports := (setNodes convert nodes).reports ++ (setNodes convert more).reports
        rejected := (setNodes convert more).rejected } := by
  induction nodes with
  | nil => simp [setNodes]
  | cons node nodes ih =>
      cases hnode : (setNode convert node).rejected with
      | some why =>
          rw [setNodes_cons_of_rejected hnode, hnode] at h
          cases h
      | none =>
          rw [setNodes_cons_of_whole hnode] at h
          rw [List.cons_append, setNodes_cons_of_whole hnode, setNodes_cons_of_whole hnode, ih h]
          simp [Nat.add_assoc]

/-- Setting the formulas of some nodes changes nothing and gives some reports. -/
def Stays (convert : Converter) (nodes : List Node) (reports : List Text) : Prop :=
  setNodes convert nodes = { nodes, reports }

theorem stays_nil : Stays convert [] [] := rfl

theorem Stays.append {nodes more : List Node} {reports others : List Text}
    (h : Stays convert nodes reports) (hmore : Stays convert more others) :
    Stays convert (nodes ++ more) (reports ++ others) := by
  rw [Stays, setNodes_append (by rw [h]), h, hmore]
  rfl

theorem Stays.cons {node : Node} {nodes : List Node} {reports others : List Text}
    (h : setNode convert node = { nodes := [node], reports }) (hnodes : Stays convert nodes others) :
    Stays convert (node :: nodes) (reports ++ others) := by
  rw [Stays, setNodes_cons_of_whole (by rw [h]), h, hnodes]
  rfl

/-! ## Stretches of text -/

@[simp] theorem hits_append (before after : List (Piece Span)) :
    hits (before ++ after) = hits before ++ hits after := List.filterMap_append

/-- The reports on the formulas that the converter fails on among some pieces. -/
def failures (convert : Converter) (pieces : List (Piece Span)) : List Text :=
  (hits pieces).filterMap (failure? convert)

theorem Fails.exists_reason {pieces : List (Piece Span)} (h : Fails convert pieces)
    {span : Span} (hspan : span ∈ hits pieces) :
    ∃ reason, convert span.display span.formula = .error reason := by
  obtain ⟨piece, hpiece, hvalue⟩ := List.mem_filterMap.mp hspan
  cases piece with
  | plain c => simp at hvalue
  | hit other =>
      obtain rfl : other = span := by simpa using hvalue
      exact h other hpiece

/-- A stretch with nothing but failed formulas in it stays, and they fail again. -/
theorem setText_written {stretch : List (Piece Span)} (hfails : Fails convert stretch)
    (hpieces : Scanner.pieces span? (written stretch) = stretch) :
    setText convert (written stretch) =
      { nodes := [.text .prose (written stretch)], reports := failures convert stretch } := by
  have hspans : spans (written stretch) = hits stretch := by
    rw [← hits_pieces, hpieces]
  have hsound : isSound convert (written stretch) = true := by
    rw [isSound, hspans, List.all_eq_true]
    intro span hspan
    obtain ⟨reason, hreason⟩ := hfails.exists_reason hspan
    simp [isAccepted, rejection?, hreason]
  have hnone : (spans (written stretch)).countP (isConverted convert) = 0 := by
    rw [hspans, List.countP_eq_zero]
    intro span hspan
    obtain ⟨reason, hreason⟩ := hfails.exists_reason hspan
    rw [isConverted, hreason]
    exact Bool.false_ne_true
  have hrejected := rejected_setText.mpr hsound
  obtain ⟨hcount, hreports⟩ := (tally_setText convert (written stretch)).whole hrejected
  obtain ⟨first, formulas, hset⟩ := exists_isSet_setText hsound
  have hnodes := hset.nodes_eq_of_count_eq_zero hnone
  rw [List.flatMap_singleton, hnone] at hcount
  rw [List.flatMap_singleton, hspans] at hreports
  cases hresult : setText convert (written stretch)
  simp only [hresult] at hnodes hcount hreports hrejected
  rw [hnodes, hcount, hreports, hrejected]
  rfl

theorem stays_stretch {stretch : List (Piece Span)} (hfails : Fails convert stretch)
    (hpieces : Scanner.pieces span? (written stretch) = stretch) :
    Stays convert [.text .prose (written stretch)] (failures convert stretch) := by
  have hhere : setNode convert (.text .prose (written stretch)) =
      { nodes := [.text .prose (written stretch)], reports := failures convert stretch } := by
    rw [setNode, setText_written hfails hpieces]
  simpa using Stays.cons hhere stays_nil

/-! ## Converted formulas -/

/-- Whether a node is an element of mathematics. -/
def isMath : Node → Bool
  | .element tag _ => tag.isNamed "math"
  | .text _ _ => false

/-- What a converter gives is read as elements of mathematics and nothing else. -/
def ConvertsToMath (convert : Converter) : Prop :=
  ∀ display formula markup, convert display formula = .ok markup →
    ∃ nodes, parse markup = .ok nodes ∧ ∀ node ∈ nodes, isMath node = true

theorem ConvertsToMath.isAccepted (h : ConvertsToMath convert) (span : Span) :
    isAccepted convert span = true := by
  rcases converted_cases convert span with ⟨reason, -, hnone, -⟩ | ⟨markup, nodes, -, -, hnone, -⟩ |
    ⟨markup, why, hmarkup, hrejected, -⟩
  · exact isAccepted_iff.mpr hnone
  · exact isAccepted_iff.mpr hnone
  · obtain ⟨nodes, hnodes, -⟩ := h _ _ _ hmarkup
    rw [hrejected] at hnodes
    cases hnodes

/-- Setting formulas with such a converter does not break off. -/
theorem ConvertsToMath.rejected_setNodes (h : ConvertsToMath convert) (nodes : List Node) :
    (setNodes convert nodes).rejected = none := by
  rw [(tally_setNodes convert nodes).rejected, findSome?_rejection?_eq_none_iff]
  exact fun span _ => h.isAccepted span

theorem ConvertsToMath.isSound (h : ConvertsToMath convert) (t : Text) :
    isSound convert t = true := List.all_eq_true.mpr fun span _ => h.isAccepted span

/-- Nor does it leave some nodes settled in part. -/
theorem ConvertsToMath.not_settled_false (h : ConvertsToMath convert) {nodes nodes' : List Node}
    (hsettled : Settled convert false nodes nodes') : False := by
  generalize hwhole : false = whole at hsettled
  induction hsettled with
  | nil => cases hwhole
  | plain _ _ ih => exact ih hwhole
  | formulas _ _ _ ih => exact ih hwhole
  | rejected hrejected =>
      obtain ⟨span, -, hspan⟩ := hrejected
      exact Bool.false_ne_true (hspan.symm.trans (h.isAccepted span))
  | other _ _ ih => exact ih hwhole
  | passedOver _ _ ih => exact ih hwhole
  | inside _ _ _ _ ih => exact ih hwhole
  | rejectedInside _ _ ih => exact ih rfl

theorem setNode_of_isMath {node : Node} (h : isMath node = true) :
    setNode convert node = { nodes := [node] } := by
  cases node with
  | text kind content => simp [isMath] at h
  | element tag children =>
      have htag : isPassedOver tag.name = true := by
        rw [beq_iff_eq.mp h]
        decide
      exact setNode_of_isPassedOver htag children

theorem stays_of_isMath {nodes : List Node} (h : ∀ node ∈ nodes, isMath node = true) :
    Stays convert nodes [] := by
  induction nodes with
  | nil => exact stays_nil
  | cons node nodes ih =>
      obtain ⟨hnode, hnodes⟩ := List.forall_mem_cons.mp h
      exact Stays.cons (setNode_of_isMath hnode) (ih hnodes)

/-- Formulas that have been set stay, with the stretches of text behind them. -/
theorem stays_formulas (hconvert : ConvertsToMath convert) {t : Text}
    {before : List (Piece Span)} {formulas : List SetFormula}
    (hpieces : before ++ formulas.flatMap SetFormula.pieces = Scanner.pieces span? t)
    (hfails : ∀ formula ∈ formulas, Fails convert formula.behind)
    (hconverts : ∀ formula ∈ formulas,
      convert formula.span.display formula.span.formula = .ok formula.markup ∧
        parse formula.markup = .ok formula.inner) :
    Stays convert (formulas.flatMap SetFormula.nodes)
      (failures convert (formulas.flatMap SetFormula.pieces)) := by
  induction formulas generalizing before with
  | nil => exact stays_nil
  | cons formula formulas ih =>
      obtain ⟨hfailsHere, hfails⟩ := List.forall_mem_cons.mp hfails
      obtain ⟨⟨hmarkup, hinner⟩, hconverts⟩ := List.forall_mem_cons.mp hconverts
      obtain ⟨nodes, hnodes, hmath⟩ := hconvert _ _ _ hmarkup
      obtain rfl : nodes = formula.inner := Except.ok.inj (hnodes.symm.trans hinner)
      have hsplit : Scanner.pieces span? t = (before ++ [.hit formula.span]) ++
          (formula.behind ++ formulas.flatMap SetFormula.pieces) := by
        rw [← hpieces]
        simp [SetFormula.pieces]
      have hmoved : (before ++ formula.pieces) ++ formulas.flatMap SetFormula.pieces =
          Scanner.pieces span? t := by
        simpa using hpieces
      have hstretch := pieces_written_stretch hsplit
      have hmore := ih hmoved hfails hconverts
      have hconverted : failure? convert formula.span = none := by
        rw [failure?, hmarkup]
      have hall : failures convert ((formula :: formulas).flatMap SetFormula.pieces) =
          [] ++ failures convert formula.behind ++
            failures convert (formulas.flatMap SetFormula.pieces) := by
        simp [failures, SetFormula.pieces, hconverted]
      rw [hall]
      exact ((stays_of_isMath hmath).append
        (stays_stretch hfailsHere hstretch)).append hmore

/-- A text with its formulas set stays. -/
theorem IsSet.stays (hconvert : ConvertsToMath convert) {t : Text} {first : List (Piece Span)}
    {formulas : List SetFormula} {nodes : List Node} (h : IsSet convert t first formulas nodes) :
    Stays convert nodes (setText convert t).reports := by
  have hstretch : Scanner.pieces span? (written first) = first :=
    pieces_written_front h.pieces_eq.symm
  have hreports : (setText convert t).reports =
      failures convert first ++ failures convert (formulas.flatMap SetFormula.pieces) := by
    have hwhole := (tally_setText convert t).whole (rejected_setText.mpr (hconvert.isSound t))
    rw [hwhole.2, List.flatMap_singleton, ← hits_pieces, ← h.pieces_eq, hits_append,
      List.filterMap_append]
    rfl
  rw [h.nodes_eq, hreports]
  exact (stays_stretch h.fails.1 hstretch).append
    (stays_formulas hconvert h.pieces_eq h.fails.2 h.converts)

/-! ## The tree -/

/-- What setting formulas makes of some nodes stays. -/
theorem Settled.stays (hconvert : ConvertsToMath convert) {whole : Bool} {nodes nodes' : List Node}
    (h : Settled convert whole nodes nodes') :
    Stays convert nodes' (setNodes convert nodes).reports := by
  have hhere (t : Text) : setNode convert (.text .prose t) = setText convert t := by
    rw [setNode]
  have hwhole (t : Text) : (setText convert t).rejected = none :=
    rejected_setText.mpr (hconvert.isSound t)
  induction h with
  | nil => exact stays_nil
  | @plain whole t rest rest' hplain _ ih =>
      obtain ⟨first, formulas, hset⟩ := exists_isSet_setText (hconvert.isSound t)
      have hstays := hset.stays hconvert
      rw [hset.nodes_eq_of_count_eq_zero (by rw [hplain]; rfl)] at hstays
      rw [setNodes_cons_of_whole (by rw [hhere, hwhole]), hhere]
      exact hstays.append ih
  | @formulas whole t _ _ _ rest rest' _ hset _ ih =>
      rw [setNodes_cons_of_whole (by rw [hhere, hwhole]), hhere]
      exact (hset.stays hconvert).append ih
  | rejected hrejected =>
      obtain ⟨span, -, hspan⟩ := hrejected
      exact absurd (hconvert.isAccepted span) (by simp [hspan])
  | @other whole kind t rest rest' hkind _ ih =>
      have hkept := @setNode_of_kind convert _ hkind t
      rw [setNodes_cons_of_kept hkept]
      exact Stays.cons hkept ih
  | @passedOver whole tag children rest rest' htag _ ih =>
      have hkept := @setNode_of_isPassedOver convert _ htag children
      rw [setNodes_cons_of_kept hkept]
      exact Stays.cons hkept ih
  | @inside whole tag children children' rest rest' htag _ _ ihChildren ih =>
      have hopen := @setNode_of_not_isPassedOver convert _ htag
      have hsame : setNode convert (.element tag children') =
          { nodes := [.element tag children'], reports := (setNodes convert children).reports } := by
        rw [hopen, ihChildren]
      rw [setNodes_cons_of_whole (by rw [hopen, hconvert.rejected_setNodes]), hopen]
      exact Stays.cons hsame ih
  | @rejectedInside tag children children' rest htag hchildren ihChildren =>
      exact (hconvert.not_settled_false hchildren).elim

/-- Setting the formulas below an element a second time sets none and changes nothing, if the
converter gives nothing but mathematics; what it could not convert is reported again. -/
theorem setBelow_again (hconvert : ConvertsToMath convert) (around : List Text)
    (nodes : List Node) :
    let set := setBelow convert around nodes
    set.rejected = none ∧
      setBelow convert around set.nodes = { nodes := set.nodes, count := 0, reports := set.reports } := by
  intro set
  by_cases haround : around.any isPassedOver
  · have hset : set = { nodes } := if_pos haround
    rw [hset]
    exact ⟨rfl, if_pos haround⟩
  · have hset : set = setNodes convert nodes := if_neg haround
    rw [hset, setBelow, if_neg haround]
    exact ⟨hconvert.rejected_setNodes nodes, (settled_setNodes convert nodes).stays hconvert⟩

/-- Knows one formula only. -/
def convertLetter : Converter := fun display formula =>
  if formula = ['x'] then .ok (toMathml display formula) else .error "unknown".toList

/-- Formulas that were set are not set again, and those that were not are reported again, with a
dollar left over at the end. -/
theorem setBelow_again_of_convertLetter :
    let nodes := [Node.text .prose "$x$, $y$ or \\[ x \\] for $".toList]
    let set := setBelow convertLetter [] nodes
    ConvertsToMath convertLetter ∧ set.count = 2 ∧ set.reports = [report ['y'] "unknown".toList] ∧
      set.rejected = none ∧ setBelow convertLetter [] set.nodes =
        { nodes := set.nodes, count := 0, reports := set.reports } := by
  intro nodes set
  have hconvert : ConvertsToMath convertLetter := by
    intro display formula markup hmarkup
    have hall : ∀ display, ∃ nodes, parse (toMathml display ['x']) = .ok nodes ∧
        ∀ node ∈ nodes, isMath node = true := by
      intro display
      have hletter : ((parse (toMathml display ['x'])).toOption.any fun nodes =>
          nodes.all isMath) = true := by
        revert display
        decide +kernel
      cases hparse : parse (toMathml display ['x']) with
      | error why =>
          rw [hparse] at hletter
          cases hletter
      | ok nodes =>
          rw [hparse] at hletter
          exact ⟨nodes, rfl, List.all_eq_true.mp hletter⟩
    rw [convertLetter] at hmarkup
    split at hmarkup
    · rename_i hformula
      rw [hformula] at hmarkup
      exact Except.ok.inj hmarkup ▸ hall display
    · simp at hmarkup
  exact ⟨hconvert, by decide +kernel, by decide +kernel, setBelow_again hconvert [] nodes⟩

end PaperHtml.Math
