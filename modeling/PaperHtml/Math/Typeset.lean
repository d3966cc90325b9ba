import PaperHtml.Html.Parser
import PaperHtml.Math.Span
import PaperHtml.Text.Quoted

/-!
# Setting the formulas of a page

The formulas in the prose of a page are replaced by markup.  A formula that
cannot be converted stays as it is and is reported; code, scripts, templates and
what is already markup are passed over.  Where the markup for a formula is
rejected, the setting breaks off: the text with that formula and all behind it
stay as they are.
-/

namespace PaperHtml.Math

open Text Html

/-- Converts a formula, on a line of its own or not, to markup; or tells why it cannot. -/
abbrev Converter := (display : Bool) → (formula : Text) → Except Text Text

/-- What came of setting formulas: nodes, the number of formulas set, and reports. -/
structure Typeset where
  nodes : List Node
  count : Nat := 0
  reports : List Text := []
  /-- Why the setting broke off, if it did. -/
  rejected : Option Rejection := none

/-- The report on a formula that could not be converted. -/
def report (formula reason : Text) : Text :=
  "Math typesetting failed for ".toList ++ quoted (truncate 60 formula) ++ ": ".toList ++ reason

/-- A text cut at its formulas; `stretch` is the text since the last one set, in reverse
order. -/
def setPieces (convert : Converter) : (stretch : Text) → List (Piece Span) → Typeset
  | stretch, [] => { nodes := [.text .prose stretch.reverse] }
  | stretch, .plain c :: rest => setPieces convert (c :: stretch) rest
  | stretch, .hit span :: rest =>
    match convert span.display span.formula with
    | .ok markup =>
      match parse markup with
      | .ok nodes =>
        let after := setPieces convert [] rest
        { after with
          nodes := .text .prose stretch.reverse :: nodes ++ after.nodes
          count := after.count + 1 }
      | .error why => { nodes := [], rejected := some why }
    | .error reason =>
      let after := setPieces convert (span.source.reverse ++ stretch) rest
      { after with reports := report span.formula reason :: after.reports }

/-- The formulas of one text set; a text without any stays one node. -/
def setText (convert : Converter) (t : Text) : Typeset :=
  let set := setPieces convert [] (Scanner.pieces span? t)
  if set.count = 0 ∨ set.rejected.isSome then { set with nodes := [.text .prose t], count := 0 }
  else set

/-- The elements in which no formula is set. -/
def isPassedOver (name : Text) : Bool :=
  (["code", "pre", "script", "style", "template", "math"].map String.toList).contains name

mutual

/-- The formulas at or below a node set. -/
def setNode (convert : Converter) : Node → Typeset
  | .text .prose content => setText convert content
  | .text kind content => { nodes := [.text kind content] }
  | .element tag children =>
    if isPassedOver tag.name then { nodes := [.element tag children] }
    else
      let set := setNodes convert children
      { set with nodes := [.element tag set.nodes] }

/-- The formulas at or below several nodes set. -/
def setNodes (convert : Converter) : List Node → Typeset
  | [] => { nodes := [] }
  | node :: rest =>
    let first := setNode convert node
    if first.rejected.isSome then { first with nodes := first.nodes ++ rest }
    else
      let others := setNodes convert rest
      { nodes := first.nodes ++ others.nodes
        count := first.count + others.count
        reports := first.reports ++ others.reports
        rejected := others.rejected }

end

/-- The formulas below an element set, unless it or an element around it is passed over. -/
def setBelow (convert : Converter) (around : List Text) (nodes : List Node) : Typeset :=
  if around.any isPassedOver then { nodes } else setNodes convert nodes

end PaperHtml.Math
