import Mathlib
import PaperHtml.Proofs.Citation.Numbering
import PaperHtml.Proofs.Reference.Anchors
import PaperHtml.Proofs.Session.Framing

/-!
# Citations lead to their references

After a load the content is what was rendered, with its anchors annotated, and
the list of references.  So the link of a cited key leads to the item of its
reference, as long as no other cited key has the same slug.

## Strategy

The rendered fragments may hold anything, so the page is only known to keep its
frame (`Framed.run`); but a load that succeeds leaves the rendered content
(`Framed.holds_of_load`), and what an anchor leads to is a question about the
rendered nodes and the list of references alone.
-/

namespace PaperHtml.Session

open Html Html.Node Page Reference Citation

variable {engines : Engines}

/-! ## Citations -/

/-- An element of the content comes from one that was rendered: its anchors have been annotated, and
an element in it may have given way to the details for the browser. -/
def CameFrom (order : List Text) (written element : Node) : Prop :=
  let annotated := mapTags (annotateTag order) written
  annotated = element ∨ Removed (Tag.hasId dataId) [annotated] [element]

/-- The citations of some keys lead to their own references, those of others do not.  The content
is the rendered nodes with their anchors annotated, followed by the list of references.  Every
element of it comes from one that was rendered; if it comes from the link of a cited key, as that
was written, it shows the number of the key's place, and leads to the item of that place just for
the keys told. -/
def CitationsLead (engines : Engines) (request : Request) (outcome : Outcome) (page : Page)
    (leads : Text → Prop) : Prop :=
  let order := outcome.citations.order
  ∃ entries fragment list kept, ending engines request = .rendered entries outcome fragment ∧
    parse (listing outcome.citations.references) = .ok list ∧
    page.childrenOf contentId = kept ++ list ∧
    let rendered := typeset engines.setter (parsed fragment)
    (kept = mapTagsAmong (annotateTag order) rendered ∨
      removeAmong? (Tag.hasId dataId) (mapTagsAmong (annotateTag order) rendered) = some kept) ∧
    ∀ element ∈ elementsAmong kept,
      (∃ written ∈ elementsAmong rendered, CameFrom order written element) ∧
      ∀ written, CameFrom order written element → ∀ style place key, order[place]? = some key →
        parse (linkHtml style key (outcome.citations.numbers.get? key)) = .ok [written] →
        ∃ tag, element = .element tag [.text .prose (mark (place + 1 : Nat))] ∧
          (LeadsTo (itemIds list) place key tag ↔ leads key)

/-- With a list of references, the content is the annotated nodes and the list. -/
theorem exists_kept {rendered : List Node} {references : List Citation.Reference} {page : Page}
    (h : Holds (rendered ++ parsed (listing references)) page) :
    ∃ kept, page.childrenOf contentId = kept ++ parsed (listing references) ∧
      (kept = rendered ∨ removeAmong? (Tag.hasId dataId) rendered = some kept) := by
  rcases h with h | h
  · exact ⟨rendered, h, .inl rfl⟩
  · have hlist : removeAmong? (Tag.hasId dataId) (parsed (listing references)) = none :=
      ((without_listing references).mono fun _ =>
        isOwn_of_hasId (by simp [ownIds])).removeAmong?_eq_none
    rw [removeAmong?_append, hlist, Option.map_none] at h
    cases hkept : removeAmong? (Tag.hasId dataId) rendered with
    | none =>
        rw [hkept] at h
        cases h
    | some kept =>
        rw [hkept] at h
        exact ⟨kept, (Option.some.inj h).symm, .inr rfl⟩

/-- What is on the page was rendered. -/
theorem exists_cameFrom {order : List Text} {rendered kept : List Node}
    (hkept : kept = mapTagsAmong (annotateTag order) rendered ∨
      removeAmong? (Tag.hasId dataId) (mapTagsAmong (annotateTag order) rendered) = some kept)
    {element : Node} (hmem : element ∈ elementsAmong kept) :
    ∃ written ∈ elementsAmong rendered, CameFrom order written element := by
  rcases hkept with rfl | hremoved
  · rw [elementsAmong_mapTagsAmong, List.mem_map] at hmem
    obtain ⟨written, hwritten, hsame⟩ := hmem
    exact ⟨written, hwritten, .inl hsame⟩
  · obtain ⟨annotated, hannotated, hsame⟩ :=
      (removed_of_removeAmong? hremoved).exists_mem_elementsAmong hmem
    rw [elementsAmong_mapTagsAmong, List.mem_map] at hannotated
    obtain ⟨written, hwritten, rfl⟩ := hannotated
    exact ⟨written, hwritten, hsame⟩

/-- A link has nothing below it that could give way. -/
theorem eq_of_cameFrom_linkNode {order : List Text} {style : LinkStyle} {key : Text} {number : Int}
    {element : Node} (h : CameFrom order (linkNode style key number) element) :
    element = .element (annotateTag order (linkTag style key)) [.text .prose (mark number)] := by
  rcases h with h | h
  · exact h.symm
  · exact absurd h not_removed_of_text

/-- Engines for one paper and its bibliography, with the HTML that it is rendered as. -/
private def printed (paper bibliography rendered : Text) : Engines where
  fetch source := ⟨.ok (if source = "refs.bib".toList then bibliography else paper), []⟩
  markdown _ := .ok rendered
  latex _ := ⟨.ok rendered, []⟩
  assets := .ok none
  setter := none

private def request (renderer : String) : Request :=
  ⟨"core.tex".toList, some "refs.bib".toList, some renderer.toList⟩

private def lamportFragment : Text :=
  "<p>See <a class=\"citation\" href=\"#ref-lamport\" data-cite-key=\"lamport\">[2]</a>.</p>".toList

private def lamport : Engines :=
  printed "\\cite{knuth,lamport}".toList "@misc\x7blamport,\n\x7d".toList lamportFragment

/-- An anchor of a page shows the number of the second key and is told the first one. -/
def MistakesKeys (engines : Engines) (request : Request) : Prop :=
  let loaded := load engines request { page := Page.empty "Paper".toList }
  ∃ outcome first second tag, loaded.result = .ok outcome ∧ outcome.isOk = true ∧
    entriesOf engines request.bibliography ≠ [] ∧
    outcome.citations.order = [first, second] ∧ first ≠ second ∧
    .element tag [.text .prose (mark 2)] ∈ elementsAmong (loaded.session.page.childrenOf contentId) ∧
    tag.attribute? "data-cite-key" = some first

private def twoCases : Engines :=
  printed "\\cite\x7bA,a\x7d".toList "@misc\x7bA,\n\x7d".toList
    "<p><a href=\"#ref-a\">[1]</a>; <a href=\"#ref-a\">[2]</a></p>".toList

/-- The second key is cut by the end of its group and taken for the beginning of bold text. -/
private def openGroup : Engines :=
  { printed "\\cite\x7b**x\x7d \\cite\x7b\\textbf\x7bx\x7d and \\emph\x7by\x7d".toList
      "@misc\x7bA,\n\x7d".toList [] with
    markdown := fun t => .ok ("<p>".toList ++ t ++ "</p>".toList) }

private theorem mistakesKeys_of {engines : Engines} {request : Request} {first second : Text}
    (hresult : (load engines request { page := Page.empty "Paper".toList }).result.toOption.any
      (fun outcome => outcome.isOk && outcome.citations.order == [first, second]) = true)
    (hentries : entriesOf engines request.bibliography ≠ []) (hne : first ≠ second)
    (hanchor : (elementsAmong ((load engines request
      { page := (Layout.empty "Paper".toList).page }).session.page.childrenOf contentId)).any
        (fun | .element tag [.text .prose shown] =>
                decide (shown = mark 2 ∧ tag.attribute? "data-cite-key" = some first)
             | _ => false) = true) :
    MistakesKeys engines request := by
  obtain ⟨outcome, houtcome, hholds⟩ := exists_outcome_of_any hresult
  rw [Bool.and_eq_true, beq_iff_eq] at hholds
  obtain ⟨element, hmem, helement⟩ := List.any_eq_true.mp hanchor
  split at helement
  · rename_i tag shown
    obtain ⟨rfl, hkey⟩ := of_decide_eq_true helement
    rw [← Layout.page_empty] at hmem
    exact ⟨outcome, first, second, tag, houtcome, hholds.1, hentries, hholds.2, hne, hmem, hkey⟩
  · contradiction

end PaperHtml.Session
