import Mathlib
import PaperHtml.Page.Panel
import PaperHtml.Proofs.Page.Frame
import PaperHtml.Proofs.Reference.Elements

/-!
# The fragments that a page is filled with

Everything that a page puts into its parts by itself is read back as the nodes
that it stands for, and uses the identifiers of the page only where it has to:
for the details kept for the browser and for the script.
-/

namespace PaperHtml

open Text Html Html.Markup Reference
open Html.Node (Without)

namespace Page

/-! ## Elements without identifiers of the page -/

theorem isOwn_of_attribute?_eq_none {tag : Tag} (h : tag.attribute? "id" = none) :
    isOwn tag = false := by
  rw [isOwn, List.any_eq_false]
  intro id _
  simp [Tag.hasId, h]

theorem isOwn_of_attribute?_eq_some {tag : Tag} {id : Text} (h : tag.attribute? "id" = some id)
    (hid : id ∉ ownIds) : isOwn tag = false := by
  rw [isOwn, List.any_eq_false]
  intro other hother
  have hne : id ≠ other := fun e => hid (e ▸ hother)
  simpa [Tag.hasId, h] using hne

theorem any_isOwn_of_anonymous {names : List String} {tags : List Tag}
    (h : Anonymous names tags) : tags.any isOwn = false := by
  rw [List.any_eq_false]
  intro tag htag
  rw [isOwn_of_attribute?_eq_none (h tag htag).2]
  exact Bool.false_ne_true

/-- The nodes of a tree have no identifier of the page if its tags have none. -/
theorem without_isOwn_built {markups : List Markup} (h : (tagsAmong markups).any isOwn = false) :
    Without isOwn (built [] [] markups) := by
  rwa [Without, tagsAmong_built]

/-! ## The side panel -/

theorem without_detail (reference : Citation.Reference) :
    Without isOwn (parsed (detail reference)) := by
  rw [parsed_of_parse (parse_detail reference)]
  exact without_isOwn_built (any_isOwn_of_anonymous (anonymous_detailMarkup reference))

theorem without_notFound (key : Text) : Without isOwn (parsed (notFound key)) := by
  rw [parsed_of_parse (parse_notFound key)]
  exact without_isOwn_built
    (any_isOwn_of_anonymous (anonymous_singleton.mpr (anonymous_notFoundMarkup key)))

/-- No details that the side panel shows have an identifier of the page. -/
theorem without_detailFor (panel : Panel) (key : Text) :
    Without isOwn (parsed (panel.detailFor key)) := by
  rw [Panel.detailFor]
  split
  · exact without_detail _
  · exact without_notFound key

theorem without_emptyPanelNodes : Without isOwn Layout.emptyPanelNodes := by
  have hnone : (Node.tagsAmong Layout.emptyPanelNodes).any isOwn = false := by decide
  exact hnone

/-! ## The list of references -/

theorem isOwn_itemTag (reference : Citation.Reference) :
    isOwn (keptTag "li".toList [("id".toList, some ("ref-".toList ++ Citation.slug reference.key))]) =
      false := by
  have hfirst : ∀ id ∈ ownIds, id.head? ≠ some 'r' := by decide
  refine isOwn_of_attribute?_eq_some (attribute?_id_keptTag (by decide) _) ?_
  exact fun hid => hfirst _ hid rfl

theorem without_listing (references : List Citation.Reference) :
    Without isOwn (parsed (listing references)) := by
  have hitems : (references.flatMap fun reference => tags (itemMarkup reference)).any isOwn =
      false := by
    rw [List.any_eq_false]
    intro tag htag
    obtain ⟨reference, -, htag⟩ := List.mem_flatMap.mp htag
    rw [itemMarkup, tags] at htag
    rcases List.mem_cons.mp htag with rfl | htag
    · rw [isOwn_itemTag]
      exact Bool.false_ne_true
    · rw [isOwn_of_attribute?_eq_none (anonymous_lineMarkup reference tag htag).2]
      exact Bool.false_ne_true
  have hsection : isOwn (keptTag "section".toList (classAttributes "references")) = false := by
    decide
  have hheading : isOwn (keptTag "h2".toList [("id".toList, some "references".toList)]) = false := by
    decide
  have hlist : isOwn (keptTag "ol".toList []) = false := by decide
  rw [parsed_of_parse (parse_listing references)]
  apply without_isOwn_built
  simp only [listingMarkup, classed, tagsAmong, tags, tagsAmong_map, List.any_cons, List.any_append,
    List.any_nil, hsection, hheading, hlist, hitems, Bool.or_false]

/-! ## The message of a failure -/

/-- The message that a paper could not be loaded, as markup. -/
def errorMarkup (message : Text) : Markup :=
  classed "div" "error" [.text ("Could not load paper: ".toList ++ message)]

theorem parse_error (message : Text) :
    parse ("<div class=\"error\">Could not load paper: ".toList ++ escape message ++
      "</div>".toList) = .ok (built [] [] [errorMarkup message]) := by
  have hopen : "<div class=\"error\">Could not load paper: ".toList =
      startSource "div".toList (classAttributes "error") ++
        escape "Could not load paper: ".toList := by decide
  have hclose : "</div>".toList = endSource "div".toList := by decide
  have hname : isElementName "div".toList = true := by decide
  have hplain : isPlain (errorMarkup message) = true := by
    rw [errorMarkup, isPlain_classed hname]
    rfl
  rw [← parse_source hplain, hopen, hclose]
  simp only [errorMarkup, classed, sources, source, escape_append, List.append_assoc,
    List.append_nil]

theorem without_error (message : Text) : Without isOwn (built [] [] [errorMarkup message]) := by
  have hnames : Anonymous ["div"] (tags (errorMarkup message)) :=
    anonymous_classed (by decide) _ (anonymous_text _)
  exact without_isOwn_built (any_isOwn_of_anonymous (anonymous_singleton.mpr hnames))

end Page

open Page

namespace Panel

/-! ## The details kept for the browser -/

/-- The details of a reference in a template, as markup. -/
def templateMarkup (key : Text) (reference : Citation.Reference) : Markup :=
  .element "template".toList [("data-cite-detail".toList, some key)] (detailMarkup reference)

/-- The attributes of the element with the details of all references. -/
def dataAttributes : List (Text × Option Text) :=
  [("id".toList, some dataId), ("hidden".toList, none)]

/-- The details of all references, as markup. -/
def dataMarkup (panel : Panel) : Markup :=
  .element "div".toList dataAttributes
    (panel.references.map fun entry => templateMarkup entry.1 entry.2)

/-- The tag of the element with the details of all references. -/
def dataTag : Tag := ⟨"div".toList, [("id".toList, dataId), ("hidden".toList, [])]⟩

theorem hasId_dataTag (id : Text) : dataTag.hasId id = decide (dataId = id) :=
  hasId_first _ _ id _

theorem keptTag_dataAttributes : keptTag "div".toList dataAttributes = dataTag := by
  decide

/-- The element with the details of all references. -/
def dataNode (panel : Panel) : Node :=
  .element dataTag
    (built ["div".toList] [] (panel.references.map fun entry => templateMarkup entry.1 entry.2))

theorem source_templateMarkup (key : Text) (reference : Citation.Reference) :
    source (templateMarkup key reference) = template key reference := by
  have hopen : "<template data-cite-detail=\"".toList =
      '<' :: "template".toList ++ ' ' :: "data-cite-detail".toList ++ ['=', '"'] := by decide
  have hclose : "\">".toList = ['"', '>'] := by decide
  have hend : "</template>".toList = endSource "template".toList := by decide
  delta template templateMarkup
  simp only [source, sources_detailMarkup, startSource, attributeSource, valueSource, hopen, hclose,
    hend, List.flatMap_cons, List.flatMap_nil, List.append_assoc, List.cons_append,
    List.nil_append, List.append_nil]

theorem source_dataMarkup (panel : Panel) : source (dataMarkup panel) = panel.dataBlock := by
  have hopen : "<div id=\"citation-detail-data\" hidden>".toList =
      startSource "div".toList dataAttributes := by decide
  have hend : "</div>".toList = endSource "div".toList := by decide
  delta dataBlock dataMarkup
  simp only [source, sources_map, source_templateMarkup, hopen, hend]

theorem isPlain_dataMarkup (panel : Panel) : isPlain (dataMarkup panel) = true := by
  have hnames : isElementName "div".toList = true ∧ isElementName "template".toList = true := by
    decide
  have hattributes : areAttributeNames ["data-cite-detail".toList] = true := by decide
  have hdata : areAttributes dataAttributes = true := by decide
  have htemplates := arePlain_map
    (f := fun entry : Text × Citation.Reference => templateMarkup entry.1 entry.2)
    (fun entry => by
      rw [templateMarkup, isPlain, hnames.2, arePlain_detailMarkup]
      exact hattributes) panel.references
  rw [dataMarkup, isPlain, hnames.1, hdata, htemplates]
  rfl

theorem parse_dataBlock (panel : Panel) : parse panel.dataBlock = .ok [panel.dataNode] := by
  rw [← source_dataMarkup, parse_source (isPlain_dataMarkup panel), dataMarkup, built_element,
    keptTag_dataAttributes, dataNode]

/-- The names of the elements in the details of all references. -/
def templateNames : List String := "template" :: detailNames

theorem anonymous_templates (panel : Panel) :
    Anonymous templateNames
      (Markup.tagsAmong (panel.references.map fun entry => templateMarkup entry.1 entry.2)) := by
  have hid : "id".toList ∉ ["data-cite-detail".toList] := by decide
  rw [tagsAmong_map]
  intro tag htag
  obtain ⟨entry, -, htag⟩ := List.mem_flatMap.mp htag
  have hdetail : Anonymous templateNames (Markup.tagsAmong (detailMarkup entry.2)) := by
    intro tag htag
    obtain ⟨hname, hnone⟩ := anonymous_detailMarkup entry.2 tag htag
    exact ⟨List.mem_cons_of_mem _ hname, hnone⟩
  exact anonymous_element (by decide) [("data-cite-detail".toList, some entry.1)] hid hdetail tag
    htag

/-- Nothing inside it has an identifier of the page. -/
theorem without_templates (panel : Panel) :
    Without isOwn (built ["div".toList] []
      (panel.references.map fun entry => templateMarkup entry.1 entry.2)) := by
  rw [Without, tagsAmong_built]
  exact any_isOwn_of_anonymous (anonymous_templates panel)

theorem findAmong?_dataNode (panel : Panel) :
    Node.findAmong? (Tag.hasId dataId) [panel.dataNode] = some panel.dataNode := by
  rw [dataNode, Node.findAmong?_element, hasId_dataTag, decide_eq_true rfl]
  rfl

theorem countP_dataNode (panel : Panel) {id : Text} (hid : id ∈ ownIds) :
    (Node.tagsAmong [panel.dataNode]).countP (Tag.hasId id) = if dataId = id then 1 else 0 := by
  have hinside := ((without_templates panel).mono fun _ => isOwn_of_hasId hid).countP_eq_zero
  rw [dataNode, Node.tagsAmong_element, Node.tagsAmong_nil, List.append_nil, List.countP_cons,
    hinside, hasId_dataTag]
  simp

theorem without_isFrame_dataNode (panel : Panel) : Without isFrame [panel.dataNode] := by
  obtain ⟨hstatus, hcontent, hpanel⟩ := ids_differ.2.2.2.2 dataId (by simp)
  have htag : isFrame dataTag = false := by
    simp [isFrame, frameIds, hasId_dataTag, hstatus.symm, hcontent.symm, hpanel.symm]
  rw [dataNode, Node.without_element]
  refine ⟨htag, (without_templates panel).mono ?_, Node.without_nil⟩
  intro tag hframe
  rw [isOwn_eq, hframe]
  rfl

theorem pruned_dataNode (panel : Panel) : Node.pruned isExtra [panel.dataNode] = [] := by
  have htag : isExtra dataTag = true := by simp [isExtra, hasId_dataTag]
  rw [dataNode, Node.pruned_element, if_pos htag, Node.pruned_nil]

/-- Nothing can be put at the end of a body inside it. -/
theorem without_body_dataNode (panel : Panel) :
    Without (Tag.isNamed "body") [panel.dataNode] := by
  have htag : dataTag.isNamed "body" = false := by decide
  have hnames : "body".toList ∉ templateNames.map String.toList := by decide
  rw [dataNode, Node.without_element]
  refine ⟨htag, ?_, Node.without_nil⟩
  rw [Without, tagsAmong_built, List.any_eq_false]
  intro tag hmem hbody
  have hname : tag.name = "body".toList := by simpa [Tag.isNamed] using hbody
  exact hnames (hname ▸ (anonymous_templates panel tag hmem).1)

/-! ## The script -/

/-- The tag of the element with the script for the browser. -/
def scriptTag : Tag := ⟨"script".toList, [("id".toList, scriptId)]⟩

theorem hasId_scriptTag (id : Text) : scriptTag.hasId id = decide (scriptId = id) :=
  hasId_first _ _ id _

/-- The element with the script for the browser. -/
def scriptNode : Node := .element scriptTag [.text .embedded panelScript]

theorem parse_scriptBlock : parse scriptBlock = .ok [scriptNode] := by
  -- The kernel is slow to take long literals apart, so this is done before.
  delta scriptBlock scriptNode panelScript block
  simp only [List.flatMap_cons, List.flatMap_nil, -String.reduceToList]
  repeat rw [String.toList_ofList]
  decide +kernel

theorem tagsAmong_scriptNode : Node.tagsAmong [scriptNode] = [scriptTag] := rfl

theorem without_isFrame_scriptNode : Without isFrame [scriptNode] := by
  obtain ⟨hstatus, hcontent, hpanel⟩ := ids_differ.2.2.2.2 scriptId (by simp)
  rw [Without, tagsAmong_scriptNode]
  simp [isFrame, frameIds, hasId_scriptTag, hstatus.symm, hcontent.symm, hpanel.symm]

theorem countP_scriptNode (id : Text) :
    (Node.tagsAmong [scriptNode]).countP (Tag.hasId id) = if scriptId = id then 1 else 0 := by
  rw [tagsAmong_scriptNode, List.countP_singleton, hasId_scriptTag]
  simp

theorem pruned_scriptNode : Node.pruned isExtra [scriptNode] = [] := by
  have htag : isExtra scriptTag = true := by simp [isExtra, hasId_scriptTag]
  delta scriptNode
  rw [Node.pruned_element, if_pos htag, Node.pruned_nil]

end Panel

end PaperHtml
