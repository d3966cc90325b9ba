import Mathlib
import PaperHtml.Proofs.Citation.Numbering
import PaperHtml.Proofs.Page.Quiet
import PaperHtml.Proofs.Session.Framing

/-!
# Clicks on citations

After a load the details of a reference are shown for every key that the paper
cites, whether or not the rendered content has a citation with that key, and a
message for every other key.  A click changes nothing but the side panel.

## Strategy

`Quiet` holds of the page at any time, whatever engines rendered it and whatever
style sheets and scripts they brought (`quiet_runWith`).  On such a page the side
panel may still not be the element that its identifier finds.  Where it is, one
click is a change of one of the five lists of the layout, and so are any number
of them (`clicks_page`).  What the panel shows for a key is read off the
references of the load, whose keys are the order without repetitions.
-/

namespace PaperHtml

open Html Html.Node Page

namespace Session

variable {engines : Engines} {session : Session}

/-! ## What every history keeps -/

theorem quiet_empty (title : Text) : (Page.empty title).Quiet :=
  ⟨Layout.empty title, Layout.page_empty title, rfl, without_emptyPanelNodes⟩

theorem quiet_opened (h : session.page.Quiet) : session.opened.page.Quiet := by
  have hpanel : (session.page.setPanel emptyPanel).Quiet := by
    apply h.setPanel
    rw [parsed_of_parse Layout.parse_emptyPanel]
    exact without_emptyPanelNodes
  exact hpanel.remove.setStatus loadingStatus

theorem quiet_cleared (h : session.page.Quiet) : session.cleared.page.Quiet :=
  h.modify_content _

theorem quiet_tries (h : session.page.Quiet) {session' : Session}
    (htries : TriesLatex session session') : session'.page.Quiet := by
  rcases htries with rfl | rfl
  · exact h
  · exact quiet_cleared h

theorem quiet_fail (h : session.page.Quiet) (citations : Citations) (message : Text) :
    (fail citations message session).session.page.Quiet :=
  (h.setStatus failedStatus).setContent _

theorem quiet_setFormulas {page : Page} (h : page.Quiet) (setter : Option Setter) :
    (setFormulas setter page).1.Quiet := by
  cases setter with
  | none => exact h
  | some setter => exact h.change (by simp [frameIds]) fun hne => absurd rfl hne

theorem quiet_finish (h : session.page.Quiet) (setter : Option Setter)
    (entries : List Bibliography.Entry) (outcome : Outcome) (fragment : Text) :
    (finish setter entries outcome fragment session).session.page.Quiet := by
  have hannotated := (quiet_setFormulas ((h.setContent fragment).setStatus outcome.status)
    setter).modify_content fun children => (Reference.annotate outcome.citations.order children).2
  rw [finish_page]
  apply Quiet.embed
  simp only [filled]
  split
  · exact hannotated
  · exact hannotated.modify_content _

theorem quiet_attachAssets (h : session.page.Quiet) {attached : Except Text Unit}
    {session' : Session} (hattach : attachAssets engines.assets session = (attached, session')) :
    session'.page.Quiet := by
  rcases attachAssets_cases hattach with ⟨-, rfl, -⟩ | ⟨-, -, -, -, hpage⟩
  · exact h
  · obtain ⟨l, hl, hquiet⟩ := h
    exact ⟨_, hpage l hl, hquiet.status, hquiet.panel⟩

theorem quiet_load (h : session.page.Quiet) (request : Request) :
    (load engines request session).session.page.Quiet := by
  have hopened := quiet_opened h
  have hcourse := course engines request session
  generalize load engines request session = loaded at hcourse
  cases hcourse with
  | broken events hbroken => exact hopened
  | @failed message citations _ events htries hending =>
      exact quiet_fail (quiet_tries hopened htries) citations message
  | @unattached message _ _ events htries hlatex hattach =>
      exact quiet_fail (quiet_attachAssets (quiet_tries hopened htries) hattach)
        (ending engines request).citations message
  | rejected events htries hending hattach =>
      exact quiet_cleared (quiet_attachAssets (quiet_tries hopened htries) hattach)
  | markdown events hending => exact quiet_finish hopened _ _ _ _
  | latex events htries hending hway hattach =>
      exact quiet_finish (quiet_attachAssets (quiet_tries hopened htries) hattach) _ _ _ _

theorem quiet_act (h : session.page.Quiet) (action : Action) :
    (act engines session action).page.Quiet := by
  have hshown (panel : Panel) (key : Text) : (panel.click key session.page).Quiet :=
    h.setPanel (without_detailFor panel key)
  cases action with
  | load request => exact quiet_load h request
  | click key =>
      rw [act, click]
      split
      · exact hshown _ key
      · exact h
  | detail panel key => exact hshown panel key

theorem quiet_runWith (h : session.page.Quiet) (history : List (Engines × Action)) :
    (runWith history session).page.Quiet := by
  induction history generalizing session with
  | nil => exact h
  | cons step history ih => exact ih (quiet_act h step.2)

/-! ## Clicks one after another -/

/-- The session after clicks on the citations with these keys. -/
def clicks (keys : List Text) (session : Session) : Session :=
  keys.foldl (fun session key => session.click key) session

/-- Clicks leave nothing behind but what the last of them shows. -/
theorem clicks_page {panel : Panel} {l : Layout} (hpanel : session.panel = some panel)
    (hpage : session.page = l.page) (h : l.PanelAlone) (keys : List Text) (key : Text) :
    clicks (keys ++ [key]) session =
      { session with page := { l with panel := parsed (panel.detailFor key) }.page } := by
  have hclick {session : Session} {l : Layout} (hpanel : session.panel = some panel)
      (hpage : session.page = l.page) (h : l.PanelAlone) (key : Text) : session.click key =
        { session with page := { l with panel := parsed (panel.detailFor key) }.page } := by
    unfold click
    simp only [hpanel, hpage]
    rw [Panel.click, h.setPanel]
  induction keys generalizing session l with
  | nil => exact hclick hpanel hpage h key
  | cons first keys ih =>
      show clicks (keys ++ [key]) (session.click first) = _
      rw [hclick hpanel hpage h first]
      exact @ih _ { l with panel := parsed (panel.detailFor first) } hpanel rfl
        (h.with_panel (without_detailFor panel first))

end Session

/-! ## What the panel of a load shows -/

namespace Panel

open Citation

variable {entries : List Bibliography.Entry} {order : List Text}

theorem get?_resolveFrom (hnodup : order.Nodup) {place : Nat} {key : Text}
    (hkey : order[place]? = some key) (last : Nat) :
    Assoc.get? key
        ((resolveFrom entries last order).map fun reference => (reference.key, reference)) =
      some (resolve entries (last + place + 1 : Nat) key) := by
  induction order generalizing last place with
  | nil => simp at hkey
  | cons first rest ih =>
      obtain ⟨hfirst, hrest⟩ := List.nodup_cons.mp hnodup
      rw [resolveFrom, List.map_cons, Assoc.get?, (refers_resolve entries _ first).key_eq]
      cases place with
      | zero =>
          obtain rfl : first = key := Option.some.inj hkey
          rw [if_pos rfl]
      | succ place =>
          rw [List.getElem?_cons_succ] at hkey
          have hne : first ≠ key := by
            rintro rfl
            exact hfirst (List.mem_of_getElem? hkey)
          rw [if_neg hne, ih hrest hkey]
          congr 3
          omega

theorem references_ofReferences (hnodup : order.Nodup) :
    (ofReferences (resolveAll entries order)).references =
      (resolveAll entries order).map fun reference => (reference.key, reference) := by
  apply Assoc.ofList_of_nodup
  rw [Assoc.names, List.map_map]
  exact (map_key_resolveFrom entries 0 order).symm ▸ hnodup

variable {panel : Panel}

/-- For a cited key the details of its reference are shown. -/
theorem detailFor_of_cited
    (h : panel.references = (ofReferences (resolveAll entries order)).references)
    (hnodup : order.Nodup) {place : Nat} {key : Text} (hkey : order[place]? = some key) :
    panel.detailFor key = Reference.detail (resolve entries (place + 1 : Nat) key) := by
  have hget := @get?_resolveFrom entries order hnodup place key hkey 0
  rw [Nat.zero_add] at hget
  unfold detailFor
  rw [h, references_ofReferences hnodup, resolveAll, hget]

/-- For any other key there is a message. -/
theorem detailFor_of_not_cited
    (h : panel.references = (ofReferences (resolveAll entries order)).references)
    (hnodup : order.Nodup) {key : Text} (hkey : key ∉ order) :
    panel.detailFor key = Reference.notFound key := by
  have hnone : Assoc.get? key ((resolveAll entries order).map fun reference =>
      (reference.key, reference)) = none := by
    rw [Assoc.get?_eq_none_iff, Assoc.names, List.map_map]
    exact (map_key_resolveFrom entries 0 order).symm ▸ hkey
  unfold detailFor
  rw [h, references_ofReferences hnodup, hnone]

end Panel

namespace Layout

theorem page_injective {l l' : Layout} (h : l.page = l'.page) : l = l' := by
  obtain ⟨head, status, content, panel, tail⟩ := l
  obtain ⟨head', status', content', panel', tail'⟩ := l'
  simp only [page, nodes, main, Page.mk.injEq, List.cons.injEq, Node.element.injEq,
    List.cons_append, List.nil_append, true_and, and_true] at h
  obtain ⟨rfl, ⟨rfl, rfl⟩, rfl, rfl⟩ := h
  rfl

end Layout

namespace Session

open Citation

/-! ## A load and clicks after it -/

/-- A paper rendered after some history, with engines of any kind all along. -/
structure Rendering where
  title : Text
  history : List (Engines × Action)
  engines : Engines
  request : Request
  outcome : Outcome
  result :
    (load engines request (runWith history { page := Page.empty title })).result = .ok outcome
  ok : outcome.isOk = true

namespace Rendering

/-- The session after the load. -/
def session (r : Rendering) : Session :=
  (load r.engines r.request (runWith r.history { page := Page.empty r.title })).session

/-- The source of the paper. -/
def source (r : Rendering) : Except Source.Failure Text := (r.engines.fetch r.request.paper).result

/-- The entries of the bibliography, none if it could not be read. -/
def entries (r : Rendering) : List Bibliography.Entry := entriesOf r.engines r.request.bibliography

/-- No style sheets and scripts of the engines have an identifier of the frame. -/
def AssetsKeepOff (r : Rendering) : Prop :=
  (∀ step ∈ r.history, Without isFrame (assetNodes step.1)) ∧ Without isFrame (assetNodes r.engines)

theorem quiet (r : Rendering) : r.session.page.Quiet := by
  have hempty : ({ page := Page.empty r.title } : Session).page.Quiet := quiet_empty r.title
  exact quiet_load (quiet_runWith hempty r.history) r.request

theorem framed (r : Rendering) (h : r.AssetsKeepOff) : Framed r.session.page := by
  have hempty : Framed ({ page := Page.empty r.title } : Session).page := framed_empty r.title
  obtain ⟨head, hheaded⟩ := (hempty.runWith r.history h.1).exists_headed
  exact (hheaded.load h.2 r.request).framed

/-- Where only the content could have a second side panel, and has none, there is one. -/
theorem hasOnePanel (r : Rendering) (hassets : r.AssetsKeepOff)
    (hcontent : Without (Tag.hasId panelId) (r.session.page.childrenOf contentId)) :
    r.session.page.HasOnePanel := by
  obtain ⟨l, hpage, hquiet⟩ := r.quiet
  obtain ⟨l', hpage', hsteady⟩ := r.framed hassets
  obtain rfl := Layout.page_injective (hpage.symm.trans hpage')
  have hhead := hsteady.head_without (show panelId ∈ frameIds by simp [frameIds])
  have hbody : Without (Tag.hasId panelId) [.element bodyTag l.tail] :=
    (without_append.mp hsteady.outer).2.mono fun _ => isFrame_of_hasId (by simp [frameIds])
  have htail := (without_element.mp hbody).2.1
  rw [hpage, Page.childrenOf, hsteady.apart.find?_content] at hcontent
  rw [hpage]
  show (tagsAmong l.nodes).countP (Tag.hasId panelId) = 1
  rw [hquiet.countP_panel, hhead.countP_eq_zero, hcontent.countP_eq_zero, htail.countP_eq_zero]

/-- The panel of the session has the references of the load, whatever the content has. -/
theorem exists_panel (r : Rendering) : ∃ (source : Text) (panel : Panel), r.source = .ok source ∧
    r.outcome.citations.order = order (Latex.body source) ∧ r.session.panel = some panel ∧
    panel.references =
      (Panel.ofReferences (resolveAll r.entries (order (Latex.body source)))).references := by
  obtain ⟨_, fragment, ready, -, hending, hsession⟩ := exists_finish_of_load r.result r.ok
  obtain ⟨source, hsource, rfl, hcitations, -⟩ := ending_eq_rendered hending
  obtain ⟨panel, hpanel, hreferences⟩ : ∃ panel,
      (finish r.engines.setter (entriesOf r.engines r.request.bibliography) r.outcome fragment
        ready).session.panel = some panel ∧
        panel.references = (Panel.ofReferences r.outcome.citations.references).references :=
    ⟨_, rfl, rfl⟩
  have horder : r.outcome.citations.order = order (Latex.body source) := by
    rw [hcitations]
    rfl
  refine ⟨source, panel, hsource, horder, ?_, ?_⟩
  · rw [session, hsession, hpanel]
  · rw [hreferences, hcitations]
    rfl

/-- What clicks leave: the details for the last key in the panel, and all else as it was. -/
theorem exists_clicked (r : Rendering) (hone : r.session.page.HasOnePanel) (keys : List Text)
    (key : Text) : ∃ (source : Text) (panel : Panel), r.source = .ok source ∧
      r.outcome.citations.order = order (Latex.body source) ∧
      panel.references =
        (Panel.ofReferences (resolveAll r.entries (order (Latex.body source)))).references ∧
      (clicks (keys ++ [key]) r.session).page.find? panelId =
        some (.element panelTag (parsed (panel.detailFor key))) ∧
      (∀ id ∈ ownIds, panelId ≠ id →
        (clicks (keys ++ [key]) r.session).page.find? id = r.session.page.find? id) ∧
      (clicks (keys ++ [key]) r.session).panel = r.session.panel := by
  obtain ⟨l, hpage, hquiet⟩ := r.quiet
  obtain ⟨source, panel, hsource, horder, hpanel, hreferences⟩ := r.exists_panel
  have halone := hquiet.panelAlone (hpage ▸ hone)
  have hshown : Without isOwn (parsed (panel.detailFor key)) := without_detailFor panel key
  refine ⟨source, panel, hsource, horder, hreferences, ?_⟩
  rw [clicks_page hpanel hpage halone keys key, hpage]
  exact ⟨(halone.with_panel hshown).find?_panel,
    fun id hid hne => halone.find?_with_panel hshown hid hne, rfl⟩

end Rendering

/-- After a load that left one side panel on the page, the panel shows the reference of the key
clicked last, or a message if the key is not cited, and clicks change nothing else; for a cited key
without an entry it shows the same after every load of the paper.  There is one side panel if the
content has no other and the style sheets and scripts have no identifier of the frame. -/
theorem panel_after_clicks (r : Rendering) :
    (r.AssetsKeepOff → Without (Tag.hasId panelId) (r.session.page.childrenOf contentId) →
      r.session.page.HasOnePanel) ∧
    (r.session.page.HasOnePanel → ∀ keys key,
      let clicked := clicks (keys ++ [key]) r.session
      let shown := clicked.page.find? panelId
      (∀ place, r.outcome.citations.order[place]? = some key → shown = some (.element panelTag
        (parsed (Reference.detail (resolve r.entries (place + 1 : Nat) key))))) ∧
      (key ∉ r.outcome.citations.order →
        shown = some (.element panelTag (parsed (Reference.notFound key)))) ∧
      (∀ id ∈ ownIds, panelId ≠ id → clicked.page.find? id = r.session.page.find? id) ∧
      clicked.panel = r.session.panel ∧
      ∀ (r' : Rendering) (keys' : List Text), r'.source = r.source →
        r'.session.page.HasOnePanel → key ∈ r.outcome.citations.order →
        Bibliography.find? key r.entries = none → Bibliography.find? key r'.entries = none →
        (clicks (keys' ++ [key]) r'.session).page.find? panelId = shown) := by
  refine ⟨r.hasOnePanel, fun hone keys key => ?_⟩
  intro clicked shown
  obtain ⟨source, panel, hsource, horder, hreferences, hshown, hkept, hpanel⟩ :=
    r.exists_clicked hone keys key
  have hnodup := nodup_order (Latex.body source)
  have hcited (place : Nat) (hkey : r.outcome.citations.order[place]? = some key) :
      shown = some (.element panelTag
        (parsed (Reference.detail (resolve r.entries (place + 1 : Nat) key)))) := by
    rw [horder] at hkey
    rw [← Panel.detailFor_of_cited hreferences hnodup hkey]
    exact hshown
  refine ⟨hcited, fun hkey => ?_, hkept, hpanel, ?_⟩
  · rw [horder] at hkey
    rw [← Panel.detailFor_of_not_cited hreferences hnodup hkey]
    exact hshown
  · intro r' keys' hsame hone' hkey hmissing hmissing'
    obtain ⟨source', panel', hsource', horder', hreferences', hshown', -⟩ :=
      r'.exists_clicked hone' keys' key
    obtain rfl : source' = source := Except.ok.inj (hsource'.symm.trans (hsame.trans hsource))
    obtain ⟨place, hplace⟩ := List.getElem?_of_mem hkey
    -- with no entry a reference is the key itself, whatever other entries there are
    have hsame :
        resolve r'.entries (place + 1 : Nat) key = resolve r.entries (place + 1 : Nat) key := by
      unfold resolve
      rw [hmissing, hmissing']
    rw [hcited place hplace, ← hsame]
    rw [horder] at hplace
    rw [← Panel.detailFor_of_cited hreferences' hnodup hplace]
    exact hshown'

private def offering (assets : Option Text) : Engines where
  fetch source :=
    ⟨.ok (if source = "refs.bib".toList then "@misc\x7bknuth,\n\x7d".toList
      else "\\cite\x7bknuth,lamport\x7d".toList), []⟩
  markdown t := .ok t
  latex _ := ⟨.ok "<p>Text</p>".toList, []⟩
  assets := .ok assets
  setter := none

private def byLatexRequest : Request :=
  ⟨"core.tex".toList, some "refs.bib".toList, some "latex".toList⟩

private def byLatexOutcome : Outcome where
  status := latexStatus
  way := some .latex
  citations := citationsOf (Bibliography.read "@misc\x7bknuth,\n\x7d".toList)
    (Latex.body "\\cite\x7bknuth,lamport\x7d".toList)

private def renderingWith (assets : Option Text)
    (result : (load (offering assets) byLatexRequest { page := Page.empty "Paper".toList }).result =
      .ok byLatexOutcome) : Rendering :=
  ⟨"Paper".toList, [], offering assets, byLatexRequest, byLatexOutcome, result, rfl⟩

private theorem session_renderingWith {assets : Option Text}
    {result : (load (offering assets) byLatexRequest { page := Page.empty "Paper".toList }).result =
      .ok byLatexOutcome} :
    (renderingWith assets result).session =
      (load (offering assets) byLatexRequest
        { page := (Layout.empty "Paper".toList).page }).session := by
  simp only [Rendering.session, renderingWith, runWith, List.foldl_nil, Layout.page_empty]

theorem panel_after_clicks_of_missing :
    let r := renderingWith none rfl
    let clicked := clicks ["knuth".toList, "nobody".toList, "lamport".toList] r.session
    clicked.page.find? panelId = some (.element panelTag
        (parsed (Reference.detail (resolve r.entries 2 "lamport".toList)))) ∧
      clicked.page.find? contentId = r.session.page.find? contentId := by
  intro r clicked
  have hassets : r.AssetsKeepOff := by
    refine ⟨?_, rfl⟩
    intro step hstep
    cases hstep
  have hcontent : Without (Tag.hasId panelId) (r.session.page.childrenOf contentId) := by
    have hnone : (tagsAmong ((load (offering none) byLatexRequest
        { page := (Layout.empty "Paper".toList).page }).session.page.childrenOf contentId)).any
          (Tag.hasId panelId) = false := by
      decide +kernel
    have hsession : r.session = _ := session_renderingWith
    rw [Without, hsession]
    exact hnone
  obtain ⟨hone, hclicks⟩ := panel_after_clicks r
  obtain ⟨hcited, -, hkept, -⟩ :=
    hclicks (hone hassets hcontent) ["knuth".toList, "nobody".toList] "lamport".toList
  exact ⟨hcited 1 rfl, hkept contentId (by simp [ownIds, frameIds]) ids_differ.2.2.1.symm⟩

/-- Where the style sheets and scripts have an element that is both the first side panel and the
first body, it takes the details for the browser, and a click wipes them out. -/
theorem templates_lost_in_head :
    let r := renderingWith (some "<body id=\"citation-detail\"></body>".toList) rfl
    Without (Tag.hasId panelId) (r.session.page.childrenOf contentId) ∧
      (r.session.page.find? dataId).isSome = true ∧
      (clicks ["knuth".toList] r.session).page.find? dataId = none := by
  intro r
  have hsession : r.session = _ := session_renderingWith
  rw [hsession, Without, ← Option.isNone_iff_eq_none]
  decide +kernel

end Session

end PaperHtml
