import Mathlib
import PaperHtml.Proofs.Session.Outcomes

/-!
# Falling back to LaTeX and choosing it

A load in which Markdown fails goes on as one that was asked for LaTeX in the
first place.  Both answer the same and leave the same, but for what tells that
it was a fallback: a flag of the outcome, its status, and the status line.

## Strategy

The two loads meet at `loadByLatex`, in the same session, so they part only
where the paper has been rendered (`fallsBack_loadByLatex`).  From there on
`finish` differs in the status that it is given.  The status goes into the
status line, and nothing that `finish` does afterwards looks there: it takes the
same layout to the same layout with either text (`exists_finish`).  This needs
the status line and the content to be found where the frame has them; where the
head has an element with one of their identifiers, the status goes there.
-/

namespace PaperHtml

open Html Html.Node Page

namespace Page

/-- Two pages are the same but for the texts of their status lines. -/
def SameButStatus (page page' : Page) : Prop :=
  ∃ (l : Layout) (status status' : Text), page = { l with status := [.text .prose status] }.page ∧
    page' = { l with status := [.text .prose status'] }.page

theorem SameButStatus.find? {page page' : Page} (h : SameButStatus page page') {id : Text}
    (hid : statusId ≠ id) : page.find? id = page'.find? id := by
  obtain ⟨l, status, status', rfl, rfl⟩ := h
  exact Layout.find?_with_status hid rfl rfl

theorem SameButStatus.head {page page' : Page} (h : SameButStatus page page') :
    findAmong? (Tag.isNamed "head") page.nodes = findAmong? (Tag.isNamed "head") page'.nodes := by
  obtain ⟨l, status, status', rfl, rfl⟩ := h
  exact (Layout.findAmong?_head _).trans (Layout.findAmong?_head _).symm

end Page

namespace Session

/-- Markdown is tried for the paper of a request, and fails. -/
def MarkdownFails (engines : Engines) (request : Request) : Prop :=
  Source.forcesLatex request.renderer = false ∧
    ∃ source message, (engines.fetch request.paper).result = .ok source ∧
      renderMarkdown engines.markdown (Citation.numbering (Citation.order (Latex.body source)))
        (Latex.body source) = .error message

/-- The outcome of a load by LaTeX, as it is if Markdown has failed before. -/
def Outcome.fallenBack (outcome : Outcome) : Outcome :=
  if outcome.isOk then { outcome with status := fallbackStatus, fallback := true } else outcome

variable {engines : Engines} {request : Request} {session : Session} {l : Layout}

/-! ## The end of a load with either status -/

/-- The status of a rendered paper reaches the status line and no other part of the page. -/
theorem exists_finish (hpage : session.page = l.page) (h : l.Apart) (setter : Option Setter)
    (entries : List Bibliography.Entry) (citations : Citations) (fragment : Text) :
    ∃ (l' : Layout) (panel : Panel), ∀ outcome : Outcome, outcome.citations = citations →
      (finish setter entries outcome fragment session).session =
        { session with
          page := { l' with status := [.text .prose outcome.status] }.page
          panel := some panel } := by
  let rendered := renderedContent setter entries citations fragment
  let references := Panel.ofReferences citations.references
  -- the layout is the same for every outcome, so it has to be chosen before one is given
  obtain ⟨l', htakes, -⟩ := Layout.exists_embed { l with content := rendered } references
  refine ⟨l', { references with handlers := Reference.citedKeys references.handlers rendered }, ?_⟩
  rintro outcome rfl
  let shown : Layout := { l with status := [.text .prose outcome.status], content := rendered }
  have hfilled : filled setter entries outcome fragment session.page = shown.page := by
    rw [hpage]
    exact filled_page h setter entries outcome fragment
  have hembed : references.embed shown.page =
      { l' with status := [.text .prose outcome.status] }.page :=
    htakes [.text .prose outcome.status] rfl
  have hshown : shown.Apart := (h.with_status outcome.status).with_content rendered
  have hchildren : shown.page.childrenOf contentId = rendered := by
    rw [Page.childrenOf, hshown.find?_content]
  have hfinish : (finish setter entries outcome fragment session).session =
      { session with
        page := references.embed (filled setter entries outcome fragment session.page)
        panel := some { references with
          handlers := Reference.citedKeys references.handlers
            ((filled setter entries outcome fragment session.page).childrenOf contentId) } } := rfl
  rw [hfinish, hfilled, hembed, hchildren]

/-! ## The two loads by LaTeX -/

/-- How a load that falls back ends against one that was asked for LaTeX, if both have come to
LaTeX in the same session and this is its answer. -/
inductive FallsBack (engines : Engines) (start : Session) (answer : Except Text Text)
    (fallen chosen : Load) : Prop where
  | failed (hsession : fallen.session = chosen.session) (hresult : fallen.result = chosen.result)
      (hfailed : ∀ outcome, chosen.result = .ok outcome → outcome.isOk = false)
  | rendered {outcome : Outcome} {fragment : Text} (hanswer : answer = .ok fragment)
      (hok : outcome.isOk = true)
      (hchosen : chosen.result = .ok outcome)
      (hfallen : fallen.result =
        .ok { outcome with status := fallbackStatus, fallback := true })
      (hattached : fallen.session.assetsAttached = chosen.session.assetsAttached)
      (hparts : ∀ l : Layout, start.page = l.page → l.Apart → Without isMain (assetNodes engines) →
        fallen.session.panel = chosen.session.panel ∧
          SameButStatus fallen.session.page chosen.session.page)

theorem FallsBack.after {answer : Except Text Text} {fallen chosen : Load}
    (h : FallsBack engines session answer fallen chosen) (events events' : List Event) :
    FallsBack engines session answer (fallen.after events) (chosen.after events') := by
  cases h with
  | failed hsession hresult hfailed => exact .failed hsession hresult hfailed
  | rendered hanswer hok hchosen hfallen hattached hparts =>
      exact .rendered hanswer hok hchosen hfallen hattached hparts

theorem apart_of_attachAssets {attached : Except Text Unit} {session' : Session}
    (hattach : attachAssets engines.assets session = (attached, session'))
    (hassets : Without isMain (assetNodes engines)) (hpage : session.page = l.page)
    (h : l.Apart) : ∃ l' : Layout, session'.page = l'.page ∧ l'.Apart := by
  rcases attachAssets_cases hattach with ⟨-, rfl, -⟩ | ⟨-, -, -, -, happended⟩
  · exact ⟨l, hpage, h⟩
  · exact ⟨_, happended l hpage, without_append.mpr ⟨h.head, hassets⟩, h.status⟩

theorem fallsBack_loadByLatex (engines : Engines) (entries : List Bibliography.Entry)
    (citations : Citations) (body : Text) (session : Session) :
    FallsBack engines session
      (engines.latex (Conversion.toPlainLatex citations.numbers body)).result
      (loadByLatex engines entries citations body true session)
      (loadByLatex engines entries citations body false session) := by
  unfold loadByLatex
  apply FallsBack.after
  cases hanswer : (engines.latex (Conversion.toPlainLatex citations.numbers body)).result with
  | error message =>
      refine .failed rfl rfl fun outcome houtcome => ?_
      cases houtcome
      rfl
  | ok fragment =>
      -- both loads ask for the style sheets and scripts in the same session
      obtain ⟨attached, session', hattach⟩ : ∃ attached session',
          attachAssets engines.assets session = (attached, session') := ⟨_, _, rfl⟩
      simp only [hattach]
      cases attached with
      | error message =>
          refine .failed rfl rfl fun outcome houtcome => ?_
          cases houtcome
          rfl
      | ok attached =>
          cases hparse : parse fragment with
          | error why => exact .failed rfl rfl nofun
          | ok nodes =>
              simp only [if_true, Bool.false_eq_true, if_false]
              refine .rendered rfl rfl (result_finish ..) (result_finish ..) ?_ ?_
              · rw [assetsAttached_finish, assetsAttached_finish]
              intro l hpage happart hassets
              obtain ⟨l₁, hpage₁, happart₁⟩ := apart_of_attachAssets hattach hassets hpage happart
              obtain ⟨l₂, panel, hfinish⟩ :=
                exists_finish hpage₁ happart₁ engines.setter entries citations fragment
              rw [hfinish _ rfl, hfinish _ rfl]
              exact ⟨rfl, l₂, _, _, rfl, rfl⟩

/-! ## The two loads -/

theorem fallsBack_load {forced : Option Text} (hfails : MarkdownFails engines request)
    (hforced : Source.forcesLatex forced = true) (session : Session) :
    ∃ source, (engines.fetch request.paper).result = .ok source ∧
      FallsBack engines session.opened (engines.latex (latexSource source)).result
        (load engines request session)
        (load engines { request with renderer := forced } session) := by
  obtain ⟨hfree, source, message, hsource, hmessage⟩ := hfails
  refine ⟨source, hsource, ?_⟩
  unfold load
  simp only [hsource]
  apply FallsBack.after
  cases (loadBibliography engines request.bibliography).1 with
  | error message => exact .failed rfl rfl nofun
  | ok entries =>
      have hfails : renderMarkdown engines.markdown
          (citationsOf entries (Latex.body source)).numbers (Latex.body source) =
            .error message := hmessage
      simp only [renderPaper, loadByMarkdown, hfree, hforced, hfails, if_true, Bool.false_eq_true,
        if_false, Load.after_after]
      apply FallsBack.after
      exact fallsBack_loadByLatex engines entries (citationsOf entries (Latex.body source))
        (Latex.body source) session.opened

theorem apart_opened (hpage : session.page = l.page) (h : Without isMain l.head) :
    ∃ l' : Layout, session.opened.page = l'.page ∧ l'.Apart := by
  have hempty : Without isMain (parsed emptyPanel) := by
    rw [parsed_of_parse Layout.parse_emptyPanel]
    refine without_emptyPanelNodes.mono fun tag htag => ?_
    rw [isOwn_eq, isFrame_of_isMain htag, Bool.true_or]
  obtain ⟨l₁, hpanel, hhead₁⟩ := Layout.exists_setPanel hempty h
  obtain ⟨l₂, hremove, hhead₂⟩ := Layout.exists_remove_of_main hhead₁
  refine ⟨{ l₂ with status := [.text .prose loadingStatus] }, ?_, hhead₂, rfl⟩
  rw [Session.opened, hpage, Page.resetPanel, hpanel, hremove, Layout.setStatus_page hhead₂]

/-- A load in which Markdown fails answers as one that was asked for LaTeX, but for the status and
the flag of a fallback.  If LaTeX fails as well, nothing differs at all.  Else the same is on the
page outside the status line, if that and the content are found where the frame has them. -/
theorem fallback_agrees_with_latex {forced : Option Text} (hfails : MarkdownFails engines request)
    (hforced : Source.forcesLatex forced = true) (session : Session) :
    let fallen := load engines request session
    let chosen := load engines { request with renderer := forced } session
    fallen.result = chosen.result.map Outcome.fallenBack ∧
    fallen.session.assetsAttached = chosen.session.assetsAttached ∧
    ((∃ source message, (engines.fetch request.paper).result = .ok source ∧
        (engines.latex (latexSource source)).result = .error message) ∨
      (∀ outcome, chosen.result = .ok outcome → outcome.isOk = false) →
        fallen.session = chosen.session ∧ fallen.result = chosen.result) ∧
    ∀ l : Layout, session.page = l.page → Without isMain l.head →
      Without isMain (assetNodes engines) →
        fallen.session.panel = chosen.session.panel ∧
        findAmong? (Tag.isNamed "head") fallen.session.page.nodes =
          findAmong? (Tag.isNamed "head") chosen.session.page.nodes ∧
        ∀ id, statusId ≠ id → fallen.session.page.find? id = chosen.session.page.find? id := by
  intro fallen chosen
  obtain ⟨source, hsource, hends⟩ := fallsBack_load hfails hforced session
  have hends : FallsBack engines session.opened (engines.latex (latexSource source)).result
      fallen chosen := hends
  clear_value fallen chosen
  cases hends with
  | failed hsession hresult hfailed =>
      refine ⟨?_, by rw [hsession], fun _ => ⟨hsession, hresult⟩, ?_⟩
      · rw [hresult]
        cases hchosen : chosen.result with
        | error message => rfl
        | ok outcome =>
            rw [Except.map, Outcome.fallenBack, hfailed outcome hchosen]
            rfl
      · intro l _ _ _
        rw [hsession]
        exact ⟨rfl, rfl, fun _ _ => rfl⟩
  | rendered hanswer hok hchosen hfallen hattached hparts =>
      refine ⟨?_, hattached, ?_, ?_⟩
      · rw [hfallen, hchosen, Except.map, Outcome.fallenBack, if_pos hok]
      · rintro (⟨source', message, hsource', hmessage⟩ | hfailed)
        · cases hsource.symm.trans hsource'
          cases hanswer.symm.trans hmessage
        · rw [hfailed _ hchosen] at hok
          cases hok
      · intro l hpage hhead hassets
        obtain ⟨l', hopened, happart⟩ := apart_opened hpage hhead
        obtain ⟨hpanel, hsame⟩ := hparts l' hopened happart hassets
        exact ⟨hpanel, hsame.head, fun id hid => hsame.find? hid⟩

/-- Engines that cannot render Markdown, with style sheets and scripts for LaTeX. -/
private def latexWith (assets : String) : Engines :=
  { echoing with
    markdown := fun _ => .error "no Markdown".toList
    assets := .ok (some assets.toList) }

private def automatic : Request := ⟨"core.tex".toList, none, none⟩

theorem fallback_agrees_with_latex_on_empty_page :
    let engines := latexWith "<style>p</style>"
    let session : Session := { page := Page.empty "Paper".toList }
    let fallen := load engines automatic session
    let chosen := load engines { automatic with renderer := some "latex".toList } session
    MarkdownFails engines automatic ∧ Source.forcesLatex (some "latex".toList) = true ∧
      fallen.result = chosen.result.map Outcome.fallenBack ∧
      (∃ outcome, fallen.result = .ok outcome ∧ outcome.fallback = true) ∧
      fallen.session.panel = chosen.session.panel ∧
      fallen.session.page.find? contentId = chosen.session.page.find? contentId := by
  intro engines session fallen chosen
  have hfails : MarkdownFails engines automatic := ⟨rfl, [], "no Markdown".toList, rfl, rfl⟩
  have hforced : Source.forcesLatex (some "latex".toList) = true := by decide
  have hhead : Without isMain (Layout.empty "Paper".toList).head :=
    (sound_empty "Paper".toList).apart.head
  have hassets : Without isMain (assetNodes engines) := by
    have hnone : (tagsAmong (parsed "<style>p</style>".toList)).any isMain = false := by
      decide +kernel
    exact hnone
  have hfallen : ∃ outcome, fallen.result = .ok outcome ∧ outcome.fallback = true := by
    simp only [fallen]
    exact exists_outcome_of_any (by decide +kernel)
  obtain ⟨hresult, -, -, hparts⟩ := fallback_agrees_with_latex hfails hforced session
  obtain ⟨hpanel, -, hfind⟩ :=
    hparts (Layout.empty "Paper".toList) (Layout.page_empty _) hhead hassets
  exact ⟨hfails, hforced, hresult, hfallen, hpanel, hfind contentId ids_differ.1⟩

/-- Where the style sheets and scripts have the identifier of the status line, the status is put
into the head. -/
theorem fallback_head_differs :
    let engines := latexWith "<style id=\"paper-status\"></style>"
    let session : Session := { page := Page.empty "Paper".toList }
    let fallen := load engines automatic session
    let chosen := load engines { automatic with renderer := some "latex".toList } session
    MarkdownFails engines automatic ∧ Source.forcesLatex (some "latex".toList) = true ∧
      findAmong? (Tag.isNamed "head") fallen.session.page.nodes ≠
        findAmong? (Tag.isNamed "head") chosen.session.page.nodes := by
  intro engines session fallen chosen
  have hsession : session = { page := (Layout.empty "Paper".toList).page } := by
    rw [← Layout.page_empty]
  have hfallen : ((findAmong? (Tag.isNamed "head") fallen.session.page.nodes).bind
      (Node.find? (Tag.hasId statusId))).map Node.textContent = some fallbackStatus := by
    simp only [fallen, hsession]
    decide +kernel
  have hchosen : ((findAmong? (Tag.isNamed "head") chosen.session.page.nodes).bind
      (Node.find? (Tag.hasId statusId))).map Node.textContent = some latexStatus := by
    simp only [chosen, hsession]
    decide +kernel
  refine ⟨⟨rfl, [], "no Markdown".toList, rfl, rfl⟩, by decide, fun hsame => ?_⟩
  rw [hsame, hchosen] at hfallen
  revert hfallen
  decide

end Session

end PaperHtml
