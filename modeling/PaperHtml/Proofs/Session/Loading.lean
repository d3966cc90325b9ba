import Mathlib
import PaperHtml.Proofs.Math.Setting
import PaperHtml.Proofs.Page.Empty
import PaperHtml.Proofs.Reference.Annotation
import PaperHtml.Proofs.Session.Ending

/-!
# The stages of a load on the page

Every stage of a load keeps the layout of the page sound, and the whole load
leaves what its ending says.
-/

namespace PaperHtml.Session

open Html Html.Node Page

/-! ## Engines and sessions -/

/-- The nodes of the style sheets and scripts for papers rendered as LaTeX. -/
def assetNodes (engines : Engines) : List Node :=
  match engines.assets with
  | .ok (some source) => parsed source
  | _ => []

/-- The paper of a request is rendered, with its formulas set, without an identifier of the page. -/
def KeepsOff (engines : Engines) (request : Request) : Prop :=
  ∀ entries outcome fragment, ending engines request = .rendered entries outcome fragment →
    Without isOwn (typeset engines.setter (parsed fragment))

/-- With a converter it is enough that neither what is rendered nor what formulas become has an
identifier of the page. -/
theorem keepsOff_of_converter {engines : Engines} {request : Request} {convert : Math.Converter}
    (hsetter : engines.setter = some (setterOf convert))
    (hconvert : Math.ConvertsWithout convert isOwn)
    (hfragment : ∀ entries outcome fragment,
      ending engines request = .rendered entries outcome fragment →
        Without isOwn (parsed fragment)) : KeepsOff engines request := by
  intro entries outcome fragment hending
  unfold typeset
  rw [hsetter]
  exact Math.without_setBelow hconvert _ (hfragment entries outcome fragment hending)

/-- The page of a session has a sound layout, and its head is the head of an empty page but for
what the page makes for itself and the style sheets and scripts, once they are attached. -/
structure Laid (engines : Engines) (title : Text) (session : Session) (l : Layout) : Prop where
  page : session.page = l.page
  sound : l.Sound
  head : pruned isExtra l.head =
    Layout.emptyHead title ++ if session.assetsAttached then Session.assetNodes engines else []

variable {engines : Engines} {request : Request} {title : Text} {session : Session} {l : Layout}

theorem pruned_of_without_isOwn {nodes : List Node} (h : Without isOwn nodes) :
    pruned isExtra nodes = nodes := by
  apply (h.mono _).pruned_eq
  intro tag htag
  rw [isOwn_eq, htag, Bool.or_true]

/-- A session that nothing has been done in is laid out as an empty page. -/
theorem laid_empty (engines : Engines) (title : Text) :
    Laid engines title { page := Page.empty title } (Layout.empty title) := by
  refine ⟨Layout.page_empty title, sound_empty title, ?_⟩
  rw [pruned_of_without_isOwn (without_append.mp (without_isOwn_empty title)).1]
  exact (List.append_nil _).symm

/-- A load answers with the result of an ending and leaves what that says. -/
def EndsAs (engines : Engines) (title : Text) (ending : Ending) (load : Load) : Prop :=
  load.result = ending.result ∧
    ∃ l, Laid engines title load.session l ∧ Shows engines.setter ending l

theorem EndsAs.after {ending : Ending} {load : Load} (h : EndsAs engines title ending load)
    (events : List Event) : EndsAs engines title ending (load.after events) := h

/-! ## The beginning and the end of a load -/

/-- The page of a session in the middle of a load: nothing of the last load is in the panel and
behind the page. -/
structure Underway (engines : Engines) (title : Text) (session : Session) (l : Layout) : Prop
    extends Laid engines title session l where
  status : l.status = [.text .prose loadingStatus]
  panel : l.panel = Layout.emptyPanelNodes
  data : Without (Tag.hasId dataId) l.outer

theorem Laid.opened (h : Laid engines title session l) :
    ∃ l', Underway engines title session.opened l' := by
  obtain ⟨l₁, hreset, hsound, halike, hnone⟩ := h.sound.exists_resetPanel
  refine ⟨{ l₁ with status := [.text .prose loadingStatus] }, ⟨?_, hsound.with_status _, ?_⟩,
    rfl, halike.panel, hnone⟩
  · rw [Session.opened, h.page, hreset, Layout.setStatus_page hsound.apart.head]
  · exact halike.head.trans h.head

theorem Underway.fail (h : Underway engines title session l) (citations : Citations)
    (message : Text) :
    EndsAs engines title (.failed message citations) (Session.fail citations message session) := by
  let shown : Layout :=
    { l with
      status := [.text .prose failedStatus]
      content := Markup.built [] [] [errorMarkup message] }
  have hstatus := h.sound.with_status failedStatus
  have hsound : shown.Sound := hstatus.with_content (without_error message)
  have hpage : (session.page.setStatus failedStatus).showError message = shown.page := by
    rw [h.page, Layout.setStatus_page h.sound.apart.head, Page.showError,
      hstatus.apart.setContent, parsed_of_parse (parse_error message)]
  exact ⟨rfl, shown, ⟨hpage, hsound, h.head⟩, rfl, rfl, h.panel, h.data.findAmong?_eq_none⟩

/-- Where the content is taken away, nothing else changes. -/
theorem Underway.cleared (h : Underway engines title session l) :
    Underway engines title session.cleared { l with content := [] } where
  page := by rw [Session.cleared, h.page, h.sound.apart.clearContent]
  sound := h.sound.with_content without_nil
  head := h.head
  status := h.status
  panel := h.panel
  data := h.data

theorem Underway.reject (h : Underway engines title session l) (citations : Citations)
    (why : Rejection) (events : List Event) :
    EndsAs engines title (.rejected why citations)
      ⟨session.cleared, events, .error (.markup why)⟩ :=
  ⟨rfl, _, h.cleared.toLaid, h.status, rfl, h.panel, h.data.findAmong?_eq_none⟩

theorem Underway.tries (h : Underway engines title session l) {session' : Session}
    (htries : TriesLatex session session') :
    session'.assetsAttached = session.assetsAttached ∧
      ∃ l', Underway engines title session' l' := by
  rcases htries with rfl | rfl
  · exact ⟨rfl, l, h⟩
  · exact ⟨rfl, _, h.cleared⟩

/-- The first time style sheets and scripts are asked for, what the engines answer comes to the end
of the head. -/
theorem attachAssets_of_not_attached (h : session.assetsAttached = false) :
    ∃ page, Session.attachAssets engines.assets session =
        (assetsAnswer engines, { session with assetsAttached := true, page }) ∧
      ∀ l : Layout, session.page = l.page →
        page = { l with head := l.head ++ assetNodes engines }.page := by
  have hsame (hnone : assetNodes engines = []) (l : Layout) (hpage : session.page = l.page) :
      session.page = { l with head := l.head ++ assetNodes engines }.page := by
    rw [hnone, List.append_nil, hpage]
  have hnot : ¬ session.assetsAttached = true := by simp [h]
  rw [Session.attachAssets, if_neg hnot]
  cases hanswer : engines.assets with
  | error message =>
      refine ⟨session.page, ?_, hsame (by rw [assetNodes, hanswer])⟩
      rw [assetsAnswer, hanswer]
  | ok found =>
      cases found with
      | none =>
          refine ⟨session.page, ?_, hsame (by rw [assetNodes, hanswer])⟩
          rw [assetsAnswer, hanswer]
      | some source =>
          have hnodes : assetNodes engines = parsed source := by rw [assetNodes, hanswer]
          by_cases hempty : source = []
          · refine ⟨session.page, ?_, hsame (by rw [hnodes, hempty]; rfl)⟩
            subst hempty
            simp only [assetsAnswer, hanswer]
            rfl
          · simp only [if_neg hempty, assetsAnswer, hanswer]
            cases hparse : parse source with
            | error why =>
                exact ⟨session.page, rfl, hsame (hnodes.trans (parsed_of_rejected hparse))⟩
            | ok nodes =>
                refine ⟨session.page.appendHead source, rfl, fun l hpage => ?_⟩
                rw [hnodes, ← Layout.appendHead_page, hpage]

/-- The style sheets and scripts have been asked for before, or they are now. -/
theorem attachAssets_cases {attached : Except Text Unit} {session' : Session}
    (h : Session.attachAssets engines.assets session = (attached, session')) :
    (session.assetsAttached = true ∧ session' = session ∧ attached = .ok ()) ∨
      (session.assetsAttached = false ∧ session'.assetsAttached = true ∧
        session'.panel = session.panel ∧ attached = assetsAnswer engines ∧
        ∀ l : Layout, session.page = l.page →
          session'.page = { l with head := l.head ++ assetNodes engines }.page) := by
  cases hattached : session.assetsAttached with
  | true =>
      rw [Session.attachAssets, if_pos hattached] at h
      cases h
      exact .inl ⟨rfl, rfl, rfl⟩
  | false =>
      obtain ⟨page, hattach, hpage⟩ := @attachAssets_of_not_attached engines session hattached
      cases hattach.symm.trans h
      exact .inr ⟨rfl, rfl, rfl, rfl, hpage⟩

theorem keeps_of_attachAssets {attached : Except Text Unit} {session' : Session}
    (h : Session.attachAssets engines.assets session = (attached, session')) :
    session'.assetsAttached = true ∧ session'.panel = session.panel := by
  rcases attachAssets_cases h with ⟨hattached, rfl, -⟩ | ⟨-, hattached, hpanel, -⟩
  · exact ⟨hattached, rfl⟩
  · exact ⟨hattached, hpanel⟩

/-- Style sheets and scripts come to the head once, and nothing else changes. -/
theorem Underway.attachAssets (h : Underway engines title session l)
    (hown : Without isOwn (assetNodes engines)) {attached : Except Text Unit} {session' : Session}
    (hattach : Session.attachAssets engines.assets session = (attached, session')) :
    ∃ l', Underway engines title session' l' := by
  rcases attachAssets_cases hattach with ⟨-, rfl, -⟩ | ⟨hbefore, hafter, -, -, hpage⟩
  · exact ⟨l, h⟩
  · have hdata : Without (Tag.hasId dataId) (assetNodes engines) :=
      hown.mono fun _ => isOwn_of_hasId (by simp [ownIds])
    have hhead := h.head
    rw [hbefore, if_neg Bool.false_ne_true, List.append_nil] at hhead
    refine ⟨{ l with head := l.head ++ assetNodes engines },
      ⟨hpage l h.page, h.sound.with_head_append hown, ?_⟩, h.status, h.panel, ?_⟩
    · rw [pruned_append, hhead, pruned_of_without_isOwn hown, hafter, if_pos rfl]
    · exact Layout.without_head_append h.data hdata

/-- Where style sheets and scripts are asked for and cannot be had, a load fails. -/
theorem endingIn_of_unattached {message : Text} {session' : Session}
    (h : (ending engines request).isLatex = true)
    (hattach : Session.attachAssets engines.assets session = (.error message, session')) :
    endingIn engines request session.assetsAttached =
      .failed message (ending engines request).citations := by
  rcases attachAssets_cases hattach with ⟨-, -, hok⟩ | ⟨hbefore, -, -, hanswer, -⟩
  · cases hok
  · simp only [endingIn, h, hbefore, ← hanswer, Bool.not_false, Bool.and_true]

theorem endingIn_of_attached {session' : Session}
    (hattach : Session.attachAssets engines.assets session = (.ok (), session')) :
    endingIn engines request session.assetsAttached = ending engines request := by
  rcases attachAssets_cases hattach with ⟨hbefore, -, -⟩ | ⟨-, -, -, hanswer, -⟩
  · simp only [endingIn, hbefore, Bool.not_true, Bool.and_false]
  · rw [endingIn, ← hanswer]
    cases (ending engines request).isLatex && !session.assetsAttached <;> rfl

theorem endingIn_of_not_isLatex (h : (ending engines request).isLatex = false) (asked : Bool) :
    endingIn engines request asked = ending engines request := by
  simp only [endingIn, h, Bool.false_and]

theorem isLatex_of_markdown {entries : List Bibliography.Entry} {outcome : Outcome}
    {fragment : Text} (h : ending engines request = .rendered entries outcome fragment)
    (hway : outcome.way = some .markdown) : (ending engines request).isLatex = false := by
  rw [h, Ending.isLatex, hway]
  rfl

theorem setFormulas_page (h : l.Apart) (setter : Option Setter) :
    (setFormulas setter l.page).1 = { l with content := typeset setter l.content }.page := by
  cases setter with
  | none => rfl
  | some setter =>
      have hupdate := @Layout.updateAmong?_content l SettingAnswer
        (fun around children => (setter around children, (setter around children).nodes))
        (h.head_without (by simp)) (h.status_without (by simp [ownIds, frameIds]))
      simp only [setFormulas, Page.change, Layout.page, hupdate]
      rfl

theorem without_annotate (order : List Text) {nodes : List Node} (h : Without isOwn nodes) :
    Without isOwn (Reference.annotate order nodes).2 := by
  have hsame : isOwn ∘ Reference.annotateTag order = isOwn := by
    funext tag
    simp only [Function.comp_apply, isOwn, Reference.hasId_annotateTag]
  rwa [Without, Reference.tagsAmong_annotate, List.any_map, hsame]

theorem without_renderedContent {fragment : Text}
    (hfragment : Without isOwn (typeset engines.setter (parsed fragment)))
    (entries : List Bibliography.Entry) (citations : Citations) :
    Without isOwn (renderedContent engines.setter entries citations fragment) := by
  have hannotated := without_annotate citations.order hfragment
  rw [renderedContent]
  split
  · rwa [List.append_nil]
  · exact without_append.mpr ⟨hannotated, without_listing _⟩

/-- The page with its content at the end of a load on one of the ways. -/
def filled (setter : Option Setter) (entries : List Bibliography.Entry) (outcome : Outcome)
    (fragment : Text) (page : Page) : Page :=
  let page := (setFormulas setter ((page.setContent fragment).setStatus outcome.status)).1
  let page := annotateContent outcome.citations.order page
  if entries.isEmpty then page
  else page.appendContent (Reference.listing outcome.citations.references)

theorem finish_page (setter : Option Setter) (entries : List Bibliography.Entry)
    (outcome : Outcome) (fragment : Text) (session : Session) :
    (Session.finish setter entries outcome fragment session).session.page =
      (Panel.ofReferences outcome.citations.references).embed
        (filled setter entries outcome fragment session.page) := rfl

theorem assetsAttached_finish (setter : Option Setter) (entries : List Bibliography.Entry)
    (outcome : Outcome) (fragment : Text) (session : Session) :
    (Session.finish setter entries outcome fragment session).session.assetsAttached =
      session.assetsAttached := rfl

theorem result_finish (setter : Option Setter) (entries : List Bibliography.Entry)
    (outcome : Outcome) (fragment : Text) (session : Session) :
    (Session.finish setter entries outcome fragment session).result = .ok outcome := rfl

/-- Nothing but the status line and the content is new. -/
theorem filled_page (h : l.Apart) (setter : Option Setter) (entries : List Bibliography.Entry)
    (outcome : Outcome) (fragment : Text) :
    filled setter entries outcome fragment l.page =
      { l with
        status := [.text .prose outcome.status]
        content := renderedContent setter entries outcome.citations fragment }.page := by
  have hset := h.with_content (parsed fragment)
  have hstatus := hset.with_status outcome.status
  have htypeset := hstatus.with_content (typeset setter (parsed fragment))
  have hannotated := htypeset.with_content
    (Reference.annotate outcome.citations.order (typeset setter (parsed fragment))).2
  have hpage : annotateContent outcome.citations.order
      (setFormulas setter ((l.page.setContent fragment).setStatus outcome.status)).1 =
      { l with
        status := [.text .prose outcome.status]
        content := (Reference.annotate outcome.citations.order
          (typeset setter (parsed fragment))).2 }.page := by
    rw [h.setContent, Layout.setStatus_page hset.head, setFormulas_page hstatus]
    exact htypeset.modify_content fun children =>
      (Reference.annotate outcome.citations.order children).2
  simp only [filled, hpage, renderedContent]
  split
  · rw [List.append_nil]
  · exact hannotated.modify_content fun children =>
      children ++ parsed (Reference.listing outcome.citations.references)

/-- The end of a load on one of the ways leaves the content that was rendered and the details of
its references. -/
theorem Underway.finish (h : Underway engines title session l) {fragment : Text}
    (hfragment : Without isOwn (typeset engines.setter (parsed fragment)))
    (entries : List Bibliography.Entry) (outcome : Outcome) :
    EndsAs engines title (.rendered entries outcome fragment)
      (Session.finish engines.setter entries outcome fragment session) := by
  have hsound := (h.sound.with_status outcome.status).with_content
    (without_renderedContent hfragment entries outcome.citations)
  obtain ⟨l', hembed, hsound', halike, hdata⟩ :=
    hsound.exists_embed (Panel.ofReferences outcome.citations.references)
  refine ⟨rfl, l', ⟨?_, hsound', halike.head.trans h.head⟩,
    halike.status, halike.content, halike.panel.trans h.panel, hdata⟩
  rw [finish_page, h.page, filled_page h.sound.apart, hembed]

/-! ## The whole load -/

/-- A load ends as its ending says, whatever was on the page, if nothing that it brings to the page
has an identifier of the page. -/
theorem Laid.load (h : Laid engines title session l)
    (hfetch : ∀ source message, (engines.fetch source).result ≠ .error (.invalid message))
    (hown : Without isOwn (assetNodes engines)) (hcontent : KeepsOff engines request) :
    EndsAs engines title (endingIn engines request session.assetsAttached)
      (Session.load engines request session) := by
  obtain ⟨l', hopened⟩ := h.opened
  have hcourse := course engines request session
  generalize Session.load engines request session = loaded at hcourse
  have hasked : session.opened.assetsAttached = session.assetsAttached := rfl
  cases hcourse with
  | broken events hbroken => exact absurd hbroken (not_needsInvalid hfetch _)
  | failed events htries hending =>
      obtain ⟨-, _, hlaid⟩ := hopened.tries htries
      rw [endingIn_of_not_isLatex (by rw [hending]; rfl), hending]
      exact (hlaid.fail _ _).after events
  | unattached events htries hlatex hattach =>
      obtain ⟨hsame, _, hlaid⟩ := hopened.tries htries
      obtain ⟨_, hattached⟩ := hlaid.attachAssets hown hattach
      rw [← hasked, ← hsame, endingIn_of_unattached hlatex hattach]
      exact (hattached.fail _ _).after events
  | rejected events htries hending hattach =>
      obtain ⟨hsame, _, hlaid⟩ := hopened.tries htries
      obtain ⟨_, hattached⟩ := hlaid.attachAssets hown hattach
      rw [← hasked, ← hsame, endingIn_of_attached hattach, hending]
      exact hattached.reject _ _ events
  | markdown events hending hway =>
      rw [endingIn_of_not_isLatex (isLatex_of_markdown hending hway), hending]
      exact (hopened.finish (hcontent _ _ _ hending) _ _).after events
  | latex events htries hending hway hattach =>
      obtain ⟨hsame, _, hlaid⟩ := hopened.tries htries
      obtain ⟨_, hattached⟩ := hlaid.attachAssets hown hattach
      rw [← hasked, ← hsame, endingIn_of_attached hattach, hending]
      exact (hattached.finish (hcontent _ _ _ hending) _ _).after events

end PaperHtml.Session
