import Mathlib
import PaperHtml.Proofs.Page.Steady
import PaperHtml.Proofs.Session.History

/-!
# Pages with rendered fragments of any kind

Rendered fragments may hold anything, identifiers of the page included, and so
may what the formulas are set as.  The side panel and the details for the
browser can then be anywhere in the content.  But the frame stays: the status
line and the content are found, and the head changes only when the style sheets
and scripts for LaTeX are attached.

## Strategy

The layout of the page is only known to be steady (`Framed`); `Headed` says what
is in the head besides.  Each stage of a load keeps both, so one action does
(`Headed.act`), whatever its engines, and a history in which every action has
engines of its own (`Framed.runWith`).
-/

namespace PaperHtml.Session

open Html Html.Node Page

/-- The page has a steady layout. -/
def Framed (page : Page) : Prop := ∃ l : Layout, page = l.page ∧ l.Steady

/-- The page has a steady layout, with these nodes in the head besides what the page makes for
itself. -/
def Headed (head : List Node) (page : Page) : Prop :=
  ∃ l : Layout, page = l.page ∧ l.Steady ∧ pruned isExtra l.head = head

variable {engines : Engines} {session : Session} {head : List Node}

theorem Headed.framed {page : Page} (h : Headed head page) : Framed page := by
  obtain ⟨l, hpage, hsteady, -⟩ := h
  exact ⟨l, hpage, hsteady⟩

theorem Framed.exists_headed {page : Page} (h : Framed page) : ∃ head, Headed head page := by
  obtain ⟨l, hpage, hsteady⟩ := h
  exact ⟨_, l, hpage, hsteady, rfl⟩

theorem headed_empty (title : Text) : Headed (Layout.emptyHead title) (Page.empty title) :=
  ⟨Layout.empty title, Layout.page_empty title, (sound_empty title).toSteady,
    pruned_of_without_isOwn (without_append.mp (without_isOwn_empty title)).1⟩

theorem framed_empty (title : Text) : Framed (Page.empty title) := (headed_empty title).framed

/-! ## The stages of a load -/

theorem Headed.detail (h : Headed head session.page) (panel : Panel) (key : Text) :
    Headed head (panel.click key session.page) := by
  obtain ⟨l, hpage, hsteady, rfl⟩ := h
  obtain ⟨l', hpanel, hsteady', hhead⟩ := hsteady.exists_setPanel (panel.detailFor key)
  rw [hpage]
  exact ⟨l', hpanel, hsteady', by rw [hhead]⟩

/-- At the beginning of a load the status line says that it goes on. -/
theorem Headed.exists_opened (h : Headed head session.page) :
    ∃ l : Layout, session.opened.page = l.page ∧ l.Steady ∧ pruned isExtra l.head = head ∧
      l.status = [.text .prose loadingStatus] := by
  obtain ⟨l, hpage, hsteady, rfl⟩ := h
  obtain ⟨l₁, hpanel, hsteady₁, hhead⟩ := hsteady.exists_setPanel emptyPanel
  obtain ⟨l₂, hremove, hkeeps, -⟩ := Layout.exists_remove l₁
  have hreset : l₁.page.remove dataId = l₂.page :=
    hremove.page (hsteady₁.apart.status_without (by simp [ownIds])) hkeeps.status
  have hsteady₂ := hsteady₁.of_keeps hkeeps
  refine ⟨_, ?_, hsteady₂.with_status loadingStatus, ?_, rfl⟩
  · rw [Session.opened, hpage, Page.resetPanel, hpanel, hreset,
      Layout.setStatus_page hsteady₂.apart.head]
  · rw [← hhead]
    exact Layout.pruned_head_of_outer hkeeps.pruned

theorem Headed.opened (h : Headed head session.page) : Headed head session.opened.page := by
  obtain ⟨l, hpage, hsteady, hhead, -⟩ := h.exists_opened
  exact ⟨l, hpage, hsteady, hhead⟩

theorem Framed.opened (h : Framed session.page) : Framed session.opened.page := by
  obtain ⟨head, hheaded⟩ := h.exists_headed
  exact hheaded.opened.framed

theorem Headed.cleared (h : Headed head session.page) : Headed head session.cleared.page := by
  obtain ⟨l, hpage, hsteady, hhead⟩ := h
  exact ⟨_, by rw [Session.cleared, hpage, hsteady.apart.clearContent], hsteady.with_content [],
    hhead⟩

theorem Headed.tries (h : Headed head session.page) {session' : Session}
    (htries : TriesLatex session session') :
    session'.assetsAttached = session.assetsAttached ∧ Headed head session'.page := by
  rcases htries with rfl | rfl
  · exact ⟨rfl, h⟩
  · exact ⟨rfl, h.cleared⟩

theorem Headed.fail (h : Headed head session.page) (citations : Citations) (message : Text) :
    Headed head (Session.fail citations message session).session.page := by
  obtain ⟨l, hpage, hsteady, hhead⟩ := h
  have hstatus := hsteady.with_status failedStatus
  obtain ⟨shown, hshown, hsteady', hhead'⟩ :
      ∃ shown : Layout, Page.showError message (Layout.page _) = shown.page ∧ shown.Steady ∧
        shown.head = l.head :=
    ⟨_, hstatus.apart.setContent _, hstatus.with_content _, rfl⟩
  refine ⟨shown, ?_, hsteady', hhead' ▸ hhead⟩
  show (session.page.setStatus failedStatus).showError message = _
  rw [hpage, Layout.setStatus_page hsteady.apart.head, hshown]

/-- What comes to the head when the style sheets and scripts are asked for between two
sessions. -/
def newAssets (engines : Engines) (before after : Session) : List Node :=
  if before.assetsAttached = after.assetsAttached then [] else pruned isExtra (assetNodes engines)

theorem newAssets_self (engines : Engines) (session : Session) :
    newAssets engines session session = [] := if_pos rfl

theorem Headed.attachAssets (h : Headed head session.page)
    (hassets : Without isFrame (assetNodes engines))
    {attached : Except Text Unit} {session' : Session}
    (hattach : Session.attachAssets engines.assets session = (attached, session')) :
    Headed (head ++ newAssets engines session session') session'.page := by
  rcases attachAssets_cases hattach with ⟨-, rfl, -⟩ | ⟨hbefore, hafter, -, -, hpage⟩
  · rwa [newAssets_self, List.append_nil]
  · obtain ⟨l, hl, hsteady, rfl⟩ := h
    refine ⟨_, hpage l hl, hsteady.with_head_append hassets, ?_⟩
    rw [newAssets, hbefore, hafter, if_neg Bool.false_ne_true, pruned_append]

/-- The content of a page is what was rendered, but for an element that may have given way to the
details for the browser. -/
def Holds (rendered : List Node) (page : Page) : Prop :=
  page.childrenOf contentId = rendered ∨
    removeAmong? (Tag.hasId dataId) rendered = some (page.childrenOf contentId)

theorem Headed.finish (h : Headed head session.page) (setter : Option Setter)
    (entries : List Bibliography.Entry) (outcome : Outcome) (fragment : Text) :
    let page := (Session.finish setter entries outcome fragment session).session.page
    Headed head page ∧
      page.find? statusId = some (.element statusTag [.text .prose outcome.status]) ∧
      Holds (renderedContent setter entries outcome.citations fragment) page := by
  intro page
  obtain ⟨l, hpage, hsteady, rfl⟩ := h
  have hfilled := (hsteady.with_status outcome.status).with_content
    (renderedContent setter entries outcome.citations fragment)
  obtain ⟨l', htakes, hkeeps, hcontent⟩ := Layout.exists_embed
    { l with
      status := [.text .prose outcome.status]
      content := renderedContent setter entries outcome.citations fragment }
    (Panel.ofReferences outcome.citations.references)
  have hsteady' := hfilled.of_keeps hkeeps
  have hpage' : page = l'.page := by
    show (Session.finish setter entries outcome fragment session).session.page = l'.page
    rw [finish_page, hpage, filled_page hsteady.apart, htakes.page hfilled.status hkeeps.status]
  have hchildren : l'.page.childrenOf contentId = l'.content := by
    rw [Page.childrenOf, hsteady'.apart.find?_content]
  rw [hpage', Holds, hchildren, hsteady'.apart.find?_status, hkeeps.status]
  exact ⟨⟨l', rfl, hsteady', Layout.pruned_head_of_outer hkeeps.pruned⟩, rfl, hcontent⟩

/-! ## A load and a history -/

theorem Headed.load (h : Headed head session.page) (hassets : Without isFrame (assetNodes engines))
    (request : Request) :
    let after := (Session.load engines request session).session
    Headed (head ++ newAssets engines session after) after.page := by
  have hopened := h.opened
  have hcourse := course engines request session
  generalize Session.load engines request session = loaded at hcourse
  have hkept {session' : Session} (htries : TriesLatex session.opened session') :
      Headed (head ++ newAssets engines session session') session'.page := by
    obtain ⟨hasked, htried⟩ := hopened.tries htries
    have hasked : session.assetsAttached = session'.assetsAttached := hasked.symm
    rwa [newAssets, if_pos hasked, List.append_nil]
  have hattached {session' session'' : Session} {attached : Except Text Unit}
      (htries : TriesLatex session.opened session')
      (hattach : Session.attachAssets engines.assets session' = (attached, session'')) :
      Headed (head ++ newAssets engines session session'') session''.page := by
    obtain ⟨hasked, htried⟩ := hopened.tries htries
    have hasked : session'.assetsAttached = session.assetsAttached := hasked
    have hafter := htried.attachAssets hassets hattach
    rwa [newAssets, hasked] at hafter
  cases hcourse with
  | broken events hbroken => exact hkept (.inl rfl)
  | @failed message citations _ events htries hending =>
      exact (hkept htries).fail citations message
  | @unattached message _ _ events htries hlatex hattach =>
      exact (hattached htries hattach).fail (ending engines request).citations message
  | rejected events htries hending hattach => exact (hattached htries hattach).cleared
  | @markdown entries outcome fragment events hending =>
      exact ((hkept (.inl rfl)).finish engines.setter entries outcome fragment).1
  | @latex entries outcome fragment _ _ events htries hending hway hattach =>
      exact ((hattached htries hattach).finish engines.setter entries outcome fragment).1

theorem Headed.act (h : Headed head session.page) (hassets : Without isFrame (assetNodes engines))
    (action : Action) :
    let after := Session.act engines session action
    Headed (head ++ newAssets engines session after) after.page := by
  have hsame : Headed (head ++ newAssets engines session session) session.page := by
    rwa [newAssets_self, List.append_nil]
  have hdetail (panel : Panel) (key : Text) :
      Headed (head ++ newAssets engines session session) (panel.click key session.page) :=
    hsame.detail panel key
  cases action with
  | load request => exact h.load hassets request
  | click key =>
      rw [Session.act, Session.click]
      split
      · exact hdetail _ key
      · exact hsame
  | detail panel key => exact hdetail panel key

theorem Framed.runWith (h : Framed session.page) (history : List (Engines × Action))
    (hassets : ∀ step ∈ history, Without isFrame (assetNodes step.1)) :
    Framed (Session.runWith history session).page := by
  induction history generalizing session with
  | nil => exact h
  | cons step history ih =>
      obtain ⟨hstep, hrest⟩ := List.forall_mem_cons.mp hassets
      obtain ⟨head, hheaded⟩ := h.exists_headed
      exact ih (hheaded.act hstep step.2).framed hrest

theorem Framed.run (h : Framed session.page) (hassets : Without isFrame (assetNodes engines))
    (history : List Action) : Framed (Session.run engines history session).page := by
  rw [run_eq_runWith]
  refine h.runWith _ fun step hstep => ?_
  obtain ⟨action, -, rfl⟩ := List.mem_map.mp hstep
  exact hassets

/-- A load that succeeds leaves what was rendered. -/
theorem Framed.holds_of_load (h : Framed session.page)
    (hassets : Without isFrame (assetNodes engines)) {request : Request} {outcome : Outcome}
    (hresult : (Session.load engines request session).result = .ok outcome)
    (hok : outcome.isOk = true) :
    ∃ entries fragment, ending engines request = .rendered entries outcome fragment ∧
      Holds (renderedContent engines.setter entries outcome.citations fragment)
        (Session.load engines request session).session.page := by
  obtain ⟨head, hheaded⟩ := h.exists_headed
  obtain ⟨entries, fragment, ready, hready, hending, hsession⟩ := exists_finish_of_load hresult hok
  obtain ⟨head', hbefore⟩ : ∃ head', Headed head' ready.page := by
    rcases hready with rfl | ⟨before, htries, hattach⟩
    · exact ⟨_, hheaded.opened⟩
    · exact ⟨_, (hheaded.opened.tries htries).2.attachAssets hassets hattach⟩
  rw [hsession]
  exact ⟨entries, fragment, hending, (hbefore.finish engines.setter entries outcome fragment).2.2⟩

end PaperHtml.Session
