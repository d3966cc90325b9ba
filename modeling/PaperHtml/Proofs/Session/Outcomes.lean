import Mathlib
import PaperHtml.Proofs.Session.Containment

/-!
# What a load answers and what the page says

A load answers with an outcome, and the page says the same: the status line
repeats the status, and a paper that could not be rendered leaves its message as
the only content.  The outcomes are of three kinds:

```text
             way        status                          fallback
ByMarkdown   Markdown   Rendered via Markdown           no
ByLatex      LaTeX      Rendered with LaTeX             no
                        Rendered via LaTeX fallback     yes, if Markdown was tried and gave way
Unrendered   none       Failed to load paper            no
```

There is no outcome where LaTeX is rejected once it is rendered.  The page then
still says that the paper is being loaded, and its content is empty.

## Strategy

Which kind it is comes from the ending of the load, which knows no page
(`byMarkdown_or_byLatex`).  The page is followed along the course of the load:
it ends in `fail` or in `finish`, and both write the status that they answer
with.  Nothing is asked of what was on the page before but its frame, so the
result holds after every history, also where loads have failed, engines have
changed, and rendered fragments have identifiers of the page.
-/

namespace PaperHtml.Session

open Html Html.Node Page

/-! ## Kinds of outcomes -/

structure ByMarkdown (request : Request) (outcome : Outcome) : Prop where
  way : outcome.way = some .markdown
  status : outcome.status = markdownStatus
  fallback : outcome.fallback = false
  error : outcome.error = none
  renderer : Source.forcesLatex request.renderer = false

structure ByLatex (engines : Engines) (request : Request) (outcome : Outcome) : Prop where
  way : outcome.way = some .latex
  status : outcome.status = if outcome.fallback then fallbackStatus else latexStatus
  fallback : outcome.fallback = true ↔
    ∃ source, (engines.fetch request.paper).result = .ok source ∧
      MarkdownGivesWay engines request source
  error : outcome.error = none

/-- The paper was not rendered, and the content is the message that says why. -/
structure Unrendered (outcome : Outcome) (session : Session) : Prop where
  way : outcome.way = none
  status : outcome.status = failedStatus
  fallback : outcome.fallback = false
  content : ∃ message, outcome.error = some message ∧
    session.page.find? contentId = some (.element contentTag [errorNode message])
  panel : session.panel = none

variable {engines : Engines} {request : Request} {session : Session}

theorem byMarkdown_or_byLatex {entries : List Bibliography.Entry} {outcome : Outcome}
    {fragment : Text} (h : ending engines request = .rendered entries outcome fragment) :
    ByMarkdown request outcome ∨ ByLatex engines request outcome := by
  have hends := ends engines request
  rw [h] at hends
  cases hends with
  | markdown hsource hfree hmade hparse => exact .inl ⟨rfl, rfl, rfl, rfl, hfree⟩
  | @latex source fragment fallback nodes hlatex hmade hparse =>
      refine .inr ⟨rfl, rfl, ?_, rfl⟩
      cases fallback with
      | true => exact iff_of_true rfl ⟨source, hlatex.read, by simpa using hlatex.way⟩
      | false =>
          refine iff_of_false Bool.false_ne_true ?_
          rintro ⟨_, -, hfree, -⟩
          have hforced : Source.forcesLatex request.renderer = true := by simpa using hlatex.way
          rw [hforced] at hfree
          contradiction

/-! ## The page after a load -/

theorem Framed.status_and_unrendered_fail (h : Framed session.page) (hpanel : session.panel = none)
    (citations : Citations) (message : Text) :
    let outcome : Outcome := { status := failedStatus, error := some message, citations }
    let after := (Session.fail citations message session).session
    after.page.find? statusId = some (.element statusTag [.text .prose outcome.status]) ∧
      Unrendered outcome after := by
  intro outcome after
  obtain ⟨hstatus, hcontent⟩ := h.find?_fail citations message
  exact ⟨hstatus, rfl, rfl, rfl, ⟨message, rfl, hcontent⟩, hpanel⟩

/-- A load that breaks off on LaTeX leaves no content, and a status line that has not been set
since. -/
theorem Framed.find?_reject (h : Framed session.page)
    (hassets : Without isFrame (assetNodes engines)) {session' session'' : Session}
    {attached : Except Text Unit} (htries : TriesLatex session.opened session')
    (hattach : attachAssets engines.assets session' = (attached, session'')) :
    session''.cleared.page.find? statusId =
        some (.element statusTag [.text .prose loadingStatus]) ∧
      session''.cleared.page.find? contentId = some (.element contentTag []) ∧
      session''.cleared.panel = none := by
  obtain ⟨head, hheaded⟩ := h.exists_headed
  obtain ⟨l, hopened, hsteady, -, hstatus⟩ := hheaded.exists_opened
  obtain ⟨l₁, htried, hsteady₁, hstatus₁, hpanel₁⟩ : ∃ l₁ : Layout, session'.page = l₁.page ∧
      l₁.Steady ∧ l₁.status = l.status ∧ session'.panel = none := by
    rcases htries with rfl | rfl
    · exact ⟨l, hopened, hsteady, rfl, rfl⟩
    · exact ⟨_, by rw [cleared, hopened, hsteady.apart.clearContent], hsteady.with_content [], rfl,
        rfl⟩
  obtain ⟨l₂, hattached, hsteady₂, hstatus₂⟩ : ∃ l₂ : Layout, session''.page = l₂.page ∧
      l₂.Steady ∧ l₂.status = l₁.status := by
    rcases attachAssets_cases hattach with ⟨-, rfl, -⟩ | ⟨-, -, -, -, hpage⟩
    · exact ⟨l₁, htried, hsteady₁, rfl⟩
    · exact ⟨_, hpage l₁ htried, hsteady₁.with_head_append hassets, rfl⟩
  have hcleared := (hsteady₂.with_content []).apart
  have hpage : session''.cleared.page = { l₂ with content := [] }.page := by
    rw [cleared, hattached, hsteady₂.apart.clearContent]
  rw [hpage, hcleared.find?_status, hcleared.find?_content, hstatus₂, hstatus₁, hstatus]
  exact ⟨rfl, rfl, (keeps_of_attachAssets hattach).2.trans hpanel₁⟩

/-- One load answers, and the page says the same. -/
theorem Framed.agrees_load (h : Framed session.page)
    (hassets : Without isFrame (assetNodes engines)) {outcome : Outcome}
    (hresult : (Session.load engines request session).result = .ok outcome) :
    let loaded := Session.load engines request session
    loaded.session.page.find? statusId =
        some (.element statusTag [.text .prose outcome.status]) ∧
      (ByMarkdown request outcome ∨ ByLatex engines request outcome ∨
        Unrendered outcome loaded.session) := by
  intro loaded
  obtain ⟨head, hheaded⟩ := h.exists_headed
  have hopened := hheaded.opened
  have hkind {outcome : Outcome} {session : Session}
      (h : ByMarkdown request outcome ∨ ByLatex engines request outcome) :
      ByMarkdown request outcome ∨ ByLatex engines request outcome ∨
        Unrendered outcome session := h.imp_right .inl
  have hunset {session' : Session} (htries : TriesLatex session.opened session') :
      session'.panel = none := by
    rcases htries with rfl | rfl <;> rfl
  have hcourse : Course engines request session.opened loaded := course engines request session
  have hresult : loaded.result = .ok outcome := hresult
  generalize loaded = loaded at hcourse hresult
  cases hcourse with
  | broken events hbroken => cases hresult
  | @failed message citations _ events htries hending =>
      cases hresult
      obtain ⟨hstatus, hunrendered⟩ := (hopened.tries htries).2.framed.status_and_unrendered_fail
        (hunset htries) citations message
      exact ⟨hstatus, .inr (.inr hunrendered)⟩
  | @unattached message _ _ events htries hlatex hattach =>
      cases hresult
      have hframed := ((hopened.tries htries).2.attachAssets hassets hattach).framed
      have hpanel := (keeps_of_attachAssets hattach).2.trans (hunset htries)
      obtain ⟨hstatus, hunrendered⟩ :=
        hframed.status_and_unrendered_fail hpanel (ending engines request).citations message
      exact ⟨hstatus, .inr (.inr hunrendered)⟩
  | rejected events htries hending hattach => cases hresult
  | @markdown entries _ fragment events hending =>
      cases hresult
      obtain ⟨-, hstatus, -⟩ := hopened.finish engines.setter entries outcome fragment
      exact ⟨hstatus, hkind (byMarkdown_or_byLatex hending)⟩
  | @latex entries _ fragment _ _ events htries hending hway hattach =>
      cases hresult
      obtain ⟨-, hstatus, -⟩ := ((hopened.tries htries).2.attachAssets hassets hattach).finish
        engines.setter entries outcome fragment
      exact ⟨hstatus, hkind (byMarkdown_or_byLatex hending)⟩

/-- What a load without an outcome leaves, if its sources can be asked for. -/
theorem Framed.find?_of_breaksOff (h : Framed session.page)
    (hassets : Without isFrame (assetNodes engines))
    (hneeds : ∀ message, ¬ NeedsInvalid engines request message)
    (hbreaks : BreaksOff engines request session.assetsAttached) :
    let loaded := Session.load engines request session
    loaded.session.page.find? statusId =
        some (.element statusTag [.text .prose loadingStatus]) ∧
      loaded.session.page.find? contentId = some (.element contentTag []) ∧
      loaded.session.panel = none := by
  intro loaded
  have hnone (outcome : Outcome) : loaded.result ≠ .ok outcome := fun hresult =>
    (exists_outcome_load_iff.mp ⟨outcome, hresult⟩).2 hbreaks
  have hcourse : Course engines request session.opened loaded := course engines request session
  generalize loaded = loaded at hcourse hnone
  cases hcourse with
  | broken events hbroken => exact absurd hbroken (hneeds _)
  | rejected events htries hending hattach => exact h.find?_reject hassets htries hattach
  | failed | unattached | markdown | latex => exact absurd rfl (hnone _)

/-- After any history in which every load has engines of its own, a load has an outcome unless
LaTeX is rejected once it is rendered.  The outcome is of just one of the three kinds, and the page
says the same; without one the page says that the paper is being loaded, and has no content. -/
theorem outcome_agrees_with_page (title : Text) (history : List (Engines × Action))
    (engines : Engines) (request : Request)
    (hhistory : ∀ step ∈ history, Without isFrame (assetNodes step.1))
    (hassets : Without isFrame (assetNodes engines))
    (hfetch : ∀ source message, (engines.fetch source).result ≠ .error (.invalid message)) :
    let used := runWith history { page := Page.empty title }
    let loaded := load engines request used
    ((∃ outcome, loaded.result = .ok outcome) ↔
      ¬ BreaksOff engines request used.assetsAttached) ∧
    (∀ outcome, loaded.result = .ok outcome →
      loaded.session.page.find? statusId =
        some (.element statusTag [.text .prose outcome.status]) ∧
      (ByMarkdown request outcome ∨ ByLatex engines request outcome ∨
        Unrendered outcome loaded.session) ∧
      ¬ (ByMarkdown request outcome ∧ ByLatex engines request outcome) ∧
      ¬ (ByMarkdown request outcome ∧ Unrendered outcome loaded.session) ∧
      ¬ (ByLatex engines request outcome ∧ Unrendered outcome loaded.session)) ∧
    (BreaksOff engines request used.assetsAttached →
      loaded.session.page.find? statusId =
        some (.element statusTag [.text .prose loadingStatus]) ∧
      loaded.session.page.find? contentId = some (.element contentTag []) ∧
      loaded.session.panel = none) := by
  intro used loaded
  have hframed : Framed used.page :=
    @Framed.runWith { page := Page.empty title } (framed_empty title) history hhistory
  have hneeds := @not_needsInvalid engines request hfetch
  refine ⟨?_, fun outcome hresult => ?_, hframed.find?_of_breaksOff hassets hneeds⟩
  · rw [exists_outcome_load_iff, and_iff_right hneeds]
  · obtain ⟨hstatus, hkind⟩ := hframed.agrees_load hassets hresult
    refine ⟨hstatus, hkind, ?_, ?_, ?_⟩
    · rintro ⟨hmarkdown, hlatex⟩
      cases hmarkdown.way.symm.trans hlatex.way
    · rintro ⟨hmarkdown, hunrendered⟩
      cases hmarkdown.way.symm.trans hunrendered.way
    · rintro ⟨hlatex, hunrendered⟩
      cases hlatex.way.symm.trans hunrendered.way

/-- Engines that render LaTeX only. -/
private def latexOnly : Engines :=
  { echoing with markdown := fun _ => .error "no Markdown".toList }

/-- Engines that render nothing. -/
private def failing : Engines :=
  { latexOnly with latex := fun _ => ⟨.error "no LaTeX".toList, []⟩ }

/-- After a load that failed and a click, Markdown fails once more, but LaTeX does not. -/
theorem outcome_agrees_with_page_fallback :
    let request : Request := ⟨"core.tex".toList, none, none⟩
    let history : List (Engines × Action) :=
      [(failing, .load request), (echoing, .click "knuth".toList)]
    let loaded := load latexOnly request (runWith history { page := Page.empty "Paper".toList })
    (∀ step ∈ history, Without isFrame (assetNodes step.1)) ∧
      MarkdownGivesWay latexOnly request [] ∧
      ∃ outcome, loaded.result = .ok outcome ∧ ByLatex latexOnly request outcome ∧
        outcome.status = fallbackStatus ∧
        loaded.session.page.find? statusId =
          some (.element statusTag [.text .prose fallbackStatus]) := by
  intro request history loaded
  have hhistory : ∀ step ∈ history, Without isFrame (assetNodes step.1) := by
    intro step hstep
    simp only [history, List.mem_cons, List.not_mem_nil, or_false] at hstep
    rcases hstep with rfl | rfl <;> rfl
  have hgives : MarkdownGivesWay latexOnly request [] := ⟨rfl, nofun⟩
  obtain ⟨-, hagrees, -⟩ := outcome_agrees_with_page "Paper".toList history latexOnly request
    hhistory rfl (fun _ _ => nofun)
  obtain ⟨outcome, hresult, hway⟩ : ∃ outcome, loaded.result = .ok outcome ∧
      decide (outcome.way = some .latex) = true := exists_outcome_of_any (by decide +kernel)
  have hway := of_decide_eq_true hway
  obtain ⟨hstatus, hkind, -⟩ := hagrees outcome hresult
  have hlatex : ByLatex latexOnly request outcome := by
    rcases hkind with hmarkdown | hlatex | hunrendered
    · cases hway.symm.trans hmarkdown.way
    · exact hlatex
    · cases hway.symm.trans hunrendered.way
  have hfallback : outcome.status = fallbackStatus := by
    rw [hlatex.status, if_pos (hlatex.fallback.mpr ⟨[], rfl, hgives⟩)]
  exact ⟨hhistory, hgives, outcome, hresult, hlatex, hfallback, hfallback ▸ hstatus⟩

/-- What begins a marked section of no known kind is rejected.  LaTeX that is rendered so leaves
no outcome, where Markdown that is rendered so gives way. -/
theorem load_rejected_latex :
    let rejecting := { latexOnly with latex := fun _ => ⟨.ok "<![x>".toList, []⟩ }
    let givingWay := { echoing with markdown := fun _ => .ok "<![x>".toList }
    let result (engines : Engines) := (load engines ⟨"core.tex".toList, none, none⟩ new).result
    (∀ outcome, result rejecting ≠ .ok outcome) ∧
      ∃ outcome, result givingWay = .ok outcome ∧ outcome.fallback = true := by
  intro rejecting givingWay result
  constructor
  · intro outcome hresult
    have hnone : (result rejecting).toOption.isNone = true := by decide +kernel
    rw [hresult] at hnone
    exact Bool.false_ne_true hnone
  · exact exists_outcome_of_any (by decide +kernel)

end PaperHtml.Session
