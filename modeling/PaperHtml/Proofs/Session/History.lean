import Mathlib
import PaperHtml.Math.Markup
import PaperHtml.Proofs.Session.Loading

/-!
# Loads after other loads

A session keeps its page from load to load, and the side panel is clicked in
between.  What a load answers and leaves does not depend on what has been done
before, unless style sheets and scripts for LaTeX cannot be had: they are asked
for once, and count as attached afterwards.

## Strategy

The invariant is `Laid`: some layout of the page is sound, and the head is that
of an empty page with the style sheets and scripts at most once.  One action
preserves it (`Laid.act`), so a history does (`Laid.run`).  From there on a load
ends as its ending says, and the ending does not look at the page.
-/

namespace PaperHtml.Session

open Html Html.Node Page

/-- Something done with a session. -/
inductive Action where
  | load (request : Request)
  | click (key : Text)
  /-- Details shown by a panel, which may be one of an earlier load. -/
  | detail (panel : Panel) (key : Text)

/-- The session after an action. -/
def act (engines : Engines) (session : Session) : Action → Session
  | .load request => (load engines request session).session
  | .click key => session.click key
  | .detail panel key => { session with page := panel.click key session.page }

/-- The session after a history of actions. -/
def run (engines : Engines) (history : List Action) (session : Session) : Session :=
  history.foldl (act engines) session

/-- The session after a history of actions, each with engines of its own. -/
def runWith (history : List (Engines × Action)) (session : Session) : Session :=
  history.foldl (fun session step => act step.1 session step.2) session

theorem run_eq_runWith (engines : Engines) (history : List Action) (session : Session) :
    run engines history session = runWith (history.map fun action => (engines, action)) session :=
  by rw [run, runWith, List.foldl_map]

theorem runWith_concat (history : List (Engines × Action)) (step : Engines × Action)
    (session : Session) :
    runWith (history ++ [step]) session = act step.1 (runWith history session) step.2 := by
  rw [runWith, List.foldl_append, List.foldl_cons, List.foldl_nil, runWith]

/-- The page with a title has each part once and, at most once, what it makes for itself and the
style sheets and scripts of the engine for LaTeX. -/
structure Whole (engines : Engines) (title : Text) (page : Page) : Prop where
  frame : ∀ id ∈ frameIds, (tagsAmong page.nodes).countP (Tag.hasId id) = 1
  extras : ∀ id ∈ [dataId, scriptId], (tagsAmong page.nodes).countP (Tag.hasId id) ≤ 1
  head : ∃ head copies, findAmong? (Tag.isNamed "head") page.nodes = some (.element headTag head) ∧
    copies ≤ 1 ∧ pruned isExtra head =
      Layout.emptyHead title ++ (List.replicate copies (assetNodes engines)).flatten

variable {engines : Engines} {title : Text} {session : Session} {l : Layout}

theorem Laid.whole (h : Laid engines title session l) : Whole engines title session.page := by
  rw [h.page]
  refine ⟨fun _ hid => h.sound.countP_frame hid, ?_, l.head,
    if session.assetsAttached then 1 else 0, l.findAmong?_head, ?_, ?_⟩
  · intro id hid
    refine (h.sound.countP_extra hid).trans_le ?_
    simp only [List.mem_cons, List.not_mem_nil, or_false] at hid
    rcases hid with rfl | rfl
    · exact h.sound.data
    · exact h.sound.script
  · split <;> decide
  · rw [h.head]
    split
    · rw [List.replicate_one, List.flatten_singleton]
    · rw [List.replicate_zero, List.flatten_nil]

/-! ## One action and a history -/

/-- Details shown in the side panel are all that changes. -/
theorem Laid.detail (h : Laid engines title session l) (panel : Panel) (key : Text) :
    ∃ l', Laid engines title { session with page := panel.click key session.page } l' := by
  refine ⟨{ l with panel := parsed (panel.detailFor key) }, ?_,
    h.sound.with_panel (without_detailFor panel key), h.head⟩
  rw [h.page]
  exact h.sound.setPanel (panel.detailFor key)

theorem Laid.act (h : Laid engines title session l)
    (hfetch : ∀ source message, (engines.fetch source).result ≠ .error (.invalid message))
    (hown : Without isOwn (assetNodes engines)) (action : Action)
    (hcontent : ∀ request, action = .load request → KeepsOff engines request) :
    ∃ l', Laid engines title (Session.act engines session action) l' := by
  cases action with
  | load request =>
      obtain ⟨-, l', hlaid, -⟩ := h.load hfetch hown (hcontent request rfl)
      exact ⟨l', hlaid⟩
  | click key =>
      rw [Session.act, Session.click]
      split
      · exact h.detail _ key
      · exact ⟨l, h⟩
  | detail panel key => exact h.detail panel key

theorem Laid.run (h : Laid engines title session l)
    (hfetch : ∀ source message, (engines.fetch source).result ≠ .error (.invalid message))
    (hown : Without isOwn (assetNodes engines)) (history : List Action)
    (hcontent : ∀ request, .load request ∈ history → KeepsOff engines request) :
    ∃ l', Laid engines title (Session.run engines history session) l' := by
  induction history generalizing session l with
  | nil => exact ⟨l, h⟩
  | cons action history ih =>
      obtain ⟨l', hlaid⟩ := h.act hfetch hown action fun request hload =>
        hcontent request (hload ▸ List.mem_cons_self ..)
      exact ih hlaid fun request hmem => hcontent request (List.mem_cons_of_mem _ hmem)

/-! ## Who asks for style sheets and scripts -/

/-- Whether an action wants the style sheets and scripts for LaTeX. -/
def wantsAssets (engines : Engines) : Action → Bool
  | .load request => (ending engines request).isLatex
  | .click _ | .detail _ _ => false

theorem assetsAttached_act_eq
    (hfetch : ∀ source message, (engines.fetch source).result ≠ .error (.invalid message))
    (action : Action) : (Session.act engines session action).assetsAttached =
      (session.assetsAttached || wantsAssets engines action) := by
  cases action with
  | load request =>
      have hcourse := course engines request session
      rw [Session.act, wantsAssets]
      generalize Session.load engines request session = loaded at hcourse
      have hkept {session' : Session} (htries : TriesLatex session.opened session') :
          session'.assetsAttached = session.assetsAttached := by
        rcases htries with rfl | rfl <;> rfl
      cases hcourse with
      | broken events hbroken => exact absurd hbroken (not_needsInvalid hfetch _)
      | failed events htries hending =>
          have hsame := hkept htries
          rw [hending, Ending.isLatex, Bool.or_false]
          exact hsame
      | unattached events htries hlatex hattach =>
          rw [hlatex, Bool.or_true]
          exact (keeps_of_attachAssets hattach).1
      | rejected events htries hending hattach =>
          rw [hending, Ending.isLatex, Bool.or_true]
          exact (keeps_of_attachAssets hattach).1
      | markdown events hending hway =>
          rw [hending, Ending.isLatex, hway]
          exact (Bool.or_false _).symm
      | latex events htries hending hway hattach =>
          rw [hending, Ending.isLatex, hway]
          exact (keeps_of_attachAssets hattach).1.trans (Bool.or_true _).symm
  | click key =>
      rw [Session.act, Session.click, wantsAssets, Bool.or_false]
      split <;> rfl
  | detail panel key => exact (Bool.or_false _).symm

theorem assetsAttached_run
    (hfetch : ∀ source message, (engines.fetch source).result ≠ .error (.invalid message))
    (history : List Action) : (Session.run engines history session).assetsAttached =
      (session.assetsAttached || history.any (wantsAssets engines)) := by
  induction history generalizing session with
  | nil => exact (Bool.or_false _).symm
  | cons action history ih =>
      rw [List.any_cons, ← Bool.or_assoc, ← assetsAttached_act_eq hfetch]
      exact ih

/-! ## What a load leaves -/

/-- The parts of a page after a load are those that the ending of the load has. -/
theorem find?_of_endsAs {ending : Ending} {load : Load}
    (h : EndsAs engines title ending load) :
    load.session.page.find? statusId =
        some (.element statusTag [.text .prose ending.status]) ∧
      load.session.page.find? contentId =
        some (.element contentTag (ending.content engines.setter)) ∧
      load.session.page.find? panelId = some (.element panelTag Layout.emptyPanelNodes) ∧
      load.session.page.find? dataId = ending.data := by
  obtain ⟨-, l, hlaid, hshows⟩ := h
  have hsound := hlaid.sound
  rw [hlaid.page, hsound.apart.find?_status, hsound.apart.find?_content, hsound.find?_panel,
    hsound.find?_extra (by simp), hshows.status, hshows.content, hshows.panel]
  exact ⟨rfl, rfl, rfl, hshows.data⟩

/-- Loads that end in the same way leave the same parts. -/
theorem find?_eq_of_endsAs {ending : Ending} {load load' : Load}
    (h : EndsAs engines title ending load) (h' : EndsAs engines title ending load') :
    ∀ id ∈ [statusId, contentId, panelId, dataId],
      load.session.page.find? id = load'.session.page.find? id := by
  obtain ⟨hstatus, hcontent, hpanel, hdata⟩ := find?_of_endsAs h
  obtain ⟨hstatus', hcontent', hpanel', hdata'⟩ := find?_of_endsAs h'
  intro id hid
  simp only [List.mem_cons, List.not_mem_nil, or_false] at hid
  rcases hid with rfl | rfl | rfl | rfl
  · rw [hstatus, hstatus']
  · rw [hcontent, hcontent']
  · rw [hpanel, hpanel']
  · rw [hdata, hdata']

/-- A load after any history answers and leaves what it does in a fresh session, unless both want
style sheets and scripts for LaTeX that cannot be had: these are asked for once.  The page is whole
at every time, and there is an outcome unless LaTeX is rejected. -/
theorem load_after_history
    (hfetch : ∀ source message, (engines.fetch source).result ≠ .error (.invalid message))
    (hown : Without isOwn (assetNodes engines)) (title : Text) (history : List Action)
    (request : Request) (hhistory : ∀ wanted, .load wanted ∈ history → KeepsOff engines wanted)
    (hcontent : KeepsOff engines request) :
    let fresh : Session := { page := Page.empty title }
    let used := run engines history fresh
    let again := load engines request used
    let alone := load engines request fresh
    Whole engines title used.page ∧ Whole engines title again.session.page ∧
    ((∃ outcome, again.result = .ok outcome) ↔
      ¬ BreaksOff engines request (history.any (wantsAssets engines))) ∧
    ((again.result = alone.result ∧ ∀ id ∈ [statusId, contentId, panelId, dataId],
        again.session.page.find? id = alone.session.page.find? id) ↔
      ¬ (history.any (wantsAssets engines) = true ∧ wantsAssets engines (.load request) = true ∧
        ∃ message, assetsAnswer engines = .error message)) := by
  intro fresh used again alone
  have hfresh : Laid engines title fresh (Layout.empty title) := laid_empty engines title
  obtain ⟨l, hused⟩ := hfresh.run hfetch hown history hhistory
  have halone : EndsAs engines title (endingIn engines request false) alone :=
    hfresh.load hfetch hown hcontent
  have hagain : EndsAs engines title (endingIn engines request used.assetsAttached) again :=
    hused.load hfetch hown hcontent
  have hasked : used.assetsAttached = history.any (wantsAssets engines) :=
    (assetsAttached_run hfetch history).trans (Bool.false_or _)
  obtain ⟨l', hlaid, -⟩ := hagain.2
  refine ⟨hused.whole, hlaid.whole, ?_, ⟨?differs, fun hsame => ?agrees⟩⟩
  · rw [hagain.1, exists_outcome_endingIn_iff, hasked]
  case differs =>
    rintro ⟨hsame, -⟩ ⟨hhistory, hlatex, message, hanswer⟩
    have hlatex : (ending engines request).isLatex = true := hlatex
    rw [hagain.1, halone.1, hasked, hhistory, endingIn, endingIn, hlatex, hanswer] at hsame
    exact result_ne_failed hlatex _ _ hsame
  case agrees =>
    have hending : endingIn engines request used.assetsAttached = endingIn engines request false :=
      endingIn_eq request (by rw [hasked]; exact hsame)
    rw [hending] at hagain
    exact ⟨hagain.1.trans halone.1.symm, find?_eq_of_endsAs hagain halone⟩

/-- Converts one letter. -/
private def convertA : Math.Converter := fun display formula =>
  if formula = ['a'] then .ok (Math.toMathml display ['a']) else .error "unknown".toList

/-- Engines for one paper with a formula, with style sheets and scripts for LaTeX. -/
private def formulaEngines (assets : String) : Engines where
  fetch _ := ⟨.ok "Let $a$ hold.".toList, []⟩
  markdown t := .ok ("<p>".toList ++ t ++ "</p>".toList)
  latex _ := ⟨.ok "<p>Let <i>a</i> hold.</p>".toList, []⟩
  assets := .ok (some assets.toList)
  setter := some (setterOf convertA)

private def paperBy (renderer : String) : Request := ⟨"core.tex".toList, none, some renderer.toList⟩

private theorem convertsWithout_convertA : Math.ConvertsWithout convertA isOwn := by
  intro display formula markup hmarkup
  have hletter : ∀ display,
      (tagsAmong (parsed (Math.toMathml display ['a']))).any isOwn = false := by decide +kernel
  rw [convertA] at hmarkup
  split at hmarkup
  · obtain rfl := Except.ok.inj hmarkup
    exact hletter display
  · cases hmarkup

private theorem keepsOff_formulaEngines (assets : String) (renderer : String) :
    KeepsOff (formulaEngines assets) (paperBy renderer) := by
  refine keepsOff_of_converter rfl convertsWithout_convertA ?_
  have hboth : ∀ t ∈ ["<p>Let $a$ hold.</p>".toList, "<p>Let <i>a</i> hold.</p>".toList],
      (tagsAmong (parsed t)).any isOwn = false := by decide +kernel
  intro entries outcome fragment hending
  obtain ⟨source, hsource, -, -, hmade⟩ := ending_eq_rendered hending
  obtain rfl : "Let $a$ hold.".toList = source := Except.ok.inj hsource
  refine hboth fragment ?_
  rcases hmade with ⟨-, hmade⟩ | ⟨-, hmade⟩
  · have hmarkdown : markdownOf (formulaEngines "") "Let $a$ hold.".toList =
        .ok "<p>Let $a$ hold.</p>".toList := by decide +kernel
    have hmade : markdownOf (formulaEngines "") "Let $a$ hold.".toList = .ok fragment := hmade
    rw [← Except.ok.inj (hmarkdown.symm.trans hmade)]
    exact List.mem_cons_self ..
  · obtain rfl : "<p>Let <i>a</i> hold.</p>".toList = fragment := Except.ok.inj hmade
    exact List.mem_cons_of_mem _ (List.mem_cons_self ..)

/-- After loads on both ways and a click, a load by LaTeX is what it is in a fresh session. -/
theorem load_after_both_ways :
    let engines := formulaEngines "<style>p</style>"
    let fresh : Session := { page := Page.empty "Paper".toList }
    let history : List Action := [.load (paperBy "latex"), .click "knuth".toList,
      .load (paperBy "markdown")]
    let again := load engines (paperBy "latex") (run engines history fresh)
    let alone := load engines (paperBy "latex") fresh
    (∃ outcome, again.result = .ok outcome) ∧ again.result = alone.result ∧
      again.session.page.find? contentId = alone.session.page.find? contentId := by
  intro engines fresh history again alone
  have hown : Without isOwn (assetNodes engines) := by
    have hnone : (tagsAmong (parsed "<style>p</style>".toList)).any isOwn = false := by
      decide +kernel
    exact hnone
  have hhistory (wanted : Request) (hmem : .load wanted ∈ history) : KeepsOff engines wanted := by
    simp only [history, List.mem_cons, List.not_mem_nil, or_false, Action.load.injEq,
      reduceCtorEq, false_or] at hmem
    rcases hmem with rfl | rfl <;> exact keepsOff_formulaEngines _ _
  obtain ⟨-, -, houtcome, hsame⟩ := @load_after_history engines (fun _ _ => nofun)
    hown "Paper".toList history (paperBy "latex") hhistory (keepsOff_formulaEngines _ _)
  have haccepted : ¬ BreaksOff engines (paperBy "latex") (history.any (wantsAssets engines)) := by
    rintro ⟨⟨why, source, fallback, fragment, -, hmade, hparse⟩, -⟩
    obtain rfl : "<p>Let <i>a</i> hold.</p>".toList = fragment := Except.ok.inj hmade
    have hok : (parse "<p>Let <i>a</i> hold.</p>".toList).toOption.isSome = true := by
      decide +kernel
    rw [hparse] at hok
    exact Bool.false_ne_true hok
  obtain ⟨hresult, hparts⟩ := hsame.mpr <| by
    rintro ⟨-, -, message, hanswer⟩
    have hok : assetsAnswer (formulaEngines "<style>p</style>") = .ok () := by decide +kernel
    cases hok.symm.trans hanswer
  have hcontent := hparts contentId (List.mem_cons_of_mem _ (List.mem_cons_self ..))
  simp only [again, alone, fresh]
  exact ⟨houtcome.mpr haccepted, hresult, hcontent⟩

/-- Style sheets and scripts that are rejected fail the first load by LaTeX and no later one. -/
theorem load_after_rejected_assets :
    let engines := formulaEngines "<![x>"
    let fresh : Session := { page := Page.empty "Paper".toList }
    let used := run engines [.load (paperBy "latex")] fresh
    (∃ outcome, (load engines (paperBy "latex") fresh).result = .ok outcome ∧
      outcome.isOk = false) ∧
    ∃ outcome, (load engines (paperBy "latex") used).result = .ok outcome ∧
      outcome.isOk = true := by
  intro engines fresh used
  constructor
  · obtain ⟨outcome, hresult, hfailed⟩ : ∃ outcome,
        (load engines (paperBy "latex") fresh).result = .ok outcome ∧ (!outcome.isOk) = true :=
      exists_outcome_of_any (by decide +kernel)
    exact ⟨outcome, hresult, by simpa using hfailed⟩
  · exact exists_outcome_of_any (by decide +kernel)

end PaperHtml.Session
