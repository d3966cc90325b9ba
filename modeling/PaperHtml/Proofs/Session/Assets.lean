import Mathlib
import PaperHtml.Proofs.Session.Containment

/-!
# The style sheets and scripts for LaTeX

The engine for LaTeX is asked for style sheets and scripts once in a session, at
the first load that it has rendered.  They are then in the head for good.  But
they count as asked for even if they could not be had, so later loads show LaTeX
without them.

## Strategy

`firstAsked` finds the engines that are asked, going through a history.  Before
that place and behind it nothing comes to the head (`newAssets`), so by induction
on the history the head is that of an empty page and what these engines answered
(`Headed.runWith`).
-/

namespace PaperHtml.Session

open Html Html.Node Page

/-- The engines that are asked for style sheets and scripts in a history, if any are. -/
def firstAsked : List (Engines × Action) → Session → Option Engines
  | [], _ => none
  | (engines, action) :: history, session =>
    if session.assetsAttached = (act engines session action).assetsAttached then
      firstAsked history (act engines session action)
    else some engines

variable {engines : Engines} {session : Session} {head : List Node}

/-! ## They are asked for once -/

theorem assetsAttached_load (h : session.assetsAttached = true) (request : Request) :
    (Session.load engines request session).session.assetsAttached = true := by
  have hcourse := course engines request session
  generalize Session.load engines request session = loaded at hcourse
  cases hcourse with
  | broken events hbroken => exact h
  | failed events htries hending => rcases htries with rfl | rfl <;> exact h
  | unattached events htries hlatex hattach => exact (keeps_of_attachAssets hattach).1
  | rejected events htries hending hattach => exact (keeps_of_attachAssets hattach).1
  | markdown events hending => exact h
  | latex events htries hending hway hattach => exact (keeps_of_attachAssets hattach).1

theorem assetsAttached_act (h : session.assetsAttached = true) (action : Action) :
    (act engines session action).assetsAttached = true := by
  cases action with
  | load request => exact assetsAttached_load h request
  | click key =>
      rw [act, click]
      split <;> exact h
  | detail panel key => exact h

theorem firstAsked_eq_none (h : session.assetsAttached = true)
    (history : List (Engines × Action)) : firstAsked history session = none := by
  induction history generalizing session with
  | nil => rfl
  | cons step history ih =>
      have hafter := @assetsAttached_act step.1 session h step.2
      rw [firstAsked, if_pos (h.trans hafter.symm)]
      exact ih hafter

/-- Where nobody has been asked, the session does not take the assets for attached. -/
theorem assetsAttached_runWith {history : List (Engines × Action)}
    (h : firstAsked history session = none) :
    (runWith history session).assetsAttached = session.assetsAttached := by
  induction history generalizing session with
  | nil => rfl
  | cons step history ih =>
      rw [firstAsked] at h
      split at h
      · rename_i hsame
        exact (ih h).trans hsame.symm
      · cases h

theorem exists_mem_of_firstAsked {history : List (Engines × Action)} {first : Engines}
    (h : firstAsked history session = some first) : ∃ action, (first, action) ∈ history := by
  induction history generalizing session with
  | nil => cases h
  | cons step history ih =>
      rw [firstAsked] at h
      split at h
      · obtain ⟨action, hmem⟩ := ih h
        exact ⟨action, List.mem_cons_of_mem _ hmem⟩
      · cases h
        exact ⟨step.2, List.mem_cons_self ..⟩

/-- A paper that has been rendered as LaTeX has asked for them. -/
theorem assetsAttached_of_latex {request : Request} {outcome : Outcome}
    (hresult : (Session.load engines request session).result = .ok outcome)
    (hway : outcome.way = some .latex) :
    (Session.load engines request session).session.assetsAttached = true := by
  have hcourse := course engines request session
  generalize Session.load engines request session = loaded at hcourse hresult ⊢
  cases hcourse with
  | broken events hbroken => cases hresult
  | failed events htries hending =>
      cases hresult
      cases hway
  | unattached events htries hlatex hattach => exact (keeps_of_attachAssets hattach).1
  | rejected events htries hending hattach => cases hresult
  | markdown events hending hmarkdown =>
      cases hresult
      cases hmarkdown.symm.trans hway
  | latex events htries hending _ hattach => exact (keeps_of_attachAssets hattach).1

/-! ## The head after a history -/

/-- After a history the head has in addition what the engines that were asked first have answered,
and nothing that later ones would have. -/
theorem Headed.runWith (h : Headed head session.page) (history : List (Engines × Action))
    (hassets : ∀ step ∈ history, Without isOwn (assetNodes step.1)) :
    Headed (head ++ (firstAsked history session).elim [] assetNodes)
      (Session.runWith history session).page := by
  induction history generalizing session head with
  | nil =>
      rw [firstAsked, Option.elim_none, List.append_nil]
      exact h
  | cons step history ih =>
      obtain ⟨hstep, hrest⟩ := List.forall_mem_cons.mp hassets
      have hframe : Without isFrame (assetNodes step.1) := hstep.mono fun tag htag => by
        rw [isOwn_eq, htag, Bool.true_or]
      have hafter := ih (h.act hframe step.2) hrest
      rw [firstAsked]
      by_cases hsame : session.assetsAttached = (Session.act step.1 session step.2).assetsAttached
      · rw [if_pos hsame]
        rwa [newAssets, if_pos hsame, List.append_nil] at hafter
      · -- what is marked as attached stays so, and nobody is asked any more
        have hattached : (Session.act step.1 session step.2).assetsAttached = true := by
          by_contra hnot
          cases hbefore : session.assetsAttached with
          | true => exact hnot (assetsAttached_act hbefore step.2)
          | false => exact hsame (hbefore.trans (Bool.eq_false_of_not_eq_true hnot).symm)
        rw [if_neg hsame, Option.elim_some]
        rwa [newAssets, if_neg hsame, pruned_of_without_isOwn hstep,
          firstAsked_eq_none hattached, Option.elim_none, List.append_nil] at hafter

/-- Engines that have these style sheets and scripts to give, or none at all at the time. -/
def Offers (source : Text) (engines : Engines) : Prop :=
  engines.assets = .ok (some source) ∨ ∃ message, engines.assets = .error message

theorem Offers.without {source : Text} (h : Offers source engines)
    (hown : Without isOwn (parsed source)) : Without isOwn (assetNodes engines) := by
  rcases h with h | ⟨message, h⟩
  · rw [assetNodes, h]
    exact hown
  · rw [assetNodes, h]
    exact without_nil

/-- After a load by LaTeX the style sheets and scripts are in the head once, if they could be had
when they were asked for first, and else not at all. -/
theorem assets_in_head {source : Text} (hown : Without isOwn (parsed source)) (title : Text)
    (history : List (Engines × Action)) (engines : Engines) (request : Request)
    (hhistory : ∀ step ∈ history, Offers source step.1) (hoffers : Offers source engines)
    {outcome : Outcome}
    (hresult : (load engines request
      (runWith history { page := Page.empty title })).result = .ok outcome)
    (hway : outcome.way = some .latex) :
    let fresh : Session := { page := Page.empty title }
    let steps := history ++ [(engines, .load request)]
    ∃ head first, findAmong? (Tag.isNamed "head")
        (load engines request (runWith history fresh)).session.page.nodes =
          some (.element headTag head) ∧
      firstAsked steps fresh = some first ∧
      ((first.assets = .ok (some source) ∧
          pruned isExtra head = Layout.emptyHead title ++ parsed source) ∨
        ((∃ message, first.assets = .error message) ∧
          pruned isExtra head = Layout.emptyHead title)) := by
  intro fresh steps
  have hafter : runWith steps fresh = (load engines request (runWith history fresh)).session :=
    runWith_concat history (engines, .load request) fresh
  have hsteps : ∀ step ∈ steps, Offers source step.1 := by
    intro step hstep
    rcases List.mem_append.mp hstep with hmem | hmem
    · exact hhistory step hmem
    · rw [List.mem_singleton.mp hmem]
      exact hoffers
  obtain ⟨l, hpage, -, hhead⟩ := @Headed.runWith fresh (Layout.emptyHead title)
    (headed_empty title) steps fun step hstep => (hsteps step hstep).without hown
  rw [← hafter, hpage]
  have hattached : (runWith steps fresh).assetsAttached = true := by
    rw [hafter]
    exact assetsAttached_of_latex hresult hway
  cases hfirst : firstAsked steps fresh with
  | none =>
      rw [assetsAttached_runWith hfirst] at hattached
      exact absurd hattached Bool.false_ne_true
  | some first =>
      obtain ⟨action, hmem⟩ := exists_mem_of_firstAsked hfirst
      rw [hfirst, Option.elim_some] at hhead
      refine ⟨l.head, first, l.findAmong?_head, rfl, ?_⟩
      rcases hsteps _ hmem with hfound | ⟨message, hmissing⟩
      · left
        refine ⟨hfound, ?_⟩
        rwa [assetNodes, hfound] at hhead
      · right
        refine ⟨⟨message, hmissing⟩, ?_⟩
        rwa [assetNodes, hmissing, List.append_nil] at hhead

/-- Engines that give back what they are given, with an answer for style sheets and scripts. -/
private def answering (assets : Except Text (Option Text)) : Engines :=
  { echoing with assets }

private def byLatex : Request := ⟨"core.tex".toList, none, some "latex".toList⟩

/-- What was attached stays, also when it cannot be had any more. -/
theorem assets_in_head_kept :
    let source := "<style>p</style>".toList
    let history : List (Engines × Action) := [(answering (.ok (some source)), .load byLatex)]
    let loaded := load (answering (.error "offline".toList)) byLatex
      (runWith history { page := Page.empty "Paper".toList })
    ∃ outcome head, loaded.result = .ok outcome ∧ outcome.way = some .latex ∧
      findAmong? (Tag.isNamed "head") loaded.session.page.nodes = some (.element headTag head) ∧
      pruned isExtra head = Layout.emptyHead "Paper".toList ++ parsed source := by
  intro source history loaded
  have hown : Without isOwn (parsed source) := by
    have hnone : (tagsAmong (parsed source)).any isOwn = false := by decide +kernel
    exact hnone
  have hhistory : ∀ step ∈ history, Offers source step.1 := by
    intro step hstep
    rw [List.mem_singleton.mp hstep]
    exact .inl rfl
  obtain ⟨outcome, hresult, hway⟩ : ∃ outcome, loaded.result = .ok outcome ∧
      decide (outcome.way = some .latex) = true := exists_outcome_of_any (by decide +kernel)
  have hway := of_decide_eq_true hway
  simp only [loaded] at hresult ⊢
  obtain ⟨head, first, hfind, hfirst, hcases⟩ := assets_in_head hown "Paper".toList history
    (answering (.error "offline".toList)) byLatex hhistory (.inr ⟨_, rfl⟩) hresult hway
  have hasked : ¬ false = (act (answering (.ok (some source))) { page := Page.empty "Paper".toList }
      (.load byLatex)).assetsAttached := by decide +kernel
  have hanswer : first.assets = .ok (some source) := by
    simp only [history, List.cons_append, firstAsked, if_neg hasked, Option.some.injEq] at hfirst
    rw [← hfirst]
    rfl
  rcases hcases with ⟨-, hhead⟩ | ⟨⟨message, hmissing⟩, -⟩
  · exact ⟨outcome, head, hresult, hway, hfind, hhead⟩
  · cases hanswer.symm.trans hmissing

/-! ## Style sheets that are not there -/

/-- A style sheet that could not be had at the first load by LaTeX is missing from later ones, and
so is one that has the identifier of the details for the browser, which take its place. -/
theorem head_without_assets :
    let fresh : Session := { page := Page.empty "Paper".toList }
    let later := load (answering (.ok (some "<style>p</style>".toList))) byLatex
      (runWith [(answering (.error "offline".toList), .load byLatex)] fresh)
    let replaced := load
      (answering (.ok (some "<style id=\"citation-detail-data\">p</style>".toList))) byLatex fresh
    ∀ loaded ∈ [later, replaced],
      (∃ outcome, loaded.result = .ok outcome ∧ outcome.way = some .latex) ∧
        findAmong? (Tag.isNamed "head") loaded.session.page.nodes =
          some (.element headTag (Layout.emptyHead "Paper".toList)) := by
  intro fresh later replaced loaded hloaded
  have hfresh : fresh = { page := (Layout.empty "Paper".toList).page } := by
    rw [← Layout.page_empty]
  have houtcome : ∀ loaded ∈ [later, replaced], ∃ outcome, loaded.result = .ok outcome ∧
      decide (outcome.way = some .latex) = true := by
    intro loaded hloaded
    rcases List.mem_pair.mp hloaded with rfl | rfl
    · exact exists_outcome_of_any (by decide +kernel)
    · exact exists_outcome_of_any (by decide +kernel)
  obtain ⟨outcome, hresult, hway⟩ := houtcome loaded hloaded
  refine ⟨⟨outcome, hresult, of_decide_eq_true hway⟩, ?_⟩
  rcases List.mem_pair.mp hloaded with rfl | rfl
  · simp only [later, hfresh]
    decide +kernel
  · simp only [replaced, hfresh]
    decide +kernel

end PaperHtml.Session
