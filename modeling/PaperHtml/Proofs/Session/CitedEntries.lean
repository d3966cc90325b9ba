import Mathlib
import PaperHtml.Proofs.Reference.Agreement
import PaperHtml.Proofs.Session.Containment

/-!
# What a load takes from a bibliography

Of a bibliography a load shows the entries that the paper cites, for each key the
first one.  Entries that are not cited, later entries for a key and the order of
all of them leave no trace on the page.

## Strategy

A load reads the entries in three places: it resolves the cited keys, it asks
whether there are any entries at all, and it counts them for a report.  The
first is compared key by key (`forall₂_resolveAll`), the second is the reason
why two bibliographies must both have entries or both have none.  Everything
behind the two sources is run once for two sets of references
(`RelatesEnds.renderPaper`), with the relation between loads left open, so that it
serves for loads that are equal and for loads that agree up to the order of
fields.
-/

namespace PaperHtml.Session

open Bibliography Citation

/-! ## Where entries come from -/

/-- A bibliography comes to some entries: there is none, it cannot be read, or it is read. -/
inductive Gives (fetch : Text → Answer) : Option Text → List Entry → Prop
  | none : Gives fetch none []
  | unnamed : Gives fetch (some []) []
  | unreadable {source message : Text}
      (h : (fetch source).result = .error (.unreadable message)) : Gives fetch (some source) []
  | read {source t : Text} (hsource : source ≠ []) (h : (fetch source).result = .ok t) :
      Gives fetch (some source) (Bibliography.read t)

theorem Gives.loadBibliography {engines : Engines} {source : Option Text} {entries : List Entry}
    (h : Gives engines.fetch source entries) :
    (loadBibliography engines source).1 = .ok entries := by
  have hkept {source : Text} (hsource : source ≠ []) :
      (some source).filter (fun s => decide (s ≠ [])) = some source := by
    simp [hsource]
  unfold Session.loadBibliography
  cases h with
  | none => rfl
  | unnamed => rfl
  | @unreadable source message h =>
      by_cases hsource : source = []
      · rw [hsource]
        rfl
      · simp only [hkept hsource, h]
  | read hsource h => simp only [hkept hsource, h]

/-! ## Loads that agree -/

/-- The same is known of the citations, but perhaps in another order of fields. -/
structure Citations.Agrees (citations citations' : Citations) : Prop where
  order : citations.order = citations'.order
  numbers : citations.numbers = citations'.numbers
  references : List.Forall₂ Reference.Agrees citations.references citations'.references

/-- Two outcomes say the same. -/
structure Outcome.Agrees (outcome outcome' : Outcome) : Prop where
  status : outcome.status = outcome'.status
  way : outcome.way = outcome'.way
  fallback : outcome.fallback = outcome'.fallback
  error : outcome.error = outcome'.error
  citations : outcome.citations.Agrees outcome'.citations

/-- Two results say the same. -/
inductive ResultsAgree : Except Broken Outcome → Except Broken Outcome → Prop
  | broken (why : Broken) : ResultsAgree (.error why) (.error why)
  | ended {outcome outcome' : Outcome} (h : outcome.Agrees outcome') :
      ResultsAgree (.ok outcome) (.ok outcome')

/-- Two loads leave the same page and come to outcomes that say the same. -/
structure Load.Agrees (load load' : Load) : Prop where
  page : load.session.page = load'.session.page
  assetsAttached : load.session.assetsAttached = load'.session.assetsAttached
  result : ResultsAgree load.result load'.result

theorem Load.Agrees.after {load load' : Load} (h : load.Agrees load')
    (events events' : List Event) :
    (load.after events).Agrees (load'.after events') :=
  ⟨h.page, h.assetsAttached, h.result⟩

/-! ## The stages for two sets of references -/

variable {entries entries' : List Entry} {setter : Option Setter}

theorem agrees_citationsOf {body : Text}
    (h : ∀ key ∈ order body, Option.Rel Entry.Agrees (find? key entries) (find? key entries')) :
    (citationsOf entries body).Agrees (citationsOf entries' body) where
  order := rfl
  numbers := rfl
  references := forall₂_resolveAll fun key hkey number => agrees_resolve (h key hkey) number

theorem agrees_fail {citations citations' : Citations} (h : citations.Agrees citations')
    (message : Text) (session : Session) :
    (fail citations message session).Agrees (fail citations' message session) :=
  ⟨rfl, rfl, .ended ⟨rfl, rfl, rfl, rfl, h⟩⟩

theorem finish_congr (hempty : entries.isEmpty = entries'.isEmpty) (outcome : Outcome)
    (fragment : Text) (session : Session) :
    finish setter entries outcome fragment session =
      finish setter entries' outcome fragment session := by
  unfold finish
  rw [hempty]

/-- References that agree leave the same page behind. -/
theorem agrees_finish (hempty : entries.isEmpty = entries'.isEmpty) {outcome outcome' : Outcome}
    (h : outcome.Agrees outcome') (fragment : Text) (session : Session) :
    (finish setter entries outcome fragment session).Agrees
      (finish setter entries' outcome' fragment session) := by
  refine ⟨?_, rfl, .ended h⟩
  unfold finish Panel.attach
  simp only [hempty, h.status, h.citations.order, Reference.listing_congr h.citations.references]
  exact Panel.embed_congr h.citations.references _

variable {engines : Engines} {renderer : Option Text} {source : Text}

/-- A relation between loads that holds of the ends of two renderings, which have entries and
citations of their own, and that does not depend on what has been reported before. -/
structure RelatesEnds (engines : Engines) (entries entries' : List Entry)
    (citations citations' : Citations) (related : Load → Load → Prop) : Prop where
  after : ∀ events {load load' : Load}, related load load' →
    related (load.after events) (load'.after events)
  fail : ∀ message session, related (fail citations message session)
    (fail citations' message session)
  broken : ∀ (session : Session) (why : Broken),
    related ⟨session, [], .error why⟩ ⟨session, [], .error why⟩
  finish : ∀ status way fallback fragment session,
    related (finish engines.setter entries { status, way, fallback, citations } fragment session)
      (finish engines.setter entries' { status, way, fallback, citations := citations' } fragment
        session)

variable {related : Load → Load → Prop} {citations citations' : Citations}

theorem RelatesEnds.loadByLatex (h : RelatesEnds engines entries entries' citations citations' related)
    (hnumbers : citations.numbers = citations'.numbers) (body : Text) (fallback : Bool)
    (session : Session) :
    related (loadByLatex engines entries citations body fallback session)
      (loadByLatex engines entries' citations' body fallback session) := by
  unfold Session.loadByLatex
  rw [hnumbers]
  refine h.after _ ?_
  cases (engines.latex (Conversion.toPlainLatex citations'.numbers body)).result with
  | error message => exact h.fail message session
  | ok fragment =>
      obtain ⟨attached, session', hattach⟩ : ∃ attached session',
          attachAssets engines.assets session = (attached, session') := ⟨_, _, rfl⟩
      simp only [hattach]
      cases attached with
      | error message => exact h.fail message session'
      | ok attached =>
          cases Html.parse fragment with
          | error why => exact h.broken session'.cleared (.markup why)
          | ok nodes => exact h.finish _ _ _ fragment session'

theorem RelatesEnds.loadByMarkdown
    (h : RelatesEnds engines entries entries' citations citations' related)
    (hnumbers : citations.numbers = citations'.numbers) (body : Text) (session : Session) :
    related (loadByMarkdown engines entries citations body session)
      (loadByMarkdown engines entries' citations' body session) := by
  unfold Session.loadByMarkdown
  rw [hnumbers]
  refine h.after _ ?_
  cases renderMarkdown engines.markdown citations'.numbers body with
  | error message => exact h.after _ (h.loadByLatex hnumbers body true session)
  | ok fragment =>
      dsimp only
      cases Html.parse fragment with
      | error why => exact h.after _ (h.loadByLatex hnumbers body true session.cleared)
      | ok nodes => exact h.finish _ _ _ fragment session

/-- What holds of the ends of two renderings holds of the renderings. -/
theorem RelatesEnds.renderPaper
    (h : RelatesEnds engines entries entries' (citationsOf entries (Latex.body source))
      (citationsOf entries' (Latex.body source)) related) (session : Session) :
    related (renderPaper engines renderer entries source session)
      (renderPaper engines renderer entries' source session) := by
  refine h.after _ ?_
  by_cases hforced : Source.forcesLatex renderer
  · rw [if_pos hforced, if_pos hforced]
    exact h.loadByLatex rfl _ false session
  · rw [if_neg hforced, if_neg hforced]
    exact h.loadByMarkdown rfl _ session

/-- A rendering uses the first entry for every cited key, and whether there are entries. -/
theorem renderPaper_congr (hempty : entries.isEmpty = entries'.isEmpty)
    (h : ∀ key ∈ order (Latex.body source), find? key entries = find? key entries')
    (session : Session) :
    renderPaper engines renderer entries source session =
      renderPaper engines renderer entries' source session := by
  have hcitations : citationsOf entries (Latex.body source) =
      citationsOf entries' (Latex.body source) := by
    simp only [citationsOf, resolveAll_congr h]
  apply RelatesEnds.renderPaper
  rw [hcitations]
  constructor
  case after =>
    intro events load load' heq
    rw [heq]
  case fail => exact fun _ _ => rfl
  case broken => exact fun _ _ => rfl
  case finish => exact fun _ _ _ fragment session => finish_congr hempty _ fragment session

theorem agrees_renderPaper (hempty : entries.isEmpty = entries'.isEmpty)
    (h : ∀ key ∈ order (Latex.body source),
      Option.Rel Entry.Agrees (find? key entries) (find? key entries')) (session : Session) :
    (renderPaper engines renderer entries source session).Agrees
      (renderPaper engines renderer entries' source session) := by
  have hagrees := agrees_citationsOf h
  apply RelatesEnds.renderPaper
  constructor
  case after => exact fun events _ _ hload => hload.after events events
  case fail => exact agrees_fail hagrees
  case broken => exact fun _ why => ⟨rfl, rfl, .broken why⟩
  case finish =>
    intro status way fallback fragment session
    have houtcome : Outcome.Agrees
        { status, way, fallback, citations := citationsOf entries (Latex.body source) }
        { status, way, fallback, citations := citationsOf entries' (Latex.body source) } :=
      ⟨rfl, rfl, rfl, rfl, hagrees⟩
    exact agrees_finish hempty houtcome fragment session

/-! ## Two loads of one paper -/

/-- A load depends on its bibliography through the first entry for every cited key and through
whether there are entries, whatever other entries there are, in whatever order, and wherever they
come from; a bibliography that cannot be read counts as one without entries and as none. -/
theorem load_depends_on_cited_entries {engines engines' : Engines}
    {bibliography bibliography' : Option Text} (paper : Text) (renderer : Option Text)
    (session : Session)
    (hpaper : (engines'.fetch paper).result = (engines.fetch paper).result)
    (hengines : engines' = { engines with fetch := engines'.fetch })
    (hgives : Gives engines.fetch bibliography entries)
    (hgives' : Gives engines'.fetch bibliography' entries') :
    let loaded := load engines ⟨paper, bibliography, renderer⟩ session
    let loaded' := load engines' ⟨paper, bibliography', renderer⟩ session
    let Cited (key : Text) :=
      ∃ source, (engines.fetch paper).result = .ok source ∧ key ∈ order (Latex.body source)
    (entries ≠ [] → entries' ≠ [] →
      ((∀ key, Cited key → Option.Rel Entry.Agrees (find? key entries) (find? key entries')) →
        loaded.Agrees loaded') ∧
      ((∀ key, Cited key → find? key entries = find? key entries') →
        loaded.session = loaded'.session ∧ loaded.result = loaded'.result)) ∧
    (entries = [] → entries' = [] →
      loaded.session = loaded'.session ∧ loaded.result = loaded'.result) := by
  intro loaded loaded' Cited
  have hrender (source : Text) : renderPaper engines' renderer entries' source session.opened =
      renderPaper engines renderer entries' source session.opened := by
    rw [hengines]
    rfl
  have hagree (hempty : entries.isEmpty = entries'.isEmpty)
      (h : ∀ key, Cited key → Option.Rel Entry.Agrees (find? key entries) (find? key entries')) :
      loaded.Agrees loaded' := by
    show (load ..).Agrees (load ..)
    unfold load
    simp only [hgives.loadBibliography, hgives'.loadBibliography, hpaper]
    refine Load.Agrees.after ?_ _ _
    cases hsource : (engines.fetch paper).result with
    | error failure =>
        cases failure with
        | unreadable message => exact agrees_fail ⟨rfl, rfl, .nil⟩ message _
        | invalid message => exact ⟨rfl, rfl, .broken _⟩
    | ok source =>
        simp only [hrender]
        exact agrees_renderPaper hempty (fun key hkey => h key ⟨source, hsource, hkey⟩) _
  have hequal (hempty : entries.isEmpty = entries'.isEmpty)
      (h : ∀ key, Cited key → find? key entries = find? key entries') :
      loaded.session = loaded'.session ∧ loaded.result = loaded'.result := by
    show (load ..).session = (load ..).session ∧ (load ..).result = (load ..).result
    unfold load
    simp only [hgives.loadBibliography, hgives'.loadBibliography, hpaper, Load.session_after,
      Load.result_after]
    cases hsource : (engines.fetch paper).result with
    | error failure => cases failure <;> exact ⟨rfl, rfl⟩
    | ok source =>
        simp only [hrender]
        rw [renderPaper_congr hempty fun key hkey => h key ⟨source, hsource, hkey⟩]
        exact ⟨rfl, rfl⟩
  refine ⟨fun hsome hsome' => ?_, ?_⟩
  · have hempty : entries.isEmpty = entries'.isEmpty := by
      rw [List.isEmpty_eq_false_iff.mpr hsome, List.isEmpty_eq_false_iff.mpr hsome']
    exact ⟨hagree hempty, hequal hempty⟩
  · rintro rfl rfl
    exact hequal rfl fun _ _ => rfl

private def longBibliography : Text :=
  ("@misc\x7bspare,\ntitle=\x7bSpare\x7d,\n\x7d\n" ++
    "@book\x7bknuth,\ntitle=\x7bArt\x7d,\nyear=\x7b1968\x7d,\n\x7d\n" ++
    "@misc\x7bknuth,\ntitle=\x7bLater\x7d,\n\x7d").toList

private def shortBibliography : Text :=
  "@book\x7bknuth,\nyear=\x7b1968\x7d,\ntitle=\x7bArt\x7d,\n\x7d".toList

private def shelf : Engines where
  fetch source :=
    if source = "core.tex".toList then ⟨.ok "\\cite{knuth,lamport}".toList, []⟩
    else if source = "long.bib".toList then ⟨.ok longBibliography, []⟩
    else if source = "short.bib".toList then ⟨.ok shortBibliography, []⟩
    else ⟨.error (.unreadable "not found".toList), []⟩
  markdown t := .ok t
  latex t := ⟨.ok t, []⟩
  assets := .ok none
  setter := none

theorem load_depends_on_cited_entries_of_shelf :
    let loaded (bibliography : Option Text) := load shelf ⟨"core.tex".toList, bibliography, none⟩ new
    (read longBibliography).length = 3 ∧ (read shortBibliography).length = 1 ∧
      (loaded (some "long.bib".toList)).Agrees (loaded (some "short.bib".toList)) ∧
      (loaded (some "lost.bib".toList)).session = (loaded none).session ∧
      (loaded (some "lost.bib".toList)).result = (loaded none).result := by
  intro loaded
  let spare : Entry := ⟨"misc".toList, "spare".toList, [("title".toList, "Spare".toList)]⟩
  let title := ("title".toList, "Art".toList)
  let year := ("year".toList, "1968".toList)
  let later : Entry := ⟨"misc".toList, "knuth".toList, [("title".toList, "Later".toList)]⟩
  have hlong : read longBibliography =
      [spare, ⟨"book".toList, "knuth".toList, [title, year]⟩, later] := rfl
  have hshort : read shortBibliography = [⟨"book".toList, "knuth".toList, [year, title]⟩] := rfl
  have hcited : order (Latex.body "\\cite{knuth,lamport}".toList) =
      ["knuth".toList, "lamport".toList] := rfl
  have hknuth : Entry.Agrees ⟨"book".toList, "knuth".toList, [title, year]⟩
      ⟨"book".toList, "knuth".toList, [year, title]⟩ := by
    refine ⟨rfl, fun name => ?_⟩
    by_cases htitle : title.1 = name
    · subst htitle
      rfl
    · simp [Assoc.get?, htitle]
  have hlongGives : Gives shelf.fetch (some "long.bib".toList) (read longBibliography) :=
    .read (by decide) rfl
  have hshortGives : Gives shelf.fetch (some "short.bib".toList) (read shortBibliography) :=
    .read (by decide) rfl
  have hlostGives : Gives shelf.fetch (some "lost.bib".toList) [] :=
    .unreadable rfl
  have hnoneGives : Gives shelf.fetch none [] := .none
  obtain ⟨hread, -⟩ := load_depends_on_cited_entries "core.tex".toList none new rfl rfl hlongGives
    hshortGives
  obtain ⟨-, hnone⟩ := load_depends_on_cited_entries "core.tex".toList none new rfl rfl hlostGives
    hnoneGives
  refine ⟨by rw [hlong]; rfl, by rw [hshort]; rfl, ?_, hnone rfl rfl⟩
  refine (hread (by rw [hlong]; simp) (by rw [hshort]; simp)).1 ?_
  rintro key ⟨source, hsource, hkey⟩
  obtain rfl : "\\cite{knuth,lamport}".toList = source := Except.ok.inj hsource
  rw [hcited] at hkey
  rw [hlong, hshort]
  rcases List.mem_pair.mp hkey with rfl | rfl
  · exact .some hknuth
  · exact .none

end PaperHtml.Session
