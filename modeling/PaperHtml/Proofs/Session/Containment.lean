import Mathlib
import PaperHtml.Proofs.Session.Citations

/-!
# Failures that a load contains

A source that cannot be read is a failure like any other: the load of a paper
shows it on the page, and a bibliography gives way to none.  This holds of every
source but those that are neither an address nor a path (`IsMalformed`), for
which no file and no server is ever asked.  LaTeX that is rejected as the source
of a page once it is rendered is not contained either.

## Strategy

What files hold and what the web answers stay arbitrary throughout.  Fetching
goes one of three ways (`fetchBy_cases`), and the third is taken by
malformed sources alone.  Once the paper and its bibliography are there, the
result of a load is that of its ending (`result_load`), which is an outcome
unless LaTeX is rejected once it is rendered (`BreaksOff`).
-/

namespace PaperHtml

namespace Source

open Text

variable {rules : AddressRules} {content : Text → Except Text (List Byte)} {reply : Text → Reply}

/-! ## Sources -/

/-- A source that is neither an address nor a path. -/
def IsMalformed (rules : AddressRules) (source : Text) : Prop :=
  (∃ error, isUrl rules source = .error error) ∨
    (isUrl rules source = .ok false ∧ Char.ofNat 0 ∈ source)

theorem not_isMalformed_nil : ¬ IsMalformed rules [] := by
  rintro (⟨error, herror⟩ | ⟨-, hmem⟩)
  · cases rules <;> cases herror
  · cases hmem

theorem fetchUrl_cases (reply : Text → Reply) (source : Text) :
    (∃ t, (fetchUrl reply source).result = .ok t) ∨
      ∃ message, (fetchUrl reply source).result = .error (.unreadable message) := by
  unfold fetchUrl
  split
  · split
    · exact .inr ⟨_, rfl⟩
    · exact .inl ⟨_, rfl⟩
  · exact .inr ⟨_, rfl⟩
  · exact .inr ⟨_, rfl⟩

theorem fetchFile_cases {source : Text} (h : Char.ofNat 0 ∉ source) :
    (∃ t, (fetchFile content source).result = .ok t) ∨
      ∃ message, (fetchFile content source).result = .error (.unreadable message) := by
  have hcontains : source.contains (Char.ofNat 0) = false := by simpa using h
  unfold fetchFile
  rw [hcontains]
  cases content source with
  | ok bytes => exact .inl ⟨_, rfl⟩
  | error message => exact .inr ⟨_, rfl⟩

/-- A source is read, cannot be read, or is malformed. -/
theorem fetchBy_cases (rules : AddressRules) (content : Text → Except Text (List Byte))
    (reply : Text → Reply) (source : Text) :
    (¬ IsMalformed rules source ∧ ((∃ t, (fetchBy rules content reply source).result = .ok t) ∨
      ∃ message, (fetchBy rules content reply source).result = .error (.unreadable message))) ∨
    (IsMalformed rules source ∧
      ∃ message, (fetchBy rules content reply source).result = .error (.invalid message)) := by
  unfold fetchBy IsMalformed
  cases hurl : isUrl rules source with
  | error error => exact .inr ⟨.inl ⟨error, rfl⟩, _, rfl⟩
  | ok isAddress =>
      cases isAddress with
      | true =>
          left
          exact ⟨by simp, fetchUrl_cases reply source⟩
      | false =>
          by_cases hnull : Char.ofNat 0 ∈ source
          · right
            have hcontains : source.contains (Char.ofNat 0) = true := by simpa using hnull
            refine ⟨.inr ⟨rfl, hnull⟩, "embedded null byte".toList, ?_⟩
            simp only [fetchFile, hcontains, if_true]
          · left
            refine ⟨?_, fetchFile_cases hnull⟩
            rintro (⟨error, herror⟩ | ⟨-, hmem⟩)
            · cases herror
            · exact hnull hmem

/-- Fetching breaks off for malformed sources and no others. -/
theorem fetchBy_eq_invalid_iff {source : Text} :
    (∃ message, (fetchBy rules content reply source).result = .error (.invalid message)) ↔
      IsMalformed rules source := by
  constructor
  · rintro ⟨message, h⟩
    rcases fetchBy_cases rules content reply source with ⟨-, ⟨t, ht⟩ | ⟨other, hother⟩⟩ | ⟨hmalformed, -⟩
    · rw [h] at ht
      cases ht
    · rw [h] at hother
      cases hother
    · exact hmalformed
  · intro hmalformed
    rcases fetchBy_cases rules content reply source with ⟨hsound, -⟩ | ⟨-, hinvalid⟩
    · exact absurd hmalformed hsound
    · exact hinvalid

end Source

namespace Session

open Html Html.Node Page Source

/-- The engines with sources fetched from files and from the web. -/
def Engines.fetching (engines : Engines) (rules : AddressRules)
    (content : Text → Except Text (List Byte)) (reply : Text → Reply) : Engines :=
  { engines with fetch := fun source => answerOf (fetchBy rules content reply source) }

variable {engines : Engines} {request : Request} {session : Session}

@[simp] theorem Load.session_after (load : Load) (events : List Event) :
    (load.after events).session = load.session := rfl

@[simp] theorem Load.result_after (load : Load) (events : List Event) :
    (load.after events).result = load.result := rfl

@[simp] theorem Load.events_after (load : Load) (events : List Event) :
    (load.after events).events = events ++ load.events := rfl

/-! ## The result of a load -/

/-- A load whose sources can be asked for answers as its ending says. -/
theorem result_load (h : ∀ message, ¬ NeedsInvalid engines request message) :
    (load engines request session).result =
      (endingIn engines request session.assetsAttached).result := by
  have hcourse := course engines request session
  generalize load engines request session = loaded at hcourse ⊢
  have hasked {session' : Session} (htries : TriesLatex session.opened session') :
      session'.assetsAttached = session.assetsAttached := by
    rcases htries with rfl | rfl <;> rfl
  cases hcourse with
  | broken events hbroken => exact absurd hbroken (h _)
  | failed events htries hending =>
      rw [endingIn_of_not_isLatex (by rw [hending]; rfl), hending]
      rfl
  | unattached events htries hlatex hattach =>
      rw [← hasked htries, endingIn_of_unattached hlatex hattach]
      rfl
  | rejected events htries hending hattach =>
      rw [← hasked htries, endingIn_of_attached hattach, hending]
      rfl
  | markdown events hending hway =>
      rw [endingIn_of_not_isLatex (isLatex_of_markdown hending hway), hending]
      rfl
  | latex events htries hending hway hattach =>
      rw [← hasked htries, endingIn_of_attached hattach, hending]
      rfl

theorem result_load_of_needsInvalid {message : Text}
    (h : NeedsInvalid engines request message) :
    (load engines request session).result = .error (.source message) := by
  unfold load
  rcases h with hpaper | ⟨⟨t, hpaper⟩, hbibliography⟩
  · simp only [hpaper, Load.result_after]
  · simp only [hpaper, hbibliography, Load.result_after]

/-- A load has an outcome unless one of its sources cannot be asked for or it breaks off. -/
theorem exists_outcome_load_iff :
    (∃ outcome, (load engines request session).result = .ok outcome) ↔
      (∀ message, ¬ NeedsInvalid engines request message) ∧
        ¬ BreaksOff engines request session.assetsAttached := by
  by_cases h : ∀ message, ¬ NeedsInvalid engines request message
  · rw [result_load h, exists_outcome_endingIn_iff, and_iff_right h]
  · have hnone : ¬ ∃ outcome, (load engines request session).result = .ok outcome := by
      obtain ⟨message, hneeds⟩ := not_forall_not.mp h
      rw [result_load_of_needsInvalid hneeds]
      nofun
    exact iff_of_false hnone fun hall => h hall.1

/-! ## The two sources -/

/-- A bibliography is given up for a source that breaks fetching off, and for no other. -/
theorem exists_entries_iff {source : Option Text} :
    (∃ entries, (loadBibliography engines source).1 = .ok entries) ↔
      ∀ t ∈ source, t ≠ [] → ¬ ∃ message, (engines.fetch t).result = .error (.invalid message) := by
  unfold loadBibliography
  cases source with
  | none => simp
  | some t =>
      by_cases hempty : t = []
      · have hdropped : (some t).filter (fun s => decide (s ≠ [])) = none := by simp [hempty]
        simp only [hdropped]
        simp [hempty]
      · have hkept : (some t).filter (fun s => decide (s ≠ [])) = some t := by simp [hempty]
        simp only [hkept]
        cases hanswer : (engines.fetch t).result with
        | ok text => simp [hanswer]
        | error failure => cases failure <;> simp [hanswer, hempty]

/-- Which sources a load has to ask for. -/
theorem not_needsInvalid_iff :
    (∀ message, ¬ NeedsInvalid engines request message) ↔
      (∃ message, (engines.fetch request.paper).result = .error (.unreadable message)) ∨
      ((∃ t, (engines.fetch request.paper).result = .ok t) ∧
        ∃ entries, (loadBibliography engines request.bibliography).1 = .ok entries) := by
  unfold NeedsInvalid
  cases hpaper : (engines.fetch request.paper).result with
  | error failure => cases failure <;> simp
  | ok source =>
      cases hbibliography : (loadBibliography engines request.bibliography).1 <;> simp

/-! ## What is shown of a failure -/

/-- The message that a paper could not be loaded, as it stands on the page. -/
def errorNode (message : Text) : Node :=
  .element ⟨"div".toList, [("class".toList, "error".toList)]⟩
    [.text .prose ("Could not load paper: ".toList ++ message)]

theorem built_errorMarkup (message : Text) :
    Markup.built [] [] [errorMarkup message] = [errorNode message] := by
  have htag : Markup.keptTag "div".toList (Reference.classAttributes "error") =
      ⟨"div".toList, [("class".toList, "error".toList)]⟩ := by decide
  have htext : Markup.textNodes ["div".toList] ("Could not load paper: ".toList ++ message) =
      [.text .prose ("Could not load paper: ".toList ++ message)] := rfl
  rw [errorMarkup, Reference.classed, Markup.built_element, htag, Markup.built_text_cons, Markup.built_nil,
    List.nil_append, htext, errorNode]

/-- A load that failed says so in the status line, and shows nothing but its message. -/
theorem Framed.find?_fail (h : Framed session.page) (citations : Citations) (message : Text) :
    let page := (Session.fail citations message session).session.page
    page.find? statusId = some (.element statusTag [.text .prose failedStatus]) ∧
      page.find? contentId = some (.element contentTag [errorNode message]) := by
  intro page
  obtain ⟨l, hpage, hsteady⟩ := h
  have hstatus := hsteady.with_status failedStatus
  let shown : Layout :=
    { l with status := [.text .prose failedStatus], content := [errorNode message] }
  have hsteady' : shown.Steady := hstatus.with_content _
  have hshown : page = shown.page := by
    show (session.page.setStatus failedStatus).showError message = _
    rw [hpage, Layout.setStatus_page hsteady.apart.head, Page.showError, hstatus.apart.setContent,
      parsed_of_parse (parse_error message), built_errorMarkup]
  rw [hshown, hsteady'.apart.find?_status, hsteady'.apart.find?_content]
  exact ⟨rfl, rfl⟩

/-! ## Loads with failures -/

theorem exists_load_of_unreadable {message : Text}
    (h : (engines.fetch request.paper).result = .error (.unreadable message)) :
    ∃ events, load engines request session = (fail {} message session.opened).after events := by
  unfold load
  simp only [h]
  exact ⟨_, rfl⟩

/-- A bibliography that cannot be read is reported, and else the load goes on as it does without
one. -/
theorem load_of_unreadable_bibliography {paper source message : Text} {renderer : Option Text}
    (hsource : source ≠ []) (h : (engines.fetch source).result = .error (.unreadable message)) :
    let loaded := load engines ⟨paper, some source, renderer⟩ session
    let alone := load engines ⟨paper, none, renderer⟩ session
    loaded.session = alone.session ∧ loaded.result = alone.result ∧
      .report ("Warning: failed to load bibliography: ".toList ++ message) ∈ loaded.events := by
  have hkept : (some source).filter (fun s => decide (s ≠ [])) = some source := by simp [hsource]
  have hbibliography : loadBibliography engines (some source) =
      (.ok [], (engines.fetch source).reports.map Event.report ++
        [.report ("Warning: failed to load bibliography: ".toList ++ message)]) := by
    unfold loadBibliography
    simp only [hkept, h]
  have hnone : loadBibliography engines none = (.ok [], []) := rfl
  unfold load
  simp only [hbibliography, hnone, Load.session_after, Load.result_after, Load.events_after,
    true_and]
  simp

/-- With any files and any answers of the web, a load has an outcome unless it needs a source that
is malformed or LaTeX is rejected once it is rendered; a paper that cannot be read ends on a page
with its message, and a bibliography that cannot be read is reported and counts as none. -/
theorem load_contains_failures (rules : AddressRules) (content : Text → Except Text (List Byte))
    (reply : Text → Reply) (engines : Engines) (paper : Text) (bibliography renderer : Option Text)
    (session : Session) :
    let engines := engines.fetching rules content reply
    let read (source : Text) := (fetchBy rules content reply source).result
    let request : Request := ⟨paper, bibliography, renderer⟩
    let loaded := load engines request session
    (∀ source, (∃ t, read source = .ok t) ∨ (∃ message, read source = .error (.unreadable message)) ↔
      ¬ IsMalformed rules source) ∧
    ((∃ outcome, loaded.result = .ok outcome) ↔
      (¬ IsMalformed rules paper ∧ ((∃ message, read paper = .error (.unreadable message)) ∨
        ∀ source ∈ bibliography, ¬ IsMalformed rules source)) ∧
      ¬ BreaksOff engines request session.assetsAttached) ∧
    (∀ message, read paper = .error (.unreadable message) →
      loaded.result = .ok { status := failedStatus, error := some message } ∧
      (Framed session.page →
        loaded.session.page.find? statusId = some (.element statusTag [.text .prose failedStatus]) ∧
        loaded.session.page.find? contentId = some (.element contentTag [errorNode message]))) ∧
    (∀ source message, source ≠ [] → bibliography = some source →
      read source = .error (.unreadable message) →
      let alone := load engines ⟨paper, none, renderer⟩ session
      loaded.session = alone.session ∧ loaded.result = alone.result ∧
        .report ("Warning: failed to load bibliography: ".toList ++ message) ∈ loaded.events) := by
  intro engines read request loaded
  have hread (source : Text) : (engines.fetch source).result = read source := rfl
  have hmalformed (source : Text) : (∃ message, read source = .error (.invalid message)) ↔
      IsMalformed rules source := fetchBy_eq_invalid_iff
  refine ⟨?sources, ?outcome, ?paper, ?bibliography⟩
  case sources =>
    intro source
    rw [← hmalformed source]
    cases hsource : read source with
    | ok t => simp
    | error failure => cases failure <;> simp
  case outcome =>
    have hentries : (∃ entries, (loadBibliography engines bibliography).1 = .ok entries) ↔
        ∀ source ∈ bibliography, ¬ IsMalformed rules source := by
      rw [exists_entries_iff]
      refine forall₂_congr fun source _ => ?_
      rw [hread, hmalformed]
      constructor
      · -- an empty source is a path, and no file is asked for it
        rintro hfilled hbroken
        exact hfilled (fun hempty => not_isMalformed_nil (hempty ▸ hbroken)) hbroken
      · exact fun hsound _ => hsound
    rw [exists_outcome_load_iff, not_needsInvalid_iff, ← hmalformed paper]
    simp only [request, hread, hentries]
    cases hpaper : read paper with
    | ok t => simp
    | error failure => cases failure <;> simp
  case paper =>
    intro message hmessage
    obtain ⟨events, hload⟩ : ∃ events, loaded = (fail {} message session.opened).after events :=
      exists_load_of_unreadable hmessage
    rw [hload]
    exact ⟨rfl, fun hframed => hframed.opened.find?_fail {} message⟩
  case bibliography =>
    rintro source message hsource rfl hmessage
    exact load_of_unreadable_bibliography hsource hmessage

/-- Engines that give back what they are given. -/
def echoing : Engines where
  fetch _ := ⟨.ok [], []⟩
  markdown t := .ok t
  latex t := ⟨.ok t, []⟩
  assets := .ok none
  setter := none

/-- A folder without files. -/
def noFile (path : Text) : Except Text (List Byte) :=
  .error ("[Errno 2] No such file or directory: ".toList ++ Text.quoted path)

/-- A web that cannot be reached. -/
def noReply (_ : Text) : Reply := .failure false "no route to host".toList

theorem load_missing_paper :
    let paper := "core.tex".toList
    let message := "Could not read core.tex: [Errno 2] No such file or directory: 'core.tex'".toList
    let loaded := load (echoing.fetching .strict noFile noReply) ⟨paper, some "http://x/refs.bib".toList, none⟩ new
    (fetchBy .strict noFile noReply paper).result = .error (.unreadable message) ∧
      loaded.result = .ok { status := failedStatus, error := some message } ∧
      loaded.session.page.find? contentId = some (.element contentTag [errorNode message]) := by
  intro paper message loaded
  have hmissing : (fetchBy .strict noFile noReply paper).result = .error (.unreadable message) := by decide
  obtain ⟨hresult, hpage⟩ := (load_contains_failures .strict noFile noReply echoing paper
    (some "http://x/refs.bib".toList) none new).2.2.1 message hmissing
  exact ⟨hmissing, hresult, (hpage (framed_empty _)).2⟩

/-- An address whose host has an opening bracket alone, or brackets around what is no address,
breaks off the load that it is given to, be it the paper or the bibliography of a paper that could
be shown. -/
theorem load_malformed_host :
    let readable (_ : Text) : Except Text (List Byte) := .ok []
    let engines := echoing.fetching .strict readable noReply
    ∀ pair ∈ [("http://[".toList, "Invalid IPv6 URL".toList),
        (" http://[x]/a".toList, "'x' does not appear to be an IPv4 or IPv6 address".toList)],
      (fetchBy .strict readable noReply pair.1).result = .error (.invalid pair.2) ∧
        (load engines ⟨pair.1, none, none⟩ new).result = .error (.source pair.2) ∧
        (load engines ⟨"core.tex".toList, some pair.1, none⟩ new).result =
          .error (.source pair.2) := by
  intro readable engines pair hpair
  rcases List.mem_pair.mp hpair with rfl | rfl <;> exact ⟨rfl, rfl, rfl⟩

end Session

end PaperHtml
