import Mathlib
import PaperHtml.Proofs.Page.Changes
import PaperHtml.Session.Load

/-!
# How a load ends

What a load answers and what it leaves on the page depend on the paper asked for
and on the engines, not on the page that it finds.

## Strategy

`ending` follows the choices of a load without any page.  `Course` says once how
a load can go on from its beginning: which stage ends it, in which session, and
with which ending.  All that is proved of loads comes from `course` and from
what `fail` and `finish` do to the layout of a page.
-/

namespace PaperHtml.Session

open Html Html.Node Page

/-! ## The choices of a load -/

/-- How a load ends: with a message, with LaTeX that is rejected once it is rendered, or with a
fragment rendered on one of the ways. -/
inductive Ending where
  | failed (message : Text) (citations : Citations)
  | rejected (why : Rejection) (citations : Citations)
  | rendered (entries : List Bibliography.Entry) (outcome : Outcome) (fragment : Text)

namespace Ending

def citations : Ending → Citations
  | .failed _ citations | .rejected _ citations => citations
  | .rendered _ outcome _ => outcome.citations

/-- Whether the style sheets and scripts for LaTeX are wanted. -/
def isLatex : Ending → Bool
  | .failed .. => false
  | .rejected .. => true
  | .rendered _ outcome _ => outcome.way = some .latex

/-- The result of a load that ends in some way. -/
def result : Ending → Except Broken Outcome
  | .failed message citations =>
    .ok { status := failedStatus, error := some message, citations }
  | .rejected why _ => .error (.markup why)
  | .rendered _ outcome _ => .ok outcome

/-- What the status line says after a load. -/
def status : Ending → Text
  | .failed .. => failedStatus
  | .rejected .. => loadingStatus
  | .rendered _ outcome _ => outcome.status

end Ending

def latexEnding (engines : Engines) (entries : List Bibliography.Entry) (citations : Citations)
    (body : Text) (fallback : Bool) : Ending :=
  match (engines.latex (Conversion.toPlainLatex citations.numbers body)).result with
  | .error message => .failed message citations
  | .ok fragment =>
    match parse fragment with
    | .error why => .rejected why citations
    | .ok _ =>
      let status := if fallback then fallbackStatus else latexStatus
      .rendered entries { status, way := some .latex, fallback, citations } fragment

def markdownEnding (engines : Engines) (entries : List Bibliography.Entry)
    (citations : Citations) (body : Text) : Ending :=
  match renderMarkdown engines.markdown citations.numbers body with
  | .error _ => latexEnding engines entries citations body true
  | .ok fragment =>
    match parse fragment with
    | .error _ => latexEnding engines entries citations body true
    | .ok _ =>
      .rendered entries { status := markdownStatus, way := some .markdown, citations } fragment

/-- The entries of a bibliography that can be had, else none. -/
def entriesOf (engines : Engines) (source : Option Text) : List Bibliography.Entry :=
  match source.filter fun s => s ≠ [] with
  | none => []
  | some source =>
    match (engines.fetch source).result with
    | .ok t => Bibliography.read t
    | .error _ => []

/-- What is known of the citations of a paper. -/
def citedIn (engines : Engines) (request : Request) (source : Text) : Citations :=
  citationsOf (entriesOf engines request.bibliography) (Latex.body source)

def paperEnding (engines : Engines) (request : Request) (source : Text) : Ending :=
  let entries := entriesOf engines request.bibliography
  let citations := citedIn engines request source
  if Source.forcesLatex request.renderer then
    latexEnding engines entries citations (Latex.body source) false
  else markdownEnding engines entries citations (Latex.body source)

/-- How the load of a paper ends. -/
def ending (engines : Engines) (request : Request) : Ending :=
  match (engines.fetch request.paper).result with
  | .error (.unreadable message) | .error (.invalid message) => .failed message {}
  | .ok source => paperEnding engines request source

/-! ## How an ending comes about -/

/-- The text that a paper is rendered from as LaTeX. -/
def latexSource (source : Text) : Text :=
  Conversion.toPlainLatex (Citation.numbering (Citation.order (Latex.body source)))
    (Latex.body source)

/-- What Markdown makes of a paper. -/
def markdownOf (engines : Engines) (source : Text) : Except Text Text :=
  renderMarkdown engines.markdown (Citation.numbering (Citation.order (Latex.body source)))
    (Latex.body source)

/-- What LaTeX makes of a paper. -/
def latexOf (engines : Engines) (source : Text) : Except Text Text :=
  (engines.latex (latexSource source)).result

/-- Markdown is tried for a paper and gives way: it fails, or what it makes is rejected. -/
def MarkdownGivesWay (engines : Engines) (request : Request) (source : Text) : Prop :=
  Source.forcesLatex request.renderer = false ∧
    ∀ fragment, markdownOf engines source = .ok fragment → ∃ why, parse fragment = .error why

/-- A paper comes to be rendered as LaTeX, as a fallback or because that was wished for. -/
structure ComesToLatex (engines : Engines) (request : Request) (source : Text)
    (fallback : Bool) : Prop where
  read : (engines.fetch request.paper).result = .ok source
  way : if fallback then MarkdownGivesWay engines request source
    else Source.forcesLatex request.renderer = true

/-- Where the endings of loads come from. -/
inductive Ends (engines : Engines) (request : Request) : Ending → Prop where
  | unread {message : Text} (h : ∀ source, (engines.fetch request.paper).result ≠ .ok source) :
      Ends engines request (.failed message {})
  | markdown {source fragment : Text} {nodes : List Node}
      (hsource : (engines.fetch request.paper).result = .ok source)
      (hfree : Source.forcesLatex request.renderer = false)
      (h : markdownOf engines source = .ok fragment) (hparse : parse fragment = .ok nodes) :
      Ends engines request (.rendered (entriesOf engines request.bibliography)
        { status := markdownStatus, way := some .markdown
          citations := citedIn engines request source } fragment)
  | failed {source message : Text} {fallback : Bool}
      (hlatex : ComesToLatex engines request source fallback)
      (h : latexOf engines source = .error message) :
      Ends engines request (.failed message (citedIn engines request source))
  | rejected {source fragment : Text} {fallback : Bool} {why : Rejection}
      (hlatex : ComesToLatex engines request source fallback)
      (h : latexOf engines source = .ok fragment) (hparse : parse fragment = .error why) :
      Ends engines request (.rejected why (citedIn engines request source))
  | latex {source fragment : Text} {fallback : Bool} {nodes : List Node}
      (hlatex : ComesToLatex engines request source fallback)
      (h : latexOf engines source = .ok fragment) (hparse : parse fragment = .ok nodes) :
      Ends engines request (.rendered (entriesOf engines request.bibliography)
        { status := if fallback then fallbackStatus else latexStatus, way := some .latex, fallback
          citations := citedIn engines request source } fragment)

variable {engines : Engines} {request : Request}

theorem markdownOf_eq (engines : Engines) (request : Request) (source : Text) :
    renderMarkdown engines.markdown (citedIn engines request source).numbers
      (Latex.body source) = markdownOf engines source := rfl

theorem latexOf_eq (engines : Engines) (request : Request) (source : Text) :
    (engines.latex (Conversion.toPlainLatex (citedIn engines request source).numbers
      (Latex.body source))).result = latexOf engines source := rfl

theorem ending_of_latex {source : Text} {fallback : Bool}
    (h : ComesToLatex engines request source fallback) :
    ending engines request = latexEnding engines (entriesOf engines request.bibliography)
      (citedIn engines request source) (Latex.body source) fallback := by
  obtain ⟨hread, hway⟩ := h
  rw [ending, hread]
  simp only [paperEnding]
  cases fallback with
  | false =>
      simp only [Bool.false_eq_true, if_false] at hway
      rw [if_pos hway]
  | true =>
      simp only [if_true] at hway
      obtain ⟨hfree, hgives⟩ := hway
      rw [if_neg (Bool.eq_false_iff.mp hfree), markdownEnding, markdownOf_eq]
      cases hmade : markdownOf engines source with
      | error message => rfl
      | ok fragment =>
          obtain ⟨why, hwhy⟩ := hgives fragment hmade
          simp only [hwhy]

theorem ends_of_latex {source : Text} {fallback : Bool}
    (h : ComesToLatex engines request source fallback) :
    Ends engines request (ending engines request) := by
  rw [ending_of_latex h, latexEnding, latexOf_eq]
  cases hmade : latexOf engines source with
  | error message => exact .failed h hmade
  | ok fragment =>
      cases hparse : parse fragment with
      | error why =>
          simp only [hparse]
          exact .rejected h hmade hparse
      | ok nodes =>
          simp only [hparse]
          exact .latex h hmade hparse

theorem ends_of_markdown {source fragment : Text} {nodes : List Node}
    (hread : (engines.fetch request.paper).result = .ok source)
    (hfree : Source.forcesLatex request.renderer = false)
    (hmade : markdownOf engines source = .ok fragment) (hparse : parse fragment = .ok nodes) :
    Ends engines request (ending engines request) := by
  rw [ending, hread]
  simp only [paperEnding]
  rw [if_neg (Bool.eq_false_iff.mp hfree), markdownEnding, markdownOf_eq, hmade]
  simp only [hparse]
  exact .markdown hread hfree hmade hparse

theorem ends (engines : Engines) (request : Request) :
    Ends engines request (ending engines request) := by
  cases hread : (engines.fetch request.paper).result with
  | error failure =>
      have hunread (source : Text) : (engines.fetch request.paper).result ≠ .ok source := by
        rw [hread]
        nofun
      rw [ending, hread]
      cases failure <;> exact .unread hunread
  | ok source =>
      cases hforced : Source.forcesLatex request.renderer with
      | true =>
          have hlatex : ComesToLatex engines request source false := ⟨hread, by simpa using hforced⟩
          exact ends_of_latex hlatex
      | false =>
          by_cases hgives : MarkdownGivesWay engines request source
          · have hlatex : ComesToLatex engines request source true := ⟨hread, by simpa using hgives⟩
            exact ends_of_latex hlatex
          · obtain ⟨fragment, hmade, hparse⟩ : ∃ fragment,
                markdownOf engines source = .ok fragment ∧
                  ∀ why, parse fragment ≠ .error why := by
              simpa [MarkdownGivesWay, hforced] using hgives
            cases hnodes : parse fragment with
            | error why => exact absurd hnodes (hparse why)
            | ok nodes => exact ends_of_markdown hread hforced hmade hnodes

/-- What a load that is rendered has been rendered from. -/
theorem ending_eq_rendered {entries : List Bibliography.Entry} {outcome : Outcome}
    {fragment : Text} (h : ending engines request = .rendered entries outcome fragment) :
    ∃ source, (engines.fetch request.paper).result = .ok source ∧
      entries = entriesOf engines request.bibliography ∧
      outcome.citations = citationsOf entries (Latex.body source) ∧
      ((outcome.way = some .markdown ∧ markdownOf engines source = .ok fragment) ∨
        (outcome.way = some .latex ∧ latexOf engines source = .ok fragment)) := by
  have hends := ends engines request
  rw [h] at hends
  cases hends with
  | markdown hsource hfree hfragment => exact ⟨_, hsource, rfl, rfl, .inl ⟨rfl, hfragment⟩⟩
  | latex hlatex hfragment => exact ⟨_, hlatex.read, rfl, rfl, .inr ⟨rfl, hfragment⟩⟩

/-- The paper of a request is rendered as LaTeX, and what comes of it is rejected. -/
def LatexRejected (engines : Engines) (request : Request) (why : Rejection) : Prop :=
  ∃ source fallback fragment, ComesToLatex engines request source fallback ∧
    latexOf engines source = .ok fragment ∧ parse fragment = .error why

theorem ending_eq_rejected_iff {why : Rejection} :
    (∃ citations, ending engines request = .rejected why citations) ↔
      LatexRejected engines request why := by
  constructor
  · rintro ⟨citations, h⟩
    have hends := ends engines request
    rw [h] at hends
    cases hends with
    | rejected hlatex hmade hparse => exact ⟨_, _, _, hlatex, hmade, hparse⟩
  · rintro ⟨source, fallback, fragment, hlatex, hmade, hparse⟩
    refine ⟨citedIn engines request source, ?_⟩
    rw [ending_of_latex hlatex, latexEnding, latexOf_eq, hmade]
    simp only [hparse]

/-- What LaTeX leads to is not what a failure does. -/
theorem result_ne_failed (h : (ending engines request).isLatex = true) (message : Text)
    (citations : Citations) :
    (ending engines request).result ≠ (Ending.failed message citations).result := by
  have hends := ends engines request
  generalize ending engines request = ending at h hends
  cases hends with
  | unread | failed | markdown => cases h
  | rejected => nofun
  | latex =>
      intro hsame
      cases congrArg Outcome.error (Except.ok.inj hsame)

/-! ## The course of a load -/

/-- Whether the style sheets and scripts for LaTeX can be had, or why not. -/
def assetsAnswer (engines : Engines) : Except Text Unit :=
  match engines.assets with
  | .error message => .error message
  | .ok none => .ok ()
  | .ok (some source) =>
    match parse source with
    | .error why => .error why.message
    | .ok _ => .ok ()

/-- How a load ends in a session that has, or has not, asked for style sheets and scripts before:
as a failure where it has to ask for them and cannot have them. -/
def endingIn (engines : Engines) (request : Request) (asked : Bool) : Ending :=
  match (ending engines request).isLatex && !asked, assetsAnswer engines with
  | true, .error message => .failed message (ending engines request).citations
  | _, _ => ending engines request

theorem endingIn_eq (request : Request) {asked : Bool}
    (h : ¬ (asked = true ∧ (ending engines request).isLatex = true ∧
      ∃ message, assetsAnswer engines = .error message)) :
    endingIn engines request asked = endingIn engines request false := by
  cases asked with
  | false => rfl
  | true =>
      cases hlatex : (ending engines request).isLatex with
      | false => simp only [endingIn, hlatex, Bool.false_and]
      | true =>
          cases hanswer : assetsAnswer engines with
          | error message => exact absurd ⟨rfl, hlatex, message, hanswer⟩ h
          | ok answer =>
              rw [endingIn, endingIn, hlatex, hanswer]
              rfl

/-- LaTeX is rejected once it is rendered, and its style sheets and scripts do not fail the load
before. -/
def BreaksOff (engines : Engines) (request : Request) (asked : Bool) : Prop :=
  (∃ why, LatexRejected engines request why) ∧ (asked = true ∨ assetsAnswer engines = .ok ())

theorem exists_outcome_endingIn_iff {asked : Bool} :
    (∃ outcome, (endingIn engines request asked).result = .ok outcome) ↔
      ¬ BreaksOff engines request asked := by
  unfold BreaksOff
  simp only [← ending_eq_rejected_iff]
  unfold endingIn
  cases ending engines request with
  | failed message citations => simp [Ending.result, Ending.isLatex]
  | rendered entries outcome fragment =>
      cases hanswer : assetsAnswer engines <;> cases asked <;>
        cases hlatex : (Ending.rendered entries outcome fragment).isLatex <;>
        simp [Ending.result]
  | rejected why citations =>
      cases hanswer : assetsAnswer engines <;> cases asked <;> simp [Ending.result, Ending.isLatex]

/-- A source that a load needs cannot be asked for. -/
def NeedsInvalid (engines : Engines) (request : Request) (message : Text) : Prop :=
  (engines.fetch request.paper).result = .error (.invalid message) ∨
    (∃ t, (engines.fetch request.paper).result = .ok t) ∧
      (loadBibliography engines request.bibliography).1 = .error message

/-- A session in which a load tries LaTeX: that at its beginning, or the one that rejected Markdown
leaves. -/
def TriesLatex (start session : Session) : Prop := session = start ∨ session = start.cleared

/-- How a load goes on from the session at its beginning. -/
inductive Course (engines : Engines) (request : Request) (start : Session) : Load → Prop where
  /-- The failure is not contained. -/
  | broken {message : Text} (events : List Event) (h : NeedsInvalid engines request message) :
      Course engines request start ⟨start, events, .error (.source message)⟩
  | failed {message : Text} {citations : Citations} {session : Session} (events : List Event)
      (htries : TriesLatex start session)
      (h : ending engines request = .failed message citations) :
      Course engines request start ((fail citations message session).after events)
  /-- The paper is rendered as LaTeX, but the style sheets and scripts for it cannot be had. -/
  | unattached {message : Text} {session session' : Session} (events : List Event)
      (htries : TriesLatex start session) (h : (ending engines request).isLatex = true)
      (hattach : attachAssets engines.assets session = (.error message, session')) :
      Course engines request start
        ((fail (ending engines request).citations message session').after events)
  /-- The paper is rendered as LaTeX, but what comes of it is rejected. -/
  | rejected {why : Rejection} {citations : Citations} {session session' : Session}
      (events : List Event) (htries : TriesLatex start session)
      (h : ending engines request = .rejected why citations)
      (hattach : attachAssets engines.assets session = (.ok (), session')) :
      Course engines request start ⟨session'.cleared, events, .error (.markup why)⟩
  | markdown {entries : List Bibliography.Entry} {outcome : Outcome} {fragment : Text}
      (events : List Event) (h : ending engines request = .rendered entries outcome fragment)
      (hway : outcome.way = some .markdown) :
      Course engines request start
        ((finish engines.setter entries outcome fragment start).after events)
  | latex {entries : List Bibliography.Entry} {outcome : Outcome} {fragment : Text}
      {session session' : Session} (events : List Event) (htries : TriesLatex start session)
      (h : ending engines request = .rendered entries outcome fragment)
      (hway : outcome.way = some .latex)
      (hattach : attachAssets engines.assets session = (.ok (), session')) :
      Course engines request start
        ((finish engines.setter entries outcome fragment session').after events)

variable {start session : Session}

/-- An outcome of which something computable holds. -/
theorem exists_outcome_of_any {result : Except Broken Outcome} {p : Outcome → Bool}
    (h : result.toOption.any p = true) : ∃ outcome, result = .ok outcome ∧ p outcome = true := by
  cases result with
  | error why => contradiction
  | ok outcome => exact ⟨outcome, rfl, h⟩

theorem Load.after_after (load : Load) (before events : List Event) :
    (load.after events).after before = load.after (before ++ events) := by
  simp [Load.after]

theorem Course.after {load : Load} (h : Course engines request start load)
    (before : List Event) : Course engines request start (load.after before) := by
  cases h with
  | broken events h => exact .broken (before ++ events) h
  | failed events htries h =>
      rw [Load.after_after]
      exact .failed _ htries h
  | unattached events htries h hattach =>
      rw [Load.after_after]
      exact .unattached _ htries h hattach
  | rejected events htries h hattach => exact .rejected (before ++ events) htries h hattach
  | markdown events h hway =>
      rw [Load.after_after]
      exact .markdown _ h hway
  | latex events htries h hway hattach =>
      rw [Load.after_after]
      exact .latex _ htries h hway hattach

theorem course_loadByLatex {entries : List Bibliography.Entry} {citations : Citations}
    {body : Text} {fallback : Bool} (htries : TriesLatex start session)
    (h : ending engines request = latexEnding engines entries citations body fallback) :
    Course engines request start
      (loadByLatex engines entries citations body fallback session) := by
  unfold latexEnding at h
  unfold loadByLatex
  apply Course.after
  cases hanswer : (engines.latex (Conversion.toPlainLatex citations.numbers body)).result with
  | error message =>
      rw [hanswer] at h
      exact .failed [] htries h
  | ok fragment =>
      simp only [hanswer] at h
      obtain ⟨attached, session', hattach⟩ : ∃ attached session',
          attachAssets engines.assets session = (attached, session') := ⟨_, _, rfl⟩
      simp only [hattach]
      cases attached with
      | error message =>
          obtain ⟨hlatex, hcitations⟩ : (ending engines request).isLatex = true ∧
              (ending engines request).citations = citations := by
            rw [h]
            cases parse fragment <;> exact ⟨rfl, rfl⟩
          rw [← hcitations]
          exact .unattached [] htries hlatex hattach
      | ok attached =>
          cases hparse : parse fragment with
          | error why =>
              simp only [hparse] at h
              exact .rejected [] htries h hattach
          | ok nodes =>
              simp only [hparse] at h
              exact .latex [] htries h rfl hattach

theorem course_loadByMarkdown {entries : List Bibliography.Entry} {citations : Citations}
    {body : Text} (h : ending engines request = markdownEnding engines entries citations body) :
    Course engines request start (loadByMarkdown engines entries citations body start) := by
  unfold markdownEnding at h
  unfold loadByMarkdown
  apply Course.after
  cases hrendered : renderMarkdown engines.markdown citations.numbers body with
  | error message =>
      rw [hrendered] at h
      exact (course_loadByLatex (.inl rfl) h).after _
  | ok fragment =>
      simp only [hrendered] at h ⊢
      cases hparse : parse fragment with
      | error why =>
          simp only [hparse] at h
          exact (course_loadByLatex (.inr rfl) h).after _
      | ok nodes =>
          simp only [hparse] at h
          exact .markdown [] h rfl

theorem course_renderPaper {source : Text}
    (h : ending engines request = paperEnding engines request source) :
    Course engines request start
      (renderPaper engines request.renderer (entriesOf engines request.bibliography) source
        start) := by
  unfold paperEnding at h
  unfold renderPaper
  apply Course.after
  split at h
  · rename_i hforced
    rw [if_pos hforced]
    exact course_loadByLatex (.inl rfl) h
  · rename_i hforced
    rw [if_neg hforced]
    exact course_loadByMarkdown h

theorem loadBibliography_cases (engines : Engines) (source : Option Text) :
    (loadBibliography engines source).1 = .ok (entriesOf engines source) ∨
      ∃ t message, (engines.fetch t).result = .error (.invalid message) ∧
        (loadBibliography engines source).1 = .error message := by
  unfold loadBibliography entriesOf
  cases source.filter fun s => s ≠ [] with
  | none => exact .inl rfl
  | some source =>
      cases hresult : (engines.fetch source).result with
      | ok t => exact .inl (by simp only [hresult])
      | error failure =>
          cases failure with
          | unreadable message => exact .inl (by simp only [hresult])
          | invalid message => exact .inr ⟨source, message, hresult, by simp only [hresult]⟩

/-- Every load takes one of these courses. -/
theorem course (engines : Engines) (request : Request) (session : Session) :
    Course engines request session.opened (load engines request session) := by
  have hending : ending engines request = ending engines request := rfl
  conv_rhs at hending => rw [ending]
  obtain ⟨found, events, hpair⟩ : ∃ found events,
      loadBibliography engines request.bibliography = (found, events) := ⟨_, _, rfl⟩
  have hcases := loadBibliography_cases engines request.bibliography
  rw [hpair] at hcases
  rw [load, hpair]
  apply Course.after
  cases hpaper : (engines.fetch request.paper).result with
  | error failure =>
      rw [hpaper] at hending
      cases failure with
      | unreadable message => exact .failed [] (.inl rfl) hending
      | invalid message => exact .broken [] (.inl hpaper)
  | ok source =>
      rw [hpaper] at hending
      rcases hcases with rfl | ⟨_, message, -, rfl⟩
      · exact course_renderPaper hending
      · exact .broken [] (.inr ⟨⟨source, hpaper⟩, by rw [hpair]⟩)

/-- A session in which a rendered paper is shown: that at the beginning of a load, or one that has
been given the style sheets and scripts for LaTeX. -/
def IsReady (engines : Engines) (start ready : Session) : Prop :=
  ready = start ∨ ∃ before, TriesLatex start before ∧
    attachAssets engines.assets before = (.ok (), ready)

/-- A load that succeeds shows what was rendered. -/
theorem exists_finish_of_load {outcome : Outcome}
    (hresult : (load engines request session).result = .ok outcome) (hok : outcome.isOk = true) :
    ∃ entries fragment ready, IsReady engines session.opened ready ∧
      ending engines request = .rendered entries outcome fragment ∧
      (load engines request session).session =
        (finish engines.setter entries outcome fragment ready).session := by
  have hcourse := course engines request session
  generalize load engines request session = loaded at hcourse hresult ⊢
  cases hcourse with
  | broken events hbroken => cases hresult
  | failed events htries hending =>
      cases hresult
      cases hok
  | unattached events htries hlatex hattach =>
      cases hresult
      cases hok
  | rejected events htries hending hattach => cases hresult
  | markdown events hending =>
      cases hresult
      exact ⟨_, _, _, .inl rfl, hending, rfl⟩
  | latex events htries hending hway hattach =>
      cases hresult
      exact ⟨_, _, _, .inr ⟨_, htries, hattach⟩, hending, rfl⟩

/-- Engines that fetch every source, if it can be read, need none that cannot be asked for. -/
theorem not_needsInvalid
    (hfetch : ∀ source message, (engines.fetch source).result ≠ .error (.invalid message))
    (message : Text) : ¬ NeedsInvalid engines request message := by
  rintro (hpaper | ⟨-, hbibliography⟩)
  · exact hfetch _ _ hpaper
  · rcases loadBibliography_cases engines request.bibliography with hfound | ⟨_, _, hbroken, -⟩
    · cases hbibliography.symm.trans hfound
    · exact hfetch _ _ hbroken

/-! ## What a load leaves -/

/-- Nodes of the content with the formulas set. -/
def typeset (setter : Option Setter) (nodes : List Node) : List Node :=
  match setter with
  | none => nodes
  | some setter => (setter Layout.contentAround nodes).nodes

/-- The content that a rendered fragment becomes. -/
def renderedContent (setter : Option Setter) (entries : List Bibliography.Entry)
    (citations : Citations) (fragment : Text) : List Node :=
  (Reference.annotate citations.order (typeset setter (parsed fragment))).2 ++
    if entries.isEmpty then [] else parsed (Reference.listing citations.references)

namespace Ending

/-- The content that a load leaves. -/
def content (setter : Option Setter) : Ending → List Node
  | .failed message _ => Markup.built [] [] [errorMarkup message]
  | .rejected .. => []
  | .rendered entries outcome fragment =>
    renderedContent setter entries outcome.citations fragment

/-- The element with the details for the browser that a load leaves. -/
def data : Ending → Option Node
  | .failed .. | .rejected .. => none
  | .rendered _ outcome _ => some (Panel.ofReferences outcome.citations.references).dataNode

end Ending

/-- A page is as a load leaves it. -/
structure Shows (setter : Option Setter) (ending : Ending) (l : Layout) : Prop where
  status : l.status = [.text .prose ending.status]
  content : l.content = ending.content setter
  panel : l.panel = Layout.emptyPanelNodes
  data : findAmong? (Tag.hasId dataId) l.outer = ending.data

end PaperHtml.Session
