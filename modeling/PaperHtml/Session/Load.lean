import PaperHtml.Bibliography.Reader
import PaperHtml.Conversion.Pass
import PaperHtml.Latex.Document
import PaperHtml.Page.Panel
import PaperHtml.Session.Engines
import PaperHtml.Source.Query

/-!
# Loading a paper

A session keeps one page.  Loading a paper fetches it with its bibliography,
renders it as Markdown or, if that fails or is not wanted, as LaTeX, sets the
formulas, and puts the references and their details into the page.

## Strategy

A load is cut into stages, each a function from a session to a session with the
events on the way: `opened` clears what the last load left, `fetchSources` asks
for the two sources, `renderPaper` chooses the way, and `finish` or `fail` ends
it.  A failure that no stage contains ends the load without an outcome: a source
that is neither an address nor a path, and LaTeX whose rendering is rejected.
-/

namespace PaperHtml

open Session

/-- The page of a paper with its panel, and whether the style sheet for LaTeX is in it. -/
structure Session where
  page : Page
  panel : Option Panel := none
  assetsAttached : Bool := false

namespace Session

/-- A paper to load: its source, that of its bibliography, and the renderer wished for. -/
structure Request where
  paper : Text
  bibliography : Option Text := none
  renderer : Option Text := none

/-- What came of a load: the session, the events, and the outcome or why the load broke off. -/
structure Load where
  session : Session
  events : List Event
  result : Except Broken Outcome

/-- A load with events that came before it. -/
def Load.after (events : List Event) (load : Load) : Load :=
  { load with events := events ++ load.events }

/-- A session with an empty page. -/
def new : Session := { page := Page.empty "Paper".toList }

/-! ## Sources -/

/-- The entries of a bibliography, or a failure that is not contained, with the events. -/
def loadBibliography (engines : Engines) (source : Option Text) :
    Except Text (List Bibliography.Entry) × List Event :=
  match source.filter fun s => s ≠ [] with
  | none => (.ok [], [])
  | some source =>
    let answer := engines.fetch source
    let reports := answer.reports.map Event.report
    match answer.result with
    | .ok t =>
      let entries := Bibliography.read t
      (.ok entries, reports ++
        [.report ("Parsed ".toList ++ Text.ofNat entries.length ++
          " bibliography entries".toList)])
    | .error (.unreadable message) =>
      (.ok [], reports ++
        [.report ("Warning: failed to load bibliography: ".toList ++ message)])
    | .error (.invalid message) => (.error message, reports)

/-! ## Stages -/

/-- The session at the beginning of a load. -/
def opened (session : Session) : Session :=
  { session with page := session.page.resetPanel.setStatus loadingStatus, panel := none }

/-- A load that failed, with what is known of the citations. -/
def fail (citations : Citations) (message : Text) (session : Session) : Load where
  session := { session with page := (session.page.setStatus failedStatus).showError message }
  events := [.report ("Error: ".toList ++ message), .progress 0 failedStatus]
  result := .ok { status := failedStatus, error := some message, citations }

/-- The formulas of the content set, if they are to be. -/
def setFormulas (setter : Option Setter) (page : Page) : Page × List Event :=
  match setter with
  | none => (page, [])
  | some setter =>
    let (answer, page) := page.change (Html.Tag.hasId Page.contentId) fun around children =>
      let answer := setter around children
      (answer, answer.nodes)
    let reports := ((answer.map SettingAnswer.reports).getD []).map Event.report
    let last :=
      match answer.map SettingAnswer.result with
      | some (.ok count) => "Typeset ".toList ++ Text.ofNat count ++ " math spans".toList
      | some (.error message) => "Warning: math typesetting failed: ".toList ++ message
      | none => "Typeset 0 math spans".toList
    (page, .progress 80 "Typesetting math...".toList :: reports ++ [.report last])

/-- The anchors in the content marked as citations. -/
def annotateContent (order : List Text) (page : Page) : Page :=
  page.modify (Html.Tag.hasId Page.contentId) fun children =>
    (Reference.annotate order children).2

/-- The end of a load on one of the ways, with the fragment that was rendered. -/
def finish (setter : Option Setter) (entries : List Bibliography.Entry) (outcome : Outcome)
    (fragment : Text) (session : Session) : Load :=
  let page := (session.page.setContent fragment).setStatus outcome.status
  let (page, events) := setFormulas setter page
  let page := annotateContent outcome.citations.order page
  -- the bibliography decides, not the citations: a section without references is possible
  let page :=
    if entries.isEmpty then page
    else page.appendContent (Reference.listing outcome.citations.references)
  let (panel, page) := (Panel.ofReferences outcome.citations.references).attach page
  { session := { session with page, panel := some panel }
    events := events ++ [.progress 100 outcome.status, .report outcome.status]
    result := .ok outcome }

/-! ## The two ways -/

/-- The text that a body is rendered from as Markdown, with its formulas guarded. -/
def guardedMarkdown (numbers : Citation.Numbering) (body : Text) : Math.Guarded :=
  Math.guard (Conversion.toMarkdown numbers body)

/-- A body rendered as Markdown, with its formulas put back. -/
def renderMarkdown (markdown : Text → Except Text Text) (numbers : Citation.Numbering)
    (body : Text) : Except Text Text :=
  let guarded := guardedMarkdown numbers body
  (markdown guarded.text).map (Math.restore guarded.spans)

/-- The style sheets and scripts for LaTeX put into the page, if they have not been asked for
before. -/
def attachAssets (assets : Except Text (Option Text)) (session : Session) :
    Except Text Unit × Session :=
  if session.assetsAttached then (.ok (), session)
  else
    -- they count as asked for even if they cannot be had
    let session := { session with assetsAttached := true }
    match assets with
    | .error message => (.error message, session)
    | .ok none => (.ok (), session)
    | .ok (some source) =>
      if source = [] then (.ok (), session)
      else
        match Html.parse source with
        | .ok _ => (.ok (), { session with page := session.page.appendHead source })
        | .error why => (.error why.message, session)

/-- The session as it is where its content was to be replaced by source that is rejected. -/
def cleared (session : Session) : Session := { session with page := session.page.clearContent }

/-- The way by LaTeX to its end; `fallback` tells that Markdown has failed. -/
def loadByLatex (engines : Engines) (entries : List Bibliography.Entry) (citations : Citations)
    (body : Text) (fallback : Bool) (session : Session) : Load :=
  let text := Conversion.toPlainLatex citations.numbers body
  let answer := engines.latex text
  let events := .progress 60 "Rendering via LaTeX...".toList :: .asked .latex text ::
    answer.reports.map Event.report
  let ended :=
    match answer.result with
    | .error message => fail citations message session
    | .ok fragment =>
      match attachAssets engines.assets session with
      | (.error message, session) => fail citations message session
      | (.ok (), session) =>
        match Html.parse fragment with
        | .error why => ⟨session.cleared, [], .error (.markup why)⟩
        | .ok _ =>
          let status := if fallback then fallbackStatus else latexStatus
          finish engines.setter entries { status, way := some .latex, fallback, citations }
            fragment session
  ended.after events

/-- The way by Markdown to its end, or on by LaTeX. -/
def loadByMarkdown (engines : Engines) (entries : List Bibliography.Entry)
    (citations : Citations) (body : Text) (session : Session) : Load :=
  let events := [.progress 50 "Rendering via Markdown...".toList,
    .asked .markdown (guardedMarkdown citations.numbers body).text]
  let fallBack (message : Text) (session : Session) : Load :=
    (loadByLatex engines entries citations body true session).after
      [.report ("Warning: Markdown render failed, trying LaTeX: ".toList ++ message)]
  let ended :=
    match renderMarkdown engines.markdown citations.numbers body with
    | .error message => fallBack message session
    | .ok fragment =>
      match Html.parse fragment with
      | .error why => fallBack why.message session.cleared
      | .ok _ =>
        finish engines.setter entries
          { status := markdownStatus, way := some .markdown, citations } fragment session
  ended.after events

/-! ## The whole load -/

/-- What is known of the citations in a body. -/
def citationsOf (entries : List Bibliography.Entry) (body : Text) : Citations :=
  let order := Citation.order body
  { order, numbers := Citation.numbering order,
    references := Citation.resolveAll entries order }

/-- A paper rendered, once its source and its bibliography are there. -/
def renderPaper (engines : Engines) (renderer : Option Text) (entries : List Bibliography.Entry)
    (source : Text) (session : Session) : Load :=
  let body := Latex.body source
  let citations := citationsOf entries body
  let events := [.progress 30 "Resolving citations...".toList,
    .report ("Found ".toList ++ Text.ofNat citations.order.length ++ " cited keys".toList)]
  let ended :=
    if Source.forcesLatex renderer then
      loadByLatex engines entries citations body false session
    else loadByMarkdown engines entries citations body session
  ended.after events

/-- A paper loaded into the page of a session. -/
def load (engines : Engines) (request : Request) (session : Session) : Load :=
  let session := session.opened
  let (bibliography, bibliographyEvents) := loadBibliography engines request.bibliography
  let paper := engines.fetch request.paper
  let ended : Load :=
    -- a bibliography that broke off does not matter if the paper cannot be read
    match paper.result with
    | .error (.unreadable message) => fail {} message session
    | .error (.invalid message) => ⟨session, [], .error (.source message)⟩
    | .ok source =>
      match bibliography with
      | .error message => ⟨session, [], .error (.source message)⟩
      | .ok entries => renderPaper engines request.renderer entries source session
  ended.after <|
    .progress 5 loadingStatus :: bibliographyEvents ++ paper.reports.map Event.report

/-- A click on the citation with a key. -/
def click (key : Text) (session : Session) : Session :=
  match session.panel with
  | some panel => { session with page := panel.click key session.page }
  | none => session

end Session

end PaperHtml
