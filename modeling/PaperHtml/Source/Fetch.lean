import PaperHtml.Source.Folder
import PaperHtml.Source.Url
import PaperHtml.Text.Lines

/-!
# Fetching a source

A source is read from the web or from a file, as UTF-8.  A source that cannot be
read is a failure that the program reports and lives with (`unreadable`); a
source that is neither an address nor a path ends what it was needed for
(`invalid`).
-/

namespace PaperHtml.Source

open Text

/-- What the web answers to a request. -/
inductive Reply where
  | response (status : Nat) (reason : Text) (content : List Byte)
  /-- The request failed; `refused` tells that this was a matter of its status. -/
  | failure (refused : Bool) (message : Text)

/-- The world as far as sources come from it. -/
structure Surroundings where
  folder : Folder
  request : Text → Reply
  /-- The rules by which addresses are told from paths. -/
  rules : AddressRules := .strict

/-- Why a source gives no text. -/
inductive Failure where
  | unreadable (message : Text)
  | invalid (message : Text)
  deriving DecidableEq

/-- What came of fetching a source: the text or a failure, the reports, and the requests made. -/
structure Fetched where
  result : Except Failure Text
  reports : List Text
  requests : List Text := []

/-- The seconds after which a request is given up. -/
def requestTimeout : Nat := 20

/-- Whether a status means that the client or the server refused the request. -/
def refusal? (status : Nat) : Option String :=
  if 400 ≤ status ∧ status < 500 then some " Client Error: "
  else if 500 ≤ status ∧ status < 600 then some " Server Error: "
  else none

/-- The report on a request that failed. -/
def requestReport (source message : Text) : Text :=
  "Request failed for ".toList ++ source ++ ": ".toList ++ message

/-- The failure of a request that was refused. -/
def refused (status : Text) : Failure :=
  .unreadable ("Request failed with status ".toList ++ status)

/-- A source on the web. -/
def fetchUrl (request : Text → Reply) (source : Text) : Fetched :=
  let begun := "Requesting ".toList ++ source
  let failed (message : Text) (failure : Failure) : Fetched :=
    ⟨.error failure, [begun, requestReport source message], [source]⟩
  match request source with
  | .response status reason content =>
    match refusal? status with
    | some kind =>
      failed
        (ofNat status ++ kind.toList ++ reason ++ " for url: ".toList ++ source)
        (refused (ofNat status))
    | none => ⟨.ok (Utf8.decode content), [begun], [source]⟩
  | .failure true message => failed message (refused "unknown".toList)
  | .failure false message => failed message (.unreadable (requestReport source message))

/-- A source in a file, with its line ends made one; `content` gives the bytes of a file, or why
it cannot be opened. -/
def fetchFile (content : Text → Except Text (List Byte)) (source : Text) : Fetched :=
  let begun := "Reading ".toList ++ source
  if source.contains (Char.ofNat 0) then
    ⟨.error (.invalid "embedded null byte".toList), [begun], []⟩
  else
    match content source with
    | .ok bytes => ⟨.ok (normalizeLineEnds (Utf8.decode bytes)), [begun], []⟩
    | .error message =>
      ⟨.error (.unreadable
          ("Could not read ".toList ++ source ++ ": ".toList ++ message)), [begun], []⟩

/-- The text of a source, from what files hold and what the web answers. -/
def fetchBy (rules : AddressRules) (content : Text → Except Text (List Byte))
    (request : Text → Reply) (source : Text) : Fetched :=
  match isUrl rules source with
  | .error error => ⟨.error (.invalid error.message), [], []⟩
  | .ok true => fetchUrl request source
  | .ok false => fetchFile content source

/-- The text of a source in the surroundings. -/
def fetch (world : Surroundings) : Text → Fetched :=
  fetchBy world.rules (fun path => (world.folder.read path).mapError FileError.message)
    world.request

/-! ## Requests -/

/-- How requests are made and when they are tried again. -/
structure RequestPolicy where
  userAgent : String
  attempts : Nat
  retriedStatuses : List Nat
  retriedMethods : List String
  /-- Whether the last refused attempt is an error of its own. -/
  failsOnStatus : Bool
  /-- Whether both schemes share one pool of connections. -/
  sharesConnections : Bool

/-- Requests are tried again on refusals that may pass. -/
def requestPolicy : RequestPolicy where
  userAgent := "texpaper/1.0"
  attempts := 3
  retriedStatuses := [429, 500, 502, 503, 504]
  retriedMethods := ["GET", "HEAD"]
  failsOnStatus := false
  sharesConnections := true

end PaperHtml.Source
