import PaperHtml.Session.Output
import PaperHtml.Text.Quoted
import PaperHtml.Text.Word

/-!
# The options of the command line

An option is given by its name or by a beginning of it that fits no other name;
its value follows, or stands behind an equals sign.  The first thing that is
wrong ends the reading.
-/

namespace PaperHtml.CommandLine

open Text

/-- The options there are. -/
inductive Flag where
  | help
  | paper
  | bibliography
  | output
  | renderer
  | query
  | noTypeset
  deriving DecidableEq

/-- The options in the order in which they are listed. -/
def Flag.all : List Flag := [.help, .paper, .bibliography, .output, .renderer, .query, .noTypeset]

/-- The long name of an option. -/
def Flag.longName : Flag → Text
  | .help => "--help".toList
  | .paper => "--paper".toList
  | .bibliography => "--bib".toList
  | .output => "--output".toList
  | .renderer => "--renderer".toList
  | .query => "--query".toList
  | .noTypeset => "--no-typeset".toList

/-- The short name of the one option that has one. -/
def helpName : Text := "-h".toList

/-- What an option is called in a message. -/
def Flag.title : Flag → Text
  | .help => helpName ++ '/' :: Flag.help.longName
  | flag => flag.longName

/-- Whether an option has a value. -/
def Flag.takesValue : Flag → Bool
  | .help => false
  | .noTypeset => false
  | _ => true

/-- The renderers that can be chosen. -/
def renderers : List Text := ["auto".toList, "latex".toList]

/-- What is wrong with the words of a command line. -/
inductive Misuse where
  | ambiguous (written : Text) (candidates : List Flag)
  | missingValue (flag : Flag)
  | unwantedValue (flag : Flag) (value : Text)
  | unknownRenderer (value : Text)
  | unrecognized (words : List Text)

/-- The misuse in words. -/
def Misuse.message : Misuse → Text
  | .ambiguous written candidates =>
    "ambiguous option: ".toList ++ written ++ " could match ".toList ++
      join ", ".toList (candidates.map Flag.longName)
  | .missingValue flag =>
    "argument ".toList ++ flag.title ++ ": expected one argument".toList
  | .unwantedValue flag value =>
    "argument ".toList ++ flag.title ++ ": ignored explicit argument ".toList ++ quoted value
  | .unknownRenderer value =>
    "argument ".toList ++ Flag.renderer.title ++ ": invalid choice: ".toList ++ quoted value ++
      " (choose from ".toList ++ join ", ".toList (renderers.map quoted) ++ [')']
  | .unrecognized words => "unrecognized arguments: ".toList ++ join [' '] words

/-! ## Telling words apart -/

/-- A word of a command line. -/
inductive Word where
  | value (text : Text)
  /-- The mark behind which nothing is an option. -/
  | separator
  /-- An option, as it is written, with the value behind its equals sign. -/
  | option (flag : Option Flag) (written : Text) (attached : Option Text)

/-- The mark behind which nothing is an option. -/
def separatorText : Text := "--".toList

/-- Whether a text is digits, or a point with digits behind it and perhaps in front of it.  A
line feed may stand at the end. -/
def isNumeral (t : Text) : Bool :=
  match t.dropWhile isDecimalDigit with
  | [] => !t.isEmpty
  | ['\n'] => t.length ≠ 1
  | '.' :: digits =>
    let behind := digits.dropWhile isDecimalDigit
    behind.length < digits.length && (behind.isEmpty || behind = ['\n'])
  | _ => false

/-- Whether a word is a negative number. -/
def isNegativeNumber : Text → Bool
  | '-' :: rest => isNumeral rest
  | _ => false

/-- The option that has exactly a name. -/
def flagNamed? (name : Text) : Option Flag :=
  if name = helpName then some .help else Flag.all.find? (·.longName == name)

/-- A word behind a dash that names no option exactly. -/
def shortened (t : Text) : Except Misuse Word :=
  let (name, attached) :=
    match cutChar? '=' t with
    | some (name, value) => (name, some value)
    | none => (t, none)
  let isValue := isNegativeNumber t || t.contains ' '
  let unknown : Word := if isValue then .value t else .option none t none
  if startsWith separatorText t then
    match Flag.all.filter fun flag => startsWith name flag.longName with
    | [] => .ok unknown
    | [flag] => .ok (.option (some flag) t attached)
    | candidates => .error (.ambiguous t candidates)
  else
    -- behind a single dash there is only the short name for help
    match dropPrefix? helpName t with
    | some rest => .ok (.option (some .help) t (some rest))
    | none => .ok unknown

/-- What a word is, in front of the separator. -/
def wordOf (t : Text) : Except Misuse Word :=
  match t with
  | '-' :: _ :: _ =>
    match flagNamed? t with
    | some flag => .ok (.option (some flag) t none)
    | none =>
      match cutChar? '=' t with
      | some (name, value) =>
        match flagNamed? name with
        | some flag => .ok (.option (some flag) t (some value))
        | none => shortened t
      | none => shortened t
  | _ => .ok (.value t)

/-- The words of a command line told apart. -/
def wordsOf : List Text → Except Misuse (List Word)
  | [] => .ok []
  | t :: rest =>
    if t = separatorText then .ok (.separator :: rest.map .value)
    else do
      let word ← wordOf t
      let later ← wordsOf rest
      pure (word :: later)

/-! ## Reading -/

/-- What a command line asks for. -/
structure Options where
  paper : Text := Session.defaultPaper
  bibliography : Text := Session.defaultBibliography
  output : Text := Session.defaultOutput
  renderer : Text := "auto".toList
  query : Text := []
  typeset : Bool := true

/-- Why a command line is not carried out. -/
inductive Stop where
  | help
  | misuse (misuse : Misuse)

/-- The options with the value of one of them. -/
def Options.set (options : Options) (flag : Flag) (value : Text) : Except Stop Options :=
  match flag with
  | .paper => .ok { options with paper := value }
  | .bibliography => .ok { options with bibliography := value }
  | .output => .ok { options with output := value }
  | .renderer =>
    if renderers.contains value then .ok { options with renderer := value }
    else .error (.misuse (.unknownRenderer value))
  | .query => .ok { options with query := value }
  | .help | .noTypeset => .ok options

/-- The options with one that has the separator for a value, which counts as none. -/
def Options.clear (options : Options) (flag : Flag) : Except Stop Options :=
  match flag with
  | .bibliography => .ok { options with bibliography := [] }
  | .renderer => .ok { options with renderer := [] }
  | .query => .ok { options with query := [] }
  | flag => options.set flag separatorText

/-- The options with one that has no value. -/
def Options.switch (options : Options) (flag : Flag) : Except Stop Options :=
  match flag with
  | .help => .error .help
  | .noTypeset => .ok { options with typeset := false }
  | _ => .ok options

/-- What stands behind an option without value.  The short name may be repeated there. -/
def Options.switchWith (options : Options) (flag : Flag) (written attached : Text) :
    Except Stop Options :=
  let isShort := !startsWith separatorText written
  let unwanted := if isShort then attached.dropWhile (· == 'h') else attached
  if unwanted.isEmpty && !attached.isEmpty then options.switch flag
  else .error (.misuse (.unwantedValue flag unwanted))

/-- The options that words ask for, and the words that ask for nothing. -/
def readWords (options : Options) : List Word → Except Stop (Options × List Text)
  | [] => .ok (options, [])
  | .value t :: rest => do
    let (options, extra) ← readWords options rest
    pure (options, t :: extra)
  | .separator :: rest => do
    let (options, extra) ← readWords options rest
    pure (options, separatorText :: extra)
  | .option none written _ :: rest => do
    let (options, extra) ← readWords options rest
    pure (options, written :: extra)
  | .option (some flag) written (some value) :: rest => do
    let options ←
      if flag.takesValue then
        if value = separatorText then options.clear flag else options.set flag value
      else options.switchWith flag written value
    readWords options rest
  | .option (some flag) _ none :: rest =>
    if flag.takesValue then
      match rest with
      | .value value :: rest => do
        let options ← options.set flag value
        readWords options rest
      | _ => .error (.misuse (.missingValue flag))
    else do
      let options ← options.switch flag
      readWords options rest

/-- The options that the words of a command line ask for. -/
def Options.read (arguments : List Text) : Except Stop Options :=
  match wordsOf arguments with
  | .error misuse => .error (.misuse misuse)
  | .ok words =>
    match readWords {} words with
    | .error stop => .error stop
    | .ok (options, []) => .ok options
    | .ok (_, extra) => .error (.misuse (.unrecognized extra))

end PaperHtml.CommandLine
