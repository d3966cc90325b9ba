import PaperHtml.Text.Quoted

/-!
# Source that is rejected

Nearly every text is the source of a page.  What cannot be read is a marked
section without a name or of an unknown kind, and a decimal number of too many
digits; it makes the whole source be rejected.
-/

namespace PaperHtml.Html

open Text

/-- Why a source is rejected. -/
inductive Rejection where
  /-- A marked section without a name; `seen` is how it begins. -/
  | noName (seen : Text)
  /-- A marked section of an unknown kind. -/
  | unknownSection (name : Text)
  /-- A decimal number with too many digits. -/
  | longNumber (digits : Nat)
  deriving DecidableEq

/-- The rejection in words. -/
def Rejection.message (why : Rejection) : Text :=
  let ofMarkup (reason : Text) : Text :=
    "The markup you provided was rejected by the parser. ".toList ++
      "Trying a different parser or a different encoding may help.\n\n".toList ++
      "Original error(s) from parser:\n AssertionError: ".toList ++ reason
  match why with
  | .noName seen => ofMarkup ("expected name token at ".toList ++ quoted seen)
  | .unknownSection name =>
    ofMarkup ("unknown status keyword ".toList ++ quoted name ++ " in marked section".toList)
  | .longNumber digits =>
    "Exceeds the limit (4300 digits) for integer string conversion: value has ".toList ++
      ofNat digits ++
      " digits; use sys.set_int_max_str_digits() to increase the limit".toList

end PaperHtml.Html
