import PaperHtml.Latex.Command

/-!
# Environments

An environment runs from its opening mark to the first closing mark of the same
name behind it; either mark may carry a star.  Environments of one name do not
nest.
-/

namespace PaperHtml.Latex

open Text

/-- What follows the opening mark of an environment. -/
def dropBegin? (env t : Text) : Option Text :=
  (dropCommand? "begin".toList t).bind (dropEnvironmentName? env)

/-- What follows the closing mark of an environment. -/
def dropEnd? (env t : Text) : Option Text :=
  (dropCommand? "end".toList t).bind (dropEnvironmentName? env)

/-- The text up to the closing mark of an environment, and what follows the mark. -/
def inside? (env t : Text) : Option (Text × Text) := breakAt (dropEnd? env) t

/-- An environment, by the text between its marks. -/
def environment (env : Text) : Scanner Text := fun t =>
  (dropBegin? env t).bind (inside? env)

/-- An environment whose opening mark may carry a note, by the text behind the note.  If
no closing mark follows the note, its bracket counts as part of the inside. -/
def notedEnvironment (env : Text) : Scanner Text := fun t =>
  (dropBegin? env t).bind fun rest =>
    (inside? env (dropNote rest)).or (inside? env rest)

/-- An environment, by its whole source with the marks. -/
def environmentSource (env : Text) : Scanner Text := fun t =>
  (environment env t).map fun found => (t.take (t.length - found.2.length), found.2)

end PaperHtml.Latex
