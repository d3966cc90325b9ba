import PaperHtml.Text.Scan
import PaperHtml.Text.Word

/-!
# Commands and their plain arguments

The shapes in which a command is recognised at the front of a text.  A plain
argument ends at the first closing brace, and a note at the first closing
bracket; neither counts what is nested in it.  (`PaperHtml.Latex.Group` reads
arguments with nested braces.)
-/

namespace PaperHtml.Latex

open Text

/-- What follows the backslash and the name of a command. -/
def dropCommand? (name t : Text) : Option Text := dropPrefix? ('\\' :: name) t

/-- What follows a command name that no word character continues. -/
def dropWholeCommand? (name t : Text) : Option Text :=
  (dropCommand? name t).filter atWordEnd

/-- A plain argument in braces, and what follows it. -/
def argument? : Text → Option (Text × Text)
  | '{' :: rest => cutChar? '}' rest
  | _ => none

/-- A note in brackets, and what follows it. -/
def note? : Text → Option (Text × Text)
  | '[' :: rest => cutChar? ']' rest
  | _ => none

/-- What follows an optional note. -/
def dropNote (t : Text) : Text :=
  match note? t with
  | some (_, rest) => rest
  | none => t

/-- What follows an optional star. -/
def dropStar (t : Text) : Text := dropOptional '*' t

/-- What follows an environment name in braces, starred or not. -/
def dropEnvironmentName? (env t : Text) : Option Text :=
  (dropPrefix? ('{' :: env) t).bind fun rest => dropPrefix? ['}'] (dropStar rest)

/-! ## Scanners for commands -/

/-- The command with a plain argument, replaced by what `render` makes of the argument. -/
def withArgument (name : Text) (render : Text → Text) : Scanner Text := fun t =>
  (dropCommand? name t).bind fun rest =>
    (argument? rest).map fun found => (render found.1, found.2)

/-- The same command, which may carry a star. -/
def withStarredArgument (name : Text) (render : Text → Text) : Scanner Text := fun t =>
  (dropCommand? name t).bind fun rest =>
    (argument? (dropStar rest)).map fun found => (render found.1, found.2)

/-- The command with an optional note and a plain argument. -/
def withNotedArgument (name : Text) (render : Text → Text) : Scanner Text := fun t =>
  (dropCommand? name t).bind fun rest =>
    (argument? (dropNote rest)).map fun found => (render found.1, found.2)

/-- The plain argument dropped together with its command. -/
def eraseArgument (name : Text) (t : Text) : Text :=
  Scanner.substitute (withArgument name fun _ => []) t

/-- Every occurrence of a command with a plain argument rendered. -/
def renderArgument (name : Text) (render : Text → Text) (t : Text) : Text :=
  Scanner.substitute (withArgument name render) t

end PaperHtml.Latex
