import ApiTypes.Text.Blank

/-!
# Line comments

A text of several lines as a comment.
-/

namespace ApiTypes.Text

/-- A line as a comment; one that is a comment already stays as it is. -/
def commentLine (line : Text) : Text :=
  if (line.after? "//").isSome then line else "// " ++ line

/-- The lines of a text without the blanks around it, each as a comment. -/
def lineComment (text : Text) : Text :=
  if text.isEmpty then []
  else join "\n" ((splitOn '\n' text.strip).map commentLine)

end ApiTypes.Text
