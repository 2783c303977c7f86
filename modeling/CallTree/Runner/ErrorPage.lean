import CallTree.Text.Blank
import CallTree.Text.Segments

/-!
# Error texts that are web pages

A server in front of the runner may answer with a web page.  Of such a text
only the first line that is neither blank nor a tag is of use.
-/

namespace CallTree.Runner

/-- Whether a text is a web page. -/
def isPage (s : List Char) : Bool :=
  Text.contains "<!doctype html>".toList s || Text.contains "<html>".toList s

/-- Whether a line of a web page, without the blanks around it, is text to be
read. -/
def isTextLine (line : List Char) : Bool :=
  !line.isEmpty && line.head? != some '<' && line.getLast? != some '>' &&
    line != "html".toList && line != "body".toList

/-- The lines of a text, without the blanks around them. -/
def trimmedLines (s : List Char) : List (List Char) :=
  (Text.segments '\n' s).map Text.trim

/-- What a reader is shown of an error text. -/
def readable (s : String) : String :=
  if isPage s.toList then
    match (trimmedLines s.toList).find? isTextLine with
    | some line => String.ofList line
    | none => s
  else s

end CallTree.Runner
