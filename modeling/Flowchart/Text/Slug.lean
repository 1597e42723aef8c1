import Flowchart.Text.BaseLetter
import Flowchart.Text.Blank
import Flowchart.Text.Lowercase
import Flowchart.Text.Word

/-! # Identifiers from free text

A slug is the runs of word characters of a text, in small letters and without accents, joined by
single hyphens. A text with no word character has the empty slug.

The name of a state turns into the identifier of its node in a gentler way: its words, as they are,
joined by underscores.
-/

namespace Flowchart.Text

/-- The words that make up a slug: the text is put into small letters, loses its accents and is
cut wherever a character stands that is no word character. -/
def slugWords (text : String) : List (List Char) :=
  runs (fun c => !isWord c) (withoutMarks (lower text.toList))

/-- The slug of a text: its words joined by hyphens. -/
def slugify (text : String) : String :=
  String.ofList (['-'].intercalate (slugWords text))

/-- The words of a state name: its runs of characters that are not blank. -/
def stateWords (key : String) : List (List Char) :=
  runs isBlank key.toList

/-- The node identifier of a state name: its words joined by underscores. -/
def stateNodeId (key : String) : String :=
  String.ofList (['_'].intercalate (stateWords key))

end Flowchart.Text
