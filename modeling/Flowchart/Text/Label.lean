/-! # Labels

A label stands between the brackets of a node or the bars of an edge. A text that holds one of
these delimiters, or a double quote, is put between double quotes, and a double quote inside it is
written as an entity, so that no delimiter of the text is ever read as one of the diagram.
-/

namespace Flowchart.Text

/-- The characters that would end a label early: brackets, angles, the bar and the quote. -/
def delimiters : List Char :=
  ['[', ']', '(', ')', '\x7b', '\x7d', '<', '>', '|', '\x22']

/-- The entity that stands for a double quote. -/
def quoteEntity : List Char :=
  ['#', 'q', 'u', 'o', 't', ';']

/-- A character as it stands between quotes. -/
def escapeQuote (c : Char) : List Char :=
  if c = '\x22' then quoteEntity else [c]

/-- The label as it is written: unchanged if it holds no delimiter, between quotes otherwise. -/
def quoteLabel (text : String) : String :=
  if text.toList.any (· ∈ delimiters) then
    String.ofList (['\x22'] ++ text.toList.flatMap escapeQuote ++ ['\x22'])
  else text

end Flowchart.Text
