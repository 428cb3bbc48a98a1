import GraphScript.Text.Blank

namespace GraphScript.Text

/-- A word in pieces that fit on a line. -/
def chop (width : Nat) (word : List Char) : List (List Char) :=
  if width = 0 ∨ word.length ≤ width then [word]
  else word.take width :: chop width (word.drop width)
termination_by word.length
decreasing_by
  simp only [List.length_drop]
  omega

/-- Puts lines before lines that follow, the first of which goes on where the last one ends. -/
def resume (pieces : List (List Char)) (follow : List Char → List (List Char)) :
    List (List Char) :=
  pieces.dropLast ++ follow (pieces.getLastD [])

/-- Fills lines with words, behind what the current line holds. A word that fits on no line is
broken where the line ends. -/
def fillFrom (width : Nat) (line : List Char) : List (List Char) → List (List Char)
  | [] => if line.isEmpty then [] else [line]
  | word :: rest =>
    if line.isEmpty then resume (chop width word) (fillFrom width · rest)
    else if line.length + 1 + word.length ≤ width then fillFrom width (line ++ ' ' :: word) rest
    else if width < word.length ∧ line.length < width then
      let room := width - (line.length + 1)
      (line ++ ' ' :: word.take room) ::
        resume (chop width (word.drop room)) (fillFrom width · rest)
    else line :: resume (chop width word) (fillFrom width · rest)

/-- The words of a text in lines of a width. -/
def fill (width : Nat) (text : String) : List String :=
  (fillFrom width [] (wordsFrom [] text.toList)).map String.ofList

/-- Sets items side by side, as many as fit behind an indentation; an item is never broken. -/
def rowsFrom (width indent : Nat) (row : String) : List String → List String
  | [] => if row.isEmpty then [] else [row]
  | item :: rest =>
    if row.isEmpty then rowsFrom width indent item rest
    else if indent + row.length + 1 + item.length ≤ width then
      rowsFrom width indent (row ++ " " ++ item) rest
    else row :: rowsFrom width indent item rest

/-- The rows of items behind an indentation, which they do not show. -/
def rows (width indent : Nat) (items : List String) : List String :=
  rowsFrom width indent "" items

/-- A number of spaces. -/
def spaces (count : Nat) : String :=
  String.ofList (List.replicate count ' ')

/-- A text with spaces up to a width behind it. -/
def padded (width : Nat) (text : String) : String :=
  text ++ spaces (width - text.length)

end GraphScript.Text
