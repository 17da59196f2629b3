/-!
    Texts taken apart and put together at a character, and lines in particular. A line ends at a
    newline, a carriage return just before that newline belongs to it, and a newline that ends the
    text opens no further line.

        "a\r\nb\n"   has the lines   "a"  "b"
        "a\n\n"      has the lines   "a"  ""
        "a\r"        has the line    "a\r" -/

namespace SwaggerPress.Text

/-- The parts between the occurrences of a character; `n` occurrences make `n + 1` parts. -/
def splitOn (sep : Char) : List Char → List (List Char)
  | [] => [[]]
  | c :: rest =>
    if c = sep then [] :: splitOn sep rest
    else match splitOn sep rest with
      | [] => [[c]]
      | part :: parts => (c :: part) :: parts

/-- A line without the carriage return that may end it. -/
def dropReturn (cs : List Char) : List Char :=
  if cs.getLast? = some '\r' then cs.dropLast else cs

/-- The lines of a text: each part that a newline ends, less a carriage return before the newline,
and what stands after the last newline, if anything does. -/
def lines (cs : List Char) : List (List Char) :=
  let parts := splitOn '\n' cs
  let ended := parts.dropLast.map dropReturn
  match parts.getLast? with
  | none | some [] => ended
  | some open_ => ended ++ [open_]

/-- Lines put together again, a newline between any two. -/
def unlines : List (List Char) → List Char
  | [] => []
  | [line] => line
  | line :: rest => line ++ '\n' :: unlines rest

end SwaggerPress.Text
