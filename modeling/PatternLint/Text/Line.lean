import PatternLint.Text.Piece

/-!
The lines of a text. A line ends at a line feed; a carriage return right before the line feed
belongs to the end and not to the line. After the last line feed there is a line only if something
stands there.
-/

namespace PatternLint.Text

def dropReturn (line : List Char) : List Char :=
  if line.getLast? = some '\r' then line.dropLast else line

def lines (text : List Char) : List (List Char) :=
  let all := pieces '\n' text
  let last := all.getLastD []
  all.dropLast.map dropReturn ++ if last.isEmpty then [] else [last]

/-- One byte order mark at the beginning is not part of the text. -/
def dropMark : List Char → List Char
  | [] => []
  | char :: rest => if char = '\ufeff' then rest else char :: rest

def byteOffsets (line : Array Char) : Array Nat :=
  line.foldl (fun offsets char => offsets.push (offsets.back?.getD 0 + char.utf8Size)) #[0]

end PatternLint.Text
