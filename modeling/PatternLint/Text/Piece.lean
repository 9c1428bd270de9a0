namespace PatternLint.Text

variable {α : Type} [DecidableEq α]

def addToPieces (mark char : α) : List (List α) → List (List α)
  | [] => [[char]]
  | piece :: after => if char = mark then [] :: piece :: after else (char :: piece) :: after

/-- There is always at least one piece, and there are empty ones. -/
def pieces (mark : α) (text : List α) : List (List α) :=
  text.foldr (addToPieces mark) [[]]

end PatternLint.Text
