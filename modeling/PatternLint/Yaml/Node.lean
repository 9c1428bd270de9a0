namespace PatternLint.Yaml

inductive Style where
  | plain
  | quoted
  | literal
  | folded
deriving BEq, DecidableEq, Repr

inductive Node where
  | scalar (tag : Option String) (style : Style) (text : String)
  | list (items : List Node)
  | table (members : List (Node × Node))
  | reference (number : Nat)

/-- Where nothing is written, an empty plain scalar stands. -/
def Node.nothing : Node := .scalar none .plain ""

/-- Names given to nodes. A name has a number, the number has the place of the node that took it
last, and the node is entered at its place when it has been read to its end. -/
structure Anchors where
  numbers : List (String × Nat) := []
  places : List (Nat × Nat) := []
  nodes : List (Nat × Node) := []

namespace Anchors

/-- Gives a name to the node that begins; its number is how many names there were before. Returns
the place of the node. -/
def announce (anchors : Anchors) (name : String) : Anchors × Nat :=
  let number := anchors.numbers.length
  let place := anchors.places.length
  let others := anchors.numbers.filter fun entry => entry.1 ≠ name
  ({ anchors with
      numbers := (name, number) :: others
      places := (number, place) :: anchors.places }, place)

def enter (anchors : Anchors) (place : Nat) (node : Node) : Anchors :=
  { anchors with nodes := (place, node) :: anchors.nodes }

def number? (anchors : Anchors) (name : String) : Option Nat := anchors.numbers.lookup name

def node? (anchors : Anchors) (number : Nat) : Option Node := do
  anchors.nodes.lookup (← anchors.places.lookup number)

end Anchors

end PatternLint.Yaml
