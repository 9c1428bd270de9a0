import PatternLint.Text.Number
import PatternLint.Yaml.Cursor

namespace PatternLint.Yaml

def isNameChar (char : Char) : Bool := char.isAlphanum || char = '_' || char = '-'

def endsName : List Char → Bool
  | [] => true
  | char :: rest =>
    atGap (char :: rest) || ['?', ':', ',', ']', '\x7d', '%', '@', '\x60'].contains char

def readName (text : List Char) : Option (String × List Char) :=
  let name := text.takeWhile isNameChar
  let rest := text.dropWhile isNameChar
  if name.isEmpty || !endsName rest then none else some (String.ofList name, rest)

def readOctet : List Char → Option (Nat × List Char)
  | '%' :: high :: low :: rest => (Text.natural? 16 [high, low]).map fun octet => (octet, rest)
  | _ => none

def readTail : (count : Nat) → (number : Nat) → List Char → Option (Nat × List Char)
  | 0, number, text => some (number, text)
  | count + 1, number, text => do
    let (octet, rest) ← readOctet text
    if octet / 64 = 2 then readTail count (number * 64 + octet % 64) rest else none

def readOctets (text : List Char) : Option (Char × List Char) := do
  let (octet, rest) ← readOctet text
  let (number, rest) ←
    if octet < 0x80 then some (octet, rest)
    else if octet / 32 = 6 then readTail 1 (octet % 32) rest
    else if octet / 16 = 14 then readTail 2 (octet % 16) rest
    else if octet / 8 = 30 then readTail 3 (octet % 8) rest
    else none
  return (Char.ofNat number, rest)

/-- A character of a tag; `wide` admits those that have a meaning between brackets. -/
def isTagChar (wide : Bool) (char : Char) : Bool :=
  isNameChar char || ";/?:@&=+$.!~*'()".toList.contains char || (wide && ",[]".toList.contains char)

def readTagText (wide : Bool) : (fuel : Nat) → List Char → Option (List Char × List Char)
  | 0, text => some ([], text)
  | _ + 1, [] => some ([], [])
  | fuel + 1, char :: rest =>
    if char = '%' then do
      let (char, rest) ← readOctets (char :: rest)
      let (more, rest) ← readTagText wide fuel rest
      return (char :: more, rest)
    else if isTagChar wide char then do
      let (more, rest) ← readTagText wide fuel rest
      return (char :: more, rest)
    else some ([], char :: rest)

def readTagEnd (wide : Bool) (text : List Char) : Option (List Char × List Char) := do
  let (found, rest) ← readTagText wide text.length text
  if found.isEmpty then none else some (found, rest)

/-- What the beginnings of tags stand for unless a directive tells otherwise. -/
def standardHandles : List (String × String) := [("!", "!"), ("!!", "tag:yaml.org,2002:")]

def readTag (handles : List (String × String)) (text : List Char) :
    Option (String × List Char) :=
  let expand (handle : String) (rest : List Char) : Option String := do
    return (← (handles ++ standardHandles).lookup handle) ++ String.ofList rest
  match text with
  | '<' :: rest => do
    let (tag, rest) ← readTagEnd true rest
    match rest with
    | '>' :: rest => return (String.ofList tag, rest)
    | _ => none
  | _ =>
    let name := text.takeWhile isNameChar
    match text.dropWhile isNameChar with
    | '!' :: rest => do
      let (found, rest) ← readTagEnd false rest
      return (← expand ("!" ++ String.ofList name ++ "!") found, rest)
    | rest => do
      let (found, rest) ← readTagText false rest.length rest
      if (name ++ found).isEmpty then return ("!", rest)
      else return (← expand "!" (name ++ found), rest)

structure Properties where
  place : Option Nat := none
  tag : Option String := none

namespace Properties

def isGiven (properties : Properties) : Bool := properties.place.isSome || properties.tag.isSome

/-- Neither a name nor a tag may be given twice. -/
def merge (outer own : Properties) : Option Properties :=
  if (outer.place.isSome && own.place.isSome) || (outer.tag.isSome && own.tag.isSome) then none
  else some ⟨outer.place <|> own.place, outer.tag <|> own.tag⟩

end Properties

/-- A bare exclamation mark says nothing about a scalar that is written. -/
def Node.tagged (tag : Option String) : Node → Node
  | .scalar _ .plain "" => .scalar tag .plain ""
  | .scalar _ style text => .scalar (if tag = some "!" then none else tag) style text
  | node => node

namespace Reader

def readAnchor : Reader Nat := do
  let cursor ← get
  let (name, rest) ← readName (cursor.rest.drop 1)
  let (anchors, place) := cursor.anchors.announce name
  set { cursor.advanceTo rest with anchors := anchors, keyAllowed := false }
  return place

def readReference : Reader Node := do
  let cursor ← get
  let (name, rest) ← readName (cursor.rest.drop 1)
  let number ← cursor.anchors.number? name
  set { cursor.advanceTo rest with keyAllowed := false }
  return .reference number

def readTag (brackets : Bool) : Reader String := do
  let cursor ← get
  let (tag, rest) ← Yaml.readTag cursor.handles (cursor.rest.drop 1)
  check (atGap rest || (brackets && rest.head? = some ','))
  set { cursor.advanceTo rest with keyAllowed := false }
  return tag

/-- Reads properties; outside brackets only those on the given line. -/
def readProperties (brackets : Bool) (line : Nat) : (fuel : Nat) → Properties → Reader Properties
  | 0, own => return own
  | fuel + 1, own => do
    let cursor ← get
    if !brackets && cursor.line != line then return own
    match cursor.rest.head? with
    | some '&' =>
      let place ← readAnchor
      let own ← own.merge { place := some place }
      skip brackets
      readProperties brackets line fuel own
    | some '!' =>
      let tag ← readTag brackets
      let own ← own.merge { tag := some tag }
      skip brackets
      readProperties brackets line fuel own
    | _ => return own

/-- Gives a node its properties, and enters it if it has a name; a reference has none. -/
def settle (properties : Properties) (node : Node) : Reader Node := do
  if let .reference _ := node then check (!properties.isGiven)
  let node := node.tagged properties.tag
  if let some place := properties.place then
    modify fun cursor => { cursor with anchors := cursor.anchors.enter place node }
  return node

end Reader

end PatternLint.Yaml
