import PatternLint.Yaml.Property
import PatternLint.Yaml.Text

/-!
Reading nodes. Outside brackets, columns tell where a list or a table ends: what stands inside one
begins right of it. `floor` is the first column that is still inside.
-/

namespace PatternLint.Yaml.Reader

def indicators : List Char := "-?:,[]\x7b\x7d#&*!|>'\"%@\x60".toList

def startsPlain (brackets : Bool) (char : Char) (rest : List Char) : Bool :=
  !(isBlank char || isBreak char || indicators.contains char) || (char = '-' && !atGap rest) ||
    (!brackets && (char = '?' || char = ':') && !atGap rest)

def keyLimit : Nat := 1024

/-- Whether what was read from `start` is a key: a colon follows on the same line. -/
def isKey (brackets : Bool) (start cursor : Cursor) : Bool :=
  (brackets || start.keyAllowed) && cursor.line = start.line &&
    cursor.index ≤ start.index + keyLimit &&
    if brackets then cursor.rest.head? = some ':' else cursor.isAt ':'

def endsNode (closer : Char) (cursor : Cursor) : Bool :=
  cursor.rest.head? = some ',' || cursor.rest.head? = some closer

def startsBlock (cursor : Cursor) : Bool :=
  cursor.rest.head? = some '|' || cursor.rest.head? = some '>'

def lacksContent (brackets : Bool) (cursor : Cursor) : Bool :=
  match cursor.rest with
  | [] => true
  | char :: rest =>
    if brackets then [':', ',', ']', '\x7d'].contains char else char = ':' && atGap rest

mutual

/-- Reads a node without its properties; `given` tells whether there were any. -/
def readContent : (fuel : Nat) → (brackets : Bool) → (floor : Nat) → (given : Bool) → Reader Node
  | 0, _, _, _ => failure
  | fuel + 1, brackets, floor, given => do
    let cursor ← get
    check (!cursor.isAtMarker)
    if lacksContent brackets cursor then
      check given
      return .nothing
    match cursor.rest with
    | [] => failure
    | char :: rest =>
      if char = '*' then readReference
      else if char = '[' then
        advance 1
        let items ← readItems fuel floor
        allowKey false
        return .list items
      else if char = '\x7b' then
        advance 1
        let members ← readMembers fuel floor
        allowKey false
        return .table members
      else if char = '"' ∨ char = '\'' then
        return .scalar none .quoted (String.ofList (← readQuoted char))
      else if char = '|' ∧ brackets = false then
        return .scalar none .literal (String.ofList (← readBlock false floor))
      else if char = '>' ∧ brackets = false then
        return .scalar none .folded (String.ofList (← readBlock true floor))
      else
        check (startsPlain brackets char rest)
        return .scalar none .plain (String.ofList (← readPlain brackets floor))

def readNode : (fuel floor : Nat) → Reader Node
  | 0, _ => failure
  | fuel + 1, floor => do
    skip true
    let own ← readProperties true 0 3 {}
    settle own (← readContent fuel true floor own.isGiven)

def readMemberValue : (fuel floor : Nat) → (closer : Char) → Reader Node
  | 0, _, _ => failure
  | fuel + 1, floor, closer => do
    skip true
    if (← get).rest.head? = some ':' then
      advance 1
      skip true
      if endsNode closer (← get) then return .nothing else readNode fuel floor
    else return .nothing

/-- Reads the items of a list in brackets up to its end. A key and a value are a table. -/
def readItems : (fuel floor : Nat) → Reader (List Node)
  | 0, _ => failure
  | fuel + 1, floor => do
    skip true
    let start ← get
    if start.rest.head? = some ']' then
      advance 1
      return []
    let asked := start.rest.head? = some '?'
    if asked then advance 1
    let key ← readNode fuel floor
    skip true
    let item ←
      if asked || isKey true start (← get) then
        pure (.table [(key, ← readMemberValue fuel floor ']')])
      else pure key
    skip true
    match (← get).rest.head? with
    | some ',' =>
      advance 1
      return item :: (← readItems fuel floor)
    | some ']' =>
      advance 1
      return [item]
    | _ => failure

def readMembers : (fuel floor : Nat) → Reader (List (Node × Node))
  | 0, _ => failure
  | fuel + 1, floor => do
    skip true
    let start ← get
    if start.rest.head? = some '\x7d' then
      advance 1
      return []
    let asked := start.rest.head? = some '?'
    if asked then advance 1
    skip true
    let key ←
      if asked && (endsNode '\x7d' (← get) || (← get).rest.head? = some ':') then pure .nothing
      else readNode fuel floor
    skip true
    let value ←
      if asked || isKey true start (← get) then readMemberValue fuel floor '\x7d'
      else pure .nothing
    skip true
    match (← get).rest.head? with
    | some ',' =>
      advance 1
      return (key, value) :: (← readMembers fuel floor)
    | some '\x7d' =>
      advance 1
      return [(key, value)]
    | _ => failure

end

mutual

/-- Reads a node outside brackets. A block may begin in the column left of `floor`, and if `level`
is set, as it is below a key, so may the entries of a list. -/
def readBlockNode : (fuel floor : Nat) → (level : Bool) → (outer : Properties) → Reader Node
  | 0, _, _, _ => failure
  | fuel + 1, floor, level, outer => do
    skip false
    let start ← get
    if start.isAtEnd || start.column < floor then
      if level && !start.isAtEnd && start.column + 1 = floor && start.isAt '-' then
        settle outer (.list (← readEntries fuel start.column true))
      else if !start.isAtEnd && start.column + 1 = floor && startsBlock start then
        settle outer (← readContent fuel false floor false)
      else settle outer .nothing
    else if start.isAt '-' then
      settle outer (.list (← readEntries fuel start.column false))
    else if start.isAt '?' then
      settle outer (.table (← readRows fuel start.column))
    else
      let own ← readProperties false start.line 3 {}
      if (← get).line != start.line then
        readBlockNode fuel floor level (← outer.merge own)
      else
        let node ← readContent fuel false floor own.isGiven
        skip false
        if isKey false start (← get) then
          let key ← settle own node
          let value ← readRowValue fuel start.column false
          let rows ← readRows fuel start.column
          settle outer (.table ((key, value) :: rows))
        else settle (← outer.merge own) node

def readRowValue : (fuel column : Nat) → (allowed : Bool) → Reader Node
  | 0, _, _ => failure
  | fuel + 1, column, allowed => do
    advance 1
    allowKey allowed
    readBlockNode fuel (column + 1) true {}

def readEntries : (fuel column : Nat) → (level : Bool) → Reader (List Node)
  | 0, _, _ => failure
  | fuel + 1, column, level => do
    skip false
    let cursor ← get
    if cursor.isAtEnd || cursor.column < column then return []
    check (cursor.column = column)
    if cursor.isAt '-' then
      check cursor.keyAllowed
      advance 1
      allowKey true
      let entry ← readBlockNode fuel (column + 1) false {}
      return entry :: (← readEntries fuel column level)
    else
      check level
      return []

def readRows : (fuel column : Nat) → Reader (List (Node × Node))
  | 0, _ => failure
  | fuel + 1, column => do
    skip false
    let start ← get
    if start.isAtEnd || start.column < column then return []
    check (start.column = column && start.keyAllowed)
    if start.isAt '?' then
      advance 1
      allowKey true
      let key ← readBlockNode fuel (column + 1) true {}
      skip false
      let cursor ← get
      let value ←
        if !cursor.isAtEnd && cursor.column = column && cursor.isAt ':' then
          check cursor.keyAllowed
          readRowValue fuel column true
        else pure .nothing
      return (key, value) :: (← readRows fuel column)
    else
      let own ← readProperties false start.line 3 {}
      check ((← get).line = start.line)
      let key ← settle own (← readContent fuel false (column + 1) own.isGiven)
      skip false
      check (isKey false start (← get))
      let value ← readRowValue fuel column false
      return (key, value) :: (← readRows fuel column)

end

end PatternLint.Yaml.Reader
