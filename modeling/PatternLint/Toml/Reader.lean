import PatternLint.Toml.Scalar
import PatternLint.Toml.Table
import PatternLint.Toml.Text

namespace PatternLint.Toml

def isBlank (char : Char) : Bool := char = ' ' || char = '\t'

def dropBlanks (text : List Char) : List Char := text.dropWhile isBlank

def dropSpace : (comment : Bool) → List Char → Option (List Char)
  | _, [] => some []
  | _, '\n' :: rest => dropSpace false rest
  | _, '\x0d' :: '\n' :: rest => dropSpace false rest
  | true, char :: rest => if isControl char then none else dropSpace true rest
  | false, char :: rest =>
    if isBlank char then dropSpace false rest
    else if char = '#' then dropSpace true rest
    else some (char :: rest)

def endsLine (text : List Char) : Bool :=
  match dropBlanks text with
  | [] => true
  | '#' :: _ => true
  | '\n' :: _ => true
  | '\x0d' :: '\n' :: _ => true
  | _ => false

def isKeyChar (char : Char) : Bool := char.isAlphanum || char = '-' || char = '_'

def readKeyPart (text : List Char) : Option (String × List Char) :=
  match text with
  | '"' :: '"' :: '"' :: _ => none
  | '\'' :: '\'' :: '\'' :: _ => none
  | char :: _ =>
    if char = '"' ∨ char = '\'' then
      (readLineText text).map fun (key, rest) => (String.ofList key, rest)
    else
      let key := text.takeWhile isKeyChar
      if key.isEmpty then none else some (String.ofList key, text.dropWhile isKeyChar)
  | [] => none

/-- A key of parts with dots between them: the way, the last part, and what follows. -/
def readKey : (fuel : Nat) → List Char → Option (List String × String × List Char)
  | 0, _ => none
  | fuel + 1, text => do
    let (part, rest) ← readKeyPart (dropBlanks text)
    match dropBlanks rest with
    | '.' :: rest => do
      let (path, key, rest) ← readKey fuel rest
      return (part :: path, key, rest)
    | rest => return ([], part, rest)

def nestingLimit : Nat := 80

mutual

def readValue : (fuel depth : Nat) → List Char → Option (Value × List Char)
  | 0, _, _ => none
  | fuel + 1, depth, text =>
    match text with
    | '[' :: rest =>
      if depth < nestingLimit then do
        let (items, rest) ← readItems fuel (depth + 1) rest
        return (.list items, rest)
      else none
    | '\x7b' :: rest =>
      if depth < nestingLimit then do
        let (members, rest) ← readMembers fuel (depth + 1) [] rest
        return (.table .braces members, rest)
      else none
    | '"' :: _ => (readText text).map fun (value, rest) => (.text (String.ofList value), rest)
    | '\'' :: _ => (readText text).map fun (value, rest) => (.text (String.ofList value), rest)
    | _ => readScalar text

def readItems : (fuel depth : Nat) → List Char → Option (List Value × List Char)
  | 0, _, _ => none
  | fuel + 1, depth, text => do
    match ← dropSpace false text with
    | ']' :: rest => return ([], rest)
    | text =>
      let (item, rest) ← readValue fuel depth text
      match ← dropSpace false rest with
      | ',' :: rest =>
        let (items, rest) ← readItems fuel depth rest
        return (item :: items, rest)
      | ']' :: rest => return ([item], rest)
      | _ => none

def readMembers : (fuel depth : Nat) → Members → List Char → Option (Members × List Char)
  | 0, _, _, _ => none
  | fuel + 1, depth, members, text => do
    match ← dropSpace false text with
    | '\x7d' :: rest => return (members, rest)
    | text =>
      let (path, key, rest) ← readKey text.length text
      match rest with
      | '=' :: rest =>
        let (value, rest) ← readValue fuel depth (dropBlanks rest)
        let members ← put path key value .braces members
        match ← dropSpace false rest with
        | ',' :: rest => readMembers fuel depth members rest
        | '\x7d' :: rest => return (members, rest)
        | _ => none
      | _ => none

end

def readStatement (text : List Char) : Option (Statement × List Char) :=
  match text with
  | '[' :: '[' :: rest => do
    let (path, key, rest) ← readKey text.length rest
    match rest with
    | ']' :: ']' :: rest => return (.element path key, rest)
    | _ => none
  | '[' :: rest => do
    let (path, key, rest) ← readKey text.length rest
    match rest with
    | ']' :: rest => return (.table path key, rest)
    | _ => none
  | _ => do
    let (path, key, rest) ← readKey text.length text
    match rest with
    | '=' :: rest =>
      let (value, rest) ← readValue text.length 0 (dropBlanks rest)
      return (.assignment path key value, rest)
    | _ => none

def readStatements : (fuel : Nat) → List Char → Option (List Statement)
  | 0, _ => none
  | fuel + 1, text => do
    match ← dropSpace false text with
    | [] => return []
    | text =>
      let (statement, rest) ← readStatement text
      if endsLine rest then
        let statements ← readStatements fuel rest
        return statement :: statements
      else none

def statements? (text : List Char) : Option (List Statement) :=
  match text with
  | '\ufeff' :: rest => readStatements text.length rest
  | _ => readStatements (text.length + 1) text

def read? (text : String) : Option Members := do ofStatements? (← statements? text.toList)

end PatternLint.Toml
