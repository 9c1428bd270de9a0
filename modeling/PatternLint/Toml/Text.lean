import PatternLint.Text.Escape

/-!
Texts between quotes, on one line or on many. Each function stands behind an opening quote and
returns the text and what follows the closing one.
-/

namespace PatternLint.Toml

def isControl (char : Char) : Bool := (char.toNat < 0x20 && char != '\t') || char.toNat = 0x7F

def escapes : List (Char × Char) :=
  [('b', '\x08'), ('t', '\t'), ('n', '\n'), ('f', '\x0c'), ('r', '\x0d'), ('e', '\x1b'),
    ('"', '"'), ('\\', '\\')]

def prepend (char : Char) (read : Option (List Char × List Char)) :
    Option (List Char × List Char) :=
  read.map fun (text, rest) => (char :: text, rest)

def readBasic : (fuel : Nat) → List Char → Option (List Char × List Char)
  | 0, _ => none
  | _ + 1, [] => none
  | fuel + 1, char :: rest =>
    if char = '"' then some ([], rest)
    else if char = '\\' then do
      let (char, rest) ← Text.readEscape escapes rest
      prepend char (readBasic fuel rest)
    else if isControl char then none
    else prepend char (readBasic fuel rest)

def readLiteral : List Char → Option (List Char × List Char)
  | [] => none
  | char :: rest =>
    if char = '\'' then some ([], rest)
    else if isControl char then none
    else prepend char (readLiteral rest)

/-- A line end right behind the opening quotes does not count. -/
def dropLineEnd : List Char → List Char
  | '\n' :: rest => rest
  | '\x0d' :: '\n' :: rest => rest
  | text => text

def dropGap : List Char → List Char
  | ' ' :: rest => dropGap rest
  | '\t' :: rest => dropGap rest
  | '\n' :: rest => dropGap rest
  | '\x0d' :: '\n' :: rest => dropGap rest
  | text => text

/-- A backslash at the end of a line joins it to the next text; only blanks may follow it there. -/
def joinLines (text : List Char) : Option (List Char) :=
  match text.dropWhile fun char => char = ' ' || char = '\t' with
  | '\n' :: rest => some (dropGap rest)
  | '\x0d' :: '\n' :: rest => some (dropGap rest)
  | _ => none

/-- Three quotes close a text on many lines. Up to two more right before them belong to it. -/
def closing (quote : Char) (text : List Char) : Option (List Char × List Char) :=
  let quotes := (text.takeWhile (· = quote)).length
  if quotes < 3 then none
  else
    let extra := min (quotes - 3) 2
    some (List.replicate extra quote, text.drop (extra + 3))

def readLines (quote : Char) : (fuel : Nat) → List Char → Option (List Char × List Char)
  | 0, _ => none
  | _ + 1, [] => none
  | fuel + 1, char :: rest =>
    if char = '\x0d' then
      match rest with
      | '\n' :: rest => prepend '\x0d' (prepend '\n' (readLines quote fuel rest))
      | _ => none
    else if char = quote then
      match closing quote (char :: rest) with
      | some done => some done
      | none => prepend char (readLines quote fuel rest)
    else if char = '\\' ∧ quote = '"' then
      match joinLines rest with
      | some rest => readLines quote fuel rest
      | none => do
        let (char, rest) ← Text.readEscape escapes rest
        prepend char (readLines quote fuel rest)
    else if isControl char ∧ char ≠ '\n' then none
    else prepend char (readLines quote fuel rest)

def readLineText (text : List Char) : Option (List Char × List Char) :=
  match text with
  | '"' :: rest => readBasic text.length rest
  | '\'' :: rest => readLiteral rest
  | _ => none

def readText (text : List Char) : Option (List Char × List Char) :=
  match text with
  | '"' :: '"' :: '"' :: rest => readLines '"' text.length (dropLineEnd rest)
  | '\'' :: '\'' :: '\'' :: rest => readLines '\'' text.length (dropLineEnd rest)
  | _ => readLineText text

end PatternLint.Toml
