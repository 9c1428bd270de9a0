import PatternLint.Yaml.Reader

namespace PatternLint.Yaml

structure Document where
  root : Node
  anchors : Anchors

namespace Document

def resolve (document : Document) : Node → Option Node
  | .reference number => document.anchors.node? number
  | node => some node

end Document

def isAdmitted (char : Char) : Bool :=
  let code := char.toNat
  code = 0x09 || code = 0x0A || code = 0x0D || (0x20 ≤ code && code ≤ 0x7E) || code = 0x85 ||
    (0xA0 ≤ code && code ≤ 0xFFFD) || 0x10000 ≤ code

structure Directives where
  version : Bool := false
  handles : List (String × String) := []

def dropBlanks (text : List Char) : List Char := text.dropWhile isBlank

/-- A version is one of the two that are known; zeros in front of its numbers do not count. -/
def readVersion (text : List Char) : Option (List Char) := do
  let (major, rest) ← number? text
  match rest with
  | '.' :: rest =>
    let (minor, rest) ← number? rest
    if major = 1 ∧ (minor = 1 ∨ minor = 2) then some rest else none
  | _ => none
where
  number? (text : List Char) : Option (Nat × List Char) :=
    let digits := text.takeWhile Char.isDigit
    if 9 < digits.length then none
    else (Text.natural? 10 digits).map fun number => (number, text.dropWhile Char.isDigit)

/-- A handle is an exclamation mark, or a name between two. -/
def readHandle (text : List Char) : Option (String × List Char) :=
  match text with
  | '!' :: rest =>
    let name := rest.takeWhile isNameChar
    match rest.dropWhile isNameChar with
    | '!' :: after => some ("!" ++ String.ofList name ++ "!", after)
    | after => if name.isEmpty then some ("!", after) else none
  | _ => none

def readDirective (directives : Directives) (text : List Char) :
    Option (Directives × List Char) := do
  let name := String.ofList (text.takeWhile isNameChar)
  let rest := text.dropWhile isNameChar
  if !atGap rest then none
  else if name = "YAML" then
    let rest ← readVersion (dropBlanks rest)
    if directives.version then none else some ({ directives with version := true }, rest)
  else if name = "TAG" then
    let (handle, rest) ← readHandle (dropBlanks rest)
    if !rest.head?.any isBlank then none
    else
      let (meaning, rest) ← readTagEnd true (dropBlanks rest)
      if !atGap rest || (directives.handles.lookup handle).isSome then none
      else
        some ({ directives with
          handles := (handle, String.ofList meaning) :: directives.handles }, rest)
  else none

namespace Reader

def readDirectives : (fuel : Nat) → Directives → Reader Bool
  | 0, _ => failure
  | fuel + 1, directives => do
    skip false
    let cursor ← get
    if cursor.column = 0 ∧ cursor.rest.head? = some '%' then
      let (directives, rest) ← readDirective directives (cursor.rest.drop 1)
      let ending := dropBlanks rest
      check (ending.isEmpty || ending.head? = some '#' || ending.head?.any isBreak)
      set { cursor.advanceTo ending with handles := directives.handles, keyAllowed := false }
      discard (readDirectives fuel directives)
      return true
    else return false

def finish : (fuel : Nat) → Reader Unit
  | 0 => failure
  | fuel + 1 => do
    skip false
    let cursor ← get
    if cursor.rest.isEmpty then return ()
    check (cursor.isAtMark '.')
    advance 3
    allowKey false
    finish fuel

def readDocument (fuel : Nat) : Reader Document := do
  let directed ← readDirectives fuel {}
  let cursor ← get
  if cursor.rest.isEmpty && !directed then return ⟨.nothing, {}⟩
  if cursor.isAtMark '-' then
    advance 3
    allowKey false
  else check (!directed && !cursor.isAtMarker)
  let root ← readBlockNode fuel 0 false {}
  finish fuel
  return ⟨root, (← get).anchors⟩

end Reader

def read? (text : String) : Option Document :=
  let chars := match text.toList with
    | '\ufeff' :: rest => rest
    | chars => chars
  if chars.all isAdmitted then
    ((Reader.readDocument (4 * chars.length + 16)).run { rest := chars }).map Prod.fst
  else none

end PatternLint.Yaml
