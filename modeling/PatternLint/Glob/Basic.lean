import PatternLint.Error

namespace PatternLint.Glob

structure CharRange where
  first : Char
  last : Char
deriving BEq, DecidableEq, Repr

inductive Token where
  | literal (char : Char)
  | one
  | run
  | bracket (negated : Bool) (ranges : List CharRange)
  | tree
deriving BEq, DecidableEq, Repr

/-- What stands in brackets: ranges and single characters. A hyphen at either end stands for
itself. -/
def ranges : List Char → List CharRange
  | first :: '-' :: last :: rest => ⟨first, last⟩ :: ranges rest
  | char :: rest => ⟨char, char⟩ :: ranges rest
  | [] => []

/-- The text before the first closing bracket and the text after it; the first character is never
taken as the closing bracket. -/
def bracketBody? : List Char → Option (List Char × List Char)
  | [] => none
  | first :: rest =>
    match rest.dropWhile (· ≠ ']') with
    | [] => none
    | _ :: after => some (first :: rest.takeWhile (· ≠ ']'), after)

def bracket? : List Char → Option (Token × List Char)
  | '!' :: rest => (bracketBody? rest).map fun (body, after) => (.bracket true (ranges body), after)
  | rest => (bracketBody? rest).map fun (body, after) => (.bracket false (ranges body), after)

structure Fault where
  place : Nat
  kind : GlobFault

def treeRest (place : Nat) (before : Option Char) (rest : List Char) :
    Except Fault (List Char) :=
  if before.all (· = '/') then
    match rest with
    | [] => .ok []
    | '/' :: after => .ok after
    | _ => .error ⟨place + 2, .recursiveWildcards⟩
  else .error ⟨place - 1, .recursiveWildcards⟩

/-- Reads tokens from a text that begins at `place` and has `before` in front of it; `fuel` is at
least the length of the text. -/
def readTokens : (fuel place : Nat) → (before : Option Char) → List Char → Except Fault (List Token)
  | _, _, _, [] => .ok []
  | 0, _, _, _ => .ok []
  | fuel + 1, place, _, '?' :: rest => do
    return .one :: (← readTokens fuel (place + 1) (some '?') rest)
  | fuel + 1, place, before, '*' :: rest =>
    match rest with
    | '*' :: '*' :: _ => .error ⟨place + 2, .wildcards⟩
    | '*' :: after => do
      let next ← treeRest place before after
      let taken := 1 + rest.length - next.length
      return .tree :: (← readTokens fuel (place + taken) (some '/') next)
    | _ => do return .run :: (← readTokens fuel (place + 1) (some '*') rest)
  | fuel + 1, place, _, '[' :: rest =>
    match bracket? rest with
    | none => .error ⟨place, .range⟩
    | some (token, next) => do
      let taken := 1 + rest.length - next.length
      return token :: (← readTokens fuel (place + taken) (some ']') next)
  | fuel + 1, place, _, char :: rest => do
    return .literal char :: (← readTokens fuel (place + 1) (some char) rest)

end Glob

structure Glob where
  text : String
  tokens : List Glob.Token
deriving BEq, DecidableEq, Repr

namespace Glob

def compile (text : String) : Except Error Glob :=
  match readTokens text.length 0 none text.toList with
  | .ok tokens => .ok ⟨text, tokens⟩
  | .error fault => .error (.invalidGlob text fault.place fault.kind)

def hasTreeTail (glob : Glob) : Bool :=
  glob.text == "**" || "/**".toList.isSuffixOf glob.text.toList

end Glob

end PatternLint
