import PatternLint.Regex.Ast
import PatternLint.Regex.Fault
import PatternLint.Unicode.Property

namespace PatternLint.Regex

/-- Where reading stands: the rest of the pattern, whether blanks are skipped, and the group names
seen so far. -/
structure Cursor where
  rest : List Char
  verbose : Bool
  names : List String

abbrev Reader := StateT Cursor (Except Fault)

namespace Reader

def peek? : Reader (Option Char) := do return (← get).rest.head?

def atEnd : Reader Bool := do return (← get).rest.isEmpty

def isNext (char : Char) : Reader Bool := do return (← peek?) == some char

def bump : Reader Bool := do
  modify fun cursor => { cursor with rest := cursor.rest.drop 1 }
  return !(← atEnd)

def startsWith (text : List Char) (rest : List Char) : Bool := text.isPrefixOf rest

def bumpIf (text : String) : Reader Bool := do
  let cursor ← get
  if startsWith text.toList cursor.rest then
    set { cursor with rest := cursor.rest.drop text.length }
    return true
  else return false

def dropBlanks : (comment : Bool) → List Char → List Char
  | _, [] => []
  | true, char :: rest => dropBlanks (char ≠ '\n') rest
  | false, char :: rest =>
    if Unicode.isBlank char then dropBlanks false rest
    else if char = '#' then dropBlanks true rest
    else char :: rest

def bumpSpace : Reader Unit :=
  modify fun cursor =>
    if cursor.verbose then { cursor with rest := dropBlanks false cursor.rest } else cursor

def bumpAndSpace : Reader Bool := do
  if ← bump then
    bumpSpace
    return !(← atEnd)
  else return false

/-- The character after the current one, past blanks and comment marks when blanks are skipped. -/
def peekPastSpace : Reader (Option Char) := do
  let cursor ← get
  let after := cursor.rest.drop 1
  if !cursor.verbose then return after.head?
  let rec look : (comment : Bool) → List Char → Option Char
    | _, [] => after.head?
    | comment, char :: rest =>
      if Unicode.isBlank char then look comment rest
      else if !comment && char == '#' then look true rest
      else some char
  return look false after

def isHex (char : Char) : Bool := (Unicode.hexValue? char).isSome

def scalarOfHex (digits : List Char) : Reader Char := do
  let value := Unicode.hexNumber (String.ofList digits)
  if value.isValidChar then return Char.ofNat value else throw .hexInvalid

def hexDigits : (count : Nat) → List Char → Reader (List Char)
  | 0, digits => return digits.reverse
  | count + 1, digits => do
    match ← peek? with
    | none => throw .escapeUnfinished
    | some char =>
      if !isHex char then throw .hexDigitInvalid
      let more ← bumpAndSpace
      if count > 0 && !more then throw .escapeUnfinished
      hexDigits count (char :: digits)

def hexUntilBrace : (fuel : Nat) → List Char → Reader (List Char)
  | 0, digits => return digits.reverse
  | fuel + 1, digits => do
    if !(← bumpAndSpace) then return digits.reverse
    match ← peek? with
    | none => return digits.reverse
    | some '}' => return digits.reverse
    | some char =>
      if !isHex char then throw .hexDigitInvalid
      hexUntilBrace fuel (char :: digits)

def length : Reader Nat := do return (← get).rest.length

def hexLiteral (kind : Char) : Reader Literal := do
  if !(← bumpAndSpace) then throw .escapeUnfinished
  if ← isNext '{' then
    let digits ← hexUntilBrace (← length) []
    if ← atEnd then throw .escapeUnfinished
    let _ ← bumpAndSpace
    if digits.isEmpty then throw .hexEmpty
    return ⟨← scalarOfHex digits, false⟩
  else
    let count := if kind == 'x' then 2 else if kind == 'u' then 4 else 8
    let digits ← hexDigits count []
    return ⟨← scalarOfHex digits, kind == 'x'⟩

def propertyName : (fuel : Nat) → List Char → Reader (List Char)
  | 0, name => return name.reverse
  | fuel + 1, name => do
    if !(← bumpAndSpace) then return name.reverse
    match ← peek? with
    | none => return name.reverse
    | some '}' => return name.reverse
    | some char => propertyName fuel (char :: name)

def cutAt (mark : List Char) : List Char → Option (List Char × List Char)
  | [] => none
  | char :: rest =>
    if startsWith mark (char :: rest) then some ([], (char :: rest).drop mark.length)
    else (cutAt mark rest).map fun (before, after) => (char :: before, after)

def queryOf (name : List Char) : Bool × PropertyQuery :=
  match cutAt ['!', '='] name with
  | some (property, value) => (true, .valued (String.ofList property) (String.ofList value))
  | none =>
    match (cutAt [':'] name).orElse fun _ => cutAt ['='] name with
    | some (property, value) => (false, .valued (String.ofList property) (String.ofList value))
    | none => (false, .named (String.ofList name))

/-- A property and whether its complement is meant: `\P` and `!=` each turn it round. -/
def propertyClass (negated : Bool) : Reader (Bool × PropertyQuery) := do
  if !(← bumpAndSpace) then throw .escapeUnfinished
  match ← peek? with
  | none => throw .escapeUnfinished
  | some '{' =>
    let name ← propertyName (← length) []
    if ← atEnd then throw .escapeUnfinished
    let _ ← bump
    let (differs, query) := queryOf name
    return (negated != differs, query)
  | some '\\' => throw .propertyNameInvalid
  | some char =>
    let _ ← bumpAndSpace
    return (negated, .named (String.ofList [char]))

inductive Primitive where
  | literal (literal : Literal)
  | assertion (assertion : Assertion)
  | property (negated : Bool) (query : PropertyQuery)
  | perl (negated : Bool) (kind : PerlClass)
  | dot

def Primitive.toAst : Primitive → Ast
  | .literal written => .literal written
  | .assertion place => .assertion place
  | .property negated query => .property negated query
  | .perl negated kind => .perl negated kind
  | .dot => .dot

def Primitive.toClassSet : Primitive → Reader ClassSet
  | .literal written => return .literal written
  | .property negated query => return .property negated query
  | .perl negated kind => return .perl negated kind
  | _ => throw .classEscapeInvalid

def Primitive.toLiteral : Primitive → Reader Literal
  | .literal written => return written
  | _ => throw .classRangeNotLiteral

def isMeta (char : Char) : Bool :=
  "\\.+*?()|[]\x7b\x7d^$#&-~".toList.contains char

/-- ASCII characters other than letters, digits and the angle brackets may be escaped idly. -/
def isEscapable (char : Char) : Bool :=
  isMeta char || (char.toNat < 0x80 && !char.isAlphanum && char != '<' && char != '>')

def boundaryName : (fuel : Nat) → List Char → Reader (List Char)
  | 0, name => return name.reverse
  | fuel + 1, name => do
    match ← peek? with
    | none => return name.reverse
    | some char =>
      if char.isAlpha || char == '-' then
        let _ ← bumpAndSpace
        boundaryName fuel (char :: name)
      else return name.reverse

/-- The named boundary after `\b`, if the brace does not open a counted repetition. -/
def namedBoundary? : Reader (Option Assertion) := do
  let start ← get
  if !(← bumpAndSpace) then throw .boundaryUnfinished
  match ← peek? with
  | none => throw .boundaryUnfinished
  | some char =>
    if !(char.isAlpha || char == '-') then
      set start
      return none
    let name ← boundaryName (← length) []
    if !(← isNext '}') then throw .boundaryUnclosed
    let _ ← bump
    match String.ofList name with
    | "start" => return some .wordStart
    | "end" => return some .wordEnd
    | "start-half" => return some .wordStartHalf
    | "end-half" => return some .wordEndHalf
    | _ => throw .boundaryUnrecognized

def perlClass : Char → Option (Bool × PerlClass)
  | 'd' => some (false, .digit)
  | 's' => some (false, .space)
  | 'w' => some (false, .word)
  | 'D' => some (true, .digit)
  | 'S' => some (true, .space)
  | 'W' => some (true, .word)
  | _ => none

def controlEscape : Char → Option Char
  | 'a' => some '\x07'
  | 'f' => some '\x0C'
  | 't' => some '\t'
  | 'n' => some '\n'
  | 'r' => some '\r'
  | 'v' => some '\x0B'
  | _ => none

def assertionEscape : Char → Option Assertion
  | 'A' => some .startText
  | 'z' => some .endText
  | 'B' => some .notWordBoundary
  | '<' => some .wordStart
  | '>' => some .wordEnd
  | _ => none

def «escape» : Reader Primitive := do
  if !(← bump) then throw .escapeUnfinished
  match ← peek? with
  | none => throw .escapeUnfinished
  | some char =>
    if char.isDigit then throw .backreference
    if char == 'x' || char == 'u' || char == 'U' then return .literal (← hexLiteral char)
    if char == 'p' || char == 'P' then
      let (negated, query) ← propertyClass (char == 'P')
      return .property negated query
    let _ ← bump
    if let some (negated, kind) := perlClass char then return .perl negated kind
    if isEscapable char then return .literal ⟨char, false⟩
    if let some control := controlEscape char then return .literal ⟨control, false⟩
    if let some assertion := assertionEscape char then return .assertion assertion
    if char == 'b' then
      if ← isNext '{' then
        if let some boundary ← namedBoundary? then return .assertion boundary
      return .assertion .wordBoundary
    throw .escapeUnrecognized

def primitive (char : Char) : Reader Primitive := do
  match char with
  | '\\' => «escape»
  | '.' => let _ ← bump; return .dot
  | '^' => let _ ← bump; return .assertion .startLine
  | '$' => let _ ← bump; return .assertion .endLine
  | _ => let _ ← bump; return .literal ⟨char, false⟩

def posixClass? : String → Option PosixClass
  | "alnum" => some .alnum
  | "alpha" => some .alpha
  | "ascii" => some .ascii
  | "blank" => some .blank
  | "cntrl" => some .cntrl
  | "digit" => some .digit
  | "graph" => some .graph
  | "lower" => some .lower
  | "print" => some .print
  | "punct" => some .punct
  | "space" => some .space
  | "upper" => some .upper
  | "word" => some .word
  | "xdigit" => some .xdigit
  | _ => none

/-- `[:name:]` or `[:^name:]`; anything else is left where it stands. -/
def posix? : Reader (Option ClassSet) := do
  let start ← get
  match start.rest with
  | '[' :: ':' :: after =>
    let (negated, body) := match after with
      | '^' :: body => (true, body)
      | _ => (false, after)
    let name := body.takeWhile (· ≠ ':')
    match body.drop name.length, posixClass? (String.ofList name) with
    | ':' :: ']' :: rest, some kind =>
      set { start with rest }
      return some (.posix negated kind)
    | _, _ => return none
  | _ => return none

def setItem : Reader Primitive := do
  match ← peek? with
  | none => throw .classUnclosed
  | some '\\' => «escape»
  | some char => let _ ← bump; return .literal ⟨char, false⟩

def setRange : Reader ClassSet := do
  let first ← setItem
  bumpSpace
  match ← peek? with
  | none => throw .classUnclosed
  | some char =>
    let next ← peekPastSpace
    if char != '-' || next == some ']' || next == some '-' then return ← first.toClassSet
    if !(← bumpAndSpace) then throw .classUnclosed
    let last ← setItem
    let first ← first.toLiteral
    let last ← last.toLiteral
    if first.char ≤ last.char then return .range first last else throw .classRangeInvalid

def dashes : (fuel : Nat) → List ClassSet → Reader (List ClassSet)
  | 0, items => return items
  | fuel + 1, items => do
    if ← isNext '-' then
      if !(← bumpAndSpace) then throw .classUnclosed
      dashes fuel (.literal ⟨'-', false⟩ :: items)
    else return items

def openBracket : Reader (Bool × List ClassSet) := do
  if !(← bumpAndSpace) then throw .classUnclosed
  let negated ← isNext '^'
  if negated then
    if !(← bumpAndSpace) then throw .classUnclosed
  let items ← dashes (← length) []
  if items.isEmpty && (← isNext ']') then
    if !(← bumpAndSpace) then throw .classUnclosed
    return (negated, [.literal ⟨']', false⟩])
  return (negated, items)

/-- An operator waiting for its right side, if any, joins the items read since. -/
def joinPending (pending : Option (SetOperator × ClassSet)) (items : List ClassSet) : ClassSet :=
  let right := ClassSet.ofItems items.reverse
  match pending with
  | none => right
  | some (operator, left) => .operation operator left right

def setOperator? : Reader (Option SetOperator) := do
  if ← bumpIf "&&" then return some .intersection
  if ← bumpIf "--" then return some .difference
  if ← bumpIf "~~" then return some .symmetricDifference
  return none

mutual

def bracketed : (fuel : Nat) → Reader (Bool × ClassSet)
  | 0 => throw .classUnclosed
  | fuel + 1 => do
    let (negated, items) ← openBracket
    return (negated, ← setBody fuel none items)

def setBody : (fuel : Nat) → Option (SetOperator × ClassSet) → List ClassSet → Reader ClassSet
  | 0, _, _ => throw .classUnclosed
  | fuel + 1, pending, items => do
    bumpSpace
    match ← peek? with
    | none => throw .classUnclosed
    | some '[' =>
      if let some kind ← posix? then setBody fuel pending (kind :: items)
      else
        let (negated, body) ← bracketed fuel
        setBody fuel pending (.bracketed negated body :: items)
    | some ']' =>
      let _ ← bump
      return joinPending pending items
    | some _ =>
      if let some operator ← setOperator? then
        setBody fuel (some (operator, joinPending pending items)) []
      else
        let item ← setRange
        setBody fuel pending (item :: items)

end

def decimalDigits : (fuel : Nat) → List Char → Reader (List Char)
  | 0, digits => return digits.reverse
  | fuel + 1, digits => do
    match ← peek? with
    | none => return digits.reverse
    | some char =>
      if char.isDigit then
        let _ ← bumpAndSpace
        decimalDigits fuel (char :: digits)
      else return digits.reverse

def dropWhite : Reader Unit :=
  modify fun cursor => { cursor with rest := cursor.rest.dropWhile Unicode.isBlank }

def decimal : Reader (Except Fault Nat) := do
  dropWhite
  let digits ← decimalDigits (← length) []
  dropWhite
  bumpSpace
  if digits.isEmpty then return .error .repetitionCountMissing
  let value := digits.foldl (fun value digit => value * 10 + (digit.toNat - 48)) 0
  if value < 0x100000000 then return .ok value else return .error .decimalInvalid

/-- What a repetition operator applies to: the last part read, unless it is a flag setting. -/
def repeatable : List Ast → Reader (Ast × List Ast)
  | [] => throw .repetitionMissing
  | .empty :: _ => throw .repetitionMissing
  | .flags _ :: _ => throw .repetitionMissing
  | part :: parts => return (part, parts)

def lazyMark : Reader Bool := do
  if ← isNext '?' then
    let _ ← bump
    return true
  else return false

def uncounted (count : Count) (parts : List Ast) : Reader (List Ast) := do
  let (part, before) ← repeatable parts
  let isLazy ← if ← bump then lazyMark else pure false
  return .repetition count (!isLazy) part :: before

def countRange : Reader Count := do
  let least ← decimal
  if ← atEnd then throw .repetitionUnclosed
  if ← isNext ',' then
    if !(← bumpAndSpace) then throw .repetitionUnclosed
    if ← isNext '}' then return ⟨← least, none⟩
    let least ← least
    let most ← decimal
    return ⟨least, some (← most)⟩
  else
    let exact ← least
    return ⟨exact, some exact⟩

def counted (parts : List Ast) : Reader (List Ast) := do
  let (part, before) ← repeatable parts
  if !(← bumpAndSpace) then throw .repetitionUnclosed
  let count ← countRange
  if !(← isNext '}') then throw .repetitionUnclosed
  let isLazy ← if ← bumpAndSpace then lazyMark else pure false
  if count.most.any (· < count.least) then throw .repetitionCountInvalid
  return .repetition count (!isLazy) part :: before

def flag? : Char → Option Flag
  | 'i' => some .caseInsensitive
  | 'm' => some .multiLine
  | 's' => some .dotAll
  | 'U' => some .swapGreed
  | 'u' => some .unicode
  | 'R' => some .crlf
  | 'x' => some .verbose
  | _ => none

/-- Flags up to `:` or `)`; `negation` tells whether a minus sign stands before, and whether it is
the last thing read. -/
def flagList : (fuel : Nat) → (negated dangling : Bool) → List FlagSetting →
    Reader (List FlagSetting)
  | 0, _, _, _ => throw .flagUnfinished
  | fuel + 1, negated, dangling, settings => do
    match ← peek? with
    | none => throw .flagUnfinished
    | some char =>
      if char == ':' || char == ')' then
        if dangling then throw .flagDanglingNegation
        return settings.reverse
      if char == '-' then
        if negated then throw .flagRepeatedNegation
        if !(← bump) then throw .flagUnfinished
        flagList fuel true true settings
      else
        match flag? char with
        | none => throw .flagUnrecognized
        | some flag =>
          if settings.any (·.1 == flag) then throw .flagDuplicate
          if !(← bump) then throw .flagUnfinished
          flagList fuel negated false ((flag, !negated) :: settings)

def isNameChar (first : Bool) (char : Char) : Bool :=
  char == '_' || Unicode.alphabetic.contains char ||
    (!first && (char == '.' || char == '[' || char == ']' || Unicode.numeric.contains char))

def groupName : (fuel : Nat) → List Char → Reader String
  | 0, _ => throw .groupNameUnclosed
  | fuel + 1, name => do
    match ← peek? with
    | none => throw .groupNameUnclosed
    | some '>' =>
      let _ ← bump
      if name.isEmpty then throw .groupNameEmpty
      return String.ofList name.reverse
    | some char =>
      if !isNameChar name.isEmpty char then throw .groupNameInvalid
      let _ ← bump
      groupName fuel (char :: name)

def isLookAround (rest : List Char) : Bool :=
  ["?=", "?!", "?<=", "?<!"].any fun mark => startsWith mark.toList rest

inductive Opening where
  | settings (settings : List FlagSetting)
  | group (settings : List FlagSetting) (captures : Bool)

def opening : Reader Opening := do
  let _ ← bump
  bumpSpace
  if isLookAround (← get).rest then throw .lookAround
  if (← bumpIf "?P<") || (← bumpIf "?<") then
    let name ← groupName ((← length) + 1) []
    if (← get).names.contains name then throw .groupNameDuplicate
    modify fun cursor => { cursor with names := name :: cursor.names }
    return .group [] true
  if ← bumpIf "?" then
    if ← atEnd then throw .groupUnclosed
    let settings ← flagList ((← length) + 1) false false []
    let closes ← isNext ')'
    let _ ← bump
    if closes then
      if settings.isEmpty then throw .repetitionMissing
      return .settings settings
    return .group settings false
  return .group [] true

def verboseSetting? (settings : List FlagSetting) : Option Bool :=
  (settings.find? (·.1 == Flag.verbose)).map (·.2)

def setVerbose (verbose : Bool) : Reader Unit := modify fun cursor => { cursor with verbose }

/-- Branches up to the end of the group, or of the pattern when `inGroup` is false. `parts` and
`branches` are in reverse. -/
def branches : (fuel : Nat) → (inGroup : Bool) → (parts branches : List Ast) → Reader Ast
  | 0, _, _, _ => throw .groupUnclosed
  | fuel + 1, inGroup, parts, done => do
    bumpSpace
    let finish := Ast.ofBranches (Ast.ofParts parts.reverse :: done).reverse
    match ← peek? with
    | none => if inGroup then throw .groupUnclosed else return finish
    | some ')' =>
      if !inGroup then throw .groupUnopened
      return finish
    | some '|' =>
      let _ ← bump
      branches fuel inGroup [] (Ast.ofParts parts.reverse :: done)
    | some '(' =>
      let outer := (← get).verbose
      match ← opening with
      | .settings settings =>
        if let some verbose := verboseSetting? settings then setVerbose verbose
        branches fuel inGroup (.flags settings :: parts) done
      | .group settings captures =>
        setVerbose ((verboseSetting? settings).getD outer)
        let body ← branches fuel true [] []
        setVerbose outer
        let _ ← bump
        branches fuel inGroup (.group settings captures body :: parts) done
    | some '[' =>
      let (negated, body) ← bracketed fuel
      branches fuel inGroup (.bracketed negated body :: parts) done
    | some '?' => branches fuel inGroup (← uncounted ⟨0, some 1⟩ parts) done
    | some '*' => branches fuel inGroup (← uncounted ⟨0, none⟩ parts) done
    | some '+' => branches fuel inGroup (← uncounted ⟨1, none⟩ parts) done
    | some '{' => branches fuel inGroup (← counted parts) done
    | some char =>
      let next ← primitive char
      branches fuel inGroup (next.toAst :: parts) done

end Reader

def nestLimit : Nat := 250

/-- Reads a whole pattern. Nesting is looked at last, so a pattern that is also malformed is
reported as malformed. -/
def Ast.ofPattern (pattern : String) : Except Fault Ast := do
  let chars := pattern.toList
  let (ast, _) ← (Reader.branches (2 * chars.length + 2) false [] []).run ⟨chars, false, []⟩
  if ast.depth > nestLimit then throw (.nestedTooDeep nestLimit)
  return ast

end PatternLint.Regex
