import PatternLint.Regex.Expr
import PatternLint.Regex.Property
import PatternLint.Regex.Reader

namespace PatternLint.Regex

structure Mode where
  caseInsensitive : Bool := false
  multiLine : Bool := false
  dotAll : Bool := false
  swapGreed : Bool := false
  unicode : Bool := true
  crlf : Bool := false

namespace Mode

def set (mode : Mode) : FlagSetting → Mode
  | (.caseInsensitive, on) => { mode with caseInsensitive := on }
  | (.multiLine, on) => { mode with multiLine := on }
  | (.dotAll, on) => { mode with dotAll := on }
  | (.swapGreed, on) => { mode with swapGreed := on }
  | (.unicode, on) => { mode with unicode := on }
  | (.crlf, on) => { mode with crlf := on }
  | (.verbose, _) => mode

def setAll (mode : Mode) (settings : List FlagSetting) : Mode := settings.foldl set mode

def fold (mode : Mode) (set : CodeSet) : CodeSet :=
  if !mode.caseInsensitive then set
  else if mode.unicode then Unicode.foldCase set
  else Unicode.foldAsciiCase set

/-- A class after case and negation. Without Unicode a class may hold ASCII alone, since any other
byte would not be a character by itself. -/
def finish (mode : Mode) (negated : Bool) (set : CodeSet) : Except Fault CodeSet :=
  let folded := mode.fold set
  let meant := if negated then folded.complement else folded
  if mode.unicode || meant.isAscii then .ok meant else .error .invalidUtf8

/-- Without Unicode, `\x80` and above in two digits would be a lone byte. -/
def scalar (mode : Mode) (literal : Literal) : Except Fault Char :=
  let code := literal.char.toNat
  if !mode.unicode && literal.hexPair && 0x7F < code && code ≤ 0xFF then .error .invalidUtf8
  else .ok literal.char

def classScalar (mode : Mode) (literal : Literal) : Except Fault Char := do
  if mode.unicode then return literal.char
  let char ← mode.scalar literal
  if char.toNat < 0x80 then return char else throw .unicodeNotAllowed

def property (mode : Mode) (negated : Bool) (query : PropertyQuery) : Except Fault CodeSet := do
  if !mode.unicode then throw .unicodeNotAllowed
  mode.finish negated (← query.set)

/-- The classes of letters, digits and blanks are closed under case, so they are not folded. -/
def perl (mode : Mode) (negated : Bool) (kind : PerlClass) : Except Fault CodeSet :=
  let set := if mode.unicode then kind.unicodeSet else kind.asciiSet
  let meant := if negated then set.complement else set
  if mode.unicode || meant.isAscii then .ok meant else .error .invalidUtf8

def operate (mode : Mode) (operator : SetOperator) (left right : CodeSet) : CodeSet :=
  let left := mode.fold left
  let right := mode.fold right
  match operator with
  | .intersection => left.inter right
  | .difference => left.diff right
  | .symmetricDifference => left.symmDiff right

mutual

def classSet (mode : Mode) : ClassSet → Except Fault CodeSet
  | .empty => return CodeSet.empty
  | .literal literal => return CodeSet.ofChar (← mode.classScalar literal)
  | .range first last => do
    let first ← mode.classScalar first
    let last ← mode.classScalar last
    return ⟨[⟨first.toNat, last.toNat⟩]⟩
  | .posix negated kind => mode.finish negated kind.set
  | .property negated query => mode.property negated query
  | .perl negated kind => mode.perl negated kind
  | .union items => return Unicode.unionOf (← classSets mode items)
  | .bracketed negated body => do mode.finish negated (← classSet mode body)
  | .operation operator left right => do
    let left ← classSet mode left
    let right ← classSet mode right
    return mode.operate operator left right

def classSets (mode : Mode) : List ClassSet → Except Fault (List CodeSet)
  | [] => return []
  | item :: items => do
    let set ← classSet mode item
    return set :: (← classSets mode items)

end

def literal (mode : Mode) (written : Literal) : Except Fault Expr := do
  let char ← mode.scalar written
  if mode.unicode || char.toNat < 0x80 then return .set (mode.fold (CodeSet.ofChar char))
  else return Expr.ofChar char

def dot (mode : Mode) : Except Fault Expr :=
  if !mode.unicode then .error .invalidUtf8
  else if mode.dotAll then .ok (.set CodeSet.all)
  else if mode.crlf then .ok (.set (CodeSet.ofSpans [⟨10, 10⟩, ⟨13, 13⟩]).complement)
  else .ok (.set (CodeSet.ofCode 10).complement)

def assertion (mode : Mode) : Assertion → Look
  | .startLine => if mode.multiLine then (if mode.crlf then .startCrlf else .startLine) else .start
  | .endLine => if mode.multiLine then (if mode.crlf then .stopCrlf else .stopLine) else .stop
  | .startText => .start
  | .endText => .stop
  | .wordBoundary => .boundary mode.unicode
  | .notWordBoundary => .notBoundary mode.unicode
  | .wordStart => .wordStart mode.unicode
  | .wordEnd => .wordEnd mode.unicode
  | .wordStartHalf => .wordStartHalf mode.unicode
  | .wordEndHalf => .wordEndHalf mode.unicode

end Mode

namespace Expr

mutual

def ofAst (mode : Mode) : Ast → Except Fault (Expr × Mode)
  | .empty => return (.empty, mode)
  | .flags settings => return (.empty, mode.setAll settings)
  | .literal written => return (← mode.literal written, mode)
  | .dot => return (← mode.dot, mode)
  | .assertion assertion => return (.look (mode.assertion assertion), mode)
  | .property negated query => return (.set (← mode.property negated query), mode)
  | .perl negated kind => return (.set (← mode.perl negated kind), mode)
  | .bracketed negated body => return (.set (← mode.finish negated (← mode.classSet body)), mode)
  | .repetition count greedy body => do
    let (body, mode) ← ofAst mode body
    return (repeated count.least count.most (greedy != mode.swapGreed) body, mode)
  | .group settings captures body => do
    let (body, _) ← ofAst (mode.setAll settings) body
    return (if captures then .capture body else body, mode)
  | .alternation branches => do
    let (branches, mode) ← ofAsts mode branches
    return (choice branches, mode)
  | .concat parts => do
    let (parts, mode) ← ofAsts mode parts
    return (sequence parts, mode)

def ofAsts (mode : Mode) : List Ast → Except Fault (List Expr × Mode)
  | [] => return ([], mode)
  | part :: parts => do
    let (part, mode) ← ofAst mode part
    let (parts, mode) ← ofAsts mode parts
    return (part :: parts, mode)

end

def ofPattern (pattern : String) : Except Fault Expr := do
  let (expr, _) ← ofAst {} (← Ast.ofPattern pattern)
  return expr

end Expr

end PatternLint.Regex
