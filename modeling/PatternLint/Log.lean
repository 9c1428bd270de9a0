import PatternLint.Text.Piece
import PatternLint.Text.Quoted

/-!
Records of what a run does, and filters that choose among them. A filter is a list of directives: a
level for everything, or for what comes from a source whose name begins in some way.
-/

namespace PatternLint

inductive LogLevel where
  | off
  | error
  | warn
  | info
  | debug
  | trace
deriving BEq, DecidableEq, Repr

namespace LogLevel

def rank : LogLevel → Nat
  | off => 0
  | error => 1
  | warn => 2
  | info => 3
  | debug => 4
  | trace => 5

def word : LogLevel → String
  | off => "OFF"
  | error => "ERROR"
  | warn => "WARN"
  | info => "INFO"
  | debug => "DEBUG"
  | trace => "TRACE"

def all : List LogLevel := [off, error, warn, info, debug, trace]

def ofText? (text : String) : Option LogLevel :=
  all.find? fun level => text.map Char.toUpper = level.word || text = toString level.rank

/-- The level that follows from how often more output was asked for. -/
def ofVerbosity : Nat → LogLevel
  | 0 => warn
  | 1 => info
  | _ => debug

def name (level : LogLevel) : String := level.word.map Char.toLower

end LogLevel

structure LogRecord where
  source : String
  level : LogLevel
  text : String
deriving BEq, DecidableEq, Repr

def LogRecord.line (record : LogRecord) : String := record.level.word ++ " " ++ record.text

structure LogDirective where
  source : String
  level : LogLevel
deriving BEq, DecidableEq, Repr

namespace LogDirective

def isSourceChar (char : Char) : Bool :=
  char.isAlphanum || char = '_' || char = ':' || char = '-'

def ofText? (text : String) : Option LogDirective :=
  match LogLevel.ofText? text with
  | some level => some ⟨"", level⟩
  | none =>
    let source := text.toList.takeWhile isSourceChar
    if source.isEmpty then none
    else
      match text.toList.dropWhile isSourceChar with
      | [] => some ⟨String.ofList source, .trace⟩
      | ['='] => some ⟨String.ofList source, .trace⟩
      | '=' :: level => (LogLevel.ofText? (String.ofList level)).map (⟨String.ofList source, ·⟩)
      | _ => none

def covers (directive : LogDirective) (source : String) : Bool :=
  directive.source.toList.isPrefixOf source.toList

/-- Of two directives the one with the longer source goes first, and of equals the later one. -/
def better (one other : LogDirective) : LogDirective :=
  if other.source.length < one.source.length then one else other

end LogDirective

abbrev LogFilter := List LogDirective

namespace LogFilter

/-- Without any directive, only errors are kept. -/
def ofText? (text : String) : Option LogFilter := do
  let directives ← ((Text.pieces ',' text.toList).filter (!·.isEmpty)).mapM fun piece =>
    LogDirective.ofText? (String.ofList piece)
  return if directives.isEmpty then [⟨"", .error⟩] else directives

def keeps (filter : LogFilter) (record : LogRecord) : Bool :=
  match filter.filter fun directive => directive.covers record.source with
  | [] => false
  | first :: rest => record.level.rank ≤ (rest.foldl LogDirective.better first).level.rank

end LogFilter

end PatternLint
