import PatternLint.Regex.Fault
import PatternLint.Text.Raw

namespace PatternLint

inductive IoFault where
  | notFound
  | notDirectory
  | isDirectory
  | tooManyLinks
  | nameTooLong
  | nulInName
  | rootNotDirectory
  | invalidText
deriving BEq, DecidableEq, Repr

def IoFault.message : IoFault → String
  | notFound => "No such file or directory (os error 2)"
  | notDirectory => "Not a directory (os error 20)"
  | isDirectory => "Is a directory (os error 21)"
  | tooManyLinks => "Too many levels of symbolic links (os error 40)"
  | nameTooLong => "File name too long (os error 36)"
  | nulInName => "file name contained an unexpected NUL byte"
  | rootNotDirectory => "not a directory"
  | invalidText => "stream did not contain valid UTF-8"

inductive RuleFault where
  | emptyPattern
  | regex (pattern : String) (fault : Regex.Fault)
deriving BEq, Repr

inductive GlobFault where
  | wildcards
  | recursiveWildcards
  | range
deriving BEq, DecidableEq, Repr

def GlobFault.message : GlobFault → String
  | wildcards => "wildcards are either regular `*` or recursive `**`"
  | recursiveWildcards => "recursive wildcards must form a single path component"
  | range => "invalid range pattern"

inductive Config.Format where
  | toml
  | yaml
deriving BEq, DecidableEq, Repr

inductive ConfigFault where
  | malformed (format : Config.Format) (document : String)
  | outputMode (mode : String)
deriving BEq, DecidableEq, Repr

inductive Error where
  | io (path : RawText) (fault : IoFault)
  | encoding (path : RawText)
  | invalidRule (rule : String) (fault : RuleFault)
  | invalidGlob (glob : String) (place : Nat) (fault : GlobFault)
  | config (path : RawText) (fault : ConfigFault)
  | unknownPreset (name : String)
  | noRules
  | threadPool (reason : String)
deriving BEq, Repr

/-- What parsers say about a text that they cannot read: the explanation of a document, and the
lines that show where a pattern is at fault. -/
structure ParserTexts where
  document : Config.Format → String → String
  drawing : String → String

section

variable (texts : ParserTexts)

def RuleFault.message : RuleFault → String
  | emptyPattern => "empty pattern"
  | regex pattern fault => fault.message (texts.drawing pattern)

def ConfigFault.message : ConfigFault → String
  | malformed format document => texts.document format document
  | outputMode mode => "unknown output mode '" ++ mode ++ "' (expected human|json)"

def Error.message : Error → String
  | io path fault => "cannot read " ++ Text.display path ++ ": " ++ fault.message
  | encoding path => Text.display path ++ " is not valid UTF-8 text"
  | invalidRule rule fault => "invalid rule '" ++ rule ++ "': " ++ fault.message texts
  | invalidGlob glob place fault =>
    "invalid glob '" ++ glob ++ "': Pattern syntax error near position " ++ toString place ++
      ": " ++ fault.message
  | config path fault => "invalid config " ++ Text.display path ++ ": " ++ fault.message texts
  | unknownPreset name => "unknown preset '" ++ name ++ "' (available: nohttp)"
  | noRules =>
    "no rules configured; pass --rule, --preset, or add [[rules]] to lintcheck.toml"
  | threadPool reason => "failed to build worker pool: " ++ reason

end

end PatternLint
