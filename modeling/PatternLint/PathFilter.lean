import PatternLint.Glob.Matching
import PatternLint.Path

/-!
Which files are scanned. Globs are compared with normalized paths; a directory that is excluded
takes everything below it with it.
-/

namespace PatternLint

def defaultExcludes : List String :=
  [".git/**", "**/.gradle/**", ".idea/**", ".eclipse/**", "**/*.class", "**/*.hprof", "**/*.jar",
   "**/*.jpg", "**/*.png", "**/*.jks", "**/build/**", "**/.kotlin"]

structure PathFilter where
  includes : List Glob
  excludes : List Glob
deriving BEq, DecidableEq, Repr

namespace PathFilter

def empty : PathFilter := ⟨[], []⟩

/-- Including globs are compiled first, so a fault in one of them is the one reported. -/
def compile (includes excludes : List String) : Except Error PathFilter := do
  let includes ← includes.mapM Glob.compile
  let excludes ← excludes.mapM Glob.compile
  return ⟨includes, excludes⟩

def compileWithDefaults (includes excludes : List String) : Except Error PathFilter :=
  compile includes (defaultExcludes ++ excludes)

def ancestorsFrom (before : List Char) : List Char → List (List Char)
  | [] => []
  | char :: rest =>
    if char = '/' then before.reverse :: ancestorsFrom (char :: before) rest
    else ancestorsFrom (char :: before) rest

def ancestors (path : List Char) : List (List Char) := ancestorsFrom [] path

def excludesDir (filter : PathFilter) (dir : List Char) : Bool :=
  filter.excludes.any fun glob => glob.matchesChars dir || glob.coversDir dir

def excludesFile (filter : PathFilter) (path : List Char) : Bool :=
  (filter.excludes.any fun glob => glob.matchesChars path) ||
    (ancestors path).any filter.excludesDir

def includesFile (filter : PathFilter) (path : List Char) : Bool :=
  filter.includes.isEmpty ||
    filter.includes.any fun glob =>
      glob.matchesChars path || (ancestors path).any glob.coversDir

def isIncluded (filter : PathFilter) (path : RawText) : Bool :=
  let path := Path.normalize path
  !filter.excludesFile path && filter.includesFile path

def prunesDir (filter : PathFilter) (path : RawText) : Bool :=
  let path := Path.normalize path
  !path.isEmpty && filter.excludesDir path

end PathFilter

end PatternLint
