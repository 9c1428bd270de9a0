import PatternLint.Config.Basic
import PatternLint.FileTree.Lookup
import PatternLint.Toml.Form
import PatternLint.Yaml.Form

namespace PatternLint.Config

/-- The format of a file follows from the end of its name, in exactly this case. -/
def Format.ofPath (path : RawText) : Format :=
  if Path.extension? path = some (Text.raw "yaml") ∨
      Path.extension? path = some (Text.raw "yml") then .yaml
  else .toml

def Format.document? (format : Format) (text : String) : Option Document :=
  match format with
  | toml => (Toml.read? text).map Toml.document
  | yaml => (Yaml.read? text).map Yaml.document

def Format.read? (format : Format) (text : String) : Option Config :=
  (format.document? text).bind ofDocument?

def load (tree : FileTree) (base : Location) (path : RawText) : Except Error Config :=
  match tree.read base path with
  | .error fault => .error (.io path fault)
  | .ok bytes =>
    match String.fromUTF8? bytes with
    | none => .error (.io path .invalidText)
    | some text =>
      match (Format.ofPath path).read? text with
      | none => .error (.config path (.malformed (Format.ofPath path) text))
      | some config => .ok config

def fileNames : List RawText :=
  [Text.raw "lintcheck.toml", Text.raw "lintcheck.yaml", Text.raw "lintcheck.yml"]

def markers : List RawText := fileNames ++ [Text.raw ".git"]

def isMarked (tree : FileTree) (base : Location) (path : RawText) : Bool :=
  markers.any fun name => tree.leads base (Path.join path name)

/-- The nearest marked directory from a path upwards, or the path itself. -/
def detectRoot (tree : FileTree) (base : Location) (start : RawText) : RawText :=
  ((Path.chain start).find? (isMarked tree base)).getD start

def find? (tree : FileTree) (base : Location) (root : RawText) : Option RawText :=
  (fileNames.map (Path.join root)).find? (tree.leadsToFile base)

end PatternLint.Config
