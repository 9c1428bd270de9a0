import PatternLint.Proofs.Toml.Document
import PatternLint.Proofs.Yaml.Document

namespace PatternLint.Config

theorem ofDocument?_toml (quote : String → List Char) (quotes : Text.Quotes Toml.escapes quote)
    (config : Config) (small : ∀ count ∈ config.threads, count < 2 ^ 63) :
    ∃ document, Format.toml.document? (String.ofList (Toml.write quote config)) = some document ∧
      ofDocument? document = some config := by
  obtain ⟨members, read, shows⟩ := Toml.read?_write quote quotes config small
  exact ⟨Toml.document members, Format.document?_toml read, ofDocument?_of_shows config shows⟩

theorem ofDocument?_yaml (quote : String → List Char) (quotes : Text.Quotes Yaml.escapes quote)
    (indent : Nat) (config : Config) (small : ∀ count ∈ config.threads, count < 2 ^ 63) :
    ∃ document, Format.yaml.document? (String.ofList (Yaml.write quote indent config)) =
        some document ∧ ofDocument? document = some config := by
  obtain ⟨found, read, shows⟩ := Yaml.read?_write quote quotes indent config small
  refine ⟨Yaml.document found, ?_, ofDocument?_of_shows config shows⟩
  rw [Format.document?, read]
  rfl

theorem load_of_format {tree : FileTree} {base : Location} {path : RawText} {text : List Char}
    {config : Config} {format : Format} (named : Format.ofPath path = format)
    (found : tree.read base path = .ok (String.ofList text).toUTF8)
    (written : ∃ document, format.document? (String.ofList text) = some document ∧
      ofDocument? document = some config) :
    load tree base path = .ok config := by
  obtain ⟨document, parsed, read⟩ := written
  rw [load_of_document? found (named ▸ parsed), read]
  rfl

/-- The end of its name tells that a file holds an indented document. -/
def IsYaml (path : RawText) : Prop :=
  Path.extension? path = some (Text.raw "yaml") ∨
    Path.extension? path = some (Text.raw "yml")

/-- Whatever escapes its texts are quoted with, a configuration is loaded as it was written; only
the end of the name of the file tells in which format. -/
theorem load_written (tree : FileTree) (base : Location) (path : RawText) (config : Config)
    (small : ∀ count ∈ config.threads, count < 2 ^ 63) :
    (¬ IsYaml path → ∀ quote, Text.Quotes Toml.escapes quote →
        tree.read base path = .ok (String.ofList (Toml.write quote config)).toUTF8 →
          load tree base path = .ok config) ∧
      (IsYaml path → ∀ quote indent, Text.Quotes Yaml.escapes quote →
        tree.read base path = .ok (String.ofList (Yaml.write quote indent config)).toUTF8 →
          load tree base path = .ok config) := by
  constructor
  · intro named quote quotes found
    exact load_of_format (if_neg named) found (ofDocument?_toml quote quotes config small)
  · intro named quote indent quotes found
    exact load_of_format (if_pos named) found (ofDocument?_yaml quote quotes indent config small)

def bothFiles (toml yaml : String) : FileTree where
  entries := [([firstName], .file toml.toUTF8), ([secondName], .file yaml.toUTF8)]
  distinct := by
    have names : ([[firstName], [secondName]] : List Location).Nodup := by decide
    exact names
  closed := by simp [directoriesOf]

theorem read_bothFiles_toml (toml yaml : String) :
    (bothFiles toml yaml).read [] (Text.raw "/lintcheck.toml") = .ok toml.toUTF8 :=
  (FileTree.read_eq_ok_iff ..).mpr ⟨_, resolve_firstName rfl⟩

theorem read_bothFiles_yaml (toml yaml : String) :
    (bothFiles toml yaml).read [] (Text.raw "/lintcheck.yaml") = .ok yaml.toUTF8 := by
  have path : Path.join [Path.slash] secondName.bytes = Text.raw "/lintcheck.yaml" := by
    decide +kernel
  rw [← path]
  exact (FileTree.read_eq_ok_iff ..).mpr ⟨_, FileTree.resolve_join _ (FileTree.resolve_slash _ [])
    secondName _ (.file [] secondName _ rfl) (by decide +kernel)⟩

def escapedConfig : Config where
  output := some "json"
  includes := ["a\"b", "", " c  d"]
  defaultExcludes := some false
  threads := some 3
  rules := [⟨"\u00e9\n", some "\\", []⟩, ⟨"\x00", none, ["x", "\u0001"]⟩]

theorem load_escapedConfig :
    (∀ count ∈ escapedConfig.threads, count < 2 ^ 63) ∧
      load (bothFiles (String.ofList (Toml.write Text.quoteByNumber escapedConfig))
          (String.ofList (Yaml.write Text.quoteByNumber 2 escapedConfig))) []
        (Text.raw "/lintcheck.toml") = .ok escapedConfig ∧
      load (bothFiles (String.ofList (Toml.write Text.quoteByNumber escapedConfig))
          (String.ofList (Yaml.write Text.quoteByNumber 2 escapedConfig))) []
        (Text.raw "/lintcheck.yaml") = .ok escapedConfig := by
  have small : ∀ count ∈ escapedConfig.threads, count < 2 ^ 63 := by
    simp [escapedConfig]
  refine ⟨small, ?_, ?_⟩
  · have plain : ¬ IsYaml (Text.raw "/lintcheck.toml") := by
      have extension :
          Path.extension? (Text.raw "/lintcheck.toml") = some (Text.raw "toml") := by
        decide +kernel
      rw [IsYaml, extension]
      decide
    exact (load_written _ [] _ escapedConfig small).1 plain _ (Text.quotes_quoteByNumber _)
      (read_bothFiles_toml _ _)
  · have named : IsYaml (Text.raw "/lintcheck.yaml") := .inl (by decide +kernel)
    exact (load_written _ [] _ escapedConfig small).2 named _ 2 (Text.quotes_quoteByNumber _)
      (read_bothFiles_yaml _ _)

end PatternLint.Config
