import PatternLint.Config.File
import PatternLint.Proofs.FileTree.Present
import PatternLint.Proofs.Path.Parent
import PatternLint.Proofs.Text.Encoding

namespace PatternLint.Config

inductive Loads (tree : FileTree) (base : Location) (path : RawText) :
    Except Error Config → Prop
  | unreadable (fault : IoFault) : tree.read base path = .error fault →
      Loads tree base path (.error (.io path fault))
  | noText (bytes : ByteArray) : tree.read base path = .ok bytes →
      (∀ text : String, text.toUTF8 ≠ bytes) →
        Loads tree base path (.error (.io path .invalidText))
  | malformed (text : String) : tree.read base path = .ok text.toUTF8 →
      (Format.ofPath path).read? text = none →
        Loads tree base path (.error (.config path (.malformed (Format.ofPath path) text)))
  | config (text : String) (config : Config) : tree.read base path = .ok text.toUTF8 →
      (Format.ofPath path).read? text = some config → Loads tree base path (.ok config)

theorem load_of_loads (tree : FileTree) (base : Location) (path : RawText)
    (outcome : Except Error Config) (loads : Loads tree base path outcome) :
    load tree base path = outcome := by
  cases loads with
  | unreadable fault failed => simp only [load, failed]
  | noText bytes found noText => simp only [load, found, Text.fromUTF8?_eq_none bytes noText]
  | malformed text found failed => simp only [load, found, Text.fromUTF8?_toUTF8, failed]
  | config text config found read => simp only [load, found, Text.fromUTF8?_toUTF8, read]

theorem loads_load (tree : FileTree) (base : Location) (path : RawText) :
    Loads tree base path (load tree base path) := by
  cases found : tree.read base path with
  | error fault =>
    have loads := Loads.unreadable fault found
    rwa [load_of_loads tree base path _ loads]
  | ok bytes =>
    rcases Text.text_or_no_text bytes with ⟨text, encoded⟩ | noText
    · subst encoded
      cases read : (Format.ofPath path).read? text with
      | none =>
        have loads := Loads.malformed text found read
        rwa [load_of_loads tree base path _ loads]
      | some config =>
        have loads := Loads.config text config found read
        rwa [load_of_loads tree base path _ loads]
    · have loads := Loads.noText bytes found noText
      rwa [load_of_loads tree base path _ loads]

def firstName : FileName := ⟨Text.raw "lintcheck.toml", by decide +kernel⟩

def secondName : FileName := ⟨Text.raw "lintcheck.yaml", by decide +kernel⟩

def thirdName : FileName := ⟨Text.raw "lintcheck.yml", by decide +kernel⟩

def gitName : FileName := ⟨Text.raw ".git", by decide +kernel⟩

variable {tree : FileTree} {base : Location} {dir : RawText}

theorem isMarked_eq_false_iff :
    isMarked tree base dir = false ↔ ∀ name ∈ [firstName, secondName, thirdName, gitName],
      tree.leads base (Path.join dir name.bytes) = false := by
  have names : markers = [firstName, secondName, thirdName, gitName].map FileName.bytes := rfl
  rw [isMarked, names, List.any_map, List.any_eq_false]
  simp only [Function.comp_apply, Bool.not_eq_true]

theorem isMarked_of_leads (name : FileName) (marks : name.bytes ∈ markers)
    (leads : tree.leads base (Path.join dir name.bytes) = true) : isMarked tree base dir = true :=
  List.any_eq_true.mpr ⟨_, marks, leads⟩

theorem find?_eq_firstName
    (file : tree.leadsToFile base (Path.join dir firstName.bytes) = true) :
    find? tree base dir = some (Path.join dir firstName.bytes) :=
  List.find?_cons_of_pos file

theorem find?_eq_none_iff :
    find? tree base dir = none ↔
      ∀ name ∈ fileNames, tree.leadsToFile base (Path.join dir name) = false := by
  rw [find?, List.find?_eq_none, List.forall_mem_map]
  simp only [Bool.not_eq_true]

theorem find?_eq_none_of_bare {place : Location}
    (reached : tree.EndsAt base dir (.directory place))
    (bare : ∀ name ∈ [firstName, secondName, thirdName], tree.stands? (place ++ [name]) = none) :
    find? tree base dir = none := by
  have names : fileNames = [firstName, secondName, thirdName].map FileName.bytes := rfl
  rw [find?_eq_none_iff, names, List.forall_mem_map]
  intro name member
  apply tree.leadsToFile_eq_false_of_leads
  exact tree.leads_join_eq_false reached name (bare name member)

theorem detectRoot_of_marked (marked : isMarked tree base dir = true) :
    detectRoot tree base dir = dir := by
  rw [detectRoot, Path.chain, List.find?_cons_of_pos marked]
  rfl

theorem detectRoot_of_parent {above : RawText} (lies : Path.parent? dir = some above)
    (unmarked : isMarked tree base dir = false) (marked : isMarked tree base above = true) :
    detectRoot tree base dir = above := by
  have passed : ¬ isMarked tree base dir = true := Bool.eq_false_iff.mp unmarked
  rw [detectRoot, Path.chain_of_parent? lies, List.find?_cons_of_neg passed, Path.chain,
    List.find?_cons_of_pos marked]
  rfl

end PatternLint.Config
