import PatternLint.Path

/-!
A tree of files, directories and symbolic links, kept as a table from locations to entries. The root
directory is always there and is not in the table; all else lies in a directory of the tree.
-/

namespace PatternLint

def nameLimit : Nat := 255

/-- Whether bytes are a file name: neither none nor too many, without slashes and zeros and not `.`
or `..`. -/
def isFileName (bytes : RawText) : Bool :=
  bytes != [] && bytes != [Path.dot] && bytes != [Path.dot, Path.dot] &&
    !bytes.contains Path.slash && !bytes.contains 0 && bytes.length ≤ nameLimit

structure FileName where
  bytes : RawText
  valid : isFileName bytes = true
deriving DecidableEq

namespace FileName

def ofBytes? (bytes : RawText) : Option FileName :=
  if valid : isFileName bytes = true then some ⟨bytes, valid⟩ else none

end FileName

abbrev Location := List FileName

instance : LawfulBEq Location := inferInstance

inductive Entry where
  | file (bytes : ByteArray)
  | directory
  | link (target : RawText)

def Entry.isDirectory : Entry → Bool
  | .directory => true
  | _ => false

def directoriesOf (entries : List (Location × Entry)) : List Location :=
  [] :: (entries.filter fun item => item.2.isDirectory).map Prod.fst

/-- No location is taken twice, and everything lies in a directory. -/
structure FileTree where
  entries : List (Location × Entry)
  distinct : (entries.map Prod.fst).Nodup
  closed : ∀ item ∈ entries, item.1.dropLast ∈ directoriesOf entries

namespace FileTree

def empty : FileTree := ⟨[], by simp, by simp⟩

def stands? (tree : FileTree) (location : Location) : Option Entry :=
  if location = [] then some .directory
  else (tree.entries.find? fun item => item.1 = location).map Prod.snd

def childOf? (directory : Location) (item : Location × Entry) : Option (FileName × Entry) :=
  match item.1.getLast? with
  | some name => if item.1.dropLast = directory then some (name, item.2) else none
  | none => none

def children (tree : FileTree) (directory : Location) : List (FileName × Entry) :=
  (tree.entries.filterMap (childOf? directory)).mergeSort
    fun one other => one.1.bytes = other.1.bytes || one.1.bytes < other.1.bytes

def directories (tree : FileTree) : List Location := directoriesOf tree.entries

def without (entries : List (Location × Entry)) (location : Location) :
    List (Location × Entry) :=
  entries.filter fun item => !location.isPrefixOf item.1

theorem mem_directoriesOf_iff (entries : List (Location × Entry)) (directory : Location) :
    directory ∈ directoriesOf entries ↔
      directory = [] ∨ ∃ item ∈ entries, item.2.isDirectory = true ∧ item.1 = directory := by
  simp only [directoriesOf, List.mem_cons, List.mem_map, List.mem_filter, and_assoc]

theorem directoriesOf_mono (entries more : List (Location × Entry)) (kept : entries ⊆ more) :
    directoriesOf entries ⊆ directoriesOf more := by
  intro directory present
  rw [mem_directoriesOf_iff] at present ⊢
  rcases present with root | ⟨item, member, real, same⟩
  · exact Or.inl root
  · exact Or.inr ⟨item, kept member, real, same⟩

theorem mem_without_iff (entries : List (Location × Entry)) (location : Location)
    (item : Location × Entry) :
    item ∈ without entries location ↔ item ∈ entries ∧ ¬ location <+: item.1 := by
  simp [without, List.mem_filter, ← List.isPrefixOf_iff_prefix]

theorem mem_directoriesOf_without (entries : List (Location × Entry))
    (location directory : Location) (present : directory ∈ directoriesOf entries)
    (outside : directory = [] ∨ ¬ location <+: directory) :
    directory ∈ directoriesOf (without entries location) := by
  rw [mem_directoriesOf_iff] at present ⊢
  rcases present with root | ⟨item, member, real, same⟩
  · exact Or.inl root
  · rcases outside with root | outside
    · exact Or.inl root
    · exact Or.inr ⟨item, (mem_without_iff _ _ _).mpr ⟨member, same ▸ outside⟩, real, same⟩

theorem without_distinct (tree : FileTree) (location : Location) :
    ((without tree.entries location).map Prod.fst).Nodup := by
  have kept : (without tree.entries location).Sublist tree.entries := List.filter_sublist
  exact (kept.map Prod.fst).nodup tree.distinct

theorem without_closed (tree : FileTree) (location : Location) :
    ∀ item ∈ without tree.entries location,
      item.1.dropLast ∈ directoriesOf (without tree.entries location) := by
  intro item member
  obtain ⟨present, outside⟩ := (mem_without_iff _ _ _).mp member
  apply mem_directoriesOf_without _ _ _ (tree.closed item present)
  exact Or.inr fun below => outside (below.trans (List.dropLast_prefix _))

theorem put_distinct (tree : FileTree) (location : Location) (entry : Entry) :
    (((location, entry) :: without tree.entries location).map Prod.fst).Nodup := by
  rw [List.map_cons, List.nodup_cons]
  refine ⟨?_, tree.without_distinct location⟩
  intro member
  obtain ⟨item, present, same⟩ := List.mem_map.mp member
  subst same
  exact ((mem_without_iff _ _ _).mp present).2 List.prefix_rfl

theorem put_closed (tree : FileTree) (location : Location) (entry : Entry)
    (inside : location.dropLast ∈ tree.directories) :
    ∀ item ∈ (location, entry) :: without tree.entries location,
      item.1.dropLast ∈ directoriesOf ((location, entry) :: without tree.entries location) := by
  intro item member
  apply directoriesOf_mono _ _ (List.subset_cons_self _ _)
  rcases List.mem_cons.mp member with same | below
  · subst same
    apply mem_directoriesOf_without _ _ _ inside
    rcases List.eq_nil_or_concat location with root | ⟨above, name, parts⟩
    · exact Or.inl (by simp [root])
    · refine Or.inr fun whole => ?_
      have longer := whole.length_le
      simp only [parts, List.concat_eq_append, List.dropLast_concat, List.length_append,
        List.length_singleton] at longer
      omega
  · exact tree.without_closed location item below

/-- Puts an entry at a location, in place of whatever stood there or below. Where there is no
directory to put it into, nothing happens. -/
def put (tree : FileTree) (location : Location) (entry : Entry) : FileTree :=
  if inside : location.dropLast ∈ tree.directories then
    ⟨(location, entry) :: without tree.entries location, tree.put_distinct location entry,
      tree.put_closed location entry inside⟩
  else tree

end FileTree

end PatternLint
