import PatternLint.Proofs.FileTree.Present
import PatternLint.Proofs.Path.Parent
import PatternLint.Proofs.Settings.Discovery

namespace PatternLint.Config

section

variable (tree : FileTree) (base : Location)

def Marked (dir : RawText) : Prop :=
  ∃ name ∈ ["lintcheck.toml", "lintcheck.yaml", "lintcheck.yml", ".git"],
    tree.Present base (Path.join dir (Text.raw name))

/-- The first path with a marker is reached after so many steps up. -/
structure FirstMarked (start : RawText) (steps : Nat) (root : RawText) : Prop where
  reached : Path.above? start steps = some root
  marked : Marked tree base root
  first : ∀ fewer < steps, ∀ path, Path.above? start fewer = some path → ¬ Marked tree base path

end

variable {tree : FileTree} {base : Location} {start root : RawText} {steps : Nat}

theorem isMarked_iff_marked (dir : RawText) :
    isMarked tree base dir = true ↔ Marked tree base dir := by
  have names : markers =
      ["lintcheck.toml", "lintcheck.yaml", "lintcheck.yml", ".git"].map Text.raw := rfl
  rw [isMarked, names, List.any_map, List.any_eq_true]
  simp only [Function.comp_apply, FileTree.leads_iff_present, Marked]

theorem FirstMarked.unique {more : Nat} {other : RawText}
    (first : FirstMarked tree base start steps root)
    (second : FirstMarked tree base start more other) : root = other := by
  rcases Nat.lt_trichotomy steps more with less | same | less
  · exact absurd first.marked (second.first steps less root first.reached)
  · subst same
    exact Option.some.inj (first.reached.symm.trans second.reached)
  · exact absurd second.marked (first.first more less other second.reached)

theorem Nearest.firstMarked (nearest : Nearest tree base start root) :
    ∃ steps, FirstMarked tree base start steps root := by
  obtain ⟨below, above, parts, unmarked⟩ := nearest.first
  refine ⟨below.length, ?_, (isMarked_iff_marked root).mp nearest.marked, ?_⟩
  · rw [← Path.getElem?_chain, parts, List.getElem?_append_right (Nat.le_refl _), Nat.sub_self]
    rfl
  · intro fewer less path reached marked
    rw [← Path.getElem?_chain, parts, List.getElem?_append_left less] at reached
    have none := unmarked path (List.mem_of_getElem? reached)
    rw [(isMarked_iff_marked path).mpr marked] at none
    cases none

theorem Unmarked.not_reached (unmarked : Unmarked tree base start) (steps : Nat) (path : RawText)
    (reached : Path.above? start steps = some path) : ¬ Marked tree base path := by
  rw [← Path.getElem?_chain] at reached
  rw [← isMarked_iff_marked]
  exact unmarked.not_marked (List.mem_of_getElem? reached)

theorem detectRoot_outcome (tree : FileTree) (base : Location) (start : RawText) :
    (∃ steps, FirstMarked tree base start steps (detectRoot tree base start)) ∨
      (∀ steps path, Path.above? start steps = some path → ¬ Marked tree base path) ∧
        detectRoot tree base start = start := by
  rcases detectRoot_cases tree base start with nearest | ⟨unmarked, same⟩
  · exact .inl nearest.firstMarked
  · exact .inr ⟨unmarked.not_reached, same⟩

theorem detectRoot_of_firstMarked (first : FirstMarked tree base start steps root) :
    detectRoot tree base start = root := by
  rcases detectRoot_outcome tree base start with ⟨more, other⟩ | ⟨unmarked, _⟩
  · exact other.unique first
  · exact absurd first.marked (unmarked steps root first.reached)

/-- What is first on the way from a path is also first from where the way has gone on. -/
theorem FirstMarked.later (first : FirstMarked tree base start steps root) {fewer : Nat}
    {path : RawText} (onWay : fewer ≤ steps) (passed : Path.above? start fewer = some path) :
    FirstMarked tree base path (steps - fewer) root := by
  have onward : ∀ more, Path.above? start (fewer + more) = Path.above? path more := by
    intro more
    rw [Path.above?_add, passed, Option.bind_some]
  refine ⟨?_, first.marked, ?_⟩
  · rw [← onward, Nat.add_sub_cancel' onWay]
    exact first.reached
  · intro more less other reached
    rw [← onward] at reached
    exact first.first (fewer + more) (by omega) other reached

theorem firstMarked_self (marked : Marked tree base root) :
    FirstMarked tree base root 0 root :=
  ⟨rfl, marked, fun fewer less => absurd less (Nat.not_lt_zero fewer)⟩

theorem detectRoot_detectRoot (tree : FileTree) (base : Location) (start : RawText) :
    detectRoot tree base (detectRoot tree base start) = detectRoot tree base start := by
  rcases detectRoot_outcome tree base start with ⟨steps, first⟩ | ⟨_, same⟩
  · exact detectRoot_of_firstMarked (firstMarked_self first.marked)
  · rw [same, same]

/-- The way up ends, and the first path on it with a marker is the root that is found; without any
marker it is the start. A root is found again from itself and from all that is passed on the way to
it. A link is a marker only if what it holds leads somewhere. -/
theorem detectRoot_stops_at_nearest (tree : FileTree) (base : Location) (start : RawText) :
    (∀ steps, (Path.above? start steps).isSome = true ↔ steps ≤ Path.depth start) ∧
      ((∃ steps, FirstMarked tree base start steps (detectRoot tree base start) ∧
          ∀ fewer ≤ steps, ∀ path, Path.above? start fewer = some path →
            detectRoot tree base path = detectRoot tree base start) ∨
        (∀ steps path, Path.above? start steps = some path → ¬ Marked tree base path) ∧
          detectRoot tree base start = start) ∧
      detectRoot tree base (detectRoot tree base start) = detectRoot tree base start ∧
      ∀ (dir : RawText) (place : Location) (name : FileName) (target : RawText),
        tree.EndsAt base dir (.directory place) →
          tree.stands? (place ++ [name]) = some (.link target) →
            tree.Present base (Path.join dir name.bytes) →
              ∃ found, tree.EndsAt place target found := by
  refine ⟨Path.above?_isSome_iff start, ?_, detectRoot_detectRoot tree base start, ?_⟩
  · rcases detectRoot_outcome tree base start with ⟨steps, first⟩ | unmarked
    · refine .inl ⟨steps, first, ?_⟩
      intro fewer onWay path passed
      exact detectRoot_of_firstMarked (first.later onWay passed)
    · exact .inr unmarked
  · exact tree.target_of_present_link base

def inner : FileName := ⟨Text.raw "inner", by decide +kernel⟩

def away : FileName := ⟨Text.raw "away", by decide +kernel⟩

/-- A directory with a broken link that is called `.git`, below a configuration file. -/
def brokenProject : FileTree where
  entries := [([inner], .directory),
    ([inner, gitName], .link (Text.raw "away/.git")),
    ([firstName], .file "".toUTF8)]
  distinct := by decide
  closed := by decide

theorem root_of_brokenProject :
    brokenProject.EndsAt [] (Text.raw "/inner//.") (.directory [inner]) ∧
      ¬ brokenProject.Present [] (Path.join (Text.raw "/inner//.") (Text.raw ".git")) ∧
      detectRoot brokenProject [] (Text.raw "/inner//.") = [Path.slash] ∧
      detectRoot brokenProject [] [Path.slash] = [Path.slash] := by
  obtain ⟨_, _, again, links⟩ := detectRoot_stops_at_nearest brokenProject [] (Text.raw "/inner//.")
  have inside : brokenProject.EndsAt [] (Text.raw "/inner//.") (.directory [inner]) :=
    ⟨0, .here _ _ _ _ (.directory 0 [] inner _ _ rfl
      (.here _ _ _ _ (.here _ _ _ _ (.arrived [inner]))))⟩
  have broken : ¬ brokenProject.Present [] (Path.join (Text.raw "/inner//.") gitName.bytes) := by
    intro present
    have steps : FileTree.steps (Text.raw "away/.git") = [.down away, .down gitName] := rfl
    have nothing : brokenProject.stands? [inner, away] = none := rfl
    obtain ⟨found, crossed, leads⟩ := links _ _ gitName (Text.raw "away/.git") inside rfl present
    rw [steps] at leads
    cases leads with
    | directory _ _ _ _ _ stands => cases nothing.symm.trans stands
    | link _ _ _ _ _ _ stands => cases nothing.symm.trans stands
  have bare : ∀ name ∈ [firstName, secondName, thirdName],
      brokenProject.stands? [inner, name] = none := by
    simp only [List.forall_mem_cons, List.not_mem_nil, false_imp_iff, implies_true, and_true]
    exact ⟨rfl, rfl, rfl⟩
  have unmarked : isMarked brokenProject [] (Text.raw "/inner//.") = false := by
    have names : [firstName, secondName, thirdName, gitName] =
        [firstName, secondName, thirdName] ++ [gitName] := rfl
    rw [isMarked_eq_false_iff, names, List.forall_mem_append, List.forall_mem_singleton]
    refine ⟨fun name member => ?_, ?_⟩
    · exact brokenProject.leads_join_eq_false inside name (bare name member)
    · exact Bool.eq_false_iff.mpr (mt (brokenProject.leads_iff_present [] _).mp broken)
  have marked : isMarked brokenProject [] [Path.slash] = true :=
    isMarked_of_leads firstName (by decide +kernel)
      (brokenProject.leads_of_resolve (resolve_firstName rfl))
  have root : detectRoot brokenProject [] (Text.raw "/inner//.") = [Path.slash] :=
    detectRoot_of_parent (by decide +kernel) unmarked marked
  rw [root] at again
  exact ⟨inside, broken, root, again⟩

end PatternLint.Config
