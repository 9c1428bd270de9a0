import PatternLint.Proofs.Glob.Matching
import PatternLint.Proofs.Glob.Reading
import PatternLint.Proofs.PathFilter.Compiling
import PatternLint.Proofs.PathFilter.Pruning

/-!
Which paths are to be scanned, told from the globs as they are written. Asking about directories
with a slash after them decides nothing: a glob that ends in two stars and matches `dir/` matches
all that begins so.
-/

namespace PatternLint

namespace Glob

def Admits (text : String) (path : List Char) : Prop :=
  ∃ glob, compile text = .ok glob ∧ glob.matchesChars path = true

def CoversBelow (glob : Glob) : Prop :=
  ∀ dir rest : List Char, glob.coversDir dir = true → glob.matchesChars (dir ++ '/' :: rest) = true

theorem stars_of_hasTreeTail (glob : Glob) (tail : glob.hasTreeTail = true) :
    ['*', '*'] <:+ glob.text.toList := by
  rw [hasTreeTail, Bool.or_eq_true, beq_iff_eq, List.isSuffixOf_iff_suffix] at tail
  rcases tail with whole | ends
  · rw [whole]
    exact List.suffix_refl _
  · exact (List.suffix_cons '/' ['*', '*']).trans ends

theorem coversBelow_of_compile (text : String) (glob : Glob) (compiled : compile text = .ok glob) :
    glob.CoversBelow := by
  intro dir rest covers
  rw [coversDir, Bool.and_eq_true, matchesChars_iff] at covers
  obtain ⟨tail, accords⟩ := covers
  obtain ⟨same, written⟩ := written_of_compile text glob compiled
  have last := written.getLast?_of_stars (same ▸ glob.stars_of_hasTreeTail tail)
  have more := accords_append_of_tree glob.tokens (dir ++ ['/']) rest accords last
  rw [matchesChars_iff]
  simpa using more

/-- A glob that matches a directory with a slash after it, and is not written with a slash of its
own at the end, matches any name in the directory. -/
theorem matches_name_of_slash (text : String) (glob : Glob) (compiled : compile text = .ok glob)
    (ending : text.toList.getLast? ≠ some '/' ∨ ['*', '*', '/'] <:+ text.toList)
    (dir name : List Char) (bare : '/' ∉ name) (matched : glob.matchesChars (dir ++ ['/']) = true) :
    glob.matchesChars (dir ++ '/' :: name) = true := by
  obtain ⟨_, written⟩ := written_of_compile text glob compiled
  have last : glob.tokens.getLast? ≠ some (.literal '/') := by
    intro slash
    obtain ⟨ends, noStars⟩ := written.slash_of_getLast? slash
    exact ending.elim (fun other => other ends) noStars
  rw [matchesChars_iff] at matched ⊢
  have more := accords_append_name glob.tokens (dir ++ ['/']) name bare matched (by simp) last
  simpa using more

end Glob

namespace PathFilter

variable {includes excludes : List String} {filter : PathFilter}

theorem coversBelow_of_forall₂ {texts : List String} {globs : List Glob}
    (compiled : List.Forall₂ (fun text glob => Glob.compile text = .ok glob) texts globs) :
    ∀ glob ∈ globs, glob.CoversBelow := by
  intro glob member
  obtain ⟨text, _, made⟩ := exists_item_of_mem Glob.compile compiled glob member
  exact glob.coversBelow_of_compile text made

def Above (path part : List Char) : Prop := part = path ∨ ∃ rest, path = part ++ '/' :: rest

theorem includesFile_iff (covers : ∀ glob ∈ filter.includes, glob.CoversBelow) (path : List Char) :
    filter.includesFile path = true ↔
      filter.includes = [] ∨ ∃ glob ∈ filter.includes, glob.matchesChars path = true := by
  simp only [includesFile, Bool.or_eq_true, List.isEmpty_iff, List.any_eq_true]
  refine or_congr_right ⟨?_, ?_⟩
  · rintro ⟨glob, member, matched | ⟨dir, above, covered⟩⟩
    · exact ⟨glob, member, matched⟩
    · obtain ⟨rest, rfl⟩ := (mem_ancestors_iff path dir).mp above
      exact ⟨glob, member, covers glob member dir rest covered⟩
  · rintro ⟨glob, member, matched⟩
    exact ⟨glob, member, .inl matched⟩

theorem excludesFile_iff (covers : ∀ glob ∈ filter.excludes, glob.CoversBelow) (path : List Char) :
    filter.excludesFile path = true ↔
      ∃ glob ∈ filter.excludes, ∃ part, Above path part ∧ glob.matchesChars part = true := by
  simp only [excludesFile, excludesDir, Bool.or_eq_true, List.any_eq_true]
  constructor
  · rintro (⟨glob, member, matched⟩ | ⟨dir, above, glob, member, matched | covered⟩)
    · exact ⟨glob, member, path, .inl rfl, matched⟩
    · exact ⟨glob, member, dir, .inr ((mem_ancestors_iff path dir).mp above), matched⟩
    · obtain ⟨rest, rfl⟩ := (mem_ancestors_iff path dir).mp above
      exact ⟨glob, member, _, .inl rfl, covers glob member dir rest covered⟩
  · rintro ⟨glob, member, part, rfl | above, matched⟩
    · exact .inl ⟨glob, member, matched⟩
    · exact .inr ⟨part, (mem_ancestors_iff path part).mpr above, glob, member, .inl matched⟩

theorem includesFile_iff_admits (accepted : compile includes excludes = .ok filter)
    (path : List Char) :
    filter.includesFile path = true ↔
      includes = [] ∨ ∃ text ∈ includes, Glob.Admits text path := by
  obtain ⟨compiled, _⟩ := compiled_globs accepted
  have empty : filter.includes = [] ↔ includes = [] := by
    rw [← List.length_eq_zero_iff, ← compiled.length_eq, List.length_eq_zero_iff]
  rw [includesFile_iff (coversBelow_of_forall₂ compiled), exists_value_iff Glob.compile compiled,
    empty]
  exact Iff.rfl

theorem excludesFile_iff_admits (accepted : compile includes excludes = .ok filter)
    (path : List Char) :
    filter.excludesFile path = true ↔
      ∃ text ∈ excludes, ∃ part, Above path part ∧ Glob.Admits text part := by
  obtain ⟨_, compiled⟩ := compiled_globs accepted
  rw [excludesFile_iff (coversBelow_of_forall₂ compiled), exists_value_iff Glob.compile compiled]
  constructor
  · rintro ⟨text, member, glob, made, part, above, matched⟩
    exact ⟨text, member, part, above, glob, made, matched⟩
  · rintro ⟨text, member, part, above, glob, made, matched⟩
    exact ⟨text, member, glob, made, part, above, matched⟩

theorem isIncluded_iff_admits (accepted : compile includes excludes = .ok filter)
    (path : RawText) :
    filter.isIncluded path = true ↔
      (includes = [] ∨ ∃ text ∈ includes, Glob.Admits text (Path.normalize path)) ∧
        ¬ ∃ text ∈ excludes, ∃ part, Above (Path.normalize path) part ∧ Glob.Admits text part := by
  rw [isIncluded, Bool.and_eq_true, Bool.not_eq_true', ← Bool.not_eq_true,
    includesFile_iff_admits accepted, excludesFile_iff_admits accepted, and_comm]

/-- A glob that matches a directory, or matches it with a slash after it and has no slash of its
own at the end, excludes all paths that begin with the directory and a slash. -/
theorem isIncluded_eq_false_below (accepted : compile includes excludes = .ok filter)
    (text : String) (member : text ∈ excludes) (path : RawText) (dir rest : List Char)
    (below : Path.normalize path = dir ++ '/' :: rest)
    (matched : Glob.Admits text dir ∨ Glob.Admits text (dir ++ ['/']) ∧
      (text.toList.getLast? ≠ some '/' ∨ ['*', '*', '/'] <:+ text.toList)) :
    filter.isIncluded path = false := by
  have part : ∃ part, Above (Path.normalize path) part ∧ Glob.Admits text part := by
    rcases matched with matched | ⟨⟨glob, compiled, matched⟩, ending⟩
    · exact ⟨dir, .inr ⟨rest, below⟩, matched⟩
    · obtain ⟨name, bare, later⟩ : ∃ name, '/' ∉ name ∧
          (rest = name ∨ ∃ more, rest = name ++ '/' :: more) := by
        by_cases slash : '/' ∈ rest
        · obtain ⟨name, more, parts, bare⟩ := List.eq_append_cons_of_mem slash
          exact ⟨name, bare, .inr ⟨more, parts⟩⟩
        · exact ⟨rest, slash, .inl rfl⟩
      have named := Glob.matches_name_of_slash text glob compiled ending dir name bare matched
      refine ⟨dir ++ '/' :: name, ?_, glob, compiled, named⟩
      rcases later with rfl | ⟨more, rfl⟩
      · exact .inl below.symm
      · exact .inr ⟨more, by simp [below]⟩
  rw [← Bool.not_eq_true, isIncluded_iff_admits accepted]
  intro included
  exact included.2 ⟨text, member, part⟩

/-- A path is to be scanned if some including glob matches it, or there is none, and no excluding
glob matches it or what stands before one of its slashes. A glob that covers a directory matches
all that begins with the directory and a slash, so covering never decides anything. -/
theorem inclusion_by_globs_alone :
    (∀ (includes excludes : List String) (filter : PathFilter),
        compile includes excludes = .ok filter → ∀ path : RawText,
          filter.isIncluded path = true ↔
            (includes = [] ∨ ∃ text ∈ includes, Glob.Admits text (Path.normalize path)) ∧
              ¬ ∃ text ∈ excludes, ∃ part,
                Above (Path.normalize path) part ∧ Glob.Admits text part) ∧
      ∀ (text : String) (glob : Glob), Glob.compile text = .ok glob → ∀ dir rest : List Char,
        glob.coversDir dir = true → glob.matchesChars (dir ++ '/' :: rest) = true := by
  constructor
  · intro includes excludes filter accepted path
    exact isIncluded_iff_admits accepted path
  · intro text glob compiled dir rest covers
    exact Glob.coversBelow_of_compile text glob compiled dir rest covers

theorem inclusion_of_src :
    ∃ filter glob, compile ["src/**"] ["**/old"] = .ok filter ∧ Glob.compile "src/**" = .ok glob ∧
      glob.coversDir "src".toList = true ∧
      (filter.isIncluded (Text.raw "src/a") = true ↔
        (["src/**"] = [] ∨
          ∃ text ∈ ["src/**"], Glob.Admits text (Path.normalize (Text.raw "src/a"))) ∧
          ¬ ∃ text ∈ ["**/old"], ∃ part,
            Above (Path.normalize (Text.raw "src/a")) part ∧ Glob.Admits text part) ∧
      glob.matchesChars ("src".toList ++ '/' :: "a".toList) = true := by
  refine ⟨_, _, rfl, rfl, by decide +kernel, ?_, ?_⟩
  · exact inclusion_by_globs_alone.1 ["src/**"] ["**/old"] _ rfl (Text.raw "src/a")
  · exact inclusion_by_globs_alone.2 "src/**" _ rfl "src".toList "a".toList (by decide +kernel)

/-- A glob that matches a directory excludes everything below it. So does one that matches the
directory with a slash after it, unless the glob is itself written with a plain slash at its end. -/
theorem directory_excludes_below (includes excludes : List String) (filter : PathFilter)
    (accepted : compile includes excludes = .ok filter) (text : String) (member : text ∈ excludes)
    (dir path : RawText) (given : dir ≠ []) (relative : Path.isAbsolute path = false)
    (named : ∃ component ∈ Path.components path, component ≠ .here)
    (matched : Glob.Admits text (Path.normalize dir) ∨
      Glob.Admits text (Path.normalize dir ++ ['/']) ∧
        (text.toList.getLast? ≠ some '/' ∨ ['*', '*', '/'] <:+ text.toList)) :
    filter.isIncluded (Path.join dir path) = false := by
  obtain ⟨rest, below⟩ := Path.normalize_join_below dir path given relative named
  exact isIncluded_eq_false_below accepted text member _ _ rest below matched

theorem src_star_excludes_below :
    ∃ filter, compile [] ["src/*"] = .ok filter ∧
      Glob.Admits "src/*" (Path.normalize (Text.raw "src") ++ ['/']) ∧
      filter.isIncluded (Path.join (Text.raw "src") (Text.raw "a/b")) = false := by
  have slash : Glob.Admits "src/*" (Path.normalize (Text.raw "src") ++ ['/']) :=
    ⟨_, rfl, by decide +kernel⟩
  refine ⟨_, rfl, slash, ?_⟩
  exact directory_excludes_below [] ["src/*"] _ rfl "src/*" (by decide) (Text.raw "src")
    (Text.raw "a/b") (by decide) (by decide)
    ⟨.name (Text.raw "a"), List.mem_of_head? rfl, by decide⟩
    (.inr ⟨slash, .inl (by decide +kernel)⟩)

/-- The glob `src/` matches the directory `src` with a slash after it, and excludes no file. -/
theorem src_slash_excludes_nothing :
    ¬ ∀ (includes excludes : List String) (filter : PathFilter),
        compile includes excludes = .ok filter → ∀ text ∈ excludes, ∀ dir path : RawText,
          dir ≠ [] → Path.isAbsolute dir = false → Path.isAbsolute path = false →
            (∃ component ∈ Path.components path, component ≠ .here) →
              Glob.Admits text (Path.normalize dir) ∨
                  Glob.Admits text (Path.normalize dir ++ ['/']) →
                filter.isIncluded (Path.join dir path) = false := by
  intro always
  have slash : Glob.Admits "src/" (Path.normalize (Text.raw "src") ++ ['/']) :=
    ⟨_, rfl, by decide +kernel⟩
  have excluded := always [] ["src/"] _ rfl "src/" (by decide) (Text.raw "src") (Text.raw "a")
    (by decide) (by decide) (by decide)
    ⟨.name (Text.raw "a"), List.mem_of_head? rfl, by decide⟩ (.inr slash)
  revert excluded
  decide +kernel

end PathFilter

end PatternLint
