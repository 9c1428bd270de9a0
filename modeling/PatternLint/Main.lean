import PatternLint.FileTree.Edit
import PatternLint.Run

/-!
The command. It takes in the part of the file system that a run can look at, runs, and writes what
the run leaves. Where arguments lead to no run, only the exit code tells so.
-/

namespace PatternLint.Command

/-- What stands at a path. A link is taken for the path of where it ends, and what cannot be read
for nothing. -/
def entryAt? (path : RawText) : IO (Option Entry) := do
  let place := (← IO.currentDir) / Text.display path
  try
    match (← place.symlinkMetadata).type with
    | .dir => return some .directory
    | .symlink => return some (.link (Text.raw (← IO.FS.realPath place).toString))
    | .file => return some (.file (← IO.FS.readBinFile place))
    | .other => return none
  catch _ => return none

partial def takePath (tree : FileTree) (base : Location) (path : RawText) : IO FileTree := do
  let mut tree := tree
  for above in (Path.chain path).reverse do
    if let some entry ← entryAt? above then
      tree := tree.write base above entry
      if let .link target := entry then tree ← takePath tree base target
  return tree

partial def takeBelow (tree : FileTree) (base : Location) (prunes : RawText → Bool)
    (path names : RawText) : IO FileTree := do
  let mut tree := tree
  for found in ← ((← IO.currentDir) / Text.display path).readDir do
    let path := Path.join path (Text.raw found.fileName)
    let names := Path.join names (Text.raw found.fileName)
    if let some entry ← entryAt? path then
      tree := tree.write base path entry
      match entry with
      | .directory => if !prunes names then tree ← takeBelow tree base prunes path names
      | .link target => tree ← takePath tree base target
      | .file _ => pure ()
  return tree

def settingPaths (here : RawText) (overrides : Overrides) : List RawText :=
  let roots := (overrides.root.map Text.raw).elim (Path.chain here) fun root => [root]
  roots ++ (roots.flatMap fun root => Config.markers.map (Path.join root)) ++
    ((overrides.config.map Text.raw).toList)

/-- What is told of texts that cannot be read: no more than that, and the pattern. -/
def texts : ParserTexts where
  document _ _ := "cannot be read"
  drawing pattern := "    " ++ pattern ++ "\n"

def surroundings (overrides : Overrides) : IO Surroundings := do
  let here := Text.raw (← IO.currentDir).toString
  let mut tree ← takePath FileTree.empty [] here
  let base := (tree.resolveDirectory [] here).toOption.getD []
  for path in settingPaths here overrides do
    tree ← takePath tree base path
  if let .ok settings := Settings.resolve tree base here overrides then
    if let .ok filter := Run.filterOf settings then
      if (tree.resolveDirectory base settings.root).toOption.isSome then
        tree ← takeBelow tree base filter.prunesDir settings.root []
  return {
    tree, base, here, texts
    workers := .tasks
    coloursOff := (← IO.getEnv "NO_COLOR").isSome
    logFilter := ← IO.getEnv "RUST_LOG" }

end PatternLint.Command

open PatternLint in
def main (words : List String) : IO UInt32 := do
  match CommandLine.readArguments words with
  | .error refusal => return refusal.exitCode.toUInt32
  | .ok arguments =>
    let transcript := Run.perform (← Command.surroundings arguments.overrides) arguments
    for record in transcript.log do
      IO.eprintln record.line
    IO.eprint transcript.notices
    IO.print transcript.output
    return transcript.exitCode.toUInt32
