import Groundwork.Program

/-!
# The command line program

Reads what a command may look at into a tree, runs the program on it, and carries out the changes.
Only the directory that is written into and the template directory are read.
-/

namespace Groundwork.Main

def pathOfLocation (place : Location) : String :=
  "/" ++ "/".intercalate place

/-- Adds an entry to the tree where its place is free. -/
def addEntry (t : Tree) (place : Location) (node : Node) : Tree :=
  if vacant : t.Vacant place then t.add place node vacant else t

/-- Reads what is at a location and, if that is a directory, all that is below it. Links to
directories are not followed. -/
partial def readAll (t : Tree) (place : Location) : IO Tree := do
  let path := (← IO.currentDir) / pathOfLocation place
  if ← path.isDir then
    let mut t := addEntry t place .directory
    for entry in ← path.readDir do
      let isLink := (← entry.path.symlinkMetadata).type matches .symlink
      if !(isLink && (← entry.path.isDir)) then
        t ← readAll t (place ++ [entry.fileName])
    return t
  else if ← path.pathExists then
    return addEntry t place (.file (← IO.FS.readBinFile path).toList)
  else return t

/-- Reads the directories on the way to a location. -/
def readWay (t : Tree) (place : Location) : IO Tree := do
  let mut t := t
  for n in List.range place.length do
    let way := place.take (n + 1)
    let path := (← IO.currentDir) / pathOfLocation way
    if ← path.isDir then t := addEntry t way .directory
  return t

/-- The location of a path, with its `..` parts resolved by name. -/
def plainLocation (home : Location) (path : Path) : Location :=
  path.parts.foldl (fun place part => if part = ".." then place.dropLast else place ++ [part])
    (if path.anchor = .relative then home else [])

def readFor (t : Tree) (path : Path) : IO Tree := do
  let place := plainLocation t.home path
  readAll (← readWay t place) place

/-- Carries out what has changed from one tree to the next, directories before what is in them. -/
def writeChanges (before after : Tree) : IO Unit := do
  let shallowFirst := after.entries.mergeSort fun e e' => e.1.length ≤ e'.1.length
  for (place, node) in shallowFirst do
    if before.node? place ≠ some node then
      match node with
      | .directory => IO.FS.createDir (pathOfLocation place)
      | .file octets => IO.FS.writeBinFile (pathOfLocation place) ⟨octets.toArray⟩

def readEnvironment : IO (List (String × String)) := do
  Settings.variables.filterMapM fun (name, _) => do
    return (← IO.getEnv name).map (name, ·)

def readSite (invocation : Invocation) (environment : List (String × String)) : IO Site := do
  let home := (Path.ofText (← IO.currentDir).toString).parts
  let t ← readWay { Tree.empty with home := home } home
  let t ← readFor t (.ofText invocation.request.output)
  let t ←
    match environment.lookup "SCAFFOLD_TEMPLATE_DIR" with
    | some dir => readFor t (.ofText dir)
    | none => pure t
  return { tree := t }

def tell (level : Level) (notices : List Notice) : IO Unit := do
  for notice in notices do
    if level.rank ≤ notice.level.rank then
      IO.eprintln (notice.level.name ++ " " ++ notice.text)

def answer (reply : Program.Reply) : IO UInt32 := do
  for line in reply.lines do IO.println line
  if let some complaint := reply.complaint then IO.eprintln complaint
  return reply.code.toUInt32

def runInvocation (invocation : Invocation) (words : List String) : IO UInt32 := do
  let environment ← readEnvironment
  let before ← readSite invocation environment
  let (result, after) := Run.on before (Program.run environment words)
  writeChanges before.tree after.tree
  tell invocation.level after.notices
  match result with
  | .ok reply => answer reply
  | .error failure =>
    IO.eprintln failure.message
    return 1

end Groundwork.Main

def main (words : List String) : IO UInt32 :=
  match Groundwork.Invocation.read words with
  | .ok invocation => Groundwork.Main.runInvocation invocation words
  | .error ending => Groundwork.Main.answer (Groundwork.Program.replyToEnding ending)
