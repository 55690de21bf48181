import Groundwork.Path
import Groundwork.Text.Quoted
import Groundwork.Tree.Basic

/-!
# Paths in a tree

A path leads to a location by its parts: every part but the last has to name a directory, `..`
leads back to the directory above, and the root is above itself. What a path can fail with, and in
which order, is fixed here. No operation in this module replaces or removes an entry.
-/

namespace Groundwork

/-- Why a path is refused. The last two are not up to the file system. -/
inductive FileFault where
  | missing
  | notDirectory
  | present
  | nameTooLong
  | nullCharacter
  | outside (dir : String)
  deriving Repr, DecidableEq

namespace FileFault

def number : FileFault → Nat
  | missing => 2
  | present => 17
  | notDirectory => 20
  | nameTooLong => 36
  | nullCharacter | outside _ => 22

def text : FileFault → String
  | missing => "No such file or directory"
  | present => "File exists"
  | notDirectory => "Not a directory"
  | nameTooLong => "File name too long"
  | nullCharacter => "embedded null byte"
  | outside dir =>
    "not in the subpath of " ++ Text.quoted dir
      ++ " OR one path is relative and the other is absolute."

/-- The full message about a path. -/
def message (fault : FileFault) (p : Path) : String :=
  match fault with
  | nullCharacter => fault.text
  | outside _ => Text.quoted p.text ++ " is " ++ fault.text
  | _ => "[Errno " ++ fault.number.repr ++ "] " ++ fault.text ++ ": " ++ Text.quoted p.text

end FileFault

namespace Tree

/-- The longest name of an entry, in octets. -/
def nameLimit : Nat := 255

/-- The longest text of a path, in octets. -/
def pathLimit : Nat := 4095

/-- One part of a path, seen from a location that has to be a directory. -/
def step (t : Tree) (place : Location) (part : String) : Except FileFault Location :=
  match t.node? place with
  | none => .error .missing
  | some (.file _) => .error .notDirectory
  | some .directory =>
    if part = ".." then .ok place.dropLast
    else if part.utf8ByteSize > nameLimit then .error .nameTooLong
    else .ok (place ++ [part])

/-- The location of a path, whether or not something is there. -/
def locate (t : Tree) (p : Path) : Except FileFault Location :=
  if p.parts.any (·.toList.contains '\x00') then .error .nullCharacter
  else if p.text.utf8ByteSize > pathLimit then .error .nameTooLong
  else p.parts.foldlM t.step (if p.anchor = .relative then t.home else [])

/-- What is at the end of a path. -/
def inspect (t : Tree) (p : Path) : Except FileFault Node := do
  match t.node? (← t.locate p) with
  | some node => .ok node
  | none => .error .missing

/-- Whether something with the given property is at the end of a path. A path that leads nowhere
is an answer; a name that is too long is not. -/
def probe (t : Tree) (property : Node → Bool) (p : Path) : Except FileFault Bool :=
  match t.inspect p with
  | .ok node => .ok (property node)
  | .error .nameTooLong => .error .nameTooLong
  | .error _ => .ok false

def Node.isDirectory : Node → Bool
  | .directory => true
  | .file _ => false

def exists? (t : Tree) (p : Path) : Except FileFault Bool :=
  t.probe (fun _ => true) p

def isDirectory? (t : Tree) (p : Path) : Except FileFault Bool :=
  t.probe Node.isDirectory p

/-- Adds one entry at the end of a path whose parent is there. -/
def create (t : Tree) (p : Path) (node : Node) : Except FileFault Tree := do
  let place ← t.locate p
  if vacant : t.Vacant place then .ok (t.add place node vacant)
  else if (t.node? place).isSome then .error .present
  else .error .missing

/-- A directory that is already there is as good as a new one. -/
def acceptDirectory (t : Tree) (p : Path) (fault : FileFault) : Except FileFault Unit :=
  match t.isDirectory? p with
  | .ok true => .ok ()
  | .ok false => .error fault
  | .error second => .error second

/-- Creates the directory at a path whose parent is there, unless it exists. -/
def ensureLast (t : Tree) (p : Path) : Tree × Except FileFault Unit :=
  match t.create p .directory with
  | .ok t' => (t', .ok ())
  | .error .missing => (t, .error .missing)
  | .error .nullCharacter => (t, .error .nullCharacter)
  | .error fault => (t, t.acceptDirectory p fault)

/-- Creates the directory at a path and the directories above it. After a fault the directories
created on the way stay. -/
def ensureDirectory (t : Tree) (p : Path) : Tree × Except FileFault Unit :=
  match t.create p .directory with
  | .ok t' => (t', .ok ())
  | .error .missing =>
    if p.parts = [] then (t, .error .missing)
    else
      match t.ensureDirectory p.parent with
      | (t', .ok ()) => t'.ensureLast p
      | (t', .error fault) => (t', .error fault)
  | .error .nullCharacter => (t, .error .nullCharacter)
  | .error fault => (t, t.acceptDirectory p fault)
termination_by p.parts.length
decreasing_by
  have : p.parts.length ≠ 0 := by simpa using ‹¬p.parts = []›
  simp only [Path.parent, List.length_dropLast]
  omega

end Tree

end Groundwork
