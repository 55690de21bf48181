import Groundwork.Run
import Groundwork.Text.Cut

/-!
# Patches

A patch puts a text into a file that is already there, in front of an anchor or after the line
that holds it, unless the file has what the patch is for. A file that is missing, is not UTF-8, or
lacks the anchor is reported and left alone.
-/

namespace Groundwork

inductive Occurrence where
  | first
  | last
  deriving Repr, DecidableEq

inductive Placement where
  | before
  | afterLine
  deriving Repr, DecidableEq

structure Patch where
  insertion : String
  anchor : String
  /-- Whether a text already has what the patch is for. -/
  isPresent : String → Bool
  occurrence : Occurrence := .last
  placement : Placement := .before

namespace Patch

/-- The text before an occurrence of the anchor, and the text from it on. -/
def cut? (occurrence : Occurrence) (anchor text : List Char) : Option (List Char × List Char) :=
  match occurrence with
  | .first => Text.cutFirst? anchor text
  | .last => Text.cutLast? anchor text

/-- A text with the insertion after its first line. A line without an end gets one. -/
def insertAfterLine (insertion : List Char) : List Char → List Char
  | [] => '\n' :: insertion
  | c :: rest =>
    if c = '\n' then c :: insertion ++ rest else c :: insertAfterLine insertion rest

/-- The text with the insertion in its place, if the anchor is there. -/
def splice? (occurrence : Occurrence) (placement : Placement) (anchor insertion text : String) :
    Option String :=
  (cut? occurrence anchor.toList text.toList).map fun (before, after) =>
    .ofList
      (match placement with
        | .before => before ++ insertion.toList ++ after
        | .afterLine => before ++ insertAfterLine insertion.toList after)

def applyTo? (p : Patch) (text : String) : Option String :=
  splice? p.occurrence p.placement p.anchor p.insertion text

end Patch

inductive PatchStatus where
  | patched
  | alreadyPresent
  | missingTarget
  | missingAnchor
  | unreadable
  deriving Repr, DecidableEq

def PatchStatus.name : PatchStatus → String
  | patched => "patched"
  | alreadyPresent => "already_present"
  | missingTarget => "missing_target"
  | missingAnchor => "missing_anchor"
  | unreadable => "unreadable"

structure Patched where
  path : Path
  status : PatchStatus

def Patched.isPatched (p : Patched) : Bool :=
  p.status = .patched

namespace Run

/-- The octets of a regular file, if there is one. -/
def fileOctets? (t : Tree) (path : Path) : Except FileFault (Option (Location × List UInt8)) :=
  match t.locate path, t.inspect path with
  | .ok place, .ok (.file octets) => .ok (some (place, octets))
  | _, .error .nameTooLong => .error .nameTooLong
  | _, _ => .ok none

/-- What a patch does to the octets of a file: the new octets if there are any, and the status. -/
def patchOctets (p : Patch) (octets : List UInt8) : Option (List UInt8) × PatchStatus :=
  match Text.Utf8.decode octets with
  | .error _ => (none, .unreadable)
  | .ok cs =>
    let text := String.ofList (Text.unifyLineEnds cs)
    if p.isPresent text then (none, .alreadyPresent)
    else
      match p.applyTo? text with
      | none => (none, .missingAnchor)
      | some patched => (some (Text.Utf8.encode patched.toList), .patched)

/-- What there is to tell about a patch. -/
def patchNotice (p : Patch) (path : Path) : PatchStatus → Notice
  | .patched => .filePatched path
  | .alreadyPresent => .nothingToPatch path
  | .missingTarget => .patchTargetMissing path
  | .missingAnchor => .anchorMissing p.anchor path
  | .unreadable => .patchTargetUnreadable path

/-- Patches the file at a path. -/
def patchFile (path : Path) (p : Patch) : Run Patched := do
  let t ← tree
  let status ←
    match ← ask path (fileOctets? t path) with
    | none => pure .missingTarget
    | some (place, octets) =>
      let (changed, status) := patchOctets p octets
      match changed with
      | some octets' => setTree (t.replace place octets')
      | none => pure ()
      pure status
  notify (patchNotice p path status)
  return ⟨path, status⟩

end Run

end Groundwork
