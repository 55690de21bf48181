import Groundwork.Proofs.Generate.Writing
import Groundwork.Proofs.Text.Utf8
import Groundwork.Proofs.Tree.Places
import Mathlib.Logic.ExistsUnique

/-!
# What comes of writing a file

A write ends in one of four ways. The path is there, and nothing changes; a new file is there, with
the octets of its text; the write fails; or the directories on the way to the path bring it about
that something is there. Next to the new file, only directories on the way to it are new. The last
of the four takes a path that leads upwards: the directory it leads up from may be one of those
that are made.
-/

namespace Groundwork

open Text Utf8

namespace Tree

variable {a b t : Tree} {path : Path} {place mid : Location} {parts : List String}
  {node : Node} {octets : List UInt8} {file : Option Location}

/-- The path leads to a file or a directory. -/
def There (t : Tree) (path : Path) : Prop :=
  ∃ place node, t.locate path = .ok place ∧ t.node? place = some node

/-- Everything stays as it was, and what is new is directories on the way to the path, besides
`file`. -/
structure MakesWay (path : Path) (file : Option Location) (a b : Tree) : Prop where
  home : b.home = a.home
  kept : ∀ place node, a.node? place = some node → b.node? place = some node
  made : ∀ place node, file ≠ some place → a.node? place = none → b.node? place = some node →
    node = .directory ∧ ∃ q : Path, q.Above path.parent ∧ b.locate q = .ok place

theorem there_iff : t.There path ↔ t.exists? path = .ok true :=
  exists?_eq_true.symm

theorem MakesWay.refl (path : Path) (t : Tree) : MakesWay path none t t where
  home := rfl
  kept _ _ h := h
  made _ _ _ hnone hsome := by
    rw [hnone] at hsome
    cases hsome

theorem MakesWay.none_of_vacant (h : MakesWay path file a t) (vacant : t.Vacant place) :
    a.node? place = none := by
  have hfree := vacant.1
  cases hn : a.node? place with
  | none => rfl
  | some node =>
    rw [h.kept place node hn] at hfree
    cases hfree

/-- A file may be added to what was made. -/
theorem MakesWay.add (h : MakesWay path none a t) (vacant : t.Vacant place) :
    MakesWay path (some place) a (t.add place (.file octets) vacant) where
  home := h.home
  kept q n hn := by
    rw [node?_add, if_neg, h.kept q n hn]
    rintro rfl
    rw [h.none_of_vacant vacant] at hn
    cases hn
  made q n hne hnone hsome := by
    rw [node?_add, if_neg fun hq => hne (by rw [hq])] at hsome
    obtain ⟨hn, p, hp, hl⟩ := h.made q n nofun hnone hsome
    exact ⟨hn, p, hp, (grows_add vacant).locate hl⟩

end Tree

/-- The ways in which a write ends. -/
inductive WriteCase where
  | existed
  | appeared
  | created
  | refused

/-- What holds of a write in each case: of its result, and of the trees before and after it. -/
def WriteCase.Holds (path : Path) (content : String) (a : Tree) (result : Except Failure Written)
    (b : Tree) : WriteCase → Prop
  | existed => a.There path ∧ result = .ok ⟨path, .alreadyExists⟩ ∧ b = a
  | appeared => ¬ a.There path ∧ result = .ok ⟨path, .alreadyExists⟩ ∧ b.There path ∧
      a.MakesWay path none b ∧ (".." ∈ path.parts ∨ path.parts = [] ∧ a.node? a.home = none)
  | created => ¬ a.There path ∧ result = .ok ⟨path, .created⟩ ∧ ∃ place,
      a.node? place = none ∧ b.locate path = .ok place ∧
      b.node? place = some (.file (encode content.toList)) ∧
      decode (encode content.toList) = .ok content.toList ∧ a.MakesWay path (some place) b
  | refused => ¬ a.There path ∧ (∃ failure, result = .error failure) ∧ a.MakesWay path none b

namespace Run

variable {site : Site} {path : Path} {content : String}

end Run

namespace WriteCase

variable {path : Path} {content : String} {a b : Tree} {result : Except Failure Written}
  {c c' : WriteCase}

/-- What a case has the write report. -/
def status? : WriteCase → Option WriteStatus
  | existed => some .alreadyExists
  | appeared => some .alreadyExists
  | created => some .created
  | refused => none

theorem Holds.status? (h : c.Holds path content a result b) :
    result.toOption.map Written.status = c.status? := by
  cases c with
  | refused =>
    obtain ⟨-, ⟨failure, rfl⟩, -⟩ := h
    rfl
  | existed | appeared | created =>
    obtain ⟨-, rfl, -⟩ := h
    rfl

theorem Holds.there_iff (h : c.Holds path content a result b) : a.There path ↔ c = existed := by
  cases c with
  | existed => exact ⟨fun _ => rfl, fun _ => h.1⟩
  | appeared | created | refused => exact ⟨fun hthere => absurd hthere h.1, nofun⟩

/-- The cases exclude each other. -/
theorem Holds.unique (h : c.Holds path content a result b) (h' : c'.Holds path content a result b) :
    c = c' := by
  have hstatus : c.status? = c'.status? := h.status?.symm.trans h'.status?
  have hthere : c = existed ↔ c' = existed := h.there_iff.symm.trans h'.there_iff
  cases c <;> cases c' <;> simp_all [WriteCase.status?]

end WriteCase

end Groundwork
