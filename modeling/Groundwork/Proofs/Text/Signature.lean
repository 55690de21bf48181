import Groundwork.Proofs.Text.Imports

/-!
# Signatures of methods

How the head of a method is written in an interface, in a class that implements it, and what a call
of the method looks like. What is read off a line is what stands between a front and a back.
-/

namespace Groundwork

/-- What a method returns, its name, and the types and names of its parameters. -/
structure Signature where
  result : String
  name : String
  params : List (String × String)

namespace Signature

def text (g : Signature) : String :=
  g.result ++ " " ++ g.name ++ "("
    ++ ", ".intercalate (g.params.map fun (type, name) => type ++ " " ++ name) ++ ")"

/-- What a call hands over that names its arguments as the parameters are named. -/
def arguments (g : Signature) : String :=
  ", ".intercalate (g.params.map Prod.snd)

end Signature

namespace Text

/-- What a line has between a front and a back. -/
def between? (front back line : String) : Option String :=
  let inner := line.toList.drop front.toList.length
  if front.toList.isPrefixOf line.toList && back.toList.isSuffixOf inner then
    some (.ofList (inner.take (inner.length - back.toList.length)))
  else none

/-- What the lines of a text have between a front and a back. -/
def linesBetween (front back x : String) : List String :=
  (pieces '\n' x).filterMap (between? front back)

/-- What follows the items that are marked, with at most one item skipped. -/
def following {α : Type} (marks skips : α → Bool) : List α → List α
  | [] => []
  | item :: rest =>
    (if marks item then (if rest.head?.any skips then rest.tail else rest).head?.toList else [])
      ++ following marks skips rest

/-- The heads of the methods that come right after an override, or after the line that says how such
a method takes part in transactions. -/
def overridden (x : String) : List String :=
  (following (· = "    @Override") ("    @Transactional".toList.isPrefixOf ·.toList)
    (pieces '\n' x)).filterMap (between? "    public " " \x7b")

/-- The line calls a method of an object, and this stands after the open parenthesis. -/
structure Calls (object name rest line : String) : Prop where
  plain : '.' ∉ name.toList
  call : ∃ front, line = front ++ object ++ "." ++ name ++ "(" ++ rest

example : Calls "itemService" "save" "item);" "        Item saved = itemService.save(item);" :=
  ⟨by decide, "        Item saved = ", by decide⟩

variable {front back line s : String}

theorem prefix_of_between? (h : (between? front back line).isSome) :
    front.toList <+: line.toList := by
  unfold between? at h
  dsimp only at h
  split at h
  · rename_i hends
    rw [Bool.and_eq_true] at hends
    exact List.isPrefixOf_iff_prefix.1 hends.1
  · cases h

theorem between?_of_line (h : line.toList = front.toList ++ (s.toList ++ back.toList)) :
    between? front back line = some s := by
  have hstart : front.toList.isPrefixOf line.toList = true := by
    rw [h, List.isPrefixOf_iff_prefix]
    exact List.prefix_append _ _
  have hinner : line.toList.drop front.toList.length = s.toList ++ back.toList := by
    rw [h, List.drop_left]
  have hend : back.toList.isSuffixOf (s.toList ++ back.toList) = true := by
    rw [List.isSuffixOf_iff_suffix]
    exact List.suffix_append _ _
  have hlength : (s.toList ++ back.toList).length - back.toList.length = s.toList.length := by
    rw [List.length_append]
    omega
  unfold between?
  dsimp only
  rw [hinner, hstart, hend, if_pos (by rfl), hlength, List.take_left, String.ofList_toList]

/-- What follows marked items is found before the items are written out. -/
theorem following_map {α β : Type} {f : α → β} {marks skips : α → Bool} {marks' skips' : β → Bool}
    {as : List α} (hmarks : ∀ a ∈ as, marks' (f a) = marks a)
    (hskips : ∀ a ∈ as, skips' (f a) = skips a) :
    following marks' skips' (as.map f) = (following marks skips as).map f := by
  induction as with
  | nil => rfl
  | cons a rest ih =>
    have hrest := ih (fun d hd => hmarks d (.tail _ hd)) (fun d hd => hskips d (.tail _ hd))
    have hnext : (rest.map f).head?.any skips' = rest.head?.any skips := by
      cases rest with
      | nil => rfl
      | cons d more => exact hskips d (.tail _ List.mem_cons_self)
    rw [List.map_cons, following, following, hmarks a List.mem_cons_self, hrest, hnext,
      List.map_append]
    congr 1
    split
    · split
      · rw [← List.map_tail, List.head?_map]
        cases rest.tail.head? <;> rfl
      · rw [List.head?_map]
        cases rest.head? <;> rfl
    · rfl

end Text

end Groundwork
