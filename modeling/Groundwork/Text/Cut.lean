/-!
# Searching and cutting text

A search answers with the two parts of the text, before the occurrence and from it on, so that
nothing of the text is lost and no index has to be kept in range. Text that is read from a file has
one kind of line end.
-/

namespace Groundwork.Text

/-- The parts between the occurrences of `sep`; a text without `sep` is one part. -/
def pieceChars (sep : Char) : List Char → List (List Char)
  | [] => [[]]
  | c :: rest =>
    match pieceChars sep rest with
    | [] => [[c]]
    | part :: parts => if c = sep then [] :: part :: parts else (c :: part) :: parts

def pieces (sep : Char) (s : String) : List String :=
  (pieceChars sep s.toList).map .ofList

/-- The maximal runs of characters in the class `p`, the current one apart from the later ones. -/
def runsFrom (p : Char → Bool) : List Char → List Char × List (List Char)
  | [] => ([], [])
  | c :: rest =>
    let (run, later) := runsFrom p rest
    if p c then (c :: run, later)
    else ([], if run = [] then later else run :: later)

/-- The maximal runs of characters in the class `p`. -/
def runs (p : Char → Bool) (cs : List Char) : List (List Char) :=
  let (run, later) := runsFrom p cs
  if run = [] then later else run :: later

/-- The text before the first occurrence of `anchor`, and the text from it on. -/
def cutFirst? (anchor : List Char) : List Char → Option (List Char × List Char)
  | [] => if anchor = [] then some ([], []) else none
  | c :: rest =>
    if anchor.isPrefixOf (c :: rest) then some ([], c :: rest)
    else (cutFirst? anchor rest).map fun (before, after) => (c :: before, after)

/-- The text before the last occurrence of `anchor`, and the text from it on. -/
def cutLast? (anchor : List Char) : List Char → Option (List Char × List Char)
  | [] => if anchor = [] then some ([], []) else none
  | c :: rest =>
    match cutLast? anchor rest with
    | some (before, after) => some (c :: before, after)
    | none => if anchor.isPrefixOf (c :: rest) then some ([], c :: rest) else none

def occursIn (part whole : String) : Bool :=
  (cutFirst? part.toList whole.toList).isSome

def endsWith (s ending : String) : Bool :=
  ending.toList.isSuffixOf s.toList

/-- `s` without `ending`, if it ends so. -/
def dropEnding? (s ending : String) : Option String :=
  if endsWith s ending then
    some (.ofList (s.toList.take (s.toList.length - ending.toList.length)))
  else none

theorem pieceChars_ne_nil (sep : Char) (cs : List Char) : pieceChars sep cs ≠ [] := by
  cases cs with
  | nil => simp [pieceChars]
  | cons c rest =>
    unfold pieceChars
    split
    · simp
    · split <;> simp

theorem not_mem_of_mem_pieceChars {sep : Char} {cs part : List Char}
    (h : part ∈ pieceChars sep cs) : sep ∉ part := by
  induction cs generalizing part with
  | nil => simp_all [pieceChars]
  | cons c rest ih =>
    simp only [pieceChars] at h
    split at h
    · rename_i hn
      exact absurd hn (pieceChars_ne_nil sep rest)
    · rename_i first others hp
      rw [hp] at ih
      have hfirst : sep ∉ first := ih (by simp)
      split at h
      · rcases List.mem_cons.1 h with rfl | h
        · simp
        · exact ih h
      · rename_i hc
        rcases List.mem_cons.1 h with rfl | h
        · simp only [List.mem_cons, not_or]
          exact ⟨fun he => hc he.symm, hfirst⟩
        · exact ih (List.mem_cons_of_mem _ h)

theorem append_of_cutFirst? {anchor cs before after : List Char}
    (h : cutFirst? anchor cs = some (before, after)) : before ++ after = cs := by
  induction cs generalizing before with
  | nil =>
    simp only [cutFirst?] at h
    split at h <;> simp_all
  | cons c rest ih =>
    simp only [cutFirst?] at h
    split at h
    · simp_all
    · obtain ⟨⟨b, a⟩, hr, he⟩ := Option.map_eq_some_iff.1 h
      simp only [Prod.mk.injEq] at he
      obtain ⟨rfl, rfl⟩ := he
      simp [ih hr]

theorem append_of_cutLast? {anchor cs before after : List Char}
    (h : cutLast? anchor cs = some (before, after)) : before ++ after = cs := by
  induction cs generalizing before with
  | nil =>
    simp only [cutLast?] at h
    split at h <;> simp_all
  | cons c rest ih =>
    simp only [cutLast?] at h
    split at h
    · rename_i b a hr
      simp only [Option.some.injEq, Prod.mk.injEq] at h
      obtain ⟨rfl, rfl⟩ := h
      simp [ih hr]
    · split at h <;> simp_all

/-- A carriage return, with or without a line feed after it, counts as a line feed. -/
def unifyLineEnds : List Char → List Char
  | [] => []
  | '\r' :: '\n' :: rest => '\n' :: unifyLineEnds rest
  | '\r' :: rest => '\n' :: unifyLineEnds rest
  | c :: rest => c :: unifyLineEnds rest

theorem unifyLineEnds_no_return (cs : List Char) : '\r' ∉ unifyLineEnds cs := by
  fun_induction unifyLineEnds cs <;> simp_all [eq_comm]

end Groundwork.Text
