import Groundwork.Proofs.Console.Markup
import Groundwork.Proofs.Result
import Groundwork.Report.Outcome

/-!
# When a report can be shown

The lines about files can always be shown, since the paths in them are escaped, and so can the
lines about an error. The texts in the table are not escaped, so it is they alone that a report can
fail on.
-/

namespace Groundwork

namespace Console.Markup

/-- A text whose tags match. -/
def Shows (s : String) : Prop :=
  ∃ text, shown s = .ok text

theorem shows_iff {s : String} : Shows s ↔ balanced [] (tags (piecesFrom 0 0 s.toList)) := by
  rw [← isOk_shown, Shows]
  cases shown s with
  | ok text => exact ⟨fun _ => rfl, fun _ => ⟨text, rfl⟩⟩
  | error fault =>
    constructor
    · rintro ⟨text, h⟩
      cases h
    · intro h
      cases h

theorem shows_of_open_not_mem {s : String} (h : '[' ∉ s.toList) : Shows s := by
  rw [shows_iff, tags_of_open_not_mem h]
  rfl

theorem shows_repr (n : Nat) : Shows n.repr := by
  refine shows_of_open_not_mem fun hmem => ?_
  rw [Nat.repr, String.toList_ofList] at hmem
  have hdigit := Nat.isDigit_of_mem_toDigits (by decide) (by decide) hmem
  revert hdigit
  decide

/-- A style around an escaped text can be shown. -/
theorem shows_around_escape (style : String) (hstyle : Inner style.toList)
    (hclosing : Inner ('/' :: style.toList))
    (hopened : balanced [] [.ofInside style.toList])
    (hclosed : balanced [] [.ofInside style.toList, .ofInside ('/' :: style.toList)])
    (s : String) : Shows ("[" ++ style ++ "]" ++ escape s ++ "[/" ++ style ++ "]") := by
  have htext : ("[" ++ style ++ "]" ++ escape s ++ "[/" ++ style ++ "]").toList =
      '[' :: style.toList ++
        ']' :: ((escape s).toList ++ '[' :: ('/' :: style.toList) ++ [']']) := by
    simp [String.toList_append]
  rw [shows_iff, htext]
  rcases tags_around_escape hstyle hclosing s with h | h
  · rw [h]
    exact hopened
  · rw [h]
    exact hclosed

end Console.Markup

namespace Report

open Console Console.Markup

theorem inner_of_all {c : Char} {others : List Char} (hc : startsTag c)
    (hothers : others.all fun d => d != '[' && d != ']') : Inner (c :: others) := by
  refine ⟨c, others, rfl, hc, fun d hd => ?_⟩
  simpa using List.all_eq_true.1 hothers d hd

theorem successLines_ok (message : String) : ∃ ls, successLines message = .ok ls := by
  obtain ⟨text, h⟩ := shows_around_escape "bold green"
    (inner_of_all (by decide) (by decide)) (inner_of_all (by decide) (by decide))
    (by decide +kernel) (by decide +kernel) message
  refine ⟨shownLines text, ?_⟩
  rw [successLines, messageLines, h]
  rfl

theorem warningLines_ok (message : String) : ∃ ls, warningLines message = .ok ls := by
  obtain ⟨text, h⟩ := shows_around_escape "bold yellow"
    (inner_of_all (by decide) (by decide)) (inner_of_all (by decide) (by decide))
    (by decide +kernel) (by decide +kernel) message
  refine ⟨shownLines text, ?_⟩
  rw [warningLines, messageLines, h]
  rfl

/-- An error can always be told. -/
theorem errorLines_ok (message : String) : ∃ ls, errorLines message = .ok ls := by
  have hstyle : Inner "bold red".toList := inner_of_all (by decide) (by decide)
  have hclosing : Inner "/bold red".toList := inner_of_all (by decide) (by decide)
  have htext : ("[bold red]Error:[/bold red] " ++ escape message).toList =
      (⟨0, "bold red".toList⟩ : Found).written ++ ("Error:".toList ++
        ((⟨0, "/bold red".toList⟩ : Found).written ++ (" ".toList ++ (escape message).toList))) := by
    rw [String.toList_append]
    rfl
  have hshows : Shows ("[bold red]Error:[/bold red] " ++ escape message) := by
    rw [shows_iff, htext, piecesFrom_written (f := ⟨0, "bold red".toList⟩) hstyle, tags_append,
      tags_plain_append (by decide), piecesFrom_written (f := ⟨0, "/bold red".toList⟩) hclosing,
      tags_append, tags_plain_append (by decide), tags_escape, tags_pieces, tags_pieces]
    decide +kernel
  obtain ⟨text, h⟩ := hshows
  refine ⟨shownLines text, ?_⟩
  rw [errorLines, h]
  rfl

/-- What is told of a file can always be shown. -/
theorem writtenLines_ok (w : Written) : ∃ ls, writtenLines w = .ok ls := by
  unfold writtenLines
  cases w.status with
  | created => exact successLines_ok _
  | alreadyExists => exact warningLines_ok _

theorem patchedLines_ok (p : Patched) : ∃ ls, patchedLines p = .ok ls := by
  unfold patchedLines
  cases p.status with
  | patched => exact successLines_ok _
  | missingTarget => exact warningLines_ok _
  | missingAnchor => exact warningLines_ok _
  | unreadable => exact warningLines_ok _
  | alreadyPresent => exact ⟨[], rfl⟩

/-- The fault of a table is that of a text in it. -/
theorem Table.lines_error {t : Table} {fault : MarkupFault} (h : t.lines = .error fault) :
    ∃ row ∈ t.rows, Markup.shown row.2 = .error fault := by
  rcases bind_error h with h | ⟨rows, -, h⟩
  · obtain ⟨row, hrow, h⟩ := mapM_error h
    rcases bind_error h with h | ⟨text, -, h⟩
    · exact ⟨row, hrow, h⟩
    · cases h
  · cases h

/-- A table can be shown when the texts in it can. -/
theorem Table.lines_ok_iff {t : Table} :
    (∃ ls, t.lines = .ok ls) ↔ ∀ row ∈ t.rows, Shows row.2 := by
  unfold Table.lines
  rw [return_ok_iff, mapM_ok_iff]
  have hrow : ∀ row : Row, (∃ plain, (do return (row.1, ← Markup.shown row.2)) =
      (.ok plain : Except MarkupFault Row)) ↔ Shows row.2 := fun row => return_ok_iff
  exact forall_congr' fun row => imp_congr_right fun _ => hrow row

/-- The lines about files are as they are, with the lines of the table after them. -/
theorem lines_eq (ws : List Written) (ps : List Patched) (table : Table) :
    ∃ before, lines ws ps table = do return before ++ (← table.lines) := by
  obtain ⟨written, hw⟩ := mapM_ok_iff.2 fun w (_ : w ∈ ws) => writtenLines_ok w
  obtain ⟨patched, hp⟩ := mapM_ok_iff.2 fun p (_ : p ∈ ps) => patchedLines_ok p
  refine ⟨written.flatten ++ patched.flatten, ?_⟩
  rw [lines, hw, hp]
  rfl

theorem lines_error {ws : List Written} {ps : List Patched} {table : Table} {fault : MarkupFault}
    (h : lines ws ps table = .error fault) :
    ∃ row ∈ table.rows, Markup.shown row.2 = .error fault := by
  obtain ⟨before, hlines⟩ := lines_eq ws ps table
  rw [hlines] at h
  rcases bind_error h with h | ⟨ls, -, h⟩
  · exact Table.lines_error h
  · cases h

theorem lines_ok_iff {ws : List Written} {ps : List Patched} {table : Table} :
    (∃ ls, lines ws ps table = .ok ls) ↔ ∀ row ∈ table.rows, Shows row.2 := by
  obtain ⟨before, hlines⟩ := lines_eq ws ps table
  rw [hlines, return_ok_iff, Table.lines_ok_iff]

end Report

end Groundwork
