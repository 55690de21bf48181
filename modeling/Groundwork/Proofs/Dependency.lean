import Groundwork.Proofs.Distinct
import Groundwork.Proofs.Text.Lowering
import Groundwork.Sheet

/-!
# Short names of libraries

Names are put in plain form when a sheet is worked out, and again when its libraries are looked up.
The second time changes nothing, so what is asked of the names and what is asked of the libraries is
answered alike. No library is listed twice, and the driver of the database always is: what is looked
up is the plain names with the driver behind them, each where it is first.
-/

namespace Groundwork.Dependency

variable {names kept : List String} {n : String} {db : Database} {d : Dependency}

/-- A plain name is plain already. -/
theorem plainName_plainName (s : String) : plainName (plainName s) = plainName s := by
  rw [plainName, plainName, Text.trim_lower_trim, Text.lower_lower]

/-- The names in plain form, without the blank ones. -/
def plainNames (names : List String) : List String :=
  (names.map plainName).filter (· ≠ "")

theorem plainNames_cons (s : String) (names : List String) : plainNames (s :: names)
    = if plainName s = "" then plainNames names else plainName s :: plainNames names := by
  simp [plainNames, List.filter_cons]

/-- Of the plain names each is kept where it is first. -/
theorem keepNew_eq (h : kept.Nodup) (names : List String) :
    keepNew kept names = (kept ++ plainNames names).eraseDups := by
  induction names generalizing kept with
  | nil =>
    have hnone : plainNames [] = [] := rfl
    rw [hnone, List.append_nil, eraseDups_of_nodup h, keepNew]
  | cons s rest ih =>
    rw [keepNew, plainNames_cons]
    split
    · rename_i hold
      simp only [Bool.or_eq_true, decide_eq_true_eq, List.contains_iff_mem] at hold
      rw [ih h]
      split
      · rfl
      · rename_i hne
        exact (eraseDups_append_cons_of_mem (hold.resolve_left hne) _).symm
    · rename_i hnew
      simp only [Bool.or_eq_true, decide_eq_true_eq, List.contains_iff_mem, not_or] at hnew
      have hkept : (kept ++ [plainName s]).Nodup := by
        rw [← List.concat_eq_append]
        exact List.Nodup.concat hnew.2 h
      rw [ih hkept, if_neg hnew.1, List.append_assoc]
      rfl

theorem normalize_eq (names : List String) : normalize names = (plainNames names).eraseDups :=
  keepNew_eq List.nodup_nil names

theorem nodup_normalize (names : List String) : (normalize names).Nodup := by
  rw [normalize_eq]
  exact nodup_eraseDups _

/-- Normalised names are plain and not blank. -/
theorem plain_of_mem_normalize (h : n ∈ normalize names) : plainName n = n ∧ n ≠ "" := by
  rw [normalize_eq, List.mem_eraseDups, plainNames, List.mem_filter, List.mem_map] at h
  obtain ⟨⟨s, -, rfl⟩, hne⟩ := h
  exact ⟨plainName_plainName s, of_decide_eq_true hne⟩

theorem normalize_normalize (names : List String) :
    normalize (normalize names) = normalize names := by
  have hplain : (normalize names).map plainName = (normalize names).map id :=
    List.map_congr_left fun n hn => (plain_of_mem_normalize hn).1
  have hself : plainNames (normalize names) = normalize names := by
    rw [plainNames, hplain, List.map_id]
    exact List.filter_eq_self.2 fun n hn => decide_eq_true (plain_of_mem_normalize hn).2
  rw [normalize_eq (normalize names), hself, eraseDups_of_nodup (nodup_normalize names)]

theorem normalizeValue_eq (v : Value) :
    normalizeValue v = (v.items.bind namesOf).map normalize := by
  unfold normalizeValue
  cases v.items with
  | error misuse => rfl
  | ok values =>
    show (namesOf values >>= fun names => pure (normalize names)) = (namesOf values).map normalize
    cases namesOf values <;> rfl

/-- What is looked up: the plain names and the driver, each where it is first. -/
theorem wanted_eq (names : List String) (db : Database) :
    wanted names db = (plainNames names ++ [db.driver]).eraseDups := by
  rw [wanted, normalize_eq, List.contains_eq_mem]
  simp only [List.mem_eraseDups, decide_eq_true_eq]
  split
  · rename_i hold
    rw [eraseDups_append_cons_of_mem hold, List.append_nil]
  · rename_i hnew
    rw [List.eraseDups_append, List.cons_removeAll, if_pos (by simpa using hnew)]
    rfl

theorem nodup_wanted (names : List String) (db : Database) : (wanted names db).Nodup := by
  rw [wanted_eq]
  exact nodup_eraseDups _

theorem mem_wanted : n ∈ wanted names db ↔ n ∈ normalize names ∨ n = db.driver := by
  rw [wanted_eq, normalize_eq, List.mem_eraseDups, List.mem_eraseDups, List.mem_append,
    List.mem_singleton]

theorem name_of_ofName? {name : String} {d : Dependency} (h : ofName? name = some d) :
    d.name = name := by
  have hfound := List.find?_some h
  exact eq_of_beq hfound

/-- No dependency is resolved twice. -/
theorem nodup_resolve (names : List String) (d : Database) :
    (resolve names d).dependencies.Nodup := by
  refine List.Pairwise.filterMap _ (fun a a' hne b hb b' hb' hsame => hne ?_) (nodup_wanted names d)
  rw [← name_of_ofName? hb, ← name_of_ofName? hb', hsame]

theorem ofName?_name (h : d ∈ catalogue) : ofName? d.name = some d := by
  have hall : ∀ d ∈ catalogue, ofName? d.name = some d := by decide
  exact hall d h

theorem mem_resolve (h : d ∈ catalogue) :
    d ∈ (resolve names db).dependencies ↔ d.name ∈ normalize names ∨ d.name = db.driver := by
  rw [← mem_wanted, resolve, List.mem_filterMap]
  constructor
  · rintro ⟨n, hn, hfound⟩
    rwa [name_of_ofName? hfound]
  · intro hn
    exact ⟨d.name, hn, ofName?_name h⟩

/-- What is resolved depends on the names only through what is to look up. -/
theorem resolve_congr {names' : List String} (h : wanted names' db = wanted names db) :
    resolve names' db = resolve names db := by
  rw [resolve, resolve, h]

theorem resolve_normalize (names : List String) (db : Database) :
    resolve (normalize names) db = resolve names db :=
  resolve_congr <| by rw [wanted, normalize_normalize, wanted]

theorem plainName_driver (db : Database) : plainName db.driver = db.driver ∧ db.driver ≠ "" := by
  cases db <;> decide +kernel

/-- To ask for the driver besides changes nothing. -/
theorem wanted_append_driver (names : List String) (db : Database) :
    wanted (names ++ [db.driver]) db = wanted names db := by
  obtain ⟨hplain, hne⟩ := plainName_driver db
  have hsplit : plainNames (names ++ [db.driver]) = plainNames names ++ [db.driver] := by
    simp [plainNames, hplain, hne]
  have hdriver : db.driver ∈ plainNames names ++ [db.driver] :=
    List.mem_append_right _ List.mem_cons_self
  rw [wanted_eq, hsplit, eraseDups_append_cons_of_mem hdriver, List.append_nil, wanted_eq]

theorem isSome_ofName? {name : String} :
    (ofName? name).isSome ↔ name ∈ catalogue.map (·.name) := by
  rw [ofName?, List.find?_isSome, List.mem_map]
  simp only [beq_iff_eq]

theorem driver_known (db : Database) : db.driver ∈ catalogue.map (·.name) := by
  cases db <;> decide

/-- The libraries that are found have the names that are known, in their order. -/
theorem names_resolve (names : List String) (db : Database) :
    (resolve names db).dependencies.map (·.name)
      = (wanted names db).filter (· ∈ catalogue.map (·.name)) := by
  have hguard (n : String) : (ofName? n).map (·.name)
      = Option.guard (fun n => decide (n ∈ catalogue.map (·.name))) n := by
    rw [Option.guard]
    simp only [← isSome_ofName?]
    cases hfound : ofName? n with
    | none => rfl
    | some e => exact congrArg some (name_of_ofName? hfound)
  rw [resolve, List.map_filterMap]
  simp only [hguard]
  exact congrFun List.filterMap_eq_filter _

theorem known_wanted (names : List String) (db : Database) :
    let known := (normalize names).filter (· ∈ catalogue.map (·.name))
    (wanted names db).filter (· ∈ catalogue.map (·.name))
      = known ++ (if db.driver ∈ known then [] else [db.driver]) := by
  intro known
  have hmem : (normalize names).contains db.driver ↔ db.driver ∈ known := by
    rw [List.mem_filter, List.contains_iff_mem]
    exact (and_iff_left (decide_eq_true (driver_known db))).symm
  have hdriver : [db.driver].filter (· ∈ catalogue.map (·.name)) = [db.driver] :=
    List.filter_cons_of_pos (decide_eq_true (driver_known db))
  rw [wanted]
  simp only [hmem]
  split
  · rw [List.append_nil]
  · rw [List.filter_append, hdriver]

theorem unknown_resolve (names : List String) (db : Database) :
    (resolve names db).unknown = (normalize names).filter (· ∉ catalogue.map (·.name)) := by
  have htest : (fun n => (ofName? n).isNone) = fun n => decide (n ∉ catalogue.map (·.name)) := by
    funext n
    rw [← Option.not_isSome, decide_not, Bool.not_inj_iff, Bool.eq_iff_iff, isSome_ofName?,
      decide_eq_true_eq]
  have hdriver : [db.driver].filter (· ∉ catalogue.map (·.name)) = [] :=
    List.filter_eq_nil_iff.2 fun n hn => by
      rw [List.mem_singleton.1 hn]
      simpa using driver_known db
  rw [resolve, htest, wanted]
  dsimp only
  split
  · rfl
  · rw [List.filter_append, hdriver, List.append_nil]

/-- The libraries of a project are those that are asked for and known, in the order in which they are
first asked for, each once, and behind them the driver of the database if it is not one of them. What
is not known is told of once for each name, in the same order. -/
theorem resolve_in_order (names : List String) (db : Database) :
    let asked := ((names.map fun s => Text.lower (Text.trim s)).filter (· ≠ "")).eraseDups
    let known := asked.filter (· ∈ catalogue.map (·.name))
    let unknown := asked.filter (· ∉ catalogue.map (·.name))
    let r := resolve names db
    r.dependencies.map (·.name) = known ++ (if db.driver ∈ known then [] else [db.driver]) ∧
      (∀ e ∈ r.dependencies, e ∈ catalogue) ∧
      (catalogue.map (·.name)).Nodup ∧
      (r.dependencies.map (·.name)).Nodup ∧
      (r.dependencies.map (·.name)).count db.driver = 1 ∧
      r.unknown = unknown ∧
      unknown.Nodup ∧
      (∀ s : ProjectSheet,
        let notices := (Sheet.project { s with dependencyNames := names, database := db }).notices
        notices = unknown.map .unknownDependency ∧ ∀ notice ∈ notices, notice.level = .warning) ∧
      resolve asked db = r ∧
      resolve (names ++ [db.driver]) db = r ∧
      resolve (asked ++ [db.driver]) db = r := by
  intro asked known unknown r
  have hasked : asked = normalize names := (normalize_eq names).symm
  have hknown : r.dependencies.map (·.name)
      = known ++ (if db.driver ∈ known then [] else [db.driver]) := by
    rw [names_resolve, known_wanted, ← hasked]
  have hnodup : (r.dependencies.map (·.name)).Nodup := by
    rw [names_resolve]
    exact (nodup_wanted names db).filter _
  have hdriver : db.driver ∈ r.dependencies.map (·.name) := by
    rw [names_resolve, List.mem_filter]
    exact ⟨mem_wanted.2 (.inr rfl), decide_eq_true (driver_known db)⟩
  have hunknown : r.unknown = unknown := (unknown_resolve names db).trans <| by rw [← hasked]
  have hagain : resolve asked db = r := by
    rw [hasked, resolve_normalize]
  refine ⟨hknown, fun e he => ?_, by decide, hnodup, List.count_eq_one_of_mem hnodup hdriver,
    hunknown, ?_, fun s => ⟨congrArg (List.map Notice.unknownDependency) hunknown, ?_⟩, hagain,
    resolve_congr (wanted_append_driver names db),
    (resolve_congr (wanted_append_driver asked db)).trans hagain⟩
  · obtain ⟨n, -, hfound⟩ := List.mem_filterMap.1 he
    exact List.mem_of_find?_eq_some hfound
  · exact (nodup_eraseDups _).filter _
  · intro notice hnotice
    obtain ⟨n, -, rfl⟩ := List.mem_map.1 hnotice
    rfl

end Groundwork.Dependency
