import Groundwork.Proofs.Distinct
import Groundwork.Proofs.Template.Keys
import Groundwork.Proofs.Tree.Names

/-!
# Listing templates and loading them

A listing shows each entry that has the ending of templates and lies below where the listing starts,
under its path from the directory, once and in order. What it shows can be loaded exactly if it is a
file, its name does not lead upwards, and the text by which it is opened is not too long.
-/

namespace Groundwork

namespace Path

variable {p base q : Path} {way : List String}

theorem join_relative (base : Path) (hq : q.anchor = .relative) :
    (base.join q).anchor = base.anchor ∧ (base.join q).parts = base.parts ++ q.parts := by
  simp only [join, hq, and_self]

/-- The path `q` leads from `base` to `p` without starting anew. -/
structure LeadsOn (base p q : Path) : Prop where
  relative : q.anchor = .relative
  joined : base.join q = p

theorem below?_eq_some : p.below? base = some q ↔ LeadsOn base p q := by
  unfold below?
  constructor
  · intro h
    split at h
    · rename_i hboth
      rw [Bool.and_eq_true, decide_eq_true_eq, List.isPrefixOf_iff_prefix] at hboth
      obtain ⟨hanchor, hprefix⟩ := hboth
      cases h
      exact ⟨rfl, ext hanchor.symm (List.prefix_iff_eq_append.1 hprefix)⟩
    · cases h
  · intro h
    obtain ⟨hq, rfl⟩ := h
    obtain ⟨hanchor, hparts⟩ := join_relative base hq
    rw [if_pos]
    · refine congrArg some (ext hq.symm ?_)
      show (base.join q).parts.drop base.parts.length = q.parts
      rw [hparts, List.drop_left]
    · rw [Bool.and_eq_true, decide_eq_true_eq, List.isPrefixOf_iff_prefix, hparts]
      exact ⟨hanchor, List.prefix_append _ _⟩

/-- The text that joins some parts is the text of the way down. -/
theorem ofText_joined (h : ∀ part ∈ way, Plain part) :
    (ofText ("/".intercalate way)).anchor = .relative ∧ (ofText ("/".intercalate way)).parts = way := by
  have hanchor := anchor_slashes h 0
  have hparts := parts_slashes h 0
  rw [List.replicate_zero, String.ofList_nil, String.empty_append] at hanchor hparts
  exact ⟨hanchor, hparts⟩

theorem ofText_parts (hq : q.anchor = .relative) : ofText ("/".intercalate q.parts) = q := by
  obtain ⟨hanchor, hparts⟩ := ofText_joined q.plain
  exact ext (hanchor.trans hq.symm) hparts

theorem descends_joined (h : ∀ part ∈ way, Plain part) (hdown : ".." ∉ way) (p : Path) :
    p.Descends (p.child ("/".intercalate way)) way := by
  obtain ⟨hrelative, hparts⟩ := ofText_joined h
  have hdescends := descends_child hrelative (by rwa [hparts]) p
  rwa [hparts] at hdescends

end Path

namespace Template

/-- The text of a way down names a template, unless it leads upwards somewhere. -/
theorem nameParts?_text {name : Path} (h : name.anchor = .relative) :
    nameParts? name.text = if ".." ∈ name.parts then none else some name.parts := by
  unfold nameParts?
  by_cases hnil : name.parts = []
  · have htext : name.text = "." := by
      rw [Path.text, h, hnil]
      rfl
    rw [htext, hnil]
    rfl
  · have htext : name.text = "/".intercalate name.parts := by
      rw [Path.text, h, if_neg (by simpa using hnil)]
      exact String.empty_append
    have hpieces := Path.pieces_joined name.plain
    rw [if_neg hnil] at hpieces
    have hfilter := Path.filter_joined name.plain
    rw [hpieces] at hfilter
    rw [htext]
    dsimp only
    rw [hpieces]
    simp only [List.contains_iff_mem]
    split
    · rfl
    · refine congrArg some (Eq.trans ?_ hfilter)
      refine List.filter_congr fun part _ => ?_
      rw [Bool.eq_iff_iff]
      simp

namespace Store

variable {t : Tree} {dir search path name : Path} {start : String} {names : List String}
  {place way : Location} {node : Node} {shown : Option String}

/-- The name that a listing shows for what is at the end of a way, if it shows it. -/
def shown? (dir search : Path) (way : Location) : Option String :=
  if Text.endsWith (way.getLast?.getD "") ".j2" then
    ((search.child ("/".intercalate way)).below? dir).map Path.text
  else none

theorem nameIn_eq_ok {s : String} (h : nameIn dir path = .ok s) :
    (path.below? dir).map Path.text = some s := by
  unfold nameIn at h
  split at h
  · rename_i name hbelow
    cases h
    rw [hbelow]
    rfl
  · cases h

theorem listed?_eq_ok (h : listed? t dir search way node = .ok shown) :
    shown = shown? dir search way ∧ (Text.endsWith (way.getLast?.getD "") ".j2" → shown ≠ none) := by
  have hshown : (if Text.endsWith (way.getLast?.getD "") ".j2" then
      some <$> nameIn dir (search.child ("/".intercalate way)) else .ok none) = .ok shown := by
    unfold listed? at h
    dsimp only at h
    split at h
    · obtain ⟨-, -, hrest⟩ := bind_ok h
      exact hrest
    · exact h
  unfold shown?
  by_cases hends : Text.endsWith (way.getLast?.getD "") ".j2"
  · rw [if_pos hends] at hshown ⊢
    obtain ⟨s, hs, hsome⟩ := bind_ok (x := nameIn dir _) (f := fun s => .ok (some s)) hshown
    cases hsome
    exact ⟨(nameIn_eq_ok hs).symm, fun _ => nofun⟩
  · rw [if_neg hends] at hshown ⊢
    cases hshown
    exact ⟨rfl, fun h => absurd h hends⟩

/-- The entries below a location, each by the way to it. -/
theorem mem_below : (way, node) ∈ t.below place ↔ way ≠ [] ∧ t.node? (place ++ way) = some node := by
  unfold Tree.below
  rw [List.mem_filterMap]
  constructor
  · rintro ⟨⟨at', node'⟩, hmem, hsome⟩
    dsimp only at hsome
    split at hsome
    · rename_i hboth
      rw [Bool.and_eq_true, List.isPrefixOf_iff_prefix, bne_iff_ne] at hboth
      obtain ⟨⟨rest, rfl⟩, hne⟩ := hboth
      cases hsome
      rw [List.drop_left]
      have hrest : rest ≠ [] := by
        rintro rfl
        exact hne (List.append_nil place)
      exact ⟨hrest, (Tree.node?_eq_some_iff (List.append_ne_nil_of_right_ne_nil place hrest)).2 hmem⟩
    · cases hsome
  · rintro ⟨hne, hn⟩
    have hmem := (Tree.node?_eq_some_iff (List.append_ne_nil_of_right_ne_nil place hne)).1 hn
    refine ⟨(place ++ way, node), hmem, ?_⟩
    dsimp only
    rw [if_pos, List.drop_left]
    rw [Bool.and_eq_true, List.isPrefixOf_iff_prefix, bne_iff_ne]
    exact ⟨List.prefix_append _ _, fun he => hne (List.append_right_eq_self.1 he)⟩

theorem nodup_below (t : Tree) (place : Location) : ((t.below place).map Prod.fst).Nodup := by
  unfold Tree.below
  rw [List.map_filterMap, List.Nodup, List.pairwise_filterMap]
  have hdistinct := t.sound.distinct
  rw [List.Nodup, List.pairwise_map] at hdistinct
  refine hdistinct.imp fun {e e'} hne way hway way' hway' hsame => hne ?_
  obtain ⟨⟨w, n⟩, he, rfl⟩ := Option.map_eq_some_iff.1 hway
  obtain ⟨⟨w', n'⟩, he', rfl⟩ := Option.map_eq_some_iff.1 hway'
  dsimp only at he he' hsame
  split at he
  · split at he'
    · rename_i h h'
      rw [Bool.and_eq_true, List.isPrefixOf_iff_prefix] at h h'
      obtain ⟨⟨rest, hrest⟩, -⟩ := h
      obtain ⟨⟨rest', hrest'⟩, -⟩ := h'
      cases he
      cases he'
      rw [← hrest, ← hrest', List.drop_left, List.drop_left] at hsame
      rw [← hrest, ← hrest', hsame]
    · cases he'
  · cases he

/-- What a listing shows, where it starts at a directory. Nothing with the ending is left out. -/
theorem list_ok (h : (directory dir).list t start = .ok names) :
    t.isDirectory? (searchPath dir start) = .ok false ∧ names = [] ∨
      ∃ place, t.locate (searchPath dir start) = .ok place ∧ t.node? place = some .directory ∧
        names = ((t.below place).filterMap fun e => shown? dir (searchPath dir start) e.1).mergeSort
          (fun s s' => decide (s ≤ s')) ∧
        ∀ e ∈ t.below place, Text.endsWith (e.1.getLast?.getD "") ".j2" →
          shown? dir (searchPath dir start) e.1 ≠ none := by
  change listIn t dir start = .ok names at h
  unfold listIn at h
  dsimp only at h
  generalize searchPath dir start = search at h ⊢
  obtain ⟨isThere, hthere, h⟩ := bind_ok h
  have hthere : t.isDirectory? search = .ok isThere := by
    cases hd : t.isDirectory? search with
    | error fault =>
      rw [hd] at hthere
      cases hthere
    | ok answer =>
      rw [hd] at hthere
      cases hthere
      rfl
  cases isThere with
  | false =>
    cases h
    exact .inl ⟨hthere, rfl⟩
  | true =>
    obtain ⟨place, hl, hn⟩ := Tree.isDirectory?_eq_true.1 hthere
    rw [if_pos rfl, hl] at h
    obtain ⟨shown, hshown, h⟩ := bind_ok (x := (t.below place).mapM _) h
    cases h
    refine .inr ⟨place, hl, hn, ?_, fun e he hends => ?_⟩
    · have hmap : shown.map id = (t.below place).map fun e => shown? dir search e.1 :=
        map_of_mapM hshown fun e _ s hs => (listed?_eq_ok hs).1
      rw [List.map_id] at hmap
      rw [hmap, List.filterMap_map]
      rfl
    · obtain ⟨s, hs⟩ := mapM_ok_iff.1 ⟨shown, hshown⟩ e he
      obtain ⟨rfl, hsome⟩ := listed?_eq_ok hs
      exact hsome hends

/-- A listing that starts at a directory comes to an end where every entry has its name. -/
theorem list_of_listed {shown : List (Option String)}
    (hl : t.locate (searchPath dir start) = .ok place) (hn : t.node? place = some .directory)
    (hshown : (t.below place).mapM (fun e => listed? t dir (searchPath dir start) e.1 e.2)
      = .ok shown) :
    (directory dir).list t start
      = .ok ((shown.filterMap id).mergeSort fun s s' => decide (s ≤ s')) := by
  show listIn t dir start = _
  unfold listIn
  dsimp only
  rw [Tree.isDirectory?_eq_true.2 ⟨place, hl, hn⟩, hl]
  dsimp only [mapError_ok, bind, Except.bind]
  rw [if_pos rfl]
  change ((t.below place).mapM fun e => listed? t dir (searchPath dir start) e.1 e.2).bind _ = _
  rw [hshown]
  rfl

/-- An entry that has the ending of templates and lies below where a listing starts. -/
inductive Offered (t : Tree) (search path : Path) (node : Node) : Prop where
  | below (place above : Location) (last : String) (start : t.locate search = .ok place)
    (entry : t.node? (place ++ (above ++ [last])) = some node) (ending : Text.endsWith last ".j2")
    (way : search.Descends path (above ++ [last]))

/-- The path down a way of names. -/
theorem descends_way (hlegal : t.Legal) (hn : t.node? (place ++ way) = some node) (search : Path) :
    search.Descends (search.child ("/".intercalate way)) way := by
  have hnames : ∀ name ∈ way, Tree.Nameable name := fun name hname =>
    hlegal.entry _ _ hn name (List.mem_append_right place hname)
  exact Path.descends_joined (fun name hname => (hnames name hname).plain)
    (fun hup => (hnames _ hup).not_up rfl) search

theorem offered_iff (hlegal : t.Legal) (hl : t.locate search = .ok place) :
    Offered t search path node ↔ ∃ way, (way, node) ∈ t.below place ∧
      Text.endsWith (way.getLast?.getD "") ".j2" ∧ path = search.child ("/".intercalate way) := by
  constructor
  · intro h
    obtain ⟨place', above, last, hl', hn, hends, hdown⟩ := h
    rw [hl] at hl'
    cases hl'
    refine ⟨above ++ [last], mem_below.2 ⟨by simp, hn⟩, ?_, ?_⟩
    · rwa [List.getLast?_concat]
    · have hchild := descends_way hlegal hn search
      exact Path.ext (hdown.anchor.trans hchild.anchor.symm) (hdown.parts.trans hchild.parts.symm)
  · rintro ⟨way, hmem, hends, rfl⟩
    obtain ⟨hne, hn⟩ := mem_below.1 hmem
    have hdown := descends_way hlegal hn search
    obtain ⟨above, last, rfl⟩ := (List.eq_nil_or_concat' way).resolve_left hne
    rw [List.getLast?_concat] at hends
    exact .below place above last hl hn hends hdown

theorem shown?_eq_some {s : String} : shown? dir search way = some s ↔
    Text.endsWith (way.getLast?.getD "") ".j2" ∧
      ∃ name, Path.LeadsOn dir (search.child ("/".intercalate way)) name ∧ name.text = s := by
  unfold shown?
  split
  · rename_i hends
    rw [Option.map_eq_some_iff]
    simp only [Path.below?_eq_some, hends, true_and]
  · rename_i hends
    simp [hends]

/-- Two ways are not shown under one name. -/
theorem shown_nodup (hlegal : t.Legal) (dir search : Path) (place : Location) :
    ((t.below place).filterMap fun e => shown? dir search e.1).Nodup := by
  have hways := nodup_below t place
  rw [List.Nodup, List.pairwise_map] at hways
  rw [List.Nodup, List.pairwise_filterMap]
  refine hways.imp_of_mem fun {e e'} he he' hne s hs s' hs' hsame => hne ?_
  obtain ⟨-, name, hleads, rfl⟩ := shown?_eq_some.1 hs
  obtain ⟨-, name', hleads', rfl⟩ := shown?_eq_some.1 hs'
  obtain rfl : name = name' := by rw [← name.ofText_text, hsame, name'.ofText_text]
  have hpath := hleads.joined.symm.trans hleads'.joined
  have hparts := (descends_way hlegal (mem_below.1 he).2 search).parts
  rw [hpath, (descends_way hlegal (mem_below.1 he').2 search).parts] at hparts
  exact (List.append_cancel_left hparts).symm

theorem mergeSort_pairwise_lt {ss : List String} (h : ss.Nodup) :
    (ss.mergeSort fun s s' => decide (s ≤ s')).Pairwise (· < ·) := by
  have hsorted := (Field.sortedLT_sortedSet ss).pairwise
  rwa [Field.sortedSet, eraseDups_of_nodup h] at hsorted

/-- The text by which a template is opened is not shorter than that of its path. -/
theorem size_text_le_openedText (h : name.anchor = .relative) :
    (dir.join name).text.utf8ByteSize ≤ (openedText dir name.parts).utf8ByteSize := by
  unfold openedText
  split
  · rename_i hhere
    rw [Bool.and_eq_true, decide_eq_true_eq, List.isEmpty_iff] at hhere
    obtain ⟨hanchor, hparts⟩ := Path.join_relative dir h
    rw [hhere.2, List.nil_append] at hparts
    rw [Path.text, Path.text, hanchor, hhere.1, hparts, hhere.2]
    simp only [String.utf8ByteSize_append]
    split
    · show 1 ≤ 1 + 1 + _
      omega
    · show (Path.Anchor.text .relative ++ _).utf8ByteSize ≤ _
      rw [String.utf8ByteSize_append]
      show 0 + _ ≤ _
      omega
  · rw [Path.ofText_parts h]

/-- What is read under the name of an entry. -/
theorem source?_of_offered (hlegal : t.Legal) (h : Offered t search path node)
    (hleads : Path.LeadsOn dir path name) : source? t dir name.parts =
      if (openedText dir name.parts).utf8ByteSize ≤ Tree.pathLimit then
        match node with
        | .file octets => some octets
        | .directory => none
      else none := by
  obtain ⟨place, above, last, hl, hn, -, hdown⟩ := h
  obtain ⟨hrelative, rfl⟩ := hleads
  unfold source?
  by_cases hshort : (openedText dir name.parts).utf8ByteSize ≤ Tree.pathLimit
  · have hlocate := hlegal.locate_down hdown hl hn
    rw [if_pos (Nat.le_trans (size_text_le_openedText hrelative) hshort)] at hlocate
    rw [if_neg (Nat.not_lt.2 hshort), if_pos hshort, Path.ofText_parts hrelative, Tree.inspect_located hlocate, hn]
    cases node <;> rfl
  · rw [if_neg hshort, if_pos (Nat.lt_of_not_le hshort)]

/-- Only loading finds that a template is missing. -/
theorem render_missing_iff {store : Store} {s : String} {bindings : Bindings} :
    store.render t s bindings = .error (.template s (.notFound store.label)) ↔
      store.load t s = .error (.template s (.notFound store.label)) := by
  unfold render
  cases hl : store.load t s with
  | error failure =>
    constructor <;> intro h <;> cases h <;> rfl
  | ok template =>
    refine ⟨fun h => ?_, nofun⟩
    change (template.render .off bindings).mapError (Failure.ofTemplate s) = _ at h
    cases hr : template.render .off bindings with
    | ok text =>
      rw [hr] at h
      cases h
    | error fault =>
      rw [hr, mapError_error, Except.error.injEq] at h
      unfold Failure.ofTemplate at h
      split at h
      · cases h
      · cases h
        exact absurd hr (render_ne (.inr ⟨_, rfl⟩))

theorem load_missing_iff {s : String} :
    (directory dir).load t s = .error (.template s (.notFound dir.text)) ↔
      ∀ parts, nameParts? s = some parts → source? t dir parts = none := by
  unfold load
  dsimp only
  cases hparts : nameParts? s with
  | none => exact ⟨fun _ _ => nofun, fun _ => rfl⟩
  | some parts =>
    dsimp only
    cases hsource : source? t dir parts with
    | none =>
      refine ⟨fun _ parts' h => ?_, fun _ => rfl⟩
      cases h
      exact hsource
    | some octets =>
      have hsome : ¬ ∀ parts', some parts = some parts' → source? t dir parts' = none := by
        intro h
        rw [h parts rfl] at hsource
        cases hsource
      refine ⟨fun h => ?_, fun h => absurd h hsome⟩
      dsimp only at h
      split at h
      · cases h
      · cases hread : Template.ofText (.ofList ‹List Char›) with
        | error fault =>
          rw [hread] at h
          cases h
        | ok template =>
          rw [hread] at h
          cases h

/-- What an entry has to be for its name to be the name of a template. -/
structure Loadable (dir name : Path) (node : Node) : Prop where
  file : ∃ octets, node = .file octets
  down : ".." ∉ name.parts
  short : (openedText dir name.parts).utf8ByteSize ≤ Tree.pathLimit

theorem load_offered_iff (hlegal : t.Legal) (h : Offered t search path node)
    (hleads : Path.LeadsOn dir path name) :
    (directory dir).load t name.text ≠ .error (.template name.text (.notFound dir.text)) ↔
      Loadable dir name node := by
  have hsource := source?_of_offered hlegal h hleads
  rw [Ne, load_missing_iff, nameParts?_text hleads.relative]
  by_cases hup : ".." ∈ name.parts
  · rw [if_pos hup]
    exact ⟨fun hall => absurd (fun _ => nofun) hall, fun hloadable => absurd hup hloadable.down⟩
  · rw [if_neg hup]
    simp only [Option.some.injEq, forall_eq']
    rw [hsource]
    by_cases hshort : (openedText dir name.parts).utf8ByteSize ≤ Tree.pathLimit
    · rw [if_pos hshort]
      cases node with
      | directory => exact ⟨fun hne => absurd rfl hne, fun hloadable => nomatch hloadable.file⟩
      | file octets => exact ⟨fun _ => ⟨⟨octets, rfl⟩, hup, hshort⟩, fun _ => nofun⟩
    · rw [if_neg hshort]
      exact ⟨fun hne => absurd rfl hne, fun hloadable => absurd hloadable.short hshort⟩

/-- A listing shows every entry that is a template by its ending, once and in order, under its path
from the directory, and it shows nothing else. The name is that of a template exactly if the entry
can be loaded. -/
theorem listing_shows_entries (hlegal : t.Legal) (h : (directory dir).list t start = .ok names) :
    names.Pairwise (· < ·) ∧
      (∀ path node, Offered t (searchPath dir start) path node →
        ∃ name, Path.LeadsOn dir path name ∧ name.text ∈ names) ∧
      (∀ s ∈ names, ∃ path node name, Offered t (searchPath dir start) path node ∧
        Path.LeadsOn dir path name ∧ name.text = s) ∧
      ∀ path node name, Offered t (searchPath dir start) path node → Path.LeadsOn dir path name →
        ((∀ bindings, (directory dir).render t name.text bindings
          ≠ .error (.template name.text (.notFound dir.text))) ↔ Loadable dir name node) := by
  refine ⟨?ordered, ?complete, ?sound, ?loaded⟩
  case loaded =>
    intro path node name hoffered hleads
    rw [← load_offered_iff hlegal hoffered hleads]
    have hmissing (bindings : Bindings) :=
      @render_missing_iff t (directory dir) name.text bindings
    exact ⟨fun hall hload => hall [] ((hmissing []).2 hload),
      fun hload bindings hrender => hload ((hmissing bindings).1 hrender)⟩
  all_goals
    rcases list_ok h with ⟨hnone, rfl⟩ | ⟨place, hl, hn, rfl, hall⟩
  case ordered.inl => exact List.Pairwise.nil
  case ordered.inr => exact mergeSort_pairwise_lt (shown_nodup hlegal dir _ place)
  case complete.inl =>
    intro path node hoffered
    obtain ⟨place, above, last, hl, hn, -, -⟩ := hoffered
    have hthere := Tree.isDirectory?_eq_true.2
      ⟨place, hl, Tree.directory_above hn (List.append_ne_nil_of_right_ne_nil _ (List.cons_ne_nil _ _))⟩
    rw [hnone] at hthere
    cases hthere
  case complete.inr =>
    intro path node hoffered
    obtain ⟨way, hmem, hends, rfl⟩ := (offered_iff hlegal hl).1 hoffered
    obtain ⟨s, hs⟩ := Option.ne_none_iff_exists'.1 (hall _ hmem hends)
    obtain ⟨-, name, hleads, rfl⟩ := shown?_eq_some.1 hs
    exact ⟨name, hleads, List.mem_mergeSort.2 (List.mem_filterMap.2 ⟨_, hmem, hs⟩)⟩
  case sound.inl => exact fun s hs => nomatch hs
  case sound.inr =>
    intro s hs
    obtain ⟨⟨way, node⟩, hmem, hs⟩ := List.mem_filterMap.1 (List.mem_mergeSort.1 hs)
    obtain ⟨hends, name, hleads, hname⟩ := shown?_eq_some.1 hs
    exact ⟨_, node, name, (offered_iff hlegal hl).2 ⟨way, hmem, hends, rfl⟩, hleads, hname⟩

/-- A directory with a template and a directory that is called like one. -/
def partialsTree : Tree :=
  let t := (Tree.empty.ensureDirectory (.ofText "tpl/partials.j2")).1
  ((t.create (.ofText "tpl/a.j2") (.file [])).toOption).getD t

theorem legal_partialsTree : partialsTree.Legal := by
  have hdirectory := Tree.legal_empty.ensureDirectory (.ofText "tpl/partials.j2")
  unfold partialsTree
  dsimp only
  cases hc : (Tree.empty.ensureDirectory (.ofText "tpl/partials.j2")).1.create (.ofText "tpl/a.j2")
      (.file []) with
  | error fault => exact hdirectory
  | ok t => exact hdirectory.create hc

theorem list_partialsTree :
    (directory (.ofText "tpl")).list partialsTree "" = .ok ["a.j2", "partials.j2"] := by
  have hfacts : (partialsTree.locate (searchPath (.ofText "tpl") "")).toOption = some ["tpl"] ∧
      partialsTree.node? ["tpl"] = some .directory ∧
      ((partialsTree.below ["tpl"]).mapM fun e =>
        listed? partialsTree (.ofText "tpl") (searchPath (.ofText "tpl") "") e.1 e.2).toOption
          = some [some "a.j2", some "partials.j2"] := by
    decide +kernel
  obtain ⟨hl, hn, hshown⟩ := hfacts
  rw [list_of_listed (ok_of_toOption hl) hn (ok_of_toOption hshown)]
  exact congrArg Except.ok (List.mergeSort_of_pairwise (by decide))

theorem partials_listing_shows_entries :
    partialsTree.Legal ∧
      (directory (.ofText "tpl")).list partialsTree "" = .ok ["a.j2", "partials.j2"] ∧
      ["a.j2", "partials.j2"].Pairwise (· < ·) ∧
      ∀ path node name, Offered partialsTree (.ofText "tpl") path node →
        Path.LeadsOn (.ofText "tpl") path name →
        ((∀ bindings, (directory (.ofText "tpl")).render partialsTree name.text bindings
          ≠ .error (.template name.text (.notFound "tpl"))) ↔ Loadable (.ofText "tpl") name node) := by
  obtain ⟨hordered, -, -, hloaded⟩ := listing_shows_entries legal_partialsTree list_partialsTree
  exact ⟨legal_partialsTree, list_partialsTree, hordered, hloaded⟩

/-- A directory is shown like a template, but is not found as one. -/
theorem directory_listed_not_found :
    (∃ names, (directory (.ofText "tpl")).list partialsTree "" = .ok names ∧
      "partials.j2" ∈ names) ∧
      ∀ bindings, (directory (.ofText "tpl")).render partialsTree "partials.j2" bindings
        = .error (.template "partials.j2" (.notFound "tpl")) := by
  refine ⟨⟨_, list_partialsTree, by decide⟩, fun bindings => ?_⟩
  refine render_missing_iff.2 (load_missing_iff.2 fun parts hparts => ?_)
  obtain rfl : ["partials.j2"] = parts := Option.some.inj hparts
  decide +kernel

end Store

end Template

end Groundwork
