import Groundwork.Proofs.Generate.NewBuildFile
import Groundwork.Proofs.Generate.NewProject
import Groundwork.Proofs.Generate.Unfailing
import Groundwork.Proofs.Text.Document

/-!
# The build file of a new project as a document

The template of the build file has its tags in order, whatever is in the list. The values of the
project stand between its tags as they are. So the build file is read, with the name of the project
in it, where these values are bare. A name that is not bare is never read back: reading takes less
of it than there is.
-/

namespace Groundwork

open Template Text Document

namespace Template.Shape

variable {target : List (List Char)} {q q' : State} {b : Bindings} {shape taken : Shape}

/-- What a shape with bare values leads to, and what is taken of it. -/
def read (target : List (List Char)) (q : State) : Shape → Option (State × Shape)
  | [] => some (q, [])
  | .own cs :: rest => (run target q cs).bind fun (q', out) =>
    (read target q' rest).map fun (q'', more) => (q'', write out more)
  | .named n :: rest =>
    if q.mode = .text ∧ q.place.path ≠ [] then
      (read target q rest).map fun (q', more) =>
        (q', if q.place.phase = .inside then .named n :: more else more)
    else none

theorem run_chars (hread : read target q shape = some (q', taken))
    (hb : ∀ n ∈ names shape, ∀ c ∈ (b.written n).toList, Bare c) :
    run target q (chars b shape) = some (q', chars b taken) := by
  induction shape generalizing q taken with
  | nil =>
    cases hread
    rfl
  | cons piece rest ih =>
    cases piece with
    | own cs =>
      obtain ⟨⟨mid, out⟩, hrun, hread⟩ := Option.bind_eq_some_iff.1 hread
      obtain ⟨⟨last, more⟩, hrest, he⟩ := Option.map_eq_some_iff.1 hread
      cases he
      rw [chars_own, chars_write]
      exact run_append_of_eq hrun (ih hrest hb)
    | named n =>
      rw [read] at hread
      split at hread
      case isFalse => cases hread
      case isTrue hplace =>
        obtain ⟨hmode, hpath⟩ := hplace
        obtain ⟨⟨last, more⟩, hrest, he⟩ := Option.map_eq_some_iff.1 hread
        cases he
        obtain ⟨hn, hnames⟩ := List.forall_mem_cons.1 hb
        have hvalue : run target q (b.written n).toList = some (q, _) :=
          run_of_bare hmode hpath hn
        rw [chars_named, run_append_of_eq hvalue (ih hrest hnames)]
        split
        · rw [chars_named]
        · rw [List.nil_append]

end Template.Shape

namespace Template.Bundled

/-- Where a build file has the name of its project. -/
def nameTarget : List (List Char) :=
  (["project", "name"].map String.toList).reverse

/-- Inside the element for the name. -/
def naming : State :=
  ⟨.text, ["name".toList, "project".toList], true, .inside⟩

/-- Between the elements of the project, after its name. -/
def between (path : List String) : State :=
  ⟨.text, path.map String.toList, true, .after⟩

def beforeName (shape : Shape) : Shape :=
  shape.takeWhile (· ≠ .named "project_name")

/-- The name is followed by the closing tag. -/
def closesName : Shape → Bool
  | .named n :: .own cs :: _ => n = "project_name" && (closeTag "name").isPrefixOf cs
  | _ => false

/-- What is checked of the text in front of the list, to read it. -/
structure Named (shape : Shape) : Prop where
  read : shape.read nameTarget start = some (between ["project"], [.named "project_name"])
  before : (beforeName shape).read nameTarget start = some (naming, [])
  closes : closesName (shape.dropWhile (· ≠ .named "project_name"))
  names : ∀ n ∈ shape.names, n ∈ ProjectSheet.textNames
  others : ∀ n ∈ (beforeName shape).names, n ∈ ProjectSheet.textNames ∧ n ≠ "project_name"

instance (shape : Shape) : Decidable (Named shape) :=
  decidable_of_iff (_ ∧ _ ∧ _ ∧ _ ∧ _)
    ⟨fun ⟨h₁, h₂, h₃, h₄, h₅⟩ => ⟨h₁, h₂, h₃, h₄, h₅⟩,
      fun h => ⟨h.read, h.before, h.closes, h.names, h.others⟩⟩

/-- The build file in front of its list, in one round of its list, and after its list, as it is
read. -/
theorem buildFile_read : ∃ front body rest : Template,
    buildFile = front.followedBy (.text "    <dependencies>\n" <|
      .loop "dependency" (.name "dependencies") body .done <|
      .text "    </dependencies>\n" rest) ∧
    (∃ sp : Spelling front, ∀ p ∈ Packaging.all,
      (settle (buildValues p) sp []).any fun shape => Named shape) ∧
    (∃ sp : Spelling body, ∀ d ∈ Dependency.catalogue,
      settle [("dependency", d.entry)] sp [] = some [.own d.lines]) ∧
    ∃ sp : Spelling rest,
      (∀ listed : Bool, (settle (listing listed) sp []).any fun shape =>
        shape.names = [] ∧ shape.read nameTarget (between ["project"]) = some (finish, [])) ∧
      ∀ b b' : Bindings, excluding.eval b = excluding.eval b' → AgreeOn rest b b' :=
  ⟨upToList buildFile, _, _, rfl, ⟨by repeat' constructor, by decide +kernel⟩,
    ⟨by repeat' constructor, by decide +kernel⟩,
    ⟨by repeat' constructor, by decide +kernel,
      fun _ _ h => ⟨h, trivial, trivial, trivial⟩⟩⟩

theorem run_lines : ∀ d ∈ Dependency.catalogue,
    run nameTarget (between ["dependencies", "project"]) d.lines
      = some (between ["dependencies", "project"], []) := by
  decide +kernel

end Template.Bundled

namespace ProjectSheet

open Template.Bundled

variable {b : Blueprint} {s : ProjectSheet} {inks : List Ink} {n : String} {c : Char}

/-- The values of a build file next to the names of the project. -/
def besides (s : ProjectSheet) : List String :=
  [s.bootVersion.written, s.group.written, s.javaVersion]

theorem bare_slug {text : String} (h : c ∈ (Name.slug text).toList) : Bare c := by
  rcases Name.isSlugChar_of_mem_slug h with rfl | hc
  · decide
  · constructor
    · rintro rfl
      cases hc
    · rintro rfl
      cases hc

/-- All values but the name of the project are bare. -/
theorem bare_written (hs : Drawn b s) (hplain : ∀ t ∈ s.besides, ∀ c ∈ t.toList, Bare c)
    (hn : n ∈ textNames) (hother : n ≠ "project_name") (hc : c ∈ (s.bindings.written n).toList) :
    Bare c := by
  have hartifact : s.bindings.written "artifact_id" = s.artifact := rfl
  simp only [besides, List.forall_mem_cons] at hplain
  simp only [textNames, List.mem_cons, List.not_mem_nil, or_false] at hn
  rcases hn with rfl | rfl | rfl | rfl | rfl
  · exact hplain.1 c hc
  · exact hplain.2.1 c hc
  · rw [hartifact, hs.artifact] at hc
    exact bare_slug hc
  · exact absurd rfl hother
  · exact hplain.2.2.1 c hc

/-- The text in front of the list with the name in it. -/
theorem chars_of_closesName {shape : Shape}
    (h : closesName (shape.dropWhile (· ≠ .named "project_name"))) :
    ∃ behind, shape.chars s.bindings = (beforeName shape).chars s.bindings
      ++ (s.name.toList ++ (closeTag "name" ++ behind)) := by
  have hsplit : beforeName shape ++ shape.dropWhile (· ≠ .named "project_name") = shape :=
    List.takeWhile_append_dropWhile
  unfold closesName at h
  split at h
  · rename_i n cs rest hdrop
    rw [Bool.and_eq_true, decide_eq_true_eq] at h
    obtain ⟨rfl, hcloses⟩ := h
    obtain ⟨more, rfl⟩ := List.isPrefixOf_iff_prefix.1 hcloses
    have hname : s.bindings.written "project_name" = s.name := rfl
    refine ⟨more ++ Shape.chars s.bindings rest, ?_⟩
    rw [hdrop] at hsplit
    have hchars := Shape.chars_append s.bindings (beforeName shape)
      (.named "project_name" :: .own (closeTag "name" ++ more) :: rest)
    rwa [hsplit, Shape.chars_named, Shape.chars_own, hname, List.append_assoc] at hchars
  · cases h

/-- The list and what follows it are read to the end. -/
theorem run_list {ds : List Dependency} {after : List Char}
    (hds : ∀ d ∈ ds, d ∈ Dependency.catalogue)
    (hafter : run nameTarget (between ["project"]) after = some (finish, [])) :
    run nameTarget (between ["project"]) ("    ".toList ++ (openTag "dependencies"
        ++ ('\n' :: ds.flatMap Dependency.lines ++ "    ".toList
          ++ (closeTag "dependencies" ++ '\n' :: after)))) = some (finish, []) := by
  have hopen : run nameTarget (between ["project"])
      ("    ".toList ++ openTag "dependencies" ++ ['\n'])
      = some (between ["dependencies", "project"], []) := by
    decide +kernel
  have hclose : run nameTarget (between ["dependencies", "project"])
      ("    ".toList ++ closeTag "dependencies" ++ ['\n'])
      = some (between ["project"], []) := by
    decide +kernel
  have hlines := run_flatMap fun d hd => run_lines d (hds d hd)
  have hrun := run_append_of_eq hopen (run_append_of_eq hlines (run_append_of_eq hclose hafter))
  simp only [List.append_assoc, List.cons_append, List.nil_append] at hrun ⊢
  exact hrun

/-- A build file whose other values are bare is read, with the name in its place, where the name is
bare as well. -/
theorem names_of_print (hs : Drawn b s) (hplain : ∀ t ∈ s.besides, ∀ c ∈ t.toList, Bare c)
    (hprint : buildFile.print s.bindings = .ok inks) :
    text? ["project", "name"] (Ink.text inks) = some s.name ↔ ∀ c ∈ s.name.toList, Bare c := by
  obtain ⟨front, body, rest, hbuildFile, ⟨spFront, hfront⟩, ⟨spBody, hbody⟩, spRest, hrest,
    hagree⟩ := buildFile_read
  rw [hbuildFile] at hprint
  obtain ⟨before, following, hbefore, hfollowing, rfl⟩ := print_followedBy hprint
  obtain ⟨after, hafter, hlist⟩ := list_of_print hbody hfollowing
  obtain ⟨shape, hshape, hchars⟩ := settled_front hfront hbefore
  have hnamed : Named shape := of_decide_eq_true hshape
  have hback : run nameTarget (between ["project"]) (following.map Ink.char)
      = some (finish, []) := by
    obtain ⟨listed, shape', -, hread, hchars'⟩ := settled_rest hrest hagree hafter
    obtain ⟨hnone, hread⟩ := of_decide_eq_true hread
    rw [hlist]
    refine run_list (fun d => mem_catalogue) ?_
    rw [hchars']
    refine Shape.run_chars hread fun n hn => ?_
    rw [hnone] at hn
    cases hn
  have htext : (Ink.text (before ++ following)).toList
      = shape.chars s.bindings ++ following.map Ink.char := by
    rw [Ink.text, String.toList_ofList, List.map_append, hchars]
  constructor
  · intro h
    obtain ⟨behind, hsplit⟩ := chars_of_closesName (s := s) hnamed.closes
    have hstart := Shape.run_chars hnamed.before fun n hn c hc =>
      bare_written hs hplain (hnamed.others n hn).1 (hnamed.others n hn).2 hc
    have hx : (Ink.text (before ++ following)).toList = (beforeName shape).chars s.bindings
        ++ (s.name.toList ++ (closeTag "name" ++ (behind ++ following.map Ink.char))) := by
      rw [htext, hsplit]
      simp only [List.append_assoc]
    exact bare_of_text? hx (List.all_eq_true.1 (by decide)) hstart rfl rfl h
  · intro hbare
    have hname : s.bindings.written "project_name" = s.name := rfl
    have hvalues : ∀ n ∈ shape.names, ∀ c ∈ (s.bindings.written n).toList, Bare c := by
      intro n hn c hc
      by_cases hn' : n = "project_name"
      · rw [hn', hname] at hc
        exact hbare c hc
      · exact bare_written hs hplain (hnamed.names n hn) hn' hc
    have hrun := run_append_of_eq (Shape.run_chars hnamed.read hvalues) hback
    rw [Shape.chars_named, Shape.chars_nil, List.append_nil, List.append_nil, hname] at hrun
    rw [text?_iff, htext]
    exact hrun

end ProjectSheet

/-- Whatever a project is called and has in it, its build file is rendered; and where the versions
and the group of the project are bare, the build file is a document whose name element has the name
of the project in it exactly if that name is bare. -/
theorem build_file_names_project_iff (b : Blueprint) (s : ProjectSheet)
    (hsheet : Sheet.ofBlueprint b = .ok (.project s))
    (hplain : ∀ t ∈ s.besides, ∀ c ∈ t.toList, Bare c) (tree : Tree) :
    ∃ x, Store.bundled.render tree "project/pom.xml.j2" s.bindings = .ok x ∧
      (text? ["project", "name"] x = some b.title ↔ ∀ c ∈ b.title.toList, Bare c) := by
  have hs := ProjectSheet.drawn (Sheet.project_of_ok hsheet)
  have hmem : "project/pom.xml.j2" ∈ Artifact.project.templates := List.mem_cons_self
  obtain ⟨x, hx⟩ := Sheet.renders (s := .project s) hmem tree
  refine ⟨x, hx, ?_⟩
  obtain ⟨inks, hprint, rfl⟩ := Bundled.print_of_render rfl hx
  rw [← hs.name]
  exact ProjectSheet.names_of_print hs hplain hprint

/-- A project whose name has quotes in it, and what would end a tag. -/
def quotedShop : Blueprint where
  kind := .project
  name := " Q's \"A > B\" shop]]> "
  package := "com.shop"
  options :=
    [("dependencies", .list [.text "web", .text "lombok", .text "jpa"]),
      ("database", .text "postgresql"), ("packaging", .text "war")]

theorem quotedShop_named :
    ∃ s, Sheet.ofBlueprint quotedShop = .ok (.project s) ∧
      (∀ t ∈ s.besides, ∀ c ∈ t.toList, Bare c) ∧
      ∃ x, Store.bundled.render .empty "project/pom.xml.j2" s.bindings = .ok x ∧
        (text? ["project", "name"] x = some quotedShop.title ↔
          ∀ c ∈ quotedShop.title.toList, Bare c) := by
  have hok : (ProjectSheet.ofBlueprint quotedShop).toOption.any fun s =>
      s.besides.all (·.toList.all (Bare ·)) := by
    decide +kernel
  obtain ⟨s, hs, hall⟩ := (Option.any_eq_true _ _).1 hok
  have hplain : ∀ t ∈ s.besides, ∀ c ∈ t.toList, Bare c := by simpa using hall
  have hsheet := Sheet.ok_of_project rfl (if_neg (by decide +kernel)) (ok_of_toOption hs)
  exact ⟨s, hsheet, hplain, build_file_names_project_iff quotedShop s hsheet hplain .empty⟩

/-- A project with an ampersand in its name, and nothing else said of it. -/
def ampersandShop : Blueprint where
  kind := .project
  name := "R&D"
  package := "com.shop"

theorem ampersandShop_unread :
    ∃ s x, Sheet.ofBlueprint ampersandShop = .ok (.project s) ∧ ampersandShop.title = "R&D" ∧
      Store.bundled.render .empty "project/pom.xml.j2" s.bindings = .ok x ∧
      text? ["project", "name"] x ≠ some ampersandShop.title := by
  have hok : (ProjectSheet.ofBlueprint ampersandShop).toOption.any fun s =>
      s.besides.all (·.toList.all (Bare ·)) && s.name == "R&D" := by
    decide +kernel
  have htitle : ampersandShop.title = "R&D" := by decide +kernel
  obtain ⟨s, hs, hall⟩ := (Option.any_eq_true _ _).1 hok
  obtain ⟨hplain, hname⟩ : (∀ t ∈ s.besides, ∀ c ∈ t.toList, Bare c) ∧ s.name = "R&D" := by
    simpa using hall
  have hsheet := Sheet.ok_of_project rfl (if_neg (by decide +kernel)) (ok_of_toOption hs)
  obtain ⟨x, hx⟩ := Sheet.renders (s := .project s) List.mem_cons_self .empty
  obtain ⟨inks, hprint, rfl⟩ := Bundled.print_of_render rfl hx
  have hiff := ProjectSheet.names_of_print (ProjectSheet.drawn (ok_of_toOption hs)) hplain hprint
  refine ⟨s, _, hsheet, htitle, hx, fun hread => ?_⟩
  rw [htitle, ← hname] at hread
  have hbare := hiff.1 hread
  rw [hname] at hbare
  exact absurd (hbare '&' (by decide)) (by decide)

end Groundwork
