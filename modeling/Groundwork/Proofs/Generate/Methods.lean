import Groundwork.Proofs.Generate.SourceLines
import Groundwork.Proofs.Generate.Unfailing
import Groundwork.Proofs.Request
import Groundwork.Proofs.Template.Calls
import Groundwork.Proofs.Text.Signature

/-!
# The methods of a service

An interface declares methods, a class implements them, a class without an interface has them
itself, and a controller calls them. The four sources come from four templates with switches of
their own. What they have in common is the list of the methods of the service: all of them are read
off the sources again, and the controller calls none but these.
-/

namespace Groundwork

open Template Text

namespace ServiceSheet

/-- What the templates of a service choose by. -/
def choices (crud transactional validation : Bool) : Bindings :=
  [("include_crud", .bool crud), ("include_transactional", .bool transactional),
    ("include_validation", .bool validation)]

theorem knows_choices (s : ServiceSheet) :
    Knows (choices s.crud s.transactional s.validation) s.bindings := by
  intro n v h
  have hmem := mem_of_lookup h
  simp only [choices, List.mem_cons, List.not_mem_nil, or_false, Prod.mk.injEq] at hmem
  rcases hmem with ⟨rfl, rfl⟩ | ⟨rfl, rfl⟩ | ⟨rfl, rfl⟩ <;> rfl

/-- The methods that find objects. -/
def findingMethods (s : ServiceSheet) : List Signature :=
  [⟨"List<" ++ s.model ++ ">", "findAll", []⟩,
    ⟨"Optional<" ++ s.model ++ ">", "findById", [("Long", "id")]⟩]

/-- The methods that change what is stored. -/
def changingMethods (s : ServiceSheet) : List Signature :=
  let object := (s.model, Name.lowerFirst s.model)
  [⟨s.model, "save", [object]⟩, ⟨"Optional<" ++ s.model ++ ">", "update", [("Long", "id"), object]⟩,
    ⟨"void", "deleteById", [("Long", "id")]⟩]

/-- The methods of a service, in the order in which they are declared. -/
def methods (s : ServiceSheet) : List Signature :=
  s.findingMethods ++ if s.crud then s.changingMethods else []

/-- The head of the constructor of the class that has the methods. -/
def constructorOf (s : ServiceSheet) (className : String) : String :=
  className ++ "(" ++ s.repository ++ " " ++ Name.lowerFirst s.repository ++ ")"

end ServiceSheet

/-- The name of the attribute by which a controller has its service. -/
def ControllerSheet.serviceField (s : ControllerSheet) : String :=
  Name.lowerFirst s.service

namespace Template

namespace Shape

/-- A shape with text of its own behind it. -/
def close (cs : List Char) : Shape → Shape
  | [] => [.own cs]
  | [.own cs'] => [.own (cs' ++ cs)]
  | p :: rest => p :: close cs rest

/-- A shape with text of its own in front of it and behind it. -/
def wrap (front back : String) (shape : Shape) : Shape :=
  write front.toList (close back.toList shape)

variable {b : Bindings}

@[simp] theorem chars_close (b : Bindings) (cs : List Char) (shape : Shape) :
    chars b (close cs shape) = chars b shape ++ cs := by
  induction shape using close.induct with
  | case1 => simp [close]
  | case2 cs' => simp [close]
  | case3 p rest hne ih =>
    rw [close, chars_cons, chars_cons b p rest, ih, List.append_assoc]
    exact hne

theorem between?_wrap (front back : String) (shape : Shape) :
    between? front back (line b (wrap front back shape)) = some (line b shape) := by
  refine between?_of_line ?_
  simp [line, wrap]

theorem filterMap_wrap (front back : String) (shapes : List Shape) :
    ((shapes.map (wrap front back)).map (line b)).filterMap (between? front back)
      = shapes.map (line b) := by
  induction shapes with
  | nil => rfl
  | cons shape rest ih =>
    rw [List.map_cons, List.map_cons, List.filterMap_cons, between?_wrap, ih, List.map_cons]

end Shape

/-- What the lines of a source have between a front and a back is known in advance. -/
theorem Begun.linesBetween {front back x : String} {shapes ls : List Shape} {b : Bindings}
    (h : Begun front (shapes.map (Shape.wrap front back)) ls) (hfront : front ≠ "")
    (hx : pieces '\n' x = ls.map (Shape.line b) ++ [""]) :
    linesBetween front back x = shapes.map (Shape.line b) := by
  rw [Text.linesBetween, h.filterMap_pieces hfront (fun _ => prefix_of_between?) hx,
    Shape.filterMap_wrap]

namespace Bundled

/-- A method as the templates have it: its name, its signature, and what a call of it has after the
open parenthesis. -/
structure Method where
  name : List Char
  signature : Shape
  call : Shape

/-- The places of a method, filled with values, stand for this signature and for calls of it. -/
structure Method.Stands (b : Bindings) (k : Method) (g : Signature) : Prop where
  name : g.name.toList = k.name
  signature : k.signature.chars b = g.text.toList
  call : k.call.chars b = (g.arguments ++ ")").toList

def findingShapes : List Method :=
  [⟨"findAll".toList, [.own "List<".toList, .named "model_name", .own "> findAll()".toList],
      [.own ")".toList]⟩,
    ⟨"findById".toList,
      [.own "Optional<".toList, .named "model_name", .own "> findById(Long id)".toList],
      [.own "id)".toList]⟩]

def changingShapes : List Method :=
  let object : Shape := [.named "model_instance_name", .own ")".toList]
  [⟨"save".toList, .named "model_name" :: .own " save(".toList :: .named "model_name" ::
        .own " ".toList :: object, object⟩,
    ⟨"update".toList, .own "Optional<".toList :: .named "model_name" ::
        .own "> update(Long id, ".toList :: .named "model_name" :: .own " ".toList :: object,
      .own "id, ".toList :: object⟩,
    ⟨"deleteById".toList, [.own "void deleteById(Long id)".toList], [.own "id)".toList]⟩]

/-- The methods of a service as the templates have them. -/
def methodShapes (crud : Bool) : List Method :=
  findingShapes ++ if crud then changingShapes else []

def serviceConstructorShape (className : String) : Shape :=
  [.named className, .own "(".toList, .named "repository_name", .own " ".toList,
    .named "repository_instance_name", .own ")".toList]

def overrideShape : Shape :=
  [.own "    @Override".toList]

/-- The lines that override methods are followed by the heads of these. -/
structure Overriding (signatures ls : List Shape) : Prop where
  marked : ∀ line ∈ ls, line = overrideShape ∨ line.begins? "    @Override".toList = some false
  skipped : ∀ line ∈ ls, (line.begins? "    @Transactional".toList).isSome
  heads : following (· = overrideShape) (Shape.begins? "    @Transactional".toList · = some true) ls
    = signatures.map (Shape.wrap "    public " " \x7b")

instance (signatures ls : List Shape) : Decidable (Overriding signatures ls) :=
  decidable_of_iff (_ ∧ _ ∧ _)
    ⟨fun ⟨h₁, h₂, h₃⟩ => ⟨h₁, h₂, h₃⟩, fun h => ⟨h.marked, h.skipped, h.heads⟩⟩

theorem Overriding.following_lines {signatures ls : List Shape} (h : Overriding signatures ls)
    (b : Bindings) :
    following (· = "    @Override") ("    @Transactional".toList.isPrefixOf ·.toList)
        (ls.map (Shape.line b))
      = (signatures.map (Shape.wrap "    public " " \x7b")).map (Shape.line b) := by
  rw [← h.heads]
  refine following_map (fun line hline => ?_) (fun line hline => ?_)
  · rw [decide_eq_decide]
    rcases h.marked line hline with rfl | hother
    · exact iff_of_true (by simp [overrideShape]) rfl
    · refine iff_of_false (fun hsame => ?_) (fun hsame => ?_)
      · have hprefix : "    @Override".toList <+: Shape.chars b line := by
          rw [← hsame, Shape.line, String.toList_ofList]
        exact Bool.false_ne_true ((Shape.begins_chars hother).1 hprefix)
      · rw [hsame] at hother
        exact absurd hother (by decide)
  · exact Shape.isPrefixOf_line (h.skipped line hline)

/-- The names of the values in the body of a method of a controller. -/
def bodyNames : List String :=
  ["model_name", "service_instance_name", "model_instance_name"]

/-- In the bodies of methods, nothing of a service is called but some known methods. -/
structure Calling (known : List Method) (ls : List Shape) : Prop where
  begun : ∀ line ∈ ls, (line.begins? "        ".toList).isSome
  names : ∀ line ∈ ls, line.begins? "        ".toList = some true → ∀ n ∈ line.names, n ∈ bodyNames
  calls : ∀ line ∈ ls, line.begins? "        ".toList = some true →
    line.callsOnly "service_instance_name" (known.map fun k => (k.name, k.call))

instance (known : List Method) (ls : List Shape) : Decidable (Calling known ls) :=
  decidable_of_iff (_ ∧ _ ∧ _)
    ⟨fun ⟨h₁, h₂, h₃⟩ => ⟨h₁, h₂, h₃⟩, fun h => ⟨h.begun, h.names, h.calls⟩⟩

/-- A line in the body of a method calls known methods of a service only. -/
theorem Calling.known_of_line {known : List Method} {ls : List Shape} {b : Bindings}
    {line name rest : String} (h : Calling known ls) (hline : line ∈ ls.map (Shape.line b))
    (hbody : "        ".toList <+: line.toList)
    (hends : (b.written "service_instance_name").toList.getLast? = some 'e')
    (hvalues : ∀ n ∈ bodyNames, '(' ∉ (b.written n).toList)
    (hcall : Calls (b.written "service_instance_name") name rest line) :
    ∃ k ∈ known, name.toList = k.name ∧ k.call.chars b <+: rest.toList := by
  obtain ⟨shape, hshape, rfl⟩ := List.mem_map.1 hline
  have hbegins : shape.begins? "        ".toList = some true := by
    rw [← List.isPrefixOf_iff_prefix, Shape.isPrefixOf_line (h.begun shape hshape)] at hbody
    exact of_decide_eq_true hbody
  obtain ⟨k, hk, hname, hcalled⟩ := Shape.known_of_call (h.calls shape hshape hbegins) hends
    (fun n hn => hvalues n (h.names shape hshape hbegins n hn)) hcall
  obtain ⟨method, hmethod, rfl⟩ := List.mem_map.1 hk
  exact ⟨method, hmethod, hname, hcalled⟩

theorem interface_declares : ∃ sp : Spelling serviceInterface,
    ∀ crud transactional validation,
      (settledLines (ServiceSheet.choices crud transactional validation) sp).any fun ls =>
        Lined Artifact.service.printed ls ∧
          Begun "public interface "
            ([[.named "interface_name"]].map (Shape.wrap "public interface " " \x7b")) ls ∧
          Begun "    " (((methodShapes crud).map Method.signature).map (Shape.wrap "    " ";")) ls :=
  ⟨by repeat' constructor, by decide +kernel⟩

theorem implementation_overrides : ∃ sp : Spelling serviceImplementation,
    ∀ crud transactional validation,
      (settledLines (ServiceSheet.choices crud transactional validation) sp).any fun ls =>
        Lined Artifact.service.printed ls ∧
          Begun "public class "
            ([[.named "implementation_name", .own " implements ".toList, .named "interface_name"]].map
              (Shape.wrap "public class " " \x7b")) ls ∧
          Overriding ((methodShapes crud).map Method.signature) (ls ++ [[]]) :=
  ⟨by repeat' constructor, by decide +kernel⟩

theorem service_defines : ∃ sp : Spelling service,
    ∀ crud transactional validation,
      (settledLines (ServiceSheet.choices crud transactional validation) sp).any fun ls =>
        Lined Artifact.service.printed ls ∧
          Begun "    public " ((serviceConstructorShape "service_name" ::
            (methodShapes crud).map Method.signature).map (Shape.wrap "    public " " \x7b")) ls :=
  ⟨by repeat' constructor, by decide +kernel⟩

theorem controller_calls : ∃ sp : Spelling controller,
    ∀ crud swagger validation,
      (settledLines (ControllerSheet.choices crud swagger validation) sp).any fun ls =>
        Lined Artifact.controller.printed ls ∧ Calling (methodShapes crud) (ls ++ [[]]) :=
  ⟨by repeat' constructor, by decide +kernel⟩

end Bundled

end Template

namespace ServiceSheet

open Template.Bundled

variable {b : Blueprint} {s : ServiceSheet} {tree : Tree} {x : String}

/-- The templates have the methods of the service, wherever the model has this name. -/
theorem methods_stand {bound : Bindings} (hmodel : bound.written "model_name" = s.model)
    (hobject : bound.written "model_instance_name" = Name.lowerFirst s.model) :
    List.Forall₂ (Method.Stands bound) (methodShapes s.crud) s.methods := by
  have hfinding : List.Forall₂ (Method.Stands bound) findingShapes s.findingMethods := by
    refine .cons ⟨rfl, ?_, ?_⟩ (.cons ⟨rfl, ?_, ?_⟩ .nil)
    all_goals simp [Signature.text, Signature.arguments, hmodel]
  have hchanging : List.Forall₂ (Method.Stands bound) changingShapes s.changingMethods := by
    refine .cons ⟨rfl, ?_, ?_⟩ (.cons ⟨rfl, ?_, ?_⟩ (.cons ⟨rfl, ?_, ?_⟩ .nil))
    all_goals simp [Signature.text, Signature.arguments, hmodel, hobject]
  unfold methodShapes methods
  refine List.rel_append hfinding ?_
  split
  · exact hchanging
  · exact .nil

theorem map_of_stand {bound : Bindings} {ks : List Method} {gs : List Signature}
    (h : List.Forall₂ (Method.Stands bound) ks gs) :
    (ks.map Method.signature).map (Shape.line bound) = gs.map Signature.text := by
  induction h with
  | nil => rfl
  | cons hstands _ ih =>
    rw [List.map_cons, List.map_cons, List.map_cons, ih, Shape.line, hstands.signature,
      String.ofList_toList]

theorem exists_of_stand {bound : Bindings} {ks : List Method} {gs : List Signature}
    (h : List.Forall₂ (Method.Stands bound) ks gs) {k : Method} (hk : k ∈ ks) :
    ∃ g ∈ gs, k.Stands bound g := by
  induction h with
  | nil => cases hk
  | cons hstands _ ih =>
    rcases List.mem_cons.1 hk with rfl | hk
    · exact ⟨_, List.mem_cons_self, hstands⟩
    · obtain ⟨g, hg, hstands⟩ := ih hk
      exact ⟨g, .tail _ hg, hstands⟩

/-- The signatures in the templates are those of the methods. -/
theorem line_signatures (s : ServiceSheet) :
    ((methodShapes s.crud).map Method.signature).map (Shape.line s.bindings)
      = s.methods.map Signature.text :=
  map_of_stand (methods_stand rfl rfl)

section Sources

variable (hsheet : Sheet.ofBlueprint b = .ok (.service s))
  (hb : ∀ t ∈ b.texts, Text.Lacks ['\n'] t)

include hsheet hb

theorem declared_of_render
    (hx : Store.bundled.render tree "service_interface.java.j2" s.bindings = .ok x) :
    linesBetween "public interface " " \x7b" x = [s.name] ∧
      linesBetween "    " ";" x = s.methods.map Signature.text := by
  obtain ⟨sp, hall⟩ := interface_declares
  obtain ⟨ls, hsettled, hlined, hname, hmethods⟩ := exists_of_any (hall s.crud s.transactional s.validation)
  have hlines := Sheet.pieces_of_render hsheet hb rfl s.knows_choices hsettled hlined hx
  constructor
  · rw [hname.linesBetween (by decide) hlines]
    have hinterface : s.bindings.written "interface_name" = s.name := rfl
    simp [Sheet.bindings, hinterface]
  · rw [hmethods.linesBetween (by decide) hlines]
    exact line_signatures s

theorem overridden_of_render
    (hx : Store.bundled.render tree "service_impl.java.j2" s.bindings = .ok x) :
    linesBetween "public class " " \x7b" x = [s.implementation ++ " implements " ++ s.name] ∧
      overridden x = s.methods.map Signature.text := by
  obtain ⟨sp, hall⟩ := implementation_overrides
  obtain ⟨ls, hsettled, hlined, hname, hmethods⟩ := exists_of_any (hall s.crud s.transactional s.validation)
  have hlines := Sheet.pieces_of_render hsheet hb rfl s.knows_choices hsettled hlined hx
  constructor
  · rw [hname.linesBetween (by decide) hlines]
    have himplementation : s.bindings.written "implementation_name" = s.implementation := rfl
    have hinterface : s.bindings.written "interface_name" = s.name := rfl
    simp [Sheet.bindings, himplementation, hinterface, String.append_assoc]
  · rw [overridden, hlines, ← Shape.map_line_concat, hmethods.following_lines, Shape.filterMap_wrap]
    exact s.line_signatures

theorem defined_of_render
    (hx : Store.bundled.render tree "service.java.j2" s.bindings = .ok x) :
    linesBetween "    public " " \x7b" x
      = s.constructorOf s.name :: s.methods.map Signature.text := by
  obtain ⟨sp, hall⟩ := service_defines
  obtain ⟨ls, hsettled, hlined, hmethods⟩ := exists_of_any (hall s.crud s.transactional s.validation)
  have hlines := Sheet.pieces_of_render hsheet hb rfl s.knows_choices hsettled hlined hx
  have hname : s.bindings.written "service_name" = s.name := rfl
  have hrepository : s.bindings.written "repository_name" = s.repository := rfl
  have hobject : s.bindings.written "repository_instance_name" = Name.lowerFirst s.repository := rfl
  have hconstructor : Shape.line s.bindings (serviceConstructorShape "service_name")
      = s.constructorOf s.name := by
    simp [serviceConstructorShape, constructorOf, hname, hrepository, hobject, String.append_assoc]
  rw [hmethods.linesBetween (by decide) hlines, List.map_cons]
  exact congrArg₂ List.cons hconstructor s.line_signatures

end Sources

end ServiceSheet

namespace ControllerSheet

open Template.Bundled

variable {b : Blueprint} {c : ControllerSheet} {s : ServiceSheet} {tree : Tree} {x line : String}

/-- The name of the attribute ends like the word for a service. -/
theorem serviceField_ends (c : ControllerSheet) : c.serviceField.toList.getLast? = some 'e' := by
  have hends (cs : List Char) : ∃ front, Name.onFirst CaseMap.lowerChar (cs ++ "Service".toList)
      = front ++ "ervice".toList := by
    cases cs with
    | nil => exact ⟨CaseMap.lowerChar 'S', rfl⟩
    | cons d cs => exact ⟨CaseMap.lowerChar d ++ cs ++ ['S'], by simp [Name.onFirst]⟩
  obtain ⟨front, hfront⟩ := hends c.model.toList
  rw [serviceField, service, Name.lowerFirst, String.toList_ofList, String.toList_append, hfront,
    List.getLast?_append]
  rfl

/-- No value in the body of a method has a parenthesis, if the name of the model has none. -/
theorem no_parenthesis (h : '(' ∉ c.model.toList) {n : String} (hn : n ∈ bodyNames) :
    '(' ∉ (c.bindings.written n).toList := by
  have hmark : isMark '(' := by decide
  simp only [bodyNames, List.mem_cons, List.not_mem_nil, or_false] at hn
  rcases hn with rfl | rfl | rfl
  · exact h
  · intro hin
    exact h (Name.mem_append_letters (by decide) hmark (Name.mem_lowerFirst hmark hin))
  · exact fun hin => h (Name.mem_lowerFirst hmark hin)

/-- In the body of a method, a controller calls methods of its service only, and hands over what
their parameters are named. -/
theorem calls_of_render (hsheet : Sheet.ofBlueprint b = .ok (.controller c))
    (hb : ∀ t ∈ b.texts, Text.Lacks ['\n'] t) (hparenthesis : '(' ∉ c.model.toList)
    (hsame : c.model = s.model) (hcrud : c.crud → s.crud)
    (hx : Store.bundled.render tree "controller.java.j2" c.bindings = .ok x)
    (hline : line ∈ pieces '\n' x) (hbody : "        ".toList <+: line.toList) {name rest : String}
    (hcall : Calls c.serviceField name rest line) :
    ∃ g ∈ s.methods, g.name = name ∧ (g.arguments ++ ")").toList <+: rest.toList := by
  obtain ⟨sp, hall⟩ := controller_calls
  obtain ⟨ls, hsettled, hlined, hcalling⟩ := exists_of_any (hall c.crud c.swagger c.validation)
  have hlines := Sheet.pieces_of_render hsheet hb rfl c.knows_choices hsettled hlined hx
  rw [hlines, ← Shape.map_line_concat] at hline
  obtain ⟨k, hk, hname, harguments⟩ := hcalling.known_of_line hline hbody c.serviceField_ends
    (fun n => no_parenthesis hparenthesis) hcall
  have hmodel : c.bindings.written "model_name" = s.model := hsame
  have hobject : c.bindings.written "model_instance_name" = Name.lowerFirst s.model := by
    rw [← hsame]
    rfl
  have hmine : k ∈ methodShapes s.crud := by
    rcases List.mem_append.1 hk with hk | hk
    · exact List.mem_append_left _ hk
    · split at hk
      · rename_i hwrites
        refine List.mem_append_right _ ?_
        rwa [if_pos (hcrud hwrites)]
      · cases hk
  obtain ⟨g, hg, hstands⟩ := ServiceSheet.exists_of_stand (ServiceSheet.methods_stand hmodel hobject) hmine
  refine ⟨g, hg, ?_, ?_⟩
  · exact String.toList_inj.1 (hstands.name.trans hname.symm)
  · rw [← hstands.call]
    exact harguments

end ControllerSheet

/-- The sources of a service and of a controller, rendered, and what they say of methods. -/
structure MethodsAgree (tree : Tree) (s : ServiceSheet) (c : ControllerSheet)
    (declaring implementing defining calling : String) : Prop where
  declared : Store.bundled.render tree "service_interface.java.j2" s.bindings = .ok declaring
  implemented : Store.bundled.render tree "service_impl.java.j2" s.bindings = .ok implementing
  defined : Store.bundled.render tree "service.java.j2" s.bindings = .ok defining
  called : Store.bundled.render tree "controller.java.j2" c.bindings = .ok calling
  interface : linesBetween "public interface " " \x7b" declaring = [s.name]
  implements : linesBetween "public class " " \x7b" implementing
    = [s.implementation ++ " implements " ++ s.name]
  signatures : linesBetween "    " ";" declaring = s.methods.map Signature.text
  overrides : overridden implementing = s.methods.map Signature.text
  publics : linesBetween "    public " " \x7b" defining
    = s.constructorOf s.name :: s.methods.map Signature.text
  calls : ∀ line ∈ pieces '\n' calling, "        ".toList <+: line.toList → ∀ name rest,
    Calls c.serviceField name rest line →
    ∃ g ∈ s.methods, g.name = name ∧ (g.arguments ++ ")").toList <+: rest.toList

/-- A service declares, implements and defines the same methods in the same order, and a controller
for the same model that does not change more than the service lets it calls no others: whatever it
calls of its service is one of these methods, with an argument for each of its parameters. -/
theorem methods_agree (b b' : Blueprint) (s : ServiceSheet) (c : ControllerSheet) (tree : Tree)
    (hservice : Sheet.ofBlueprint b = .ok (.service s))
    (hcontroller : Sheet.ofBlueprint b' = .ok (.controller c))
    (hlines : ∀ t ∈ b.texts ++ b'.texts, Text.Lacks ['\n'] t) (hmodel : '(' ∉ s.model.toList)
    (hsame : c.model = s.model) (hcrud : c.crud → s.crud) :
    ∃ declaring implementing defining calling,
      MethodsAgree tree s c declaring implementing defining calling := by
  have hours : ∀ t ∈ b.texts, Text.Lacks ['\n'] t := fun t ht =>
    hlines t (List.mem_append_left _ ht)
  have htheirs : ∀ t ∈ b'.texts, Text.Lacks ['\n'] t := fun t ht =>
    hlines t (List.mem_append_right _ ht)
  have hrenders (name : String) (hname : name ∈ Artifact.service.templates) :
      ∃ x, Store.bundled.render tree name s.bindings = .ok x :=
    Sheet.renders (s := .service s) hname tree
  obtain ⟨declaring, hdeclaring⟩ := hrenders "service_interface.java.j2" (by decide)
  obtain ⟨implementing, himplementing⟩ := hrenders "service_impl.java.j2" (by decide)
  obtain ⟨defining, hdefining⟩ := hrenders "service.java.j2" (by decide)
  have hmem : "controller.java.j2" ∈ Artifact.controller.templates := by decide
  obtain ⟨calling, hcalling⟩ := Sheet.renders (s := .controller c) hmem tree
  obtain ⟨hinterface, hdeclared⟩ := ServiceSheet.declared_of_render hservice hours hdeclaring
  obtain ⟨hclass, hoverridden⟩ := ServiceSheet.overridden_of_render hservice hours himplementing
  have hdefined := ServiceSheet.defined_of_render hservice hours hdefining
  refine ⟨declaring, implementing, defining, calling, hdeclaring, himplementing, hdefining, hcalling,
    hinterface, hclass, hdeclared, hoverridden, hdefined, ?_⟩
  intro line hline hbody name rest hcall
  exact ControllerSheet.calls_of_render hcontroller htheirs (hsame ▸ hmodel) hsame hcrud hcalling
    hline hbody hcall

/-- A service for a model whose name is no single word. -/
def lineService : ServiceSheet where
  name := "OrderService"
  package := "com.shop.service"
  model := "Order.Line"
  modelPackage := .text "com.shop.model"
  repositoryPackage := .text "com.shop.repository"
  ownInterface := true
  crud := true
  transactional := true
  validation := false

/-- A controller that only finds objects of the same model. -/
def lineController : ControllerSheet where
  name := "LineController"
  package := "com.shop.controller"
  model := "Order.Line"
  modelPackage := .text "com.shop.model"
  servicePackage := .text "com.shop.service"
  basePath := "/api/v1"
  crud := false
  swagger := true
  validation := true

def lineServiceRequest : ServiceRequest where
  name := "OrderService"
  model := some "Order.Line"
  crud := true
  transactional := true

def lineControllerRequest : ControllerRequest where
  name := "LineController"
  model := some "Order.Line"
  apiDocs := true

theorem lineService_methods_agree :
    let b := Request.below "com.shop" (.service lineServiceRequest)
    let b' := Request.below "com.shop" (.controller lineControllerRequest)
    Sheet.ofBlueprint b = .ok (.service lineService) ∧
      Sheet.ofBlueprint b' = .ok (.controller lineController) ∧
      (∀ t ∈ b.texts ++ b'.texts, Text.Lacks ['\n'] t) ∧ '(' ∉ lineService.model.toList ∧
      lineController.model = lineService.model ∧ (lineController.crud → lineService.crud) ∧
      ∃ declaring implementing defining calling,
        MethodsAgree .empty lineService lineController declaring implementing defining calling := by
  have hservice : Sheet.ofBlueprint (Request.below "com.shop" (.service lineServiceRequest))
      = .ok (.service lineService) := by
    with_unfolding_all rfl
  have hcontroller : Sheet.ofBlueprint (Request.below "com.shop" (.controller lineControllerRequest))
      = .ok (.controller lineController) := by
    with_unfolding_all rfl
  intro b b'
  have hlines : ∀ t ∈ b.texts ++ b'.texts, Text.Lacks ['\n'] t := by decide +kernel
  have hmodel : '(' ∉ lineService.model.toList := by decide
  have hcrud : lineController.crud → lineService.crud := by decide
  exact ⟨hservice, hcontroller, hlines, hmodel, rfl, hcrud,
    methods_agree b b' _ _ .empty hservice hcontroller hlines hmodel rfl hcrud⟩

end Groundwork
