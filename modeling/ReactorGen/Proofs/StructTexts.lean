import ReactorGen.Layout.SelfStruct
import ReactorGen.Proofs.PlacedTexts

/-!
# The texts of self structs

What is written for a self struct: a type that declares one member after the other, and a
constructor that makes the struct and then assigns one field after the other.
-/

namespace ReactorGen

open Text

/-- Two words in front of a name and the one that they make up. -/
theorem append_name_eq
    {first second joined : String}
    (joined_eq : first ++ second = joined)
    (name after : String) :
    first ++ (second ++ name) ++ after = joined ++ name ++ after := by
  rw [← joined_eq, ← String.append_assoc]

/-! ## Members -/

namespace Member

/-- What is written for a member. -/
def spelled : Member -> String
  | base => "struct self_base_t base;"
  | instanceName => "char *_lf_name;"
  | parameter name => "int " ++ name ++ ";"
  | port type name => type.text ++ " _lf_" ++ name ++ ";"
  | width name => "int _lf_" ++ name ++ "_width;"
  | trigger name => "trigger_t _lf__" ++ name ++ ";"
  | container name ports =>
    "struct \x7b\n" ++
      String.join (ports.map fun port => "    " ++ port.type.text ++ " " ++ port.name ++ ";\n") ++
      "\x7d _lf_" ++ name ++ ";"
  | reaction index => "reaction_t _lf__reaction_" ++ toString index ++ ";"
  | modes count => "reactor_mode_t _lf__modes[" ++ toString count ++ "];"
  | callable name => "PyObject* " ++ name ++ ";"

theorem container_declaration_eq (name : String) (ports : List NestedMember) :
    (container name ports).declaration = (container name ports).spelled := by
  have closing : "\x7d _lf_" = "\x7d " ++ "_lf_" := by decide
  have ending : ";\n" = ";" ++ "\n" := by decide
  unfold declaration spelled
  rewrite [closing, ending]
  simp only [NestedMember.declaration, Member.name, String.append_assoc]

theorem declaration_eq (member : Member) : member.declaration = member.spelled := by
  cases member with
  | base => decide
  | instanceName => decide
  | parameter name => rfl
  | port type name =>
    have opening : " _lf_" = " " ++ "_lf_" := by decide
    exact append_name_eq ((String.append_assoc ..).trans (congrArg _ opening.symm)) name ";"
  | width name =>
    have ending : "_width" ++ ";" = "_width;" := by decide
    have opening := append_name_eq (by decide : "int " ++ "_lf_" = "int _lf_") name "_width"
    calc "int " ++ ("_lf_" ++ name ++ "_width") ++ ";"
      _ = "int " ++ ("_lf_" ++ name) ++ "_width" ++ ";" :=
          congrArg (· ++ ";") (String.append_assoc ..).symm
      _ = "int _lf_" ++ name ++ "_width" ++ ";" := congrArg (· ++ ";") opening
      _ = "int _lf_" ++ name ++ "_width;" :=
          (String.append_assoc ..).trans (congrArg _ ending)
  | trigger name => exact append_name_eq (by decide) name ";"
  | container name ports => exact container_declaration_eq name ports
  | reaction index => exact append_name_eq (by decide) (toString index) ";"
  | modes count =>
    have opening : "reactor_mode_t _lf__modes[" = "reactor_mode_t " ++ "_lf__modes" ++ "[" := by
      decide
    exact congrArg (· ++ toString count ++ "];") opening.symm
  | callable name => rfl

/-- The name of a member stands behind its type, only that of the instance has an asterisk
in front of it and an array has its bound behind it. -/
theorem exists_type
    {member : Member}
    (notInstanceName : member ≠ .instanceName)
    (notModes : ∀ count, member ≠ .modes count) :
    ∃ type, member.spelled = type ++ " " ++ member.name ++ ";" := by
  rw [← declaration_eq]
  cases member with
  | base => exact ⟨"struct self_base_t", rfl⟩
  | instanceName => exact absurd rfl notInstanceName
  | parameter | width => exact ⟨"int", rfl⟩
  | port type => exact ⟨type.text, rfl⟩
  | trigger => exact ⟨"trigger_t", rfl⟩
  | container name ports =>
    have closing (text : String) : text ++ "\x7d " = text ++ "\x7d" ++ " " := by
      rw [String.append_assoc]
      rfl
    exact ⟨_, congrArg (· ++ ("_lf_" ++ name) ++ ";") (closing _)⟩
  | reaction => exact ⟨"reaction_t", rfl⟩
  | modes count => exact absurd rfl (notModes count)
  | callable => exact ⟨"PyObject*", rfl⟩

end Member

/-- The type of a self struct in full: one member after the other, each with its declaration
on lines of its own. -/
def SelfStruct.structText (layout : SelfStruct) : String :=
  "typedef struct \x7b\n" ++
    String.join (layout.members.map fun member => inset member.spelled) ++
    "\x7d " ++ Naming.selfType layout.className ++ ";"

theorem SelfStruct.declaration_eq (layout : SelfStruct) :
    layout.declaration = layout.structText := by
  have members_eq : String.join ((layout.members.flatMap fun member =>
      lines member.declaration).map fun line => "    " ++ line ++ "\n") =
        String.join (layout.members.map fun member => inset member.spelled) := by
    simp only [Member.declaration_eq, List.map_flatMap, join_flatMap]
    rfl
  exact congrArg (fun text => _ ++ text ++ "\x7d " ++ layout.typeName ++ ";") members_eq

/-! ## Assignments of the constructor -/

/-- What a statement of a constructor assigns. -/
structure Assignment where
  /-- The name of a member of the self struct. -/
  member : String
  /-- The field of the member that gets a value. -/
  field : String
  value : NativeValue
deriving DecidableEq, Repr

/-- The spelling of an assignment. -/
def Assignment.text (assignment : Assignment) : String :=
  selfMember assignment.member ++ "." ++ assignment.field ++ " = " ++
    assignment.value.text ++ ";"

namespace ConstructorStep

/-- What a statement assigns. -/
def assignment : ConstructorStep -> Assignment
  | number index => ⟨(Member.reaction index).name, "number", .of (toString index)⟩
  | function index name => ⟨(Member.reaction index).name, "function", .of name⟩
  | owner index => ⟨(Member.reaction index).name, "self", .of "self"⟩
  | deadlineHandler index name =>
    ⟨(Member.reaction index).name, "deadline_violation_handler", .of name⟩
  | actionTrigger name =>
    ⟨"_lf_" ++ name, "trigger", .addressOf (selfMember (Member.trigger name).name)⟩

theorem text_eq (step : ConstructorStep) : step.text = step.assignment.text := by
  -- The words between the names are joined by computation.
  cases step <;>
    simp only [text, assignment, Assignment.text, selfMember, NativeValue.text,
      String.append_assoc] <;>
    rfl

end ConstructorStep

/-- The constructor in full: it makes a struct of the type, assigns one field after the other
and returns the struct. -/
def SelfStruct.constructorText (layout : SelfStruct) : String :=
  let type := Naming.selfType layout.className
  type ++ "* " ++ Naming.constructor layout.className ++ "() \x7b\n" ++
    "    " ++ type ++ "* self = (" ++ type ++ "*)_lf_new_reactor(sizeof(" ++ type ++ "));\n" ++
    String.join (layout.constructor.map fun step => "    " ++ step.assignment.text ++ "\n") ++
    "    return self;\n\x7d"

theorem SelfStruct.constructorDefinition_eq (layout : SelfStruct) :
    layout.constructorDefinition = layout.constructorText := by
  unfold constructorDefinition constructorText
  simp only [ConstructorStep.text_eq, typeName]

end ReactorGen
