import ReactorGen.Proofs.ClassTexts
import ReactorGen.Proofs.Dedentation
import ReactorGen.Proofs.ReactionArguments

/-!
# Bodies of methods

The interpreter reads the structure of a program from its indentation.  A body comes from
another program and is indented like it.  It loses its margin, wherever that can be cut off,
and is placed inside its method, so that each line stands as far to the right of the method
as it stood of the margin.
-/

namespace ReactorGen

open Text

/-! ## Methods in their class -/

namespace ReactionMethod

/-- The lines of a method in front of its body. -/
def opening (method : ReactionMethod) : List String :=
  Draft.placeText 1 method.signature ++
    (method.gathering.map GatherStep.text).flatMap (Draft.placeText 2)

/-- In a class, a body is laid out behind the opening of its method. -/
theorem linesAt_draft
    {method : ReactionMethod}
    (notBlank : isBlankText method.body = false) :
    Draft.linesAt 1 method.draft =
      method.opening ++ Draft.placeText 2 (dedent method.body) ++ ["        return 0"] := by
  have written :
      (if isBlankText (dedent method.body) then [] else [.write (dedent method.body)]) =
        [DraftStep.write (dedent method.body)] := by
    rw [isBlankText_dedent notBlank, if_neg Bool.false_ne_true]
  have returns : Draft.placeText 2 "return 0" = ["        return 0"] := by decide
  simp only [draft_eq, written, Draft.nested, List.cons_append, opening, Draft.linesAt_cons,
    Draft.linesAt_nil, Draft.stepLines, Draft.stepLevel, returns, List.nil_append,
    List.append_nil, List.append_assoc]

end ReactionMethod

namespace PythonClass

/-- The body of a method as it stands in the text of the class: without its margin, behind
the opening of the method and as far inside as that is, and in front of what the method
returns. -/
def PlacesBody (pythonClass : PythonClass) (method : ReactionMethod) : Prop :=
  ∃ margin kept left placed earlier later,
    Dedents method.body margin kept left ∧
    List.Forall₂ (Draft.Places 2) left placed ∧
    pythonClass.text = Draft.closeLines
      (earlier ++ (method.opening ++ placed ++ ["        return 0"]) ++ later)

theorem placesBody_of_mem_methods
    {pythonClass : PythonClass}
    {method : ReactionMethod}
    (member : method ∈ pythonClass.methods)
    (returnFree : Text.ReturnFree method.body)
    (notBlank : isBlankText method.body = false) :
    pythonClass.PlacesBody method := by
  obtain ⟨earlier, later, text_eq⟩ := exists_lines_of_mem_methods member
  have placed : Draft.placeText 2 (dedent method.body) =
      ((trimLines (lines method.body)).map
        (dropMargin (margin (trimLines (lines method.body))))).map (Draft.indentLine 2) := by
    rw [Draft.placeText, returnFree.lines_dedent]
  rw [ReactionMethod.linesAt_draft notBlank, placed] at text_eq
  refine ⟨_, _, _, _, earlier, later, dedents method.body, ?_, text_eq⟩
  rw [List.forall₂_map_right_iff, List.forall₂_same]
  exact fun line _ => Draft.places_indentLine 2 line

end PythonClass

/-- The bodies of a reaction: what it runs, and what runs when it is late. -/
def Reaction.bodies (reaction : Reaction) : List String :=
  reaction.body :: (reaction.deadline.map Deadline.body).toList

theorem Reaction.map_body_methods (index : Nat) (reaction : Reaction) :
    (reaction.methods index).map ReactionMethod.body = reaction.bodies := by
  cases late : reaction.deadline with
  | none => simp [methods, bodies, late]
  | some deadline => simp [methods, bodies, late]

/-- Any body can lose its margin.  Without carriage returns it loses it only once, and each
of its lines is found in the method that is generated for it. -/
theorem Program.bodies_keepLayout (program : Program) :
    (∀ body : String,
      dedentBytes? body = some (dedent body) ∧
        (∃ margin kept left, Dedents body margin kept left) ∧
        (dedent body ≠ "" ->
          ∃ line ∈ lines (dedent body),
            isBlankText line = false ∧ indentBytes line = 0) ∧
        (Text.ReturnFree body -> dedent (dedent body) = dedent body)) ∧
      ∀ {id : ClassId} {reactorClass : ReactorClass} {index : Nat} {reaction : Reaction},
        program.classAt id = .ok reactorClass ->
        program.classIsNative reactorClass = false ->
        reactorClass.reactions[index]? = some reaction ->
        (reaction.methods index).map ReactionMethod.body = reaction.bodies ∧
          ∃ pythonClass, program.pythonClass id = .ok pythonClass ∧
            ∀ method ∈ reaction.methods index,
              method ∈ pythonClass.methods ∧
                (Text.ReturnFree method.body -> isBlankText method.body = false ->
                  pythonClass.PlacesBody method) := by
  constructor
  · intro body
    exact ⟨dedentBytes?_eq body, ⟨_, _, _, dedents body⟩, exists_unindented, dedent_dedent⟩
  · intro id reactorClass index reaction class_eq interpreted at_
    refine ⟨reaction.map_body_methods index, .ofReactorClass reactorClass false, ?_, ?_⟩
    · rw [pythonClass, class_eq, ← interpreted]
      rfl
    · intro method inMethods
      have member := PythonClass.mem_methods.mpr ⟨index, reaction, at_, inMethods⟩
      exact ⟨member, PythonClass.placesBody_of_mem_methods member⟩

/-! ## A body with several levels -/

namespace IndentedBody

/-- A reaction whose body is indented by tabs, has a blank line of spaces in it, and has a
line that starts with a space that does not indent. -/
def reaction : Reaction where
  triggers := [.startup]
  sources := []
  effects := []
  body := "\n\t\tif ready:\n   \n\t\t  stop()\n\t\t\u3000\n\t\u3000go()\n"
  deadline := none
  span := none

def mainClass : ReactorClass :=
  { ReactorClass.ofName "Main" with reactions := [reaction], isMain := true }

def program : Program where
  name := "Indented"
  target := "Python"
  properties := []
  preambles := []
  classes := [mainClass]
  tree := ⟨[.ofName "Main" ⟨0⟩ none], []⟩
  federates := [.singleton]
  connections := []

def method : ReactionMethod :=
  reaction.bodyMethod 0

theorem bodies_keepLayout_indented :
    Text.ReturnFree method.body ∧ isBlankText method.body = false ∧
      dedent method.body = "\tif ready:\n\n\t  stop()\n\n\u3000go()" ∧
      dedent (dedent method.body) = dedent method.body ∧
      ∃ pythonClass, program.pythonClass ⟨0⟩ = .ok pythonClass ∧
        pythonClass.PlacesBody method := by
  have returnFree : Text.ReturnFree method.body := by decide
  have notBlank : isBlankText method.body = false := by decide
  obtain ⟨bodies, methods⟩ := program.bodies_keepLayout
  obtain ⟨_, _, _, again⟩ := bodies method.body
  have known : program.classAt ⟨0⟩ = .ok mainClass := rfl
  have reaction_eq : mainClass.reactions[0]? = some reaction := rfl
  obtain ⟨_, pythonClass, class_eq, placed⟩ := methods known (by decide) reaction_eq
  obtain ⟨_, places⟩ := placed method (List.mem_singleton_self method)
  exact ⟨returnFree, notBlank, by decide, again returnFree, pythonClass, class_eq,
    places returnFree notBlank⟩

end IndentedBody
end ReactorGen
