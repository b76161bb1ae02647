import ReactorGen.Package.ClassCode
import ReactorGen.Proofs.PlacedTexts

/-!
# The texts of classes

What the text of a class for the interpreter consists of: the line that names the class, and
one level inside it each method, behind the line that starts it.
-/

namespace ReactorGen

open Text

/-! ## Methods -/

namespace ReactionMethod

/-- The line that starts a method. -/
def signature (method : ReactionMethod) : String :=
  "def " ++ method.name ++ "(" ++ ", ".intercalate ("self" :: method.parameters) ++ "):"

theorem signature_eq (method : ReactionMethod) :
    method.signature =
      "def " ++ method.name ++ "(self" ++ String.join (method.parameters.map (", " ++ ·)) ++
        "):" := by
  have self : "(self" = "(" ++ "self" := by decide
  rw [signature, intercalate_cons_eq, self]
  simp only [String.append_assoc]

/-- The steps of a method, of which those inside it write only. -/
theorem draft_eq (method : ReactionMethod) :
    method.draft = [.write method.signature] ++ Draft.nested (
      [.writeAll (method.gathering.map GatherStep.text)] ++
        (if isBlankText (dedent method.body) then [] else [.write (dedent method.body)]) ++
        [.write "return 0"]) := by
  simp only [draft, signature, List.cons_append, List.nil_append]

theorem balanced_draft (method : ReactionMethod) : method.draft.Balanced := by
  have body : Draft.Balanced
      (if isBlankText (dedent method.body) then [] else [.write (dedent method.body)]) := by
    split <;> exact fun _ => rfl
  rw [draft_eq]
  refine Draft.Balanced.append (fun _ => rfl) (Draft.Balanced.nested ?_)
  exact Draft.Balanced.append (.append (fun _ => rfl) body) fun _ => rfl

/-- A method starts with its signature. -/
theorem inOrder_draft (method : ReactionMethod) (level : Nat) :
    InOrder [Draft.onLines level method.signature]
      (Draft.closeLines (Draft.linesAt level method.draft)) := by
  rw [draft_eq, List.singleton_append, Draft.linesAt_cons, Draft.closeLines_append,
    Draft.stepLines, ← Draft.onLines_eq]
  exact InOrder.append_right (inOrder_singleton (Draft.onLines level method.signature)) _

end ReactionMethod

/-! ## Classes -/

namespace PythonClass

theorem balanced_constructorDraft (pythonClass : PythonClass) :
    pythonClass.constructorDraft.Balanced := by
  have states : Draft.Balanced
      (if pythonClass.stateVars.isEmpty then []
        else [.write "# Define state variables"]) := by
    split <;> exact fun _ => rfl
  refine Draft.Balanced.append (fun _ => rfl) (Draft.Balanced.nested ?_)
  refine Draft.Balanced.append (.append (.append (.append (fun _ => rfl) ?_)
    fun _ => rfl) states) ?_
  all_goals
    apply Draft.balanced_of_writes
    intro step member
    obtain ⟨⟨name, value⟩, _, rfl⟩ := List.mem_map.mp member
    exact ⟨_, rfl⟩

theorem balanced_propertyDraft (parameter : String) :
    (propertyDraft parameter).Balanced :=
  fun _ => rfl

/-- The line that names a class. -/
def opening (pythonClass : PythonClass) : String :=
  "class " ++ nameOf pythonClass.reactorName ++ ":"

theorem opening_eq (pythonClass : PythonClass) :
    pythonClass.opening = "class _" ++ pythonClass.reactorName ++ ":" := by
  have underscore : "class _" = "class " ++ "_" := by decide
  rw [opening, nameOf, underscore]
  simp only [String.append_assoc]

/-- What a class has in front of its methods. -/
def attributes (pythonClass : PythonClass) : Draft :=
  pythonClass.constructorDraft ++ [.blank] ++
    pythonClass.parameters.flatMap fun parameter => propertyDraft parameter.1

/-- A method with the line that separates it from the next one. -/
def methodDraft (method : ReactionMethod) : Draft :=
  method.draft ++ [.blank]

theorem draft_eq (pythonClass : PythonClass) :
    pythonClass.draft =
      [.write ("# Python class for reactor " ++ pythonClass.reactorName),
        .write pythonClass.opening] ++
      Draft.nested (pythonClass.attributes ++ pythonClass.methods.flatMap methodDraft) := by
  simp only [draft, opening, attributes, List.append_assoc]
  rfl

theorem balanced_attributes (pythonClass : PythonClass) :
    pythonClass.attributes.Balanced := by
  refine Draft.Balanced.append (.append ?_ fun _ => rfl) ?_
  · exact balanced_constructorDraft pythonClass
  · exact Draft.balanced_flatMap fun parameter => balanced_propertyDraft parameter.1

theorem balanced_methodDraft (method : ReactionMethod) : (methodDraft method).Balanced :=
  method.balanced_draft.append fun _ => rfl

/-- The class is named at the margin, and its methods stand one level inside it. -/
theorem text_eq (pythonClass : PythonClass) :
    pythonClass.text =
      Draft.onLines 0 ("# Python class for reactor " ++ pythonClass.reactorName) ++
        Draft.onLines 0 pythonClass.opening ++
        Draft.closeLines (Draft.linesAt 1 pythonClass.attributes) ++
        Draft.closeLines
          (pythonClass.methods.flatMap fun method => Draft.linesAt 1 (methodDraft method)) := by
  have opens : Draft.Balanced
      [.write ("# Python class for reactor " ++ pythonClass.reactorName),
        .write pythonClass.opening] := fun _ => rfl
  rw [text, Draft.text, draft_eq, opens.linesAt_append, Draft.linesAt_nested,
    pythonClass.balanced_attributes.linesAt_append,
    Draft.linesAt_flatMap balanced_methodDraft]
  simp only [Draft.linesAt_cons, Draft.linesAt_nil, Draft.stepLines, Draft.stepLevel,
    Draft.closeLines_append, Draft.onLines_eq, List.append_nil, String.append_assoc]

/-- Each method stands one level inside its class. -/
theorem exists_lines_of_mem_methods
    {pythonClass : PythonClass}
    {method : ReactionMethod}
    (member : method ∈ pythonClass.methods) :
    ∃ earlier later,
      pythonClass.text =
        Draft.closeLines (earlier ++ Draft.linesAt 1 method.draft ++ later) := by
  obtain ⟨before, after, methods_eq⟩ := List.append_of_mem member
  refine ⟨Draft.placeText 0 ("# Python class for reactor " ++ pythonClass.reactorName) ++
      Draft.placeText 0 pythonClass.opening ++ Draft.linesAt 1 pythonClass.attributes ++
      before.flatMap fun method => Draft.linesAt 1 (methodDraft method),
    Draft.linesAt 1 [.blank] ++
      after.flatMap fun method => Draft.linesAt 1 (methodDraft method), ?_⟩
  rw [text_eq, methods_eq, List.flatMap_append, List.flatMap_cons, methodDraft,
    method.balanced_draft.linesAt_append]
  simp only [Draft.onLines_eq, Draft.closeLines_append, String.append_assoc]

/-- The line that names a class and the lines that start its methods stand in its text, one
behind the other. -/
theorem inOrder_text (pythonClass : PythonClass) :
    InOrder (Draft.onLines 0 pythonClass.opening ::
        pythonClass.methods.map fun method => Draft.onLines 1 method.signature)
      pythonClass.text := by
  have starts (method : ReactionMethod) :
      InOrder [Draft.onLines 1 method.signature]
        (Draft.closeLines (Draft.linesAt 1 (methodDraft method))) := by
    rw [methodDraft, method.balanced_draft.linesAt_append, Draft.closeLines_append]
    exact (method.inOrder_draft 1).append_right _
  rw [text_eq, Draft.closeLines_flatMap]
  exact (((inOrder_singleton _).append_left _).append_right _).append
    (inOrder_join_map starts)

/-- The line that starts a method of a class stands behind the one that names the class. -/
theorem inOrder_of_mem_methods
    {pythonClass : PythonClass}
    {method : ReactionMethod}
    (member : method ∈ pythonClass.methods) :
    InOrder [Draft.onLines 0 pythonClass.opening, Draft.onLines 1 method.signature]
      pythonClass.text := by
  have written : Draft.onLines 1 method.signature ∈
      pythonClass.methods.map fun method => Draft.onLines 1 method.signature :=
    List.mem_map.mpr ⟨method, member, rfl⟩
  exact pythonClass.inOrder_text.sublist
    ((List.singleton_sublist.mpr written).cons_cons _)

end PythonClass
end ReactorGen
