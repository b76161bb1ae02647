import ReactorGen.Generated.FederateCode
import ReactorGen.Proofs.SelfVariables
import ReactorGen.Proofs.TokenRegistration

/-!
# Names in the initialization

The initialization of a federate declares the self variables of its instances and
registers the tokens of their actions, instance after instance.  What the whole of it
declares and registers follows from what one instance adds.
-/

namespace ReactorGen

open TokenTable

/-! ## What steps name -/

/-- The self variable that a step declares. -/
def InitStep.declared? : InitStep -> Option String
  | make selfVariable _ => some selfVariable
  | _ => none

/-- The statements for a token that a step consists of. -/
def InitStep.initializer? : InitStep -> Option TokenInitializer
  | makeToken initializer => some initializer
  | _ => none

namespace Initialization

/-- The self variables that an initialization declares. -/
def declared (initialization : Initialization) : List String :=
  initialization.steps.filterMap InitStep.declared?

/-- The statements that an initialization has for tokens. -/
def initializers (initialization : Initialization) : List TokenInitializer :=
  initialization.steps.filterMap InitStep.initializer?

@[simp] theorem declared_empty : empty.declared = [] := rfl

end Initialization

/-- Nothing but the first two steps is left of a self struct by what skips its
parameters. -/
theorem filterMap_selfStructSteps
    (select : InitStep -> Option α)
    (skips : ∀ selfVariable name value,
      select (.setParameter selfVariable name value) = none)
    (node : ReactorInstance)
    (reactorClass : ReactorClass)
    (selfVariable list : String) :
    (selfStructSteps node reactorClass selfVariable list).filterMap select =
      [.make selfVariable reactorClass.name, .nameInstance selfVariable list].filterMap
        select := by
  have parameters : (reactorClass.parameters.filterMap fun parameter =>
      ((Text.integer? (node.parameterValue parameter)).map fun value =>
        InitStep.setParameter selfVariable parameter.name value).bind select) = [] := by
    rw [List.filterMap_eq_nil_iff]
    intro parameter _
    cases Text.integer? (node.parameterValue parameter) with
    | none => rfl
    | some value => exact skips selfVariable parameter.name value
  rw [selfStructSteps, List.filterMap_append, List.filterMap_filterMap, parameters,
    List.append_nil]

theorem filterMap_map_eq_nil
    {select : InitStep -> Option α}
    {step : β -> InitStep}
    (skips : ∀ item, select (step item) = none)
    (items : List β) :
    (items.map step).filterMap select = [] := by
  rw [List.filterMap_map, List.filterMap_eq_nil_iff]
  intro item _
  exact skips item

@[simp] theorem declared_announce (path className : String) :
    [InitStep.announce path className].filterMap InitStep.declared? = [] := rfl

@[simp] theorem declared_setTrigger (triggers : List TriggerMetadata) :
    (triggers.map InitStep.setTrigger).filterMap InitStep.declared? = [] :=
  filterMap_map_eq_nil (fun _ => rfl) triggers

@[simp] theorem declared_makeToken (made : List TokenInitializer) :
    (made.map InitStep.makeToken).filterMap InitStep.declared? = [] :=
  filterMap_map_eq_nil (fun _ => rfl) made

@[simp] theorem declared_linkMethod (links : List MethodLink) :
    (links.map InitStep.linkMethod).filterMap InitStep.declared? = [] :=
  filterMap_map_eq_nil (fun _ => rfl) links

@[simp] theorem initializers_announce (path className : String) :
    [InitStep.announce path className].filterMap InitStep.initializer? = [] := rfl

@[simp] theorem initializers_setTrigger (triggers : List TriggerMetadata) :
    (triggers.map InitStep.setTrigger).filterMap InitStep.initializer? = [] :=
  filterMap_map_eq_nil (fun _ => rfl) triggers

@[simp] theorem initializers_makeToken (made : List TokenInitializer) :
    (made.map InitStep.makeToken).filterMap InitStep.initializer? = made := by
  rw [List.filterMap_map]
  exact List.filterMap_some

@[simp] theorem initializers_linkMethod (links : List MethodLink) :
    (links.map InitStep.linkMethod).filterMap InitStep.initializer? = [] :=
  filterMap_map_eq_nil (fun _ => rfl) links

@[simp] theorem declared_selfStructSteps
    (node : ReactorInstance)
    (reactorClass : ReactorClass)
    (selfVariable list : String) :
    (selfStructSteps node reactorClass selfVariable list).filterMap InitStep.declared? =
      [selfVariable] :=
  filterMap_selfStructSteps _ (fun _ _ _ => rfl) node reactorClass selfVariable list

@[simp] theorem initializers_selfStructSteps
    (node : ReactorInstance)
    (reactorClass : ReactorClass)
    (selfVariable list : String) :
    (selfStructSteps node reactorClass selfVariable list).filterMap
      InitStep.initializer? = [] :=
  filterMap_selfStructSteps _ (fun _ _ _ => rfl) node reactorClass selfVariable list

/-! ## One instance -/

namespace Program

/-- The actions with tokens that an instance has in a federate. -/
def tokenSites
    (program : Program)
    (federate : Federate)
    (id : InstanceId) : Except DanglingReference (List TokenSite) := do
  let owner ← Naming.selfVariable program.tree id
  let actions ← program.federateActions federate id
  return (actions.filter (·.isToken)).map (TokenSite.mk owner)

variable
  {program : Program}
  {federate : Federate}
  {withSelfStruct : Bool}

/-- What the initialization of one instance adds. -/
theorem initializeInstance_adds
    {done next : Initialization}
    {id : InstanceId}
    (initialized :
      program.initializeInstance federate withSelfStruct done id = .ok next) :
    ∃ (owner : String) (actions : List ActionInstance),
      Naming.selfVariable program.tree id = .ok owner ∧
        program.tokenSites federate id = .ok (actions.map (TokenSite.mk owner)) ∧
        next.declared = done.declared ++ (if withSelfStruct then [owner] else []) ∧
        next.initializers = done.initializers ++
          (actions.foldl (initializeToken owner) ([], done.tokens)).1 ∧
        next.tokens = (actions.foldl (initializeToken owner) ([], done.tokens)).2 := by
  simp only [initializeInstance, Result.bind_eq_ok, Result.liftM_eq_ok, Result.pure_eq_ok]
    at initialized
  obtain ⟨node, _, reactorClass, _, owner, owner_eq, path, _, list, _, actions, _, timers,
    _, ⟨made, tokens⟩, made_eq, links, _, rfl⟩ := initialized
  simp only [initializeTokens, Result.bind_eq_ok, Result.pure_eq_ok] at made_eq
  obtain ⟨_, owner_again, contained, contained_eq, made_eq⟩ := made_eq
  obtain rfl : owner = _ := Except.ok.inj (owner_eq.symm.trans owner_again)
  refine ⟨owner, contained.filter (·.isToken), owner_eq, ?_, ?_, ?_, ?_⟩
  · simp only [tokenSites, owner_eq, contained_eq, Result.ok_bind]
    rfl
  · simp only [Initialization.declared, List.filterMap_append, declared_announce,
      declared_setTrigger, declared_makeToken, List.append_nil]
    cases withSelfStruct with
    | true =>
      simp only [if_true, declared_selfStructSteps, declared_linkMethod, List.append_nil]
    | false =>
      simp only [Bool.false_eq_true, if_false, List.filterMap_nil, List.append_nil]
  · simp only [Initialization.initializers, List.filterMap_append, initializers_announce,
      initializers_setTrigger, initializers_makeToken, List.append_nil, made_eq]
    cases withSelfStruct with
    | true =>
      simp only [if_true, initializers_selfStructSteps, initializers_linkMethod,
        List.append_nil]
    | false =>
      simp only [Bool.false_eq_true, if_false, List.filterMap_nil, List.append_nil]
  · rw [made_eq]

/-! ## All instances -/

/-- What the initialization of instances adds: the self variables in the order of
the instances, and what their actions with tokens register. -/
theorem initialization_adds
    {instances : List InstanceId}
    {done final : Initialization}
    {sites : List TokenSite}
    (initialized :
      instances.foldlM (program.initializeInstance federate withSelfStruct) done =
        .ok final)
    (registers : Registers sites done.initializers done.tokens) :
    ∃ owners added,
      instances.mapM (Naming.selfVariable program.tree) = .ok owners ∧
        instances.mapM (program.tokenSites federate) = .ok added ∧
        final.declared = done.declared ++ (if withSelfStruct then owners else []) ∧
        Registers (sites ++ added.flatten) final.initializers final.tokens := by
  induction instances generalizing done sites with
  | nil =>
    rw [List.foldlM_nil, Result.pure_eq_ok] at initialized
    subst initialized
    refine ⟨[], [], rfl, rfl, ?_, ?_⟩
    · rw [ite_self, List.append_nil]
    · rw [List.flatten_nil, List.append_nil]
      exact registers
  | cons id rest inductionHypothesis =>
    rw [List.foldlM_cons, Result.bind_eq_ok] at initialized
    obtain ⟨next, next_eq, rest_eq⟩ := initialized
    obtain ⟨owner, actions, owner_eq, sites_eq, declared_eq, initializers_eq, tokens_eq⟩ :=
      initializeInstance_adds next_eq
    have step : Registers (sites ++ actions.map (TokenSite.mk owner))
        next.initializers next.tokens := by
      rw [initializers_eq, tokens_eq]
      apply Registers.initializeTokens
      rw [List.append_nil]
      exact registers
    obtain ⟨owners, added, owners_eq, added_eq, final_eq, final_registers⟩ :=
      inductionHypothesis rest_eq step
    refine ⟨owner :: owners, actions.map (TokenSite.mk owner) :: added, ?_, ?_, ?_, ?_⟩
    · rw [Result.mapM_eq_ok] at owners_eq ⊢
      exact .cons owner_eq owners_eq
    · rw [Result.mapM_eq_ok] at added_eq ⊢
      exact .cons sites_eq added_eq
    · rw [final_eq, declared_eq, List.append_assoc]
      cases withSelfStruct with
      | true => rfl
      | false => rfl
    · rw [List.flatten_cons, ← List.append_assoc]
      exact final_registers

end Program
end ReactorGen
