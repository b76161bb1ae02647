import Mathlib.Data.List.Nodup
import Mathlib.Data.List.Perm.Basic
import ReactorGen.Proofs.FirstOccurrences
import ReactorGen.Trigger

/-!
# The registration of tokens

Actions whose payload travels in a token are registered one after the other, under
the references of their triggers.  The first action with a reference gets a row of
the table and the statements that fill it; any other action with the same reference
gets nothing.  So no action is lost exactly when their references differ.
-/

namespace ReactorGen

/-- An action with a token, in the self struct that a variable holds. -/
structure TokenSite where
  owner : String
  action : ActionInstance
deriving DecidableEq, Repr

namespace TokenSite

def trigger (site : TokenSite) : String :=
  Naming.trigger site.owner site.action.name

/-- The statements that the action gets if it is the first with its reference. -/
def initializer (site : TokenSite) : TokenInitializer :=
  ⟨site.trigger, site.action.payloadSize⟩

end TokenSite

namespace TokenEntry

theorem tokenRef_inj {left right : String} :
    (ofTrigger left).tokenRef = (ofTrigger right).tokenRef ↔ left = right := by
  constructor
  · intro equal
    rw [ofTrigger, ofTrigger, String.append_left_inj, String.append_right_inj] at equal
    exact equal
  · rintro rfl
    rfl

/-- The rows of different triggers are different. -/
theorem nodup_rows
    {items : List α}
    {triggerOf : α -> String}
    (apart : (items.map triggerOf).Nodup) :
    ((items.map fun item => ofTrigger (triggerOf item)).map tokenRef).Nodup := by
  have rows_eq : (items.map fun item => ofTrigger (triggerOf item)).map tokenRef =
      (items.map triggerOf).map fun trigger => (ofTrigger trigger).tokenRef := by
    rw [List.map_map, List.map_map]
    rfl
  rw [rows_eq]
  refine List.Nodup.map ?_ apart
  intro left right equal
  exact tokenRef_inj.mp equal

end TokenEntry

namespace FirstOccurrences

variable {α : Type} [BEq α] [LawfulBEq α]

theorem eraseDups_append_of_mem
    {items : List α}
    {item : α}
    (member : item ∈ items) :
    (items ++ [item]).eraseDups = items.eraseDups := by
  rw [List.eraseDups_append]
  have nothing : [item].removeAll items = [] := by simp [List.removeAll, member]
  rw [nothing, List.eraseDups_nil, List.append_nil]

theorem eraseDups_append_of_not_mem
    {items : List α}
    {item : α}
    (fresh : item ∉ items) :
    (items ++ [item]).eraseDups = items.eraseDups ++ [item] := by
  rw [List.eraseDups_append]
  have itself : [item].removeAll items = [item] := by simp [List.removeAll, fresh]
  rw [itself]
  rfl

/-- A list without repetitions has nothing to drop. -/
theorem length_eraseDups_of_nodup
    {items : List α}
    (nodup : items.Nodup) :
    items.eraseDups.length = items.length := by
  have permuted : items.eraseDups.Perm items := by
    rw [List.perm_ext_iff_of_nodup (nodup_eraseDups items) nodup]
    intro item
    exact List.mem_eraseDups
  exact permuted.length_eq

end FirstOccurrences

namespace TokenTable

/-- The tokens that are registered are those of the rows, each of them once. -/
structure Consistent (table : TokenTable) : Prop where
  registered : table.registered = table.entries.map TokenEntry.tokenRef
  nodup : table.registered.Nodup

theorem consistent_empty : empty.Consistent :=
  ⟨rfl, .nil⟩

theorem Consistent.insert
    {table : TokenTable}
    (consistent : table.Consistent)
    (entry : TokenEntry) :
    (table.insert entry).Consistent := by
  rw [TokenTable.insert]
  split
  case isTrue => exact consistent
  case isFalse absent =>
    rw [contains, List.contains_iff_mem] at absent
    constructor
    case registered =>
      rw [List.map_append, ← consistent.registered]
      rfl
    case nodup =>
      have fresh := List.nodup_cons.mpr ⟨absent, consistent.nodup⟩
      exact List.nodup_append_comm.mp fresh

/-- What registration has made of some actions: for the first action with each
reference, the statements and the row. -/
structure Registers
    (sites : List TokenSite)
    (made : List TokenInitializer)
    (table : TokenTable) : Prop where
  initializers : made.Sublist (sites.map TokenSite.initializer)
  triggers :
    made.map TokenInitializer.trigger = (sites.map TokenSite.trigger).eraseDups
  entries :
    table.entries = made.map fun initializer => .ofTrigger initializer.trigger
  consistent : table.Consistent

theorem registers_empty : Registers [] [] empty :=
  ⟨.slnil, rfl, rfl, consistent_empty⟩

namespace Registers

variable
  {sites : List TokenSite}
  {made : List TokenInitializer}
  {table : TokenTable}

/-- A trigger is new unless an earlier action has its reference. -/
theorem isNew_iff
    (registers : Registers sites made table)
    (trigger : String) :
    table.isNew trigger = true ↔ trigger ∉ sites.map TokenSite.trigger := by
  have known : table.contains (TokenEntry.ofTrigger trigger).tokenRef = true ↔
      trigger ∈ sites.map TokenSite.trigger := by
    rw [← List.mem_eraseDups, ← registers.triggers, contains, List.contains_iff_mem,
      registers.consistent.registered, registers.entries, List.map_map, List.mem_map,
      List.mem_map]
    constructor
    · rintro ⟨initializer, member, same⟩
      exact ⟨initializer, member, TokenEntry.tokenRef_inj.mp same⟩
    · rintro ⟨initializer, member, rfl⟩
      exact ⟨initializer, member, rfl⟩
  rw [isNew, ← known]
  simp

/-- The first action with its reference gets statements and a row. -/
theorem append_fresh
    (registers : Registers sites made table)
    {site : TokenSite}
    (fresh : site.trigger ∉ sites.map TokenSite.trigger) :
    Registers (sites ++ [site]) (made ++ [site.initializer])
      (table.register site.trigger) := by
  have absent : table.contains (TokenEntry.ofTrigger site.trigger).tokenRef = false := by
    have new := (registers.isNew_iff site.trigger).mpr fresh
    rwa [isNew, Bool.not_eq_true'] at new
  constructor
  case initializers =>
    rw [List.map_append]
    exact registers.initializers.append (List.Sublist.refl _)
  case triggers =>
    rw [List.map_append, List.map_append, registers.triggers]
    exact (FirstOccurrences.eraseDups_append_of_not_mem fresh).symm
  case entries =>
    rw [register, insert_of_not_contains table _ absent, registers.entries,
      List.map_append]
    rfl
  case consistent => exact registers.consistent.insert _

/-- Any other action with its reference gets nothing. -/
theorem append_known
    (registers : Registers sites made table)
    {site : TokenSite}
    (known : site.trigger ∈ sites.map TokenSite.trigger) :
    Registers (sites ++ [site]) made table where
  initializers := by
    rw [List.map_append]
    exact registers.initializers.trans (List.sublist_append_left _ _)
  triggers := by
    rw [List.map_append]
    exact registers.triggers.trans (FirstOccurrences.eraseDups_append_of_mem known).symm
  entries := registers.entries
  consistent := registers.consistent

/-- One more action is registered after those of earlier instances. -/
theorem initializeToken
    {earlier : List TokenInitializer}
    (registers : Registers sites (earlier ++ made) table)
    (owner : String)
    (action : ActionInstance) :
    Registers (sites ++ [⟨owner, action⟩])
      (earlier ++ (Program.initializeToken owner (made, table) action).1)
      (Program.initializeToken owner (made, table) action).2 := by
  let site : TokenSite := ⟨owner, action⟩
  have unfolded : Program.initializeToken owner (made, table) action =
      if table.isNew site.trigger then
        (made ++ [site.initializer], table.register site.trigger)
      else (made, table) := rfl
  by_cases fresh : site.trigger ∉ sites.map TokenSite.trigger
  · rw [unfolded, if_pos ((registers.isNew_iff _).mpr fresh), ← List.append_assoc]
    exact registers.append_fresh fresh
  · have known := Classical.not_not.mp fresh
    rw [unfolded, if_neg fun new => fresh ((registers.isNew_iff _).mp new)]
    exact registers.append_known known

/-- The actions of one more instance are registered in their order. -/
theorem initializeTokens
    {earlier : List TokenInitializer}
    (registers : Registers sites (earlier ++ made) table)
    (owner : String)
    (actions : List ActionInstance) :
    Registers (sites ++ actions.map (TokenSite.mk owner))
      (earlier ++ (actions.foldl (Program.initializeToken owner) (made, table)).1)
      (actions.foldl (Program.initializeToken owner) (made, table)).2 := by
  induction actions generalizing sites made table with
  | nil =>
    rw [List.map_nil, List.append_nil]
    exact registers
  | cons action rest inductionHypothesis =>
    have next := inductionHypothesis (registers.initializeToken owner action)
    rw [List.append_assoc] at next
    exact next

/-! ## What is lost -/

theorem size_eq
    (registers : Registers sites made table) :
    table.size = (sites.map TokenSite.trigger).eraseDups.length := by
  rw [size, registers.entries, List.length_map, ← registers.triggers, List.length_map]

/-- Every action has a row exactly when the references differ. -/
theorem size_eq_length_iff
    (registers : Registers sites made table) :
    table.size = sites.length ↔ (sites.map TokenSite.trigger).Nodup := by
  constructor
  · intro complete
    have all : made = sites.map TokenSite.initializer := by
      apply registers.initializers.eq_of_length
      rw [List.length_map, ← complete, size, registers.entries, List.length_map]
    have triggers := registers.triggers
    rw [all, List.map_map] at triggers
    change sites.map TokenSite.trigger = _ at triggers
    rw [triggers]
    exact FirstOccurrences.nodup_eraseDups _
  · intro apart
    rw [registers.size_eq, FirstOccurrences.length_eraseDups_of_nodup apart,
      List.length_map]

/-- Where the references differ, every action gets its own statements. -/
theorem made_eq
    (registers : Registers sites made table)
    (apart : (sites.map TokenSite.trigger).Nodup) :
    made = sites.map TokenSite.initializer := by
  apply registers.initializers.eq_of_length
  have complete := registers.size_eq_length_iff.mpr apart
  rw [List.length_map, ← complete, size, registers.entries, List.length_map]

end Registers
end TokenTable
end ReactorGen
