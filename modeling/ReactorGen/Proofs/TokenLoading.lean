import ReactorGen.Proofs.JsonReading

/-!
# Loaded tables

A table that was loaded from rows registers more triggers as if it had never been
written.  Registering a trigger is entering its row, so such a table is the table of the
loaded rows and the rows of the triggers, in this order.  All that is known of it follows
from entering one row: it keeps the rows that stand there, and it keeps the tokens that
are known to be registered in step with them.
-/

namespace ReactorGen

/-- Whether two rows are for one token. -/
def TokenEntry.sharesToken (entry other : TokenEntry) : Bool :=
  entry.tokenRef == other.tokenRef

namespace TokenTable

/-- The table after triggers were registered one after the other. -/
def registerAll (table : TokenTable) (triggers : List String) : TokenTable :=
  triggers.foldl register table

/-- What one registration does. -/
structure RegistersOnce (table : TokenTable) (trigger : String) : Prop where
  isNew_iff : table.isNew trigger = true ↔
    ∀ entry ∈ table.entries, entry.tokenRef ≠ "&" ++ trigger ++ ".token"
  /-- A new trigger gets one row behind all others. -/
  entries_of_isNew : table.isNew trigger = true ->
    (table.register trigger).entries =
      table.entries ++ [⟨"&" ++ trigger ++ ".token", "&" ++ trigger ++ ".status", true⟩]
  eq_of_not_isNew : table.isNew trigger = false -> table.register trigger = table

/-! ## Entering rows -/

theorem registerAll_ofList (rows : List TokenEntry) (triggers : List String) :
    (ofList rows).registerAll triggers =
      ofList (rows ++ triggers.map TokenEntry.ofTrigger) := by
  rw [ofList, ofList, List.foldl_append, List.foldl_map]
  rfl

theorem Consistent.foldl_insert
    {table : TokenTable}
    (consistent : table.Consistent)
    (rows : List TokenEntry) :
    (rows.foldl TokenTable.insert table).Consistent := by
  induction rows generalizing table with
  | nil => exact consistent
  | cons row _ inductionHypothesis => exact inductionHypothesis (consistent.insert row)

theorem consistent_ofList (rows : List TokenEntry) : (ofList rows).Consistent :=
  consistent_empty.foldl_insert rows

/-- A token of a consistent table is known to be registered if it has a row. -/
theorem Consistent.mem_registered_iff
    {table : TokenTable}
    (consistent : table.Consistent)
    {tokenRef : String} :
    tokenRef ∈ table.registered ↔ ∃ entry ∈ table.entries, entry.tokenRef = tokenRef := by
  rw [consistent.registered, List.mem_map]

/-- Rows that stand in the table stay where they are. -/
theorem entries_prefix_insert (table : TokenTable) (entry : TokenEntry) :
    table.entries <+: (table.insert entry).entries := by
  rw [insert]
  split
  case isTrue => exact List.prefix_rfl
  case isFalse => exact List.prefix_append _ _

theorem entries_prefix_registerAll (table : TokenTable) (triggers : List String) :
    table.entries <+: (table.registerAll triggers).entries := by
  induction triggers generalizing table with
  | nil => exact List.prefix_rfl
  | cons trigger _ inductionHypothesis =>
    exact (table.entries_prefix_insert (.ofTrigger trigger)).trans
      (inductionHypothesis (table.register trigger))

/-! ## Registrations -/

theorem isNew_iff_not_mem {table : TokenTable} {trigger : String} :
    table.isNew trigger = true ↔
      (TokenEntry.ofTrigger trigger).tokenRef ∉ table.registered := by
  rw [isNew, contains, Bool.not_eq_true', ← Bool.not_eq_true, List.contains_iff_mem]

theorem Consistent.registersOnce
    {table : TokenTable}
    (consistent : table.Consistent)
    (trigger : String) :
    table.RegistersOnce trigger := by
  constructor
  case isNew_iff =>
    rw [isNew_iff_not_mem, consistent.mem_registered_iff]
    simp only [not_exists, not_and]
    rfl
  case entries_of_isNew =>
    intro new
    rw [isNew, Bool.not_eq_true'] at new
    rw [register, insert_of_not_contains table _ new]
    rfl
  case eq_of_not_isNew =>
    intro known
    rw [isNew, Bool.not_eq_false'] at known
    exact insert_of_contains table _ known

/-- After one registration, exactly the other triggers that were new still are. -/
theorem isNew_register {table : TokenTable} {registered trigger : String} :
    (table.register registered).isNew trigger = true ↔
      trigger ≠ registered ∧ table.isNew trigger = true := by
  rw [isNew_iff_not_mem, isNew_iff_not_mem, register, insert]
  split
  case isTrue known =>
    rw [contains, List.contains_iff_mem] at known
    refine ⟨fun absent => ⟨?_, absent⟩, And.right⟩
    rintro rfl
    exact absent known
  case isFalse =>
    rw [List.mem_append, List.mem_singleton, TokenEntry.tokenRef_inj, not_or, and_comm]

/-- A run of registrations takes away what it names. -/
theorem isNew_registerAll
    {table : TokenTable}
    {triggers : List String}
    {trigger : String} :
    (table.registerAll triggers).isNew trigger = true ↔
      trigger ∉ triggers ∧ table.isNew trigger = true := by
  induction triggers generalizing table with
  | nil =>
    rw [and_iff_right (List.not_mem_nil)]
    rfl
  | cons first rest inductionHypothesis =>
    change ((table.register first).registerAll rest).isNew trigger = true ↔ _
    rw [inductionHypothesis, isNew_register, List.mem_cons, not_or, and_left_comm, and_assoc]

/-! ## What is loaded -/

/-- The rows that stand in the table already decide which of the others are entered. -/
theorem Consistent.entries_foldl_insert
    {table : TokenTable}
    (consistent : table.Consistent)
    (rows : List TokenEntry) :
    (rows.foldl TokenTable.insert table).entries =
      List.eraseDupsBy.loop TokenEntry.sharesToken rows table.entries.reverse := by
  -- The loop holds what it has kept in reverse, so it starts from the reversed table.
  induction rows generalizing table with
  | nil => exact table.entries.reverse_reverse.symm
  | cons row rest inductionHypothesis =>
    have known_iff : table.contains row.tokenRef = true ↔
        table.entries.reverse.any row.sharesToken = true := by
      rw [contains, List.contains_iff_mem, consistent.mem_registered_iff, List.any_reverse,
        List.any_eq_true]
      simp only [TokenEntry.sharesToken, beq_iff_eq, eq_comm (a := row.tokenRef)]
    rw [List.foldl_cons, inductionHypothesis (consistent.insert row), List.eraseDupsBy.loop]
    cases known : table.contains row.tokenRef with
    | true => rw [known_iff.mp known, insert_of_contains table row known]
    | false =>
      rw [Bool.eq_false_iff.mpr fun shared => Bool.eq_false_iff.mp known (known_iff.mpr shared),
        insert_of_not_contains table row known, List.reverse_append]
      rfl

/-- Of the rows with one token, the first one is entered. -/
theorem entries_ofList (rows : List TokenEntry) :
    (ofList rows).entries = rows.eraseDupsBy TokenEntry.sharesToken :=
  consistent_empty.entries_foldl_insert rows

/-- Loading keeps the first row for each token.  A table that was loaded and has
registered triggers has one row for each of the tokens that it knows to be registered, and
keeps its rows when it registers each of further triggers once.  It is found again in what
is written for it, and then goes on in the same way. -/
theorem registerAll_loaded (rows : List TokenEntry) (triggers : List String) :
    let table := (ofList rows).registerAll triggers
    (ofList rows).entries = rows.eraseDupsBy TokenEntry.sharesToken ∧
    (table.entries.map TokenEntry.tokenRef).Nodup ∧
    (∀ tokenRef, tokenRef ∈ table.registered ↔
      ∃ entry ∈ table.entries, entry.tokenRef = tokenRef) ∧
    (∀ trigger, table.RegistersOnce trigger) ∧
    (∀ more, table.entries <+: (table.registerAll more).entries) ∧
    ofList table.entries = table ∧
    ∃ reloaded : TokenTable,
      JsonFormat.read (JsonFormat.write table) = some reloaded ∧
      reloaded = table ∧
      ∀ future trigger, (reloaded.registerAll future).isNew trigger = true ↔
        trigger ∉ future ∧
          ∀ entry ∈ table.entries, entry.tokenRef ≠ "&" ++ trigger ++ ".token" := by
  intro table
  have consistent : table.Consistent := by
    change ((ofList rows).registerAll triggers).Consistent
    rw [registerAll_ofList]
    exact consistent_ofList _
  refine ⟨entries_ofList rows, ?nodup, fun _ => consistent.mem_registered_iff, consistent.registersOnce,
    table.entries_prefix_registerAll, ofList_entries consistent,
    table, restored consistent .strict, rfl, ?future⟩
  case nodup =>
    rw [← consistent.registered]
    exact consistent.nodup
  case future =>
    intro future trigger
    rw [isNew_registerAll, (consistent.registersOnce trigger).isNew_iff]

end TokenTable
end ReactorGen
