import Mathlib.Data.List.Nodup
import ReactorGen.Json.Generated
import ReactorGen.Proofs.TokenRegistration

/-!
# Reading what was written

Which values are the same after they were written as JSON and read again.  Most
formats restore all of their values: what is known of the format of a record then
follows from its fields alone.  Counts and indices are an exception, for they have to
fit into a machine word.
-/

namespace ReactorGen

namespace JsonFormat

/-- A value that is found again in what is written for it, however freely values may be
spelled. -/
def Restored [JsonFormat α] (value : α) : Prop :=
  ∀ leniency, readWith leniency (write value) = some value

/-- A format that restores all of its values. -/
class Lossless (α : Type) [JsonFormat α] : Prop where
  restored : ∀ value : α, Restored value

/-- A format that never writes what stands for a value that is missing. -/
class NeverNull (α : Type) [JsonFormat α] : Prop where
  write_ne_null : ∀ value : α, write value ≠ .null

/-! ## Parts of any value -/

instance : Lossless Bool := ⟨fun _ _ => rfl⟩

instance : Lossless String := ⟨fun _ _ => rfl⟩

instance : NeverNull String := ⟨nofun⟩

/-- A number inside the bound is found again. -/
theorem readBelow_of_lt
    {bound value : Nat}
    (inside : value < bound) :
    readBelow bound (.number value) = some value :=
  if_pos inside

/-- Counts and indices take one machine word. -/
theorem restored_nat
    {value : Nat}
    (inside : value < UInt64.size) :
    Restored value :=
  fun _ => readBelow_of_lt inside

instance : Lossless UInt16 where
  restored value _ := by
    simp only [readWith, write, readBelow_of_lt value.toNat_lt, Option.map_some,
      UInt16.ofNat_toNat]

instance : Lossless UInt32 where
  restored value _ := by
    simp only [readWith, write, readBelow_of_lt value.toNat_lt, Option.map_some,
      UInt32.ofNat_toNat]

instance : Lossless UInt64 where
  restored value _ := by
    simp only [readWith, write, readBelow_of_lt value.toNat_lt, Option.map_some,
      UInt64.ofNat_toNat]

instance : Lossless Int32 where
  restored value _ := by
    have inside : Int32.minValue.toInt ≤ value.toInt ∧
        value.toInt ≤ Int32.maxValue.toInt :=
      ⟨value.minValue_le_toInt, value.toInt_le⟩
    simp only [readWith, write, readInt, if_pos inside, Option.map_some, Int32.ofInt_toInt]

/-- A value that may be missing is found again if null does not stand for it. -/
instance [JsonFormat α] [Lossless α] [NeverNull α] : Lossless (Option α) where
  restored value? leniency := by
    cases value? with
    | none => rfl
    | some value =>
      have unfolded : ∀ json : Json, json ≠ .null ->
          (readWith leniency json : Option (Option α)) =
            (readWith leniency json : Option α).map some := by
        intro json notNull
        cases json with
        | null => exact absurd rfl notNull
        | _ => rfl
      change readWith leniency (write value) = _
      rw [unfolded _ (NeverNull.write_ne_null value),
        Lossless.restored value leniency]
      rfl

/-- A list is found again with its items. -/
theorem restored_list
    [JsonFormat α]
    {items : List α}
    (each : ∀ item ∈ items, Restored item) :
    Restored items := by
  intro leniency
  change (items.map write).mapM (readWith leniency) = some items
  induction items with
  | nil => rfl
  | cons first rest inductionHypothesis =>
    rw [List.map_cons, List.mapM_cons, each first (List.mem_cons_self ..),
      inductionHypothesis fun item member => each item (List.mem_cons_of_mem _ member)]
    rfl

instance [JsonFormat α] [Lossless α] : Lossless (List α) :=
  ⟨fun _ => restored_list fun item _ => Lossless.restored item⟩

/-- One of finitely many values is found again under its name if no other value has the
same name. -/
theorem readNamed_name
    {nameOf : α -> String}
    {values : List α}
    (apart : (values.map nameOf).Nodup)
    {value : α}
    (member : value ∈ values)
    (leniency : Leniency) :
    readNamed nameOf values leniency (.string (nameOf value)) = some value := by
  have found_isSome : (values.find? fun other => nameOf other == nameOf value).isSome := by
    rw [List.find?_isSome]
    exact ⟨value, member, beq_self_eq_true _⟩
  obtain ⟨found, found_eq⟩ := Option.isSome_iff_exists.mp found_isSome
  have sameName : nameOf found = nameOf value := by
    simpa using List.find?_some found_eq
  have same : found = value :=
    List.inj_on_of_nodup_map apart (List.mem_of_find?_eq_some found_eq) member sameName
  rw [← same]
  rw [← sameName] at found_eq
  exact found_eq

/-! ## Records -/

/-- A field of a record is read from the member with its name. -/
theorem readField_bind_named
    (reader : Leniency -> Json -> Option α)
    (missing : Option α)
    (name : String)
    (next : α -> FieldReader β)
    (leniency : Leniency)
    (members : List (String × Json)) :
    (readField reader missing name >>= next) leniency (.named members) =
      (match members.lookup name with
        | none => missing
        | some json => reader leniency json).bind
          fun value => next value leniency (.named members) := by
  simp only [bind, ReaderT.bind, StateT.bind, readField]
  cases members.lookup name with
  | none => cases missing <;> rfl
  | some json =>
    simp only [Option.bind_map]
    rfl

/-- Reading that takes a value from the members of an object. -/
def Takes
    (reader : FieldReader α)
    (members : List (String × Json))
    (value : α) : Prop :=
  ∀ leniency, reader leniency (.named members) = some (value, .named members)

theorem Takes.done (members : List (String × Json)) (value : α) :
    Takes (pure value) members value :=
  fun _ => rfl

/-- A field is taken from the member that was written for it. -/
theorem Takes.field
    [JsonFormat α]
    {members : List (String × Json)}
    {name : String}
    {missing : Option α}
    {value : α}
    {next : α -> FieldReader β}
    {result : β}
    (member : members.lookup name = some (write value))
    (restored : Restored value)
    (rest : Takes (next value) members result) :
    Takes (readField readWith missing name >>= next) members result := by
  intro leniency
  rw [readField_bind_named, member]
  simp only [restored leniency, Option.bind_some, rest leniency]

/-- A field that may be missing is taken from the member that was written only when
there was a value for it. -/
theorem Takes.optionalField
    [JsonFormat α]
    [Lossless (Option α)]
    {members : List (String × Json)}
    {name : String}
    {value? : Option α}
    {next : Option α -> FieldReader β}
    {result : β}
    (member : members.lookup name = value?.map write)
    (rest : Takes (next value?) members result) :
    Takes (JsonFormat.optionalField α name >>= next) members result := by
  intro leniency
  rw [JsonFormat.optionalField, readField_bind_named, member]
  cases value? with
  | none => exact rest leniency
  | some value =>
    have restored : readWith leniency (write value) = some (some value) :=
      Lossless.restored (some value) leniency
    simp only [Option.map_some, restored, Option.bind_some, rest leniency]

/-- A record is found again in an object from whose members its fields are taken. -/
theorem readRecord_of_takes
    {reader : FieldReader α}
    {members : List (String × Json)}
    {value : α}
    (takes : Takes reader members value)
    (leniency : Leniency) :
    readRecord reader leniency (.object members) = some value := by
  rw [readRecord, takes leniency]
  rfl

theorem write_ne_null_of_object
    [JsonFormat α]
    {value : α}
    {members : List (String × Json)}
    (write_eq : write value = .object members) :
    write value ≠ .null := by
  rw [write_eq]
  exact Json.noConfusion

/-- A record that is written as an object is found again if its fields are. -/
theorem restored_record
    [JsonFormat α]
    {reader : FieldReader α}
    {members : List (String × Json)}
    {value : α}
    (write_eq : write value = .object members)
    (readWith_eq : (readWith : Leniency -> Json -> Option α) = readRecord reader)
    (takes : Takes reader members value) :
    Restored value := by
  intro leniency
  rw [write_eq, readWith_eq]
  exact readRecord_of_takes takes leniency

end JsonFormat

open JsonFormat

/-! ## Settings -/

instance : Lossless TimeUnit :=
  ⟨fun unit => readNamed_name (by decide) unit.mem_all⟩

instance : Lossless Target :=
  ⟨fun target => readNamed_name (by decide) target.mem_all⟩

instance : Lossless BuildType :=
  ⟨fun value => readNamed_name (by decide) (by cases value <;> decide)⟩

instance : Lossless ClockSync :=
  ⟨fun value => readNamed_name (by decide) (by cases value <;> decide)⟩

instance : Lossless Coordination :=
  ⟨fun value => readNamed_name (by decide) (by cases value <;> decide)⟩

instance : Lossless Verbosity :=
  ⟨fun value => readNamed_name (by decide) (by cases value <;> decide)⟩

instance : Lossless TimeValue where
  restored _ := by
    refine restored_record rfl rfl ?_
    iterate 2 refine .field rfl (Lossless.restored _) ?_
    exact .done _ _

instance : NeverNull TimeValue := ⟨fun _ => write_ne_null_of_object rfl⟩

instance : Lossless ClockSyncOptions where
  restored _ := by
    refine restored_record rfl rfl ?_
    iterate 6 refine .field rfl (Lossless.restored _) ?_
    exact .done _ _

instance : Lossless Tracing where
  restored _ := by
    refine restored_record rfl rfl ?_
    refine .field rfl (Lossless.restored _) ?_
    exact .done _ _

instance : NeverNull Tracing := ⟨fun _ => write_ne_null_of_object rfl⟩

instance : Lossless Settings where
  restored _ := by
    refine restored_record rfl rfl ?_
    iterate 19 refine .field rfl (Lossless.restored _) ?_
    exact .done _ _

instance : NeverNull Settings := ⟨fun _ => write_ne_null_of_object rfl⟩

/-! ## Diagnostics -/

instance : Lossless Span where
  restored _ := by
    refine restored_record rfl rfl ?_
    iterate 4 refine .field rfl (Lossless.restored _) ?_
    exact .done _ _

instance : NeverNull Span := ⟨fun _ => write_ne_null_of_object rfl⟩

instance : Lossless Severity :=
  ⟨fun value => readNamed_name (by decide) (by cases value <;> decide)⟩

instance : Lossless Category :=
  ⟨fun value => readNamed_name (by decide) (by cases value <;> decide)⟩

instance : Lossless Code where
  restored code leniency :=
    congrArg (Option.map Code.mk) (Lossless.restored code.number leniency)

/-- A place that is not known is left out, and what is left out is not known. -/
instance : Lossless Diagnostic where
  restored diagnostic := by
    refine restored_record rfl rfl ?_
    iterate 5 refine .field rfl (Lossless.restored _) ?_
    have span : ([
          ("code", write diagnostic.code),
          ("severity", write diagnostic.severity),
          ("category", write diagnostic.category),
          ("message", write diagnostic.message),
          ("subject", write diagnostic.subject)
        ] ++ whenPresent "span" diagnostic.span).lookup "span" =
        diagnostic.span.map write := by
      cases diagnostic.span <;> rfl
    exact .optionalField span (.done _ _)

/-- The problems of a run can be counted in a machine word. -/
structure Diagnostics.Countable (diagnostics : Diagnostics) : Prop where
  errors : diagnostics.totalErrors < UInt64.size
  warnings : diagnostics.totalWarnings < UInt64.size

theorem Diagnostics.Countable.restored
    {diagnostics : Diagnostics}
    (countable : diagnostics.Countable) :
    Restored diagnostics := by
  refine restored_record rfl rfl ?_
  iterate 2 refine .field rfl (Lossless.restored _) ?_
  refine .field rfl (restored_nat countable.errors) ?_
  refine .field rfl (restored_nat countable.warnings) ?_
  exact .done _ _

/-! ## Triggers and tokens -/

instance : Lossless Period where
  restored period leniency := by
    cases period with
    | spacing time => exact congrArg (Option.map Period.spacing) (Lossless.restored time leniency)
    | undefined => rfl

instance : Lossless TriggerKind :=
  ⟨fun value => readNamed_name (by decide) (by cases value <;> decide)⟩

/-- The position of a mode fits into a machine word. -/
def ModeBinding.Fits : ModeBinding -> Prop
  | mode _ index => index < UInt64.size
  | unbound => True

theorem ModeBinding.restored
    {binding : ModeBinding}
    (fits : binding.Fits) :
    Restored binding := by
  intro leniency
  cases binding with
  | mode owner index =>
    refine readRecord_of_takes ?_ leniency
    refine .field rfl (Lossless.restored owner) ?_
    refine .field rfl (restored_nat fits) ?_
    exact .done _ _
  | unbound => rfl

theorem TriggerMetadata.restored
    {metadata : TriggerMetadata}
    (fits : metadata.mode.Fits) :
    Restored metadata := by
  refine restored_record rfl rfl ?_
  iterate 6 refine .field rfl (Lossless.restored _) ?_
  refine .field rfl (ModeBinding.restored fits) ?_
  refine .field rfl (Lossless.restored _) ?_
  exact .done _ _

instance : Lossless TokenEntry where
  restored _ := by
    refine restored_record rfl rfl ?_
    iterate 3 refine .field rfl (Lossless.restored _) ?_
    exact .done _ _

namespace TokenTable

/-- Rows for different tokens are all entered behind the rows that stand there, and all
their tokens are registered. -/
theorem foldl_insert
    (table : TokenTable)
    {rows : List TokenEntry}
    (apart : (table.registered ++ rows.map TokenEntry.tokenRef).Nodup) :
    rows.foldl insert table =
      ⟨table.entries ++ rows, table.registered ++ rows.map TokenEntry.tokenRef⟩ := by
  induction rows generalizing table with
  | nil => rw [List.map_nil, List.append_nil, List.append_nil]; rfl
  | cons row rest inductionHypothesis =>
    rw [List.map_cons] at apart ⊢
    have absent : table.contains row.tokenRef = false := by
      rw [contains, ← Bool.not_eq_true, List.contains_iff_mem]
      exact fun member => (List.nodup_append.mp apart).2.2 _ member _ (List.mem_cons_self ..) rfl
    rw [List.append_cons] at apart
    rw [List.foldl_cons, table.insert_of_not_contains row absent, inductionHypothesis _ apart,
      ← List.append_cons, ← List.append_cons]

/-- A table is the table of its rows: read again, they register the same tokens. -/
theorem ofList_entries
    {table : TokenTable}
    (consistent : table.Consistent) :
    ofList table.entries = table := by
  have nodup := consistent.nodup
  rw [consistent.registered] at nodup
  rw [ofList, foldl_insert empty nodup]
  cases table
  exact congrArg (TokenTable.mk _) consistent.registered.symm

theorem restored
    {table : TokenTable}
    (consistent : table.Consistent) :
    Restored table := by
  intro leniency
  have rows : readWith leniency (write table.entries) = some table.entries :=
    Lossless.restored table.entries leniency
  change (readWith leniency (write table.entries)).map ofList = some table
  rw [rows, Option.map_some, ofList_entries consistent]

end TokenTable

/-! ## Results -/

instance : Lossless Artifact where
  restored _ := by
    refine restored_record rfl rfl ?_
    iterate 3 refine .field rfl (Lossless.restored _) ?_
    exact .done _ _

/-- What was generated for a federate is found again if each token is registered with its
row and the numbers fit into a machine word. -/
structure FederateArtifacts.Storable (generated : FederateArtifacts) : Prop where
  modes : ∀ metadata ∈ generated.triggers, metadata.mode.Fits
  tokens : generated.tokens.Consistent
  diagnostics : generated.diagnostics.Countable

/-- What was generated for a federate is found among members that tell the status,
too. -/
theorem FederateArtifacts.Storable.readWith_eq
    {generated : FederateArtifacts}
    (storable : generated.Storable)
    (leniency : Leniency) :
    readWith leniency (.object (("status", .string "generated") :: generated.members)) =
      some generated := by
  have triggers : Restored generated.triggers := restored_list fun metadata member =>
    TriggerMetadata.restored (storable.modes metadata member)
  refine readRecord_of_takes ?_ leniency
  iterate 3 refine .field rfl (Lossless.restored _) ?_
  refine .field rfl triggers ?_
  refine .field rfl (TokenTable.restored storable.tokens) ?_
  refine .field rfl storable.diagnostics.restored ?_
  exact .done _ _

namespace FederateOutput

/-- How an object is read depends on the status that it tells. -/
theorem readWith_of_status
    {members : List (String × Json)}
    {status : String}
    (told : members.lookup "status" = some (.string status))
    (leniency : Leniency) :
    readWith leniency (.object members) = readStatus status (.object members) := by
  have required_eq : required String (.object members) "status" = some status := by
    rw [required, Json.member?, told]
    rfl
  change (required String (.object members) "status" >>= fun status =>
    readStatus status (.object members)) = _
  rw [required_eq]
  rfl

theorem restored
    {output : FederateOutput}
    (storable : ∀ generated, output.artifacts? = some generated -> generated.Storable) :
    Restored output := by
  intro leniency
  cases output with
  | generated artifacts =>
    refine (readWith_of_status rfl leniency).trans ?_
    exact congrArg (Option.map FederateOutput.generated)
      ((storable artifacts rfl).readWith_eq .lenient)
  | suppressed federate reason =>
    refine (readWith_of_status rfl leniency).trans ?_
    refine readRecord_of_takes ?_ .lenient
    iterate 2 refine .field rfl (Lossless.restored _) ?_
    exact .done _ _

end FederateOutput

theorem CompileResult.restored
    {result : CompileResult}
    (storable : ∀ generated ∈ result.generated, generated.Storable)
    (countable : result.diagnostics.Countable) :
    Restored result := by
  have federates : Restored result.federates := restored_list fun output member =>
    FederateOutput.restored fun generated generated_eq =>
      storable generated (List.mem_filterMap.mpr ⟨output, member, generated_eq⟩)
  refine restored_record rfl rfl ?_
  iterate 2 refine .field rfl (Lossless.restored _) ?_
  refine .field rfl federates ?_
  refine .field rfl countable.restored ?_
  exact .done _ _

end ReactorGen
