import ReactorGen.Proofs.ErrorScope
import ReactorGen.Proofs.FederateSources
import ReactorGen.Proofs.OutputPaths

/-!
# Files and their manifests

What the output of a compilation leaves on disk.  Every file holds what was written to it
last.  A manifest is right about the files of its federate unless a file was written over
another one: a program without federation can be named so that its module takes the place
of the script that builds it.
-/

namespace ReactorGen

open FileSystem

/-! ## What is generated -/

/-- The files of a federate have the names of its target, and the digests are those of
their contents. -/
structure FederateArtifacts.IsNamed
    (generated : FederateArtifacts)
    (target : Target)
    (topLevelName : String) : Prop where
  paths : generated.artifacts.map Artifact.path ++ [manifestFile] =
    target.ownEndings.map (topLevelName ++ ·) ++ target.commonNames
  digests : ∀ artifact ∈ generated.artifacts,
    artifact.digest = Sha256.ofText artifact.contents

namespace Program

variable
  {program : Program}
  {environment : Environment}
  {federate : Federate}
  {baseName : String}

theorem named_of_federateFiles
    {topLevelName : String}
    {files : FederateFiles}
    (files_eq :
      (program.federateFiles environment federate topLevelName).run.result = .ok files) :
    files.artifacts.map Artifact.path ++ ["triggers.json", manifestFile] =
        environment.settings.target.ownEndings.map (topLevelName ++ ·) ++
          environment.settings.target.commonNames ∧
      ∀ artifact ∈ files.artifacts, artifact.digest = Sha256.ofText artifact.contents := by
  rw [federateFiles, Report.result_run_bind, Result.bind_eq_ok] at files_eq
  obtain ⟨classes, _, files_eq⟩ := files_eq
  by_cases python : environment.settings.target = .python
  · rw [if_pos python] at files_eq
    simp only [interpreterFiles, Report.result_run_bind, Report.result_run_pure,
      Generation.result_ofExcept, Result.bind_eq_ok] at files_eq
    obtain ⟨_, _, _, _, _, _, _, _, _, _, files_eq⟩ := files_eq
    rw [python, ← Except.ok.inj files_eq]
    exact ⟨rfl, by simp [nativeArtifacts, Artifact.ofContents]⟩
  · rw [if_neg python] at files_eq
    simp only [triggerFiles, Report.result_run_bind, Report.result_run_pure,
      Generation.result_ofExcept, Result.bind_eq_ok] at files_eq
    obtain ⟨_, _, files_eq⟩ := files_eq
    rw [← Except.ok.inj files_eq]
    refine ⟨?_, by simp [Artifact.ofContents]⟩
    cases target_eq : environment.settings.target with
    | python => exact absurd target_eq python
    | _ => rfl

/-- What is generated for a federate is named for it. -/
theorem named_of_generateFederate
    {generated : FederateArtifacts}
    (generated_eq :
      (program.generateFederate environment federate baseName).run.result =
        .ok generated) :
    generated.federate = federate.name ∧
      generated.IsNamed environment.settings.target
        (program.topLevelName baseName federate) := by
  have federate_eq : generated.federate = federate.name := by
    simp only [generateFederate, Report.result_run_bind, Report.result_run_pure,
      Result.bind_eq_ok] at generated_eq
    obtain ⟨_, _, _, _, artifacts_eq⟩ := generated_eq
    rw [← Except.ok.inj artifacts_eq]
  obtain ⟨files, files_eq, artifacts_eq, _⟩ := exists_files_of_generateFederate generated_eq
  obtain ⟨paths, digests⟩ := named_of_federateFiles files_eq
  rw [target_federateSettings] at paths
  refine ⟨federate_eq, ?_, ?_⟩
  · rw [artifacts_eq, List.map_append, List.append_assoc, ← paths]
    rfl
  · intro artifact member
    rw [artifacts_eq, List.mem_append] at member
    rcases member with member | member
    · exact digests artifact member
    · rw [List.mem_singleton.mp member]
      rfl

/-- What a compilation generates comes from some of its federates, in their order. -/
theorem exists_sublist_of_compileFederates
    {federates : List Federate}
    {progress : CompileProgress}
    {result : CompileResult}
    (compiled : (program.compileFederates environment baseName progress
      federates).run.result = .ok result) :
    result.generated = [] ∨
      ∃ kept generated, kept.Sublist federates ∧
        result.generated =
          progress.federates.filterMap FederateOutput.artifacts? ++ generated ∧
        List.Forall₂ (fun federate artifacts =>
          program.federateResult environment baseName federate = .ok artifacts)
          kept generated := by
  induction federates generalizing progress with
  | nil =>
    rw [← Except.ok.inj compiled]
    exact .inr ⟨[], [], .slnil, (List.append_nil _).symm, .nil⟩
  | cons federate rest inductionHypothesis =>
    rw [compileFederates_cons] at compiled
    split at compiled
    case h_1 artifacts artifacts_eq =>
      rcases inductionHypothesis compiled with none | ⟨kept, generated, sublist, eq, all⟩
      · exact .inl none
      · refine .inr ⟨federate :: kept, artifacts :: generated, sublist.cons_cons _, ?_,
          .cons artifacts_eq all⟩
        rw [eq, CompileProgress.generated]
        simp [FederateOutput.artifacts?]
    case h_2 => cases compiled
    case h_3 fault _ =>
      split at compiled
      case isTrue =>
        rw [← Except.ok.inj compiled]
        exact .inl rfl
      case isFalse =>
        rcases inductionHypothesis compiled with none | ⟨kept, generated, sublist, eq, all⟩
        · exact .inl none
        · refine .inr ⟨kept, generated, sublist.cons _, ?_, all⟩
          rw [eq, CompileProgress.suppressed]
          simp [FederateOutput.artifacts?]

/-- The base name of the files of a compilation. -/
def outputName (program : Program) (options : CompileOptions) : String :=
  options.baseName.getD program.name

/-- What follows the base name in the names of a federate. -/
def federateTag (program : Program) (name : String) : String :=
  if program.isFederated then "_" ++ name else ""

theorem topLevelName_eq (program : Program) (baseName : String) (federate : Federate) :
    program.topLevelName baseName federate =
      baseName ++ program.federateTag federate.name := by
  rw [topLevelName, federateTag]
  split
  case isTrue => rw [String.append_assoc]
  case isFalse => rw [String.append_empty]

/-- The federates of a program have different names without slashes and dots, like
different identifiers, or like the only federate, which has no name. -/
structure NamesFederates (program : Program) : Prop where
  names : ∀ federate ∈ program.federates, Path.IsName federate.name
  distinct : (program.federates.map Federate.name).Nodup

/-- What a compilation generates is named for the program and for different federates. -/
structure NamesGenerated
    (program : Program)
    (target : Target)
    (baseName : String)
    (generated : List FederateArtifacts) : Prop where
  names : ∀ artifacts ∈ generated, Path.IsName artifacts.federate
  distinct : (generated.map FederateArtifacts.federate).Nodup
  named : ∀ artifacts ∈ generated, artifacts.IsNamed target
    (baseName ++ program.federateTag artifacts.federate)

/-- Names that federates have are handed on to what is generated for them. -/
theorem namesGenerated_of_compileFederates
    {diagnostics : Diagnostics}
    {result : CompileResult}
    (names : program.NamesFederates)
    (compiled : (program.compileFederates environment baseName ⟨[], diagnostics⟩
      program.federates).run.result = .ok result) :
    program.NamesGenerated environment.settings.target baseName result.generated := by
  rcases exists_sublist_of_compileFederates compiled with
    none | ⟨kept, generated, sublist, generated_eq, all⟩
  · rw [none]
    exact ⟨nofun, .nil, nofun⟩
  · rw [List.filterMap_nil, List.nil_append] at generated_eq
    rw [generated_eq]
    constructor
    case names =>
      intro artifacts member
      obtain ⟨federate, inKept, artifacts_eq⟩ := Result.exists_item_of_forall₂ all member
      rw [(named_of_generateFederate artifacts_eq).1]
      exact names.names federate (sublist.subset inKept)
    case distinct =>
      have names_eq : generated.map FederateArtifacts.federate = kept.map Federate.name := by
        clear generated_eq sublist
        induction all with
        | nil => rfl
        | cons first _ inductionHypothesis =>
          rw [List.map_cons, List.map_cons, inductionHypothesis,
            (named_of_generateFederate first).1]
      rw [names_eq]
      exact names.distinct.sublist (sublist.map _)
    case named =>
      intro artifacts member
      obtain ⟨federate, _, artifacts_eq⟩ := Result.exists_item_of_forall₂ all member
      obtain ⟨federate_eq, named⟩ := named_of_generateFederate artifacts_eq
      rw [federate_eq, ← topLevelName_eq]
      exact named

/-- A program that generates anything has a known target, and what is generated is named
for it. -/
theorem namesGenerated_of_compile
    {files : FileSystem}
    {properties : List (String × Element)}
    {options : CompileOptions}
    {result : CompileResult}
    (names : program.NamesFederates)
    (compiled : (program.compile files properties options).run.result = .ok result) :
    result.generated = [] ∨
      ∃ target, Target.ofName? program.target = some target ∧
        program.NamesGenerated target (program.outputName options) result.generated := by
  cases known : Target.ofName? program.target with
  | none =>
    rw [compile_of_unknown known] at compiled
    rw [← Except.ok.inj compiled]
    exact .inl rfl
  | some target =>
    rw [compile_of_known known] at compiled
    have target_eq := options.target_configured files target properties
    cases generated : target.isGenerated with
    | false =>
      rw [← target_eq] at generated
      rw [compileConfigured_of_not_isGenerated generated] at compiled
      rw [← Except.ok.inj compiled]
      exact .inl rfl
    | true =>
      rw [← target_eq] at generated
      rw [compileConfigured_of_isGenerated generated] at compiled
      have namesGenerated := namesGenerated_of_compileFederates names compiled
      rw [target_eq] at namesGenerated
      exact .inr ⟨target, rfl, namesGenerated⟩

end Program

/-! ## Where it goes -/

/-- Where the files of a federate go. -/
def Program.place
    (program : Program)
    (baseName outputDirectory : String)
    (generated : FederateArtifacts) : FederatePlace where
  directory := location (generated.directory outputDirectory)
  home := home (location (generated.directory outputDirectory)) baseName
  stem := Path.leaf baseName ++ program.federateTag generated.federate

namespace FederateArtifacts

variable
  {generated : FederateArtifacts}
  {target : Target}
  {topLevelName : String}

theorem IsNamed.paths_writes
    (isNamed : generated.IsNamed target topLevelName)
    (outputDirectory : String) :
    (generated.writes outputDirectory).map Prod.fst =
      (target.ownEndings.map (topLevelName ++ ·) ++ target.commonNames).map
        (Path.join (generated.directory outputDirectory)) := by
  rw [← isNamed.paths, writes, outputFiles]
  simp only [List.map_append, List.map_map]
  rfl

/-- The files go to their places. -/
theorem IsNamed.locations_writes
    {program : Program}
    {baseName : String}
    (isNamed : generated.IsNamed target
      (baseName ++ program.federateTag generated.federate))
    (isName : Path.IsName generated.federate)
    (outputDirectory : String) :
    (generated.writes outputDirectory).map (fun file => location file.1) =
      (program.place baseName outputDirectory generated).ownLocations target ++
        (program.place baseName outputDirectory generated).commonLocations target := by
  have tagNoSlash : '/' ∉ (program.federateTag generated.federate).toList := by
    rw [Program.federateTag]
    split
    case isTrue =>
      rw [String.toList_append, List.mem_append, not_or]
      exact ⟨by decide, isName.noSlash⟩
    case isFalse => exact List.not_mem_nil
  have paths := congrArg (List.map location) (isNamed.paths_writes outputDirectory)
  rw [List.map_map, List.map_append, List.map_append, List.map_map, List.map_map,
    List.map_map] at paths
  have own : target.ownEndings.map
      ((location ∘ Path.join (generated.directory outputDirectory)) ∘
        (baseName ++ program.federateTag generated.federate ++ ·)) =
      (program.place baseName outputDirectory generated).ownLocations target := by
    refine List.map_congr_left fun ending member => ?_
    simp only [Function.comp, Program.place, location_join, String.append_assoc]
    exact locationFrom_append _ _
      ((Target.isEnding_of_mem_ownEndings member).append tagNoSlash)
  have common : target.commonNames.map
      (location ∘ Path.join (generated.directory outputDirectory)) =
      (program.place baseName outputDirectory generated).commonLocations target := by
    refine List.map_congr_left fun name member => ?_
    rw [Function.comp, location_join]
    exact locationFrom_of_isEnding _ (Target.isEnding_of_mem_commonNames member)
  rw [own, common] at paths
  exact paths

/-- The directory of a federate is told by its name. -/
theorem location_directory
    (isName : Path.IsName generated.federate)
    (outputDirectory : String) :
    location (generated.directory outputDirectory) =
      location outputDirectory ++
        if generated.federate = "" then [] else [generated.federate] := by
  rw [directory]
  by_cases empty : generated.federate = ""
  · rw [if_pos empty, if_pos (by rw [empty]; rfl), List.append_nil]
  · rw [if_neg empty, if_neg (by simpa using empty), location_join,
      locationFrom_of_isEnding _ (isName.isEnding empty)]

end FederateArtifacts

/-- How the output of a compilation can overwrite what it wrote before: the program is
not divided, so all names of its own begin alike, and the base name leads to where other
files are. -/
inductive CompileResult.Overwrites
    (result : CompileResult)
    (program : Program)
    (options : CompileOptions)
    (outputDirectory : String) : Prop
  /-- A module takes the place of a build script. -/
  | script
    (notFederated : program.isFederated = false)
    (python : Target.ofName? program.target = some .python)
    (named : Path.leaf (program.outputName options) = "setup")
    (first : FederateArtifacts)
    (firstMember : first ∈ result.generated)
    (second : FederateArtifacts)
    (secondMember : second ∈ result.generated)
    (meet : home (location (first.directory outputDirectory)) (program.outputName options) =
      location (second.directory outputDirectory))
  /-- The base name leads from two directories to the same one. -/
  | own
    (notFederated : program.isFederated = false)
    (meet : ¬ result.generated.Pairwise fun first second =>
      home (location (first.directory outputDirectory)) (program.outputName options) ≠
        home (location (second.directory outputDirectory)) (program.outputName options))

namespace Program

variable
  {program : Program}
  {options : CompileOptions}
  {result : CompileResult}
  {target : Target}

theorem NamesGenerated.directories
    {baseName : String}
    {generated : List FederateArtifacts}
    (names : program.NamesGenerated target baseName generated)
    (outputDirectory : String) :
    generated.Pairwise fun first second =>
      location (first.directory outputDirectory) ≠
        location (second.directory outputDirectory) := by
  refine (List.pairwise_map.mp names.distinct).imp_of_mem ?_
  intro first second firstMember secondMember different equal
  rw [FederateArtifacts.location_directory (names.names first firstMember),
    FederateArtifacts.location_directory (names.names second secondMember),
    List.append_cancel_left_eq] at equal
  apply different
  split at equal <;> split at equal
  case isTrue.isTrue firstEmpty secondEmpty => rw [firstEmpty, secondEmpty]
  case isFalse.isFalse => exact (List.cons.inj equal).1
  all_goals exact nomatch equal

/-- Files are apart exactly where nothing is overwritten. -/
theorem NamesGenerated.apart_iff
    (names : program.NamesGenerated target (program.outputName options) result.generated)
    (known : Target.ofName? program.target = some target)
    (outputDirectory : String) :
    FederatePlace.Apart target
        (result.generated.map (program.place (program.outputName options) outputDirectory)) ↔
      ¬ result.Overwrites program options outputDirectory := by
  constructor
  · intro apart overwrites
    cases overwrites with
    | script notFederated python named first firstMember second secondMember meet =>
      rw [known, Option.some.injEq] at python
      refine apart.modules python _ (List.mem_map_of_mem firstMember) ?_ _
        (List.mem_map_of_mem secondMember) meet
      rw [place, federateTag, notFederated, named]
      rfl
    | own notFederated meet =>
      apply meet
      refine (List.pairwise_map.mp apart.own).imp ?_
      intro first second different home_eq
      apply different home_eq
      simp [place, federateTag, notFederated]
  · intro kept
    constructor
    case modules =>
      intro python first firstMember stem_eq second secondMember meet
      obtain ⟨first, inGenerated, rfl⟩ := List.mem_map.mp firstMember
      obtain ⟨second, inGenerated', rfl⟩ := List.mem_map.mp secondMember
      cases federated : program.isFederated with
      | true =>
        -- The name of a federate follows an underscore, which `setup` does not have.
        have underscore : '_' ∈ "setup".toList := by
          rw [← stem_eq, place, federateTag, federated, if_pos rfl, String.toList_append,
            String.toList_append]
          simp
        exact absurd underscore (by decide)
      | false =>
        refine kept (.script federated (by rw [known, python]) ?_ first inGenerated second
          inGenerated' meet)
        rw [← stem_eq, place, federateTag, federated]
        simp
    case own =>
      rw [List.pairwise_map]
      cases federated : program.isFederated with
      | true =>
        refine (List.pairwise_map.mp names.distinct).imp ?_
        intro first second different _ stem_eq
        simp only [place, federateTag, federated, if_true, String.append_right_inj]
          at stem_eq
        exact different stem_eq
      | false =>
        by_contra meet
        refine kept (.own federated fun apart => meet (apart.imp ?_))
        exact fun different home_eq => absurd home_eq different
    case directories =>
      exact List.pairwise_map.mpr (names.directories outputDirectory)

end Program

/-! ## What is on disk -/

/-- A manifest is on disk, and every file that it lists is there with the length and the
digest that it says. -/
structure FederateArtifacts.OnDisk
    (generated : FederateArtifacts)
    (files : FileSystem)
    (directory : String) : Prop where
  manifest : files.find (Path.join directory manifestFile) =
    .ok (.file generated.manifest.text)
  entries : ∀ entry ∈ generated.manifest.files, ∃ contents,
    files.find (Path.join directory entry.path) = .ok (.file contents) ∧
      contents.utf8ByteSize = entry.bytes ∧ Sha256.ofText contents = entry.digest

/-- Every file holds what was written to it last. -/
def OutputState.HoldsLast (state : OutputState) (writes : List (String × String)) : Prop :=
  ∀ earlier path contents later, writes = earlier ++ (path, contents) :: later ->
    UntouchedBy path later -> state.files.find path = .ok (.file contents)

/-- What the output of a compilation leaves. -/
structure CompileResult.Leaves
    (result : CompileResult)
    (program : Program)
    (options : CompileOptions)
    (outputDirectory : String)
    (state : OutputState) : Prop where
  /-- Every path is noted. -/
  written : state.written = (result.writes outputDirectory).map Prod.fst
  last : state.HoldsLast (result.writes outputDirectory)
  /-- Different locations are written exactly where nothing is overwritten. -/
  apart : ((result.writes outputDirectory).map fun file => location file.1).Nodup ↔
    ¬ result.Overwrites program options outputDirectory
  /-- Where nothing is overwritten, the manifests are right. -/
  manifests : ¬ result.Overwrites program options outputDirectory ->
    state.written.Nodup ∧ ∀ generated ∈ result.generated,
      generated.OnDisk state.files (generated.directory outputDirectory)
  /-- A base name that is not a path overwrites something only if it is that of a build
  script, and then a path is noted twice. -/
  plain : '/' ∉ (program.outputName options).toList ->
    (result.Overwrites program options outputDirectory ↔
      program.isFederated = false ∧ Target.ofName? program.target = some .python ∧
        program.outputName options = "setup" ∧ result.generated ≠ []) ∧
    (state.written.Nodup ↔ ¬ result.Overwrites program options outputDirectory)

/-- A path is untouched by what is written elsewhere after it. -/
theorem untouchedBy_of_nodup
    {earlier later : List (String × String)}
    {path contents : String}
    (apart : ((earlier ++ (path, contents) :: later).map fun file =>
      location file.1).Nodup) :
    UntouchedBy path later := by
  rw [List.map_append, List.map_cons] at apart
  have fresh := (List.nodup_cons.mp (List.nodup_append.mp apart).2.1).1
  intro write member same
  apply fresh
  rw [← same]
  exact List.mem_map_of_mem member

namespace Program

variable
  {program : Program}
  {options : CompileOptions}
  {result : CompileResult}
  {target : Target}
  {outputDirectory : String}

/-- Different locations are written exactly where nothing is overwritten. -/
theorem NamesGenerated.nodup_locations_iff
    (names : program.NamesGenerated target (program.outputName options) result.generated)
    (known : Target.ofName? program.target = some target)
    (outputDirectory : String) :
    ((result.writes outputDirectory).map fun file => location file.1).Nodup ↔
      ¬ result.Overwrites program options outputDirectory := by
  rw [← names.apart_iff known, ← FederatePlace.nodup_locations_iff, List.flatMap_map,
    CompileResult.writes, List.map_flatMap]
  have places : (result.generated.flatMap fun generated =>
      (generated.writes outputDirectory).map fun file => location file.1) =
        result.generated.flatMap fun generated =>
          (program.place (program.outputName options) outputDirectory
            generated).ownLocations target ++
          (program.place (program.outputName options) outputDirectory
            generated).commonLocations target := by
    refine List.flatMap_congr fun generated member => ?_
    exact (names.named generated member).locations_writes (names.names generated member) _
  rw [places]

/-- Whatever is generated is on disk if different locations are written. -/
theorem onDisk_of_nodup
    {state : OutputState}
    (last : state.HoldsLast (result.writes outputDirectory))
    (apart : ((result.writes outputDirectory).map fun file => location file.1).Nodup)
    {generated : FederateArtifacts}
    (member : generated ∈ result.generated)
    (digests : ∀ artifact ∈ generated.artifacts,
      artifact.digest = Sha256.ofText artifact.contents) :
    generated.OnDisk state.files (generated.directory outputDirectory) := by
  have found : ∀ path contents, (path, contents) ∈ generated.writes outputDirectory ->
      state.files.find path = .ok (.file contents) := by
    intro path contents inWrites
    have inAll : (path, contents) ∈ result.writes outputDirectory :=
      List.mem_flatMap_of_mem member inWrites
    obtain ⟨earlier, later, writes_eq⟩ := List.append_of_mem inAll
    rw [writes_eq] at apart
    exact last earlier path contents later writes_eq (untouchedBy_of_nodup apart)
  constructor
  case manifest =>
    apply found
    exact List.mem_append_right _ (List.mem_singleton_self _)
  case entries =>
    intro entry isEntry
    obtain ⟨artifact, isArtifact, rfl⟩ := List.mem_map.mp isEntry
    refine ⟨artifact.contents, ?_, rfl, (digests artifact isArtifact).symm⟩
    apply found
    exact List.mem_append_left _ (List.mem_map_of_mem isArtifact)

theorem NamesGenerated.overwrites_iff
    (names : program.NamesGenerated target (program.outputName options) result.generated)
    (noSlash : '/' ∉ (program.outputName options).toList)
    (outputDirectory : String) :
    result.Overwrites program options outputDirectory ↔
      program.isFederated = false ∧ Target.ofName? program.target = some .python ∧
        program.outputName options = "setup" ∧ result.generated ≠ [] := by
  constructor
  · intro overwrites
    cases overwrites with
    | script notFederated python named first firstMember =>
      rw [(home_of_noSlash noSlash []).2] at named
      exact ⟨notFederated, python, named, List.ne_nil_of_mem firstMember⟩
    | own _ meet =>
      simp only [(home_of_noSlash noSlash _).1] at meet
      exact absurd (names.directories outputDirectory) meet
  · rintro ⟨notFederated, python, named, generated⟩
    obtain ⟨first, member⟩ := List.exists_mem_of_ne_nil _ generated
    refine .script notFederated python ?_ first member first member
      (home_of_noSlash noSlash _).1
    rw [(home_of_noSlash noSlash []).2, named]

/-- A build script that is overwritten is noted twice. -/
theorem NamesGenerated.not_nodup_paths
    (names : program.NamesGenerated .python "setup" result.generated)
    (notFederated : program.isFederated = false)
    (generated : result.generated ≠ [])
    (outputDirectory : String) :
    ¬ ((result.writes outputDirectory).map Prod.fst).Nodup := by
  intro distinct
  obtain ⟨first, member⟩ := List.exists_mem_of_ne_nil _ generated
  rw [CompileResult.writes, List.map_flatMap, List.nodup_flatMap] at distinct
  have firstDistinct := distinct.1 first member
  have named := names.named first member
  rw [federateTag, notFederated] at named
  rw [named.paths_writes] at firstDistinct
  have paths : (Target.python.ownEndings.map (("setup" ++ "") ++ ·) ++
      Target.python.commonNames).Nodup := firstDistinct.of_map _
  exact absurd paths (by decide)

/-- Where nothing is generated, nothing is written. -/
theorem leaves_of_nothing
    {state : OutputState}
    (none : result.generated = [])
    (written : state.written = (result.writes outputDirectory).map Prod.fst)
    (last : state.HoldsLast (result.writes outputDirectory)) :
    result.Leaves program options outputDirectory state := by
  have nothing : ¬ result.Overwrites program options outputDirectory := by
    intro overwrites
    cases overwrites with
    | script _ _ _ first firstMember =>
      rw [none] at firstMember
      exact nomatch firstMember
    | own _ meet =>
      rw [none] at meet
      exact meet .nil
  have writes_eq : result.writes outputDirectory = [] := by
    rw [CompileResult.writes, none]
    rfl
  have distinct : state.written.Nodup := by
    rw [written, writes_eq]
    exact .nil
  constructor
  case written => exact written
  case last => exact last
  case apart =>
    rw [writes_eq]
    exact iff_of_true .nil nothing
  case manifests =>
    rw [none]
    exact fun _ => ⟨distinct, nofun⟩
  case plain =>
    rw [none]
    exact fun _ => ⟨iff_of_false nothing (by simp), iff_of_true distinct nothing⟩

theorem NamesGenerated.leaves
    {state : OutputState}
    (names : program.NamesGenerated target (program.outputName options) result.generated)
    (known : Target.ofName? program.target = some target)
    (written : state.written = (result.writes outputDirectory).map Prod.fst)
    (last : state.HoldsLast (result.writes outputDirectory)) :
    result.Leaves program options outputDirectory state := by
  have apart := names.nodup_locations_iff known outputDirectory
  have distinct : ¬ result.Overwrites program options outputDirectory ->
      state.written.Nodup := by
    intro kept
    have locations := apart.mpr kept
    rw [← Function.comp_def location, ← List.map_map, ← written] at locations
    exact locations.of_map _
  constructor
  case written => exact written
  case last => exact last
  case apart => exact apart
  case manifests =>
    intro kept
    refine ⟨distinct kept, fun generated member => ?_⟩
    exact onDisk_of_nodup last (apart.mpr kept) member (names.named generated member).digests
  case plain =>
    intro noSlash
    have overwrites_iff := names.overwrites_iff noSlash outputDirectory
    refine ⟨overwrites_iff, fun noted overwrites => ?_, distinct⟩
    obtain ⟨notFederated, python, named, generated⟩ := overwrites_iff.mp overwrites
    rw [known, Option.some.injEq] at python
    rw [python, named] at names
    rw [written] at noted
    exact names.not_nodup_paths notFederated generated outputDirectory noted

/-- The output of a compilation keeps every file unless the program is not divided and its
base name leads to another file; and so what is on disk is what the manifests say. -/
theorem compile_leaves
    {files disk : FileSystem}
    {properties : List (String × Element)}
    {state : OutputState}
    (names : program.NamesFederates)
    (compiled : (program.compile files properties options).run.result = .ok result)
    (written : (result.writeTo outputDirectory).outcome ⟨disk, []⟩ = (.ok (), state)) :
    result.Leaves program options outputDirectory state := by
  have performs := CompileResult.performs_writeTo written
  have last : state.HoldsLast (result.writes outputDirectory) :=
    fun _ _ _ _ writes_eq untouched => (performs.stored writes_eq untouched).find_eq
  rcases namesGenerated_of_compile names compiled with none | ⟨target, known, named⟩
  · exact leaves_of_nothing none performs.written last
  · exact named.leaves known performs.written last

end Program

/-! ## A program named like a build script -/

/-- Writing that succeeds leaves a state. -/
theorem OutputM.outcome_of_isOk
    {action : OutputM Unit}
    {state : OutputState}
    (isOk : (action.outcome state).1.isOk = true) :
    action.outcome state = (.ok (), (action.outcome state).2) := by
  cases result_eq : (action.outcome state).1 with
  | ok value => exact Prod.ext result_eq rfl
  | error failure =>
    rw [result_eq] at isOk
    exact absurd isOk Bool.false_ne_true

namespace Setup

/-- A program with the name of the build script. -/
def program (federates : List Federate) : Program where
  name := "setup"
  target := "Python"
  properties := []
  preambles := []
  classes := [ReactorClass.ofName "Main"]
  tree := .ofRoot "Main" ⟨0⟩
  federates := federates
  connections := []

def options : CompileOptions := ⟨none, none, fun _ => none⟩

/-- Two federates, whose names follow that of the program. -/
def federates : List Federate :=
  [.ofInstances ⟨0⟩ "left" [], .ofInstances ⟨1⟩ "right" []]

/-- Both federates are on disk as their manifests say. -/
theorem federates_onDisk :
    ∃ result state,
      ((program federates).compile .empty [] options).run.result = .ok result ∧
        (result.writeTo "out").outcome ⟨.empty, []⟩ = (.ok (), state) ∧
        result.generated.length = 2 ∧
        state.written.Nodup ∧
        ∀ generated ∈ result.generated,
          generated.OnDisk state.files (generated.directory "out") := by
  obtain ⟨result, compiled, two, isOk⟩ : ∃ result,
      ((program federates).compile .empty [] options).run.result = .ok result ∧
        result.generated.length = 2 ∧
        ((result.writeTo "out").outcome ⟨.empty, []⟩).1.isOk = true :=
    ⟨_, rfl, by decide +kernel, by decide +kernel⟩
  have written := OutputM.outcome_of_isOk isOk
  have names : (program federates).NamesFederates := ⟨by decide, by decide⟩
  have leaves := Program.compile_leaves names compiled written
  have kept : ¬ result.Overwrites (program federates) options "out" := by
    rw [(leaves.plain (by decide)).1]
    rintro ⟨notFederated, _⟩
    exact absurd notFederated (by decide)
  obtain ⟨distinct, onDisk⟩ := leaves.manifests kept
  exact ⟨result, _, compiled, written, two, distinct, onDisk⟩

/-- Without federates the module is written where the build script is written after it. -/
theorem module_overwritten :
    (program [.singleton]).NamesFederates ∧
      ∃ result state,
        ((program [.singleton]).compile .empty [] options).run.result = .ok result ∧
          (result.writeTo "out").outcome ⟨.empty, []⟩ = (.ok (), state) ∧
          state.written.count "out/setup.py" = 2 ∧
          ¬ state.written.Nodup := by
  obtain ⟨result, compiled, isOk, twice⟩ : ∃ result,
      ((program [.singleton]).compile .empty [] options).run.result = .ok result ∧
        ((result.writeTo "out").outcome ⟨.empty, []⟩).1.isOk = true ∧
        ((result.writeTo "out").outcome ⟨.empty, []⟩).2.written.count "out/setup.py" = 2 :=
    ⟨_, rfl, by decide +kernel, by decide +kernel⟩
  refine ⟨⟨by decide, by decide⟩, result, _, compiled, OutputM.outcome_of_isOk isOk, twice, ?_⟩
  intro distinct
  have once := List.nodup_iff_count_le_one.mp distinct "out/setup.py"
  rw [twice] at once
  exact absurd once (by decide)

end Setup
end ReactorGen
