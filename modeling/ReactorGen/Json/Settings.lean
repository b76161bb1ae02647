import ReactorGen.Json.Element
import ReactorGen.Settings

/-!
# Settings as JSON
-/

namespace ReactorGen

open JsonFormat

instance : JsonFormat Target where
  write target := .string target.name
  readWith := readNamed Target.name Target.all

instance : JsonFormat BuildType where
  write value := .string value.name
  readWith := readNamed BuildType.name BuildType.all

instance : JsonFormat ClockSync where
  write value := .string value.name
  readWith := readNamed ClockSync.name ClockSync.all

instance : JsonFormat Coordination where
  write value := .string value.name
  readWith := readNamed Coordination.name Coordination.all

instance : JsonFormat Verbosity where
  write value := .string value.name
  readWith := readNamed Verbosity.name Verbosity.all

instance : JsonFormat ClockSyncOptions where
  write options := .object [
    ("attenuation", write options.attenuation),
    ("collect_stats", write options.collectStats),
    ("local_federates_on", write options.localFederatesOn),
    ("period", write options.period),
    ("test_offset", write options.testOffset),
    ("trials", write options.trials)
  ]
  readWith := readRecord do
    let attenuation ← field Int32 "attenuation"
    let collectStats ← field Bool "collect_stats"
    let localFederatesOn ← field Bool "local_federates_on"
    let period ← field TimeValue "period"
    let testOffset ← optionalField TimeValue "test_offset"
    let trials ← field Int32 "trials"
    return ⟨attenuation, collectStats, localFederatesOn, period, testOffset, trials⟩

instance : JsonFormat Tracing where
  write tracing := .object [("trace_file_name", write tracing.fileName)]
  readWith := readRecord do
    let fileName ← optionalField String "trace_file_name"
    return ⟨fileName⟩

instance : JsonFormat Settings where
  write settings := .object [
    ("target", write settings.target),
    ("build_commands", write settings.buildCommands),
    ("cmake_build_type", write settings.buildType),
    ("cmake_include", write settings.cmakeInclude),
    ("clock_sync", write settings.clockSync),
    ("clock_sync_options", write settings.clockSyncOptions),
    ("compiler", write settings.compiler),
    ("compiler_flags", write settings.compilerFlags),
    ("coordination", write settings.coordination),
    ("fast_mode", write settings.fast),
    ("file_names", write settings.files),
    ("keepalive", write settings.keepalive),
    ("log_level", write settings.verbosity),
    ("no_compile", write settings.noCompile),
    ("no_runtime_validation", write settings.noRuntimeValidation),
    ("proto_files", write settings.protoFiles),
    ("threads", write settings.threads),
    ("timeout", write settings.timeout),
    ("tracing", write settings.tracing)
  ]
  readWith := readRecord do
    let target ← field Target "target"
    let buildCommands ← field (List String) "build_commands"
    let buildType ← field BuildType "cmake_build_type"
    let cmakeInclude ← optionalField String "cmake_include"
    let clockSync ← field ClockSync "clock_sync"
    let clockSyncOptions ← field ClockSyncOptions "clock_sync_options"
    let compiler ← optionalField String "compiler"
    let compilerFlags ← field (List String) "compiler_flags"
    let coordination ← field Coordination "coordination"
    let fast ← field Bool "fast_mode"
    let files ← field (List String) "file_names"
    let keepalive ← field Bool "keepalive"
    let verbosity ← field Verbosity "log_level"
    let noCompile ← field Bool "no_compile"
    let noRuntimeValidation ← field Bool "no_runtime_validation"
    let protoFiles ← field (List String) "proto_files"
    let threads ← field UInt32 "threads"
    let timeout ← optionalField TimeValue "timeout"
    let tracing ← optionalField Tracing "tracing"
    return {
      target := target
      buildCommands := buildCommands
      buildType := buildType
      cmakeInclude := cmakeInclude
      clockSync := clockSync
      clockSyncOptions := clockSyncOptions
      compiler := compiler
      compilerFlags := compilerFlags
      coordination := coordination
      fast := fast
      files := files
      keepalive := keepalive
      verbosity := verbosity
      noCompile := noCompile
      noRuntimeValidation := noRuntimeValidation
      protoFiles := protoFiles
      threads := threads
      timeout := timeout
      tracing := tracing
    }

end ReactorGen
