import ReactorGen.Naming
import ReactorGen.Settings
import ReactorGen.Text.Lines

/-!
# The build of the extension module

What it takes to build the native code of a federate as a module of the
interpreter.  The facts are written twice: as the script that builds the module,
and as data for other tools.
-/

namespace ReactorGen

/-- What it takes to build the module of a federate. -/
structure BuildDescriptor where
  moduleName : String
  /-- The files of native code. -/
  sources : List String
  /-- The preprocessor definitions, by name. -/
  macros : List (String × String)
  /-- The packages to install with the module. -/
  requirements : List String
  /-- The commands to run before the build. -/
  preBuild : List (List String)
deriving DecidableEq, Repr

namespace BuildDescriptor

/-- The package that every module needs. -/
def baseRequirement : String := "LinguaFrancaBase"

/-- The preprocessor definitions of a module.  The number of workers is given
whenever threads or traces are in use. -/
def macrosOf (settings : Settings) (moduleName : String) : List (String × String) :=
  ("MODULE_NAME", moduleName) ::
    if settings.threads != 0 || settings.tracing.isSome then
      [("NUMBER_OF_WORKERS", toString settings.threads.toNat)]
    else []

/-- The build of the native code of a federate with the native sources among the
files of the settings. -/
def ofSettings
    (settings : Settings)
    (topLevelName : String)
    (requirements : List String)
    (preBuild : List (List String)) : BuildDescriptor where
  moduleName := Naming.extensionModule topLevelName
  sources :=
    (topLevelName ++ ".c") :: settings.files.filter fun file => Text.endsWith file ".c"
  macros := macrosOf settings (Naming.extensionModule topLevelName)
  requirements := requirements ++ [baseRequirement]
  preBuild := preBuild

/-- A text between quotes. -/
def quoted (text : String) : String :=
  "\"" ++ text ++ "\""

/-- Items between brackets. -/
def bracketed (items : List String) : String :=
  "[" ++ ", ".intercalate items ++ "]"

/-- A definition as a pair. -/
def macroPair (definition : String × String) : String :=
  "(" ++ quoted definition.1 ++ ", " ++ quoted definition.2 ++ ")"

/-- The variable of the script that holds the module. -/
def extensionVariable (descriptor : BuildDescriptor) : String :=
  Text.lowercase descriptor.moduleName ++ "module"

/-- The script that builds the module. -/
def script (descriptor : BuildDescriptor) : String :=
  let aligned := "                                            "
  Text.joinLines [
    "from setuptools import setup, Extension",
    "",
    descriptor.extensionVariable ++ " = Extension(" ++
      quoted descriptor.moduleName ++ ",",
    aligned ++ "sources = " ++ bracketed (descriptor.sources.map quoted) ++ ",",
    aligned ++ "define_macros=" ++ bracketed (descriptor.macros.map macroPair) ++ ")",
    "",
    "setup(name=" ++ quoted descriptor.moduleName ++ ", version=\"1.0\",",
    "        ext_modules = [" ++ descriptor.extensionVariable ++ "],",
    "        install_requires=" ++
      bracketed (descriptor.requirements.map quoted) ++ ")"
  ]

end BuildDescriptor
end ReactorGen
