import ReactorGen.Package.Instances

/-!
# Modules for the interpreter

The module that holds the classes and the instances of a federate.
-/

namespace ReactorGen

/-- The module of a federate. -/
structure PythonModule where
  /-- The base name of the files of the federate. -/
  topLevelName : String
  /-- The blocks that the program puts before the classes. -/
  preamble : List String
  classes : List PythonClass
  instances : Instances
deriving DecidableEq, Repr

namespace PythonModule

/-- The lines before the imports. -/
def header : List String := [
  "# List imported names, but do not use pylint's --extension-pkg-allow-list option",
  "# so that these names will be assumed present without having to compile and install."
]

/-- The names that the extension module gives. -/
def extensionNames : List String := [
  "    Tag, action_capsule_t, compare_tags, get_current_tag, get_elapsed_logical_time,",
  "    get_elapsed_physical_time, get_logical_time, get_microstep, get_physical_time,",
  "    get_start_time, port_capsule, port_instance_token, request_stop, schedule_copy,",
  "    start"
]

/-- The imports that every module has. -/
def baseImports : List String := [
  "from LinguaFrancaBase.constants import " ++
    "BILLION, FOREVER, NEVER, instant_t, interval_t",
  "from LinguaFrancaBase.functions import (",
  "    DAY, DAYS, HOUR, HOURS, MINUTE, MINUTES, MSEC, MSECS, NSEC, NSECS, SEC, SECS, USEC,",
  "    USECS, WEEK, WEEKS",
  ")",
  "from LinguaFrancaBase.classes import Make",
  "import sys",
  "import copy"
]

/-- The lines that start the program. -/
def mainFunction : List String := [
  "# The main function",
  "def main(argv):",
  "    start(argv)",
  "",
  "# As is customary in Python programs, the main() function",
  "# should only be executed if the main module is active.",
  "if __name__==\"__main__\":",
  "    main(sys.argv)"
]

/-- The code of a module. -/
def draft (module : PythonModule) : Draft :=
  [
    .write (Text.joinLines header),
    .write ("from " ++ Naming.extensionModule module.topLevelName ++
      " import (  # pylint: disable=no-name-in-module"),
    .writeAll extensionNames,
    .write ")",
    .write (Text.joinLines baseImports),
    .blank
  ] ++
  module.preamble.map (fun block => .write (Text.dedent block)) ++
  [.blank] ++
  module.classes.map (fun pythonClass => .write pythonClass.text) ++
  [
    .blank,
    .write "# Instantiate classes",
    .write module.instances.text,
    .blank,
    .write (Text.joinLines mainFunction)
  ]

/-- The text of a module. -/
def text (module : PythonModule) : String :=
  module.draft.text

end PythonModule

/-- The module of a federate with the given classes. -/
def Program.pythonModule
    (program : Program)
    (federate : Federate)
    (classes : List ClassId)
    (topLevelName : String)
    (preamble : List String) : Except DanglingReference PythonModule := do
  let classes ← classes.mapM program.pythonClass
  let instances ← program.pythonInstances federate
  return ⟨topLevelName, preamble, classes, instances⟩

end ReactorGen
