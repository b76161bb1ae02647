/-!
# Reserved words

The words that generated code cannot use as identifiers, by language.
-/

namespace ReactorGen
namespace ReservedWords

/-- The keywords of C. -/
def c : List String := [
  "auto", "break", "case", "char", "const", "continue", "default", "do", "double",
  "else", "enum", "extern", "float", "for", "goto", "if", "inline", "int", "long",
  "register", "restrict", "return", "short", "signed", "sizeof", "static", "struct",
  "switch", "typedef", "union", "unsigned", "void", "volatile", "while", "_Alignas",
  "_Alignof", "_Atomic", "_Bool", "_Complex", "_Generic", "_Imaginary", "_Noreturn",
  "_Static_assert", "_Thread_local"
]

/-- The keywords of C++. -/
def cpp : List String := [
  "alignas", "alignof", "and", "and_eq", "asm", "atomic_cancel", "atomic_commit",
  "atomic_noexcept", "auto", "bitand", "bitor", "bool", "break", "case", "catch",
  "char", "char8_t", "char16_t", "char32_t", "class", "compl", "concept", "const",
  "consteval", "constexpr", "constinit", "const_cast", "continue", "co_await",
  "co_return", "co_yield", "decltype", "default", "delete", "do", "double",
  "dynamic_cast", "else", "enum", "explicit", "export", "extern", "false", "float",
  "for", "friend", "goto", "if", "inline", "int", "long", "mutable", "namespace", "new",
  "noexcept", "not", "not_eq", "nullptr", "operator", "or", "or_eq", "private",
  "protected", "public", "reflexpr", "register", "reinterpret_cast", "requires",
  "return", "short", "signed", "sizeof", "static", "static_assert", "static_cast",
  "struct", "switch", "synchronized", "template", "this", "thread_local", "throw",
  "true", "try", "typedef", "typeid", "typename", "union", "unsigned", "using",
  "virtual", "void", "volatile", "wchar_t", "while", "xor", "xor_eq"
]

/-- The keywords of TypeScript: the reserved ones, those of strict mode and those
that depend on the context. -/
def typeScript : List String := [
  "break", "case", "catch", "class", "const", "continue", "debugger", "default",
  "delete", "do", "else", "enum", "export", "extends", "false", "finally", "for",
  "function", "if", "import", "in", "instanceof", "new", "null", "return", "super",
  "switch", "this", "throw", "true", "try", "typeof", "var", "void", "while", "with",
  "as", "implements", "interface", "let", "package", "private", "protected", "public",
  "static", "yield", "any", "boolean", "constructor", "declare", "get", "module",
  "require", "number", "set", "string", "symbol", "type", "from", "of"
]

/-- The keywords of Python together with those of C, since reactions written in
Python are compiled against the native runtime. -/
def python : List String := [
  "and", "as", "assert", "auto", "break", "case", "char", "class", "const", "continue",
  "def", "default", "del", "do", "double", "elif", "else", "enum", "except", "extern",
  "False", "finally", "float", "for", "from", "global", "goto", "if", "import",
  "inline", "int", "in", "is", "lambda", "long", "None", "nonlocal", "not", "or",
  "pass", "raise", "register", "restrict", "return", "short", "signed", "sizeof",
  "static", "struct", "switch", "True", "try", "typedef", "union", "unsigned", "void",
  "volatile", "while", "with", "yield", "_Alignas", "_Alignof", "_Atomic", "_Bool",
  "_Complex", "_Generic", "_Imaginary", "_Noreturn", "_Static_assert", "_Thread_local"
]

end ReservedWords
end ReactorGen
