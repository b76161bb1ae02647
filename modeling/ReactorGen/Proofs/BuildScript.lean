import ReactorGen.Json.Build
import ReactorGen.Proofs.JsonReading
import ReactorGen.Proofs.QuotedTexts

/-!
# The script that builds a module

The facts of a build are written as JSON and as a script.  The JSON can always be read back.
The script puts each text between quotes as it is, so it states the facts only where no text
needs an escape: exactly if the name of the module, the files of native code and the
requirements are read as they are written.
-/

namespace ReactorGen

open JsonFormat Script

/-! ## Facts as JSON -/

instance [JsonFormat α] [JsonFormat β] [Lossless α] [Lossless β] : Lossless (α × β) where
  restored pair leniency := by
    change (do
      let first ← readWith leniency (write pair.1)
      let second ← readWith leniency (write pair.2)
      return (first, second)) = some pair
    rw [Lossless.restored pair.1 leniency, Lossless.restored pair.2 leniency]
    rfl

instance : Lossless BuildDescriptor where
  restored _ := by
    refine restored_record rfl rfl ?_
    iterate 5 refine .field rfl (Lossless.restored _) ?_
    exact .done _ _

/-! ## Quotes of JSON -/

namespace Script

variable {named : List Char -> Option Char}

theorem escape?_control
    {char : Char}
    (control : char.toNat < 0x20)
    (rest : List Char) :
    escape? named
        ('u' :: '0' :: '0' :: Json.hexDigit (char.toNat / 16) ::
          Json.hexDigit (char.toNat % 16) :: rest) =
      some ⟨[char], 5⟩ := by
  have digits : ∀ code < 0x20,
      Text.number? 16 ['0', '0', Json.hexDigit (code / 16), Json.hexDigit (code % 16)] =
        some code := by decide
  have valid : char.toNat.isValidChar := .inl (by omega)
  change hexEscape? 4 _ = _
  rw [hexEscape?]
  simp only [List.take_succ_cons, List.take_zero, digits _ control, List.length_cons,
    List.length_nil, valid, and_self, if_true, Char.ofNat_toNat]

/-- A character that is escaped as in JSON is read as the character. -/
theorem literalsFrom_escapeChar (char : Char) (rest : List Char) :
    literalsFrom named (.inside 0) (Json.escapeChar char ++ rest) =
      (literalsFrom named (.inside 0) rest).map (prepend [char]) := by
  rw [Json.escapeChar]
  split
  case isTrue isQuote => rw [isQuote]; rfl
  split
  case isTrue isBackslash => rw [isBackslash]; rfl
  split
  case isTrue letter => rw [letter]; rfl
  split
  case isTrue letter => rw [letter]; rfl
  split
  case isTrue letter => rw [letter]; rfl
  split
  case isTrue letter => rw [letter]; rfl
  split
  case isTrue letter => rw [letter]; rfl
  split
  case isTrue control =>
    simp only [List.cons_append, List.nil_append]
    rw [literalsFrom_backslash, escape?_control control]
    rfl
  case isFalse notQuote notBackslash _ _ notFeed _ notReturn notControl =>
    have notNull : char ≠ '\x00' := by
      rintro rfl
      exact notControl (by decide)
    apply literalsFrom_ordinary
    simp [isOrdinary, isUnreadable, isLineEnd, notQuote, notBackslash, notFeed, notReturn,
      notNull]

/-- A text that is quoted as in JSON is read as the text. -/
theorem literals?_quote (text : String) : literals? named (Json.quote text) = some [text] := by
  have quote : "\"".toList = ['"'] := by decide
  have chars : (Json.quote text).toList =
      '"' :: (text.toList.flatMap Json.escapeChar ++ ['"']) := by
    rw [Json.quote, String.toList_append, String.toList_append, quote, String.toList_ofList,
      List.append_assoc]
    rfl
  have inside (chars : List Char) :
      literalsFrom named (.inside 0) (chars.flatMap Json.escapeChar ++ ['"']) = some [chars] := by
    induction chars with
    | nil => rfl
    | cons char chars inductionHypothesis =>
      rw [List.flatMap_cons, List.append_assoc, literalsFrom_escapeChar, inductionHypothesis]
      rfl
  have notTriple : ¬['"', '"'] <+: text.toList.flatMap Json.escapeChar ++ ['"'] := by
    cases text.toList with
    | nil => decide
    | cons char chars =>
      rw [List.flatMap_cons, List.append_assoc, Json.escapeChar]
      split_ifs <;> simp_all [List.cons_prefix_cons, eq_comm]
  rw [literals?, chars, literalsFrom, if_neg (not_not.mpr rfl),
    if_neg (mt List.isPrefixOf_iff_prefix.mp notTriple), inside, Option.map_some,
    List.map_singleton, String.ofList_toList]

end Script

/-! ## Lowercase texts -/

/-- Where no character has a code, the character with the code 0 stands in. -/
theorem Text.toNat_ofNat_cases (code : Nat) :
    (Char.ofNat code).toNat = code ∨ (Char.ofNat code).toNat = 0 := by
  by_cases valid : code.isValidChar
  · left
    rw [Char.ofNat, dif_pos valid]
    rfl
  · right
    rw [Char.ofNat, dif_neg valid]
    rfl

/-- No other character becomes a quote in lowercase. -/
theorem Text.quote_not_mem_lowercaseChar
    {char : Char}
    (notQuote : char ≠ '"') :
    '"' ∉ lowercaseChar char := by
  rw [lowercaseChar]
  split
  case isTrue ascii =>
    have lowered {char : Char} (ascii : char.toNat < 0x80) :
        char ≠ '"' -> '"' ≠ char.toLower := by
      refine forall_toNat_lt ?_ ascii
      decide +kernel
    rw [List.mem_singleton]
    exact lowered ascii notQuote
  case isFalse =>
    split
    case isTrue => decide
    case isFalse =>
      split
      case h_2 => rwa [List.mem_singleton, eq_comm]
      case h_1 run found =>
        have large : ∀ run ∈ lowercaseRuns, 0x22 < run.first + run.offset := by decide +kernel
        have covers := List.find?_some found
        have first := large run (List.mem_of_find?_eq_some found)
        simp only [CaseRun.covers, Bool.and_eq_true, decide_eq_true_eq] at covers
        rw [List.mem_singleton]
        intro same
        have code : 0x22 = (Char.ofNat (char.toNat + run.offset).toNat).toNat :=
          congrArg Char.toNat same
        rcases toNat_ofNat_cases (char.toNat + run.offset).toNat with valid | invalid
        · omega
        · omega

theorem Text.quote_not_mem_lowercase
    {text : String}
    (quoteFree : '"' ∉ text.toList) :
    '"' ∉ (lowercase text).toList := by
  have after {before chars : List Char} (quoteFree : '"' ∉ chars) :
      '"' ∉ lowercaseAfter before chars := by
    induction chars generalizing before with
    | nil => exact List.not_mem_nil
    | cons char rest inductionHypothesis =>
      rw [List.mem_cons, not_or] at quoteFree
      rw [lowercaseAfter, List.mem_append, not_or]
      refine ⟨?_, inductionHypothesis quoteFree.2⟩
      split
      · split <;> decide
      · exact quote_not_mem_lowercaseChar (Ne.symm quoteFree.1)
  rw [lowercase, String.toList_ofList]
  exact after quoteFree

/-! ## The script as quoted texts -/

namespace BuildDescriptor

/-- Texts with what stands in front of the first of them and between them. -/
def listPieces (opening : String) : List String -> List (String × String)
  | [] => []
  | first :: rest => (opening ++ "[", first) :: rest.map (", ", ·)

/-- The name and the value of a definition that is not the first. -/
def morePieces (definition : String × String) : List (String × String) :=
  [(")" ++ ", " ++ "(", definition.1), (", ", definition.2)]

/-- The names and the values of definitions with what stands in front of them. -/
def macroPieces (opening : String) : List (String × String) -> List (String × String)
  | [] => []
  | first :: rest =>
    (opening ++ "[" ++ "(", first.1) :: (", ", first.2) :: rest.flatMap morePieces

/-- A list with brackets around it is a row of quoted texts. -/
theorem quotedTexts_listPieces
    {texts : List String}
    (notEmpty : texts ≠ [])
    (opening ending : String) :
    quotedTexts (listPieces opening texts) ("]" ++ ending) =
      opening ++ bracketed (texts.map quoted) ++ ending := by
  have row (first : String) (rest : List String) :
      quoted first ++ quotedTexts (rest.map (", ", ·)) ("]" ++ ending) =
        ", ".intercalate ((first :: rest).map quoted) ++ "]" ++ ending := by
    induction rest generalizing first with
    | nil => simp [quotedTexts, String.append_assoc]
    | cons second rest inductionHypothesis =>
      have further := inductionHypothesis second
      simp only [List.map_cons, quotedTexts, String.intercalate_cons_cons,
        String.append_assoc] at further ⊢
      rw [further]
  obtain ⟨first, rest, rfl⟩ := List.exists_cons_of_ne_nil notEmpty
  rw [listPieces, quotedTexts, bracketed]
  simp only [String.append_assoc, row first rest]

/-- A list of definitions with brackets around it is a row of quoted names and values. -/
theorem quotedTexts_macroPieces
    {definitions : List (String × String)}
    (notEmpty : definitions ≠ [])
    (opening ending : String) :
    quotedTexts (macroPieces opening definitions) (")" ++ "]" ++ ending) =
      opening ++ bracketed (definitions.map macroPair) ++ ending := by
  have row (first : String × String) (rest : List (String × String)) :
      "(" ++ quoted first.1 ++ ", " ++ quoted first.2 ++
          quotedTexts (rest.flatMap morePieces) (")" ++ "]" ++ ending) =
        ", ".intercalate ((first :: rest).map macroPair) ++ "]" ++ ending := by
    induction rest generalizing first with
    | nil => simp [quotedTexts, macroPair, String.append_assoc]
    | cons second rest inductionHypothesis =>
      have further := inductionHypothesis second
      simp only [List.flatMap_cons, morePieces, List.cons_append, List.nil_append, List.map_cons,
        quotedTexts, macroPair, String.intercalate_cons_cons, String.append_assoc]
        at further ⊢
      rw [further]
  obtain ⟨first, rest, rfl⟩ := List.exists_cons_of_ne_nil notEmpty
  have all := row first rest
  rw [macroPieces, quotedTexts, quotedTexts, bracketed]
  simp only [String.append_assoc] at all ⊢
  rw [all]

/-- What stands in front of an argument of the module in the script. -/
def argumentGap (name : String) : String :=
  Text.joinLines [",", "                                            " ++ name]

/-- What stands in front of the name of the module; the variable holds the module. -/
def moduleGap (moduleVariable : String) : String :=
  Text.joinLines ["from setuptools import setup, Extension", "", moduleVariable ++ " = Extension("]

/-- What stands between the definitions and the name of the distribution. -/
def setupGap : String :=
  Text.joinLines [")", "", "setup(name="]

/-- What stands in front of the list of the requirements. -/
def requirementsGap (moduleVariable : String) : String :=
  Text.joinLines [
    ",", "        ext_modules = [" ++ moduleVariable ++ "],", "        install_requires="]

/-- The literals of the script with what stands in front of them. -/
def scriptPieces (descriptor : BuildDescriptor) : List (String × String) :=
  (moduleGap descriptor.extensionVariable, descriptor.moduleName) ::
  listPieces (argumentGap "sources = ") descriptor.sources ++
  macroPieces ("]" ++ argumentGap "define_macros=") descriptor.macros ++
  [(")" ++ "]" ++ setupGap, descriptor.moduleName), (", version=", "1.0")] ++
  listPieces (requirementsGap descriptor.extensionVariable) descriptor.requirements

/-- The texts that the script states: the facts of the build, and the name and the version
of the distribution. -/
def scriptTexts (descriptor : BuildDescriptor) : List String :=
  descriptor.moduleName :: descriptor.sources ++
    descriptor.macros.flatMap (fun definition => [definition.1, definition.2]) ++
    [descriptor.moduleName, "1.0"] ++ descriptor.requirements

/-- A build with something to compile, to define and to install. -/
structure Complete (descriptor : BuildDescriptor) : Prop where
  sources : descriptor.sources ≠ []
  macros : descriptor.macros ≠ []
  requirements : descriptor.requirements ≠ []

theorem map_snd_listPieces (opening : String) (texts : List String) :
    (listPieces opening texts).map Prod.snd = texts := by
  cases texts with
  | nil => rfl
  | cons first rest => simp [listPieces]

theorem map_snd_macroPieces (opening : String) (definitions : List (String × String)) :
    (macroPieces opening definitions).map Prod.snd =
      definitions.flatMap fun definition => [definition.1, definition.2] := by
  cases definitions with
  | nil => rfl
  | cons first rest => simp [macroPieces, morePieces, List.map_flatMap]

theorem map_snd_scriptPieces (descriptor : BuildDescriptor) :
    descriptor.scriptPieces.map Prod.snd = descriptor.scriptTexts := by
  simp only [scriptPieces, scriptTexts, List.map_append, List.map_cons, List.map_nil,
    map_snd_listPieces, map_snd_macroPieces]

/-- The script is nothing but its literals with what stands around them. -/
theorem script_eq_quotedTexts
    {descriptor : BuildDescriptor}
    (complete : descriptor.Complete) :
    descriptor.script = quotedTexts descriptor.scriptPieces ("]" ++ ")") := by
  have names (ending : String) :
      quotedTexts [(")" ++ "]" ++ setupGap, descriptor.moduleName), (", version=", "1.0")]
          ending =
        ")" ++ "]" ++ (setupGap ++ quoted descriptor.moduleName ++ ", version=" ++
          quoted "1.0" ++ ending) := by
    simp only [quotedTexts, String.append_assoc]
  have definitions (ending : String) :
      quotedTexts (macroPieces ("]" ++ argumentGap "define_macros=") descriptor.macros)
          (")" ++ "]" ++ ending) =
        "]" ++ (argumentGap "define_macros=" ++ bracketed (descriptor.macros.map macroPair) ++
          ending) := by
    rw [quotedTexts_macroPieces complete.macros]
    simp only [String.append_assoc]
  have version : ", version=\"1.0\"," = ", version=" ++ quoted "1.0" ++ "," := by decide
  rw [scriptPieces, quotedTexts_append, quotedTexts_append, quotedTexts_append, quotedTexts,
    quotedTexts_listPieces complete.requirements, names, definitions,
    quotedTexts_listPieces complete.sources]
  rw [script, version]
  simp only [moduleGap, setupGap, requirementsGap, argumentGap, Text.joinLines,
    String.intercalate_cons_cons, String.intercalate_singleton, String.append_assoc,
    -String.reduceAppend]

/-! ## What stands between the literals -/

/-- What can stand in front of a literal of the script. -/
def gaps (moduleVariable : String) : List String := [
  moduleGap moduleVariable,
  argumentGap "sources = " ++ "[",
  ", ",
  "]" ++ argumentGap "define_macros=" ++ "[" ++ "(",
  ")" ++ ", " ++ "(",
  ")" ++ "]" ++ setupGap,
  ", version=",
  requirementsGap moduleVariable ++ "["
]

theorem gap_of_mem_listPieces
    {opening : String}
    {texts : List String}
    {piece : String × String}
    (member : piece ∈ listPieces opening texts) :
    piece.1 = opening ++ "[" ∨ piece.1 = ", " := by
  cases texts with
  | nil => exact absurd member List.not_mem_nil
  | cons first rest =>
    rcases List.mem_cons.mp member with rfl | later
    · exact .inl rfl
    · obtain ⟨text, _, rfl⟩ := List.mem_map.mp later
      exact .inr rfl

theorem gap_of_mem_macroPieces
    {opening : String}
    {definitions : List (String × String)}
    {piece : String × String}
    (member : piece ∈ macroPieces opening definitions) :
    piece.1 = opening ++ "[" ++ "(" ∨ piece.1 = ", " ∨ piece.1 = ")" ++ ", " ++ "(" := by
  cases definitions with
  | nil => exact absurd member List.not_mem_nil
  | cons first rest =>
    simp only [macroPieces, morePieces, List.mem_cons, List.mem_flatMap, List.not_mem_nil,
      or_false] at member
    rcases member with rfl | rfl | ⟨definition, _, rfl | rfl⟩
    · exact .inl rfl
    · exact .inr (.inl rfl)
    · exact .inr (.inr rfl)
    · exact .inr (.inl rfl)

theorem gap_mem
    {descriptor : BuildDescriptor}
    {piece : String × String}
    (member : piece ∈ descriptor.scriptPieces) :
    piece.1 ∈ gaps descriptor.extensionVariable := by
  simp only [scriptPieces, List.mem_append, List.mem_cons, List.not_mem_nil, or_false]
    at member
  rcases member with (((rfl | isSource) | isMacro) | rfl | rfl) | isRequirement
  · simp [gaps]
  · rcases gap_of_mem_listPieces isSource with gap_eq | gap_eq <;> simp [gaps, gap_eq]
  · rcases gap_of_mem_macroPieces isMacro with gap_eq | gap_eq | gap_eq <;> simp [gaps, gap_eq]
  · simp [gaps]
  · simp [gaps]
  · rcases gap_of_mem_listPieces isRequirement with gap_eq | gap_eq <;> simp [gaps, gap_eq]

/-- Wherever the text in front of a gap were to go on, the literal would end in an unreadable
line, or behind something else than a backslash. -/
theorem separates_of_mem_gaps
    {moduleVariable gap : String}
    (member : gap ∈ gaps moduleVariable) :
    Separates gap.toList := by
  have line {front rest : String} {lines : List String} (behind : String)
      (written : front.toList ≠ [] ∧ front.toList.all isOrdinary = true) :
      Separates (Text.joinLines (front :: rest :: lines) ++ behind).toList := by
    refine ⟨front.toList, ("\n" ++ (Text.joinLines (rest :: lines) ++ behind)).toList, ?_,
      written.1, List.all_eq_true.mp written.2, ?_⟩
    · rw [Text.joinLines, String.intercalate_cons_cons, ← String.toList_append]
      simp only [String.append_assoc]
      rfl
    · rw [String.toList_append]
      rintro _ ⟨⟩
      rfl
  have inLine {front : String}
      (written : front.toList ≠ [] ∧ front.toList.all isOrdinary = true) :
      Separates front.toList :=
    ⟨front.toList, [], (List.append_nil _).symm, written.1, List.all_eq_true.mp written.2,
      by simp⟩
  simp only [gaps, List.mem_cons, List.not_mem_nil, or_false] at member
  have lineAlone {front rest : String} {lines : List String}
      (written : front.toList ≠ [] ∧ front.toList.all isOrdinary = true) :
      Separates (Text.joinLines (front :: rest :: lines)).toList := by
    have whole : Separates (Text.joinLines (front :: rest :: lines) ++ "").toList :=
      line "" written
    rwa [String.append_empty] at whole
  rcases member with rfl | rfl | rfl | rfl | rfl | rfl | rfl | rfl
  · exact lineAlone (by decide)
  · exact line "[" (by decide)
  · exact inLine (by decide)
  · rw [String.append_assoc, String.append_assoc, String.toList_append]
    exact Separates.append_left (List.all_eq_true.mp (by decide))
      (line ("[" ++ "(") (by decide))
  · exact inLine (by decide)
  · rw [String.toList_append]
    exact Separates.append_left (List.all_eq_true.mp (by decide)) (lineAlone (by decide))
  · exact inLine (by decide)
  · exact line "[" (by decide)

/-- The only quotes between the literals are those in the name of the variable. -/
theorem quote_not_mem_gaps
    {moduleVariable gap : String}
    (quoteFree : '"' ∉ moduleVariable.toList)
    (member : gap ∈ gaps moduleVariable) :
    '"' ∉ gap.toList := by
  simp only [gaps, List.mem_cons, List.not_mem_nil, or_false] at member
  rcases member with rfl | rfl | rfl | rfl | rfl | rfl | rfl | rfl
  · simp [moduleGap, Text.joinLines, quoteFree]
  · decide
  · decide
  · decide
  · decide
  · decide
  · decide
  · simp [requirementsGap, Text.joinLines, quoteFree]

/-- The script states its texts exactly if they are all read as they are written and no
quote is in the name of the variable. -/
theorem literals?_script_iff
    {descriptor : BuildDescriptor}
    (complete : descriptor.Complete)
    {named : List Char -> Option Char} :
    literals? named descriptor.script = some descriptor.scriptTexts ↔
      '"' ∉ descriptor.extensionVariable.toList ∧
        ∀ text ∈ descriptor.scriptTexts, Verbatim text.toList := by
  have ending : Separates ("]" ++ ")").toList :=
    ⟨("]" ++ ")").toList, [], by decide, by decide, List.all_eq_true.mp (by decide),
      by simp⟩
  rw [script_eq_quotedTexts complete, ← map_snd_scriptPieces,
    literals?_quotedTexts_iff (fun piece member => separates_of_mem_gaps (gap_mem member))
      ending]
  constructor
  · rintro ⟨each, _⟩
    constructor
    · have first := (each _ (List.mem_append_left _ (List.mem_append_left _
        (List.mem_append_left _ (List.mem_cons_self ..))))).1
      simpa [moduleGap, Text.joinLines] using first
    · rw [List.forall_mem_map]
      exact fun piece member => (each piece member).2
  · rintro ⟨quoteFree, verbatim⟩
    rw [List.forall_mem_map] at verbatim
    exact ⟨fun piece member => ⟨quote_not_mem_gaps quoteFree (gap_mem member),
      verbatim piece member⟩, by decide⟩

/-! ## The build of a federate -/

variable
  (settings : Settings)
  (topLevelName : String)
  (requirements : List String)
  (preBuild : List (List String))

theorem complete_ofSettings :
    (ofSettings settings topLevelName requirements preBuild).Complete :=
  ⟨List.cons_ne_nil _ _, List.cons_ne_nil _ _, by simp [ofSettings]⟩

theorem verbatim_extensionModule_iff :
    Verbatim (Naming.extensionModule topLevelName).toList ↔ Verbatim topLevelName.toList := by
  rw [Naming.extensionModule, String.toList_append]
  exact verbatim_ordinary_append_iff (List.all_eq_true.mp (by decide))

/-- Definitions give the name of the module, or a number. -/
theorem verbatim_macros_iff :
    (∀ text ∈ (macrosOf settings (Naming.extensionModule topLevelName)).flatMap
        (fun definition => [definition.1, definition.2]), Verbatim text.toList) ↔
      Verbatim topLevelName.toList := by
  have moduleMacro : Verbatim "MODULE_NAME".toList := by decide
  have workersMacro : Verbatim "NUMBER_OF_WORKERS".toList := by decide
  rw [macrosOf]
  split
  · simp only [List.flatMap_cons, List.flatMap_nil, List.cons_append, List.nil_append,
      List.forall_mem_cons, List.not_mem_nil, false_implies, implies_true, moduleMacro,
      workersMacro, verbatim_extensionModule_iff, verbatim_toString, true_and, and_true]
  · simp only [List.flatMap_singleton, List.forall_mem_cons, List.not_mem_nil, false_implies,
      implies_true, moduleMacro, verbatim_extensionModule_iff, true_and, and_true]

/-- The JSON of a build can be read back.  The script states the same facts exactly if the
name of the module, the files of native code and the requirements are read as they are
written.  If they were quoted as in JSON, all texts would be read. -/
theorem ofSettings_statesFacts_iff (named : List Char -> Option Char) :
    Restored (ofSettings settings topLevelName requirements preBuild) ∧
      (literals? named (ofSettings settings topLevelName requirements preBuild).script =
          some (ofSettings settings topLevelName requirements preBuild).scriptTexts ↔
        Verbatim topLevelName.toList ∧
          (∀ file ∈ settings.files, Text.endsWith file ".c" = true -> Verbatim file.toList) ∧
          ∀ requirement ∈ requirements, Verbatim requirement.toList) ∧
      ∀ text, literals? named (Json.quote text) = some [text] := by
  refine ⟨Lossless.restored _, ?_, literals?_quote⟩
  have version : Verbatim "1.0".toList := by decide
  have base : Verbatim baseRequirement.toList := by decide
  have ownSource (verbatim : Verbatim topLevelName.toList) :
      Verbatim (topLevelName ++ ".c").toList := by
    rw [String.toList_append]
    exact verbatim.append_ordinary (List.all_eq_true.mp (by decide))
  have quoteFree (verbatim : Verbatim topLevelName.toList) :
      '"' ∉ (ofSettings settings topLevelName requirements preBuild).extensionVariable.toList := by
    have moduleFree : '"' ∉ (Naming.extensionModule topLevelName).toList := fun member =>
      (((verbatim_extensionModule_iff topLevelName).mpr verbatim).readable _ member).1 rfl
    rw [extensionVariable, String.toList_append, List.mem_append, not_or]
    exact ⟨Text.quote_not_mem_lowercase moduleFree, by decide⟩
  rw [literals?_script_iff (complete_ofSettings ..)]
  simp only [scriptTexts, ofSettings, List.forall_mem_append, List.forall_mem_cons,
    List.not_mem_nil, false_implies, implies_true, List.mem_filter, and_imp,
    verbatim_macros_iff, verbatim_extensionModule_iff, version, base, and_true]
  constructor
  · rintro ⟨_, ⟨⟨⟨verbatim, _, files⟩, _⟩, _⟩, inRequirements⟩
    exact ⟨verbatim, files, inRequirements⟩
  · rintro ⟨verbatim, files, inRequirements⟩
    exact ⟨quoteFree verbatim, ⟨⟨⟨verbatim, ownSource verbatim, files⟩, verbatim⟩, verbatim⟩,
      inRequirements⟩

end BuildDescriptor

/-! ## A file that is read as another -/

namespace NewDriver

/-- The value of the property for files, with the quotes that it has in a program. -/
def file : Element := .literal "\"drivers\\new.c\""

def settings : Settings :=
  Property.files.store file (.ofTarget .python)

def build : BuildDescriptor :=
  .ofSettings settings "Driver" [] []

/-- The file is accepted as it is, and the JSON holds its path.  In the script the path is
read as one with a line feed in it. -/
theorem script_states_otherFile :
    Property.files.type.accepts file = true ∧
      build.sources = ["Driver.c", "drivers\\new.c"] ∧
      (∀ source ∈ build.sources, '\n' ∉ source.toList ∧ '\r' ∉ source.toList) ∧
      (write build).member? "sources" =
        some (.array [.string "Driver.c", .string "drivers\\new.c"]) ∧
      ∀ named : List Char -> Option Char,
        literals? named (BuildDescriptor.quoted "drivers\\new.c") = some ["drivers\new.c"] ∧
          literals? named build.script ≠ some build.scriptTexts := by
  refine ⟨by decide, by decide, by decide, rfl, fun named => ⟨rfl, fun read => ?_⟩⟩
  have complete : build.Complete := BuildDescriptor.complete_ofSettings ..
  obtain ⟨_, verbatim⟩ := (BuildDescriptor.literals?_script_iff complete).mp read
  have member : "drivers\\new.c" ∈ build.scriptTexts := by decide
  exact absurd (verbatim _ member) (by decide)

end NewDriver
end ReactorGen
