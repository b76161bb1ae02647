import Mathlib.Data.List.Nodup
import Mathlib.Data.List.Perm.Basic
import ReactorGen.Proofs.FileWrites

/-!
# Paths of output

Where the files of a federate go.  Some names are those of every federate; the others
begin with the base name, which may itself be a path.  All of them lead to different
locations, unless the base name leads to where files of another name or of another
federate are.
-/

namespace ReactorGen

/-! ## Names at the end of a path -/

namespace Path

/-- A text that can end a path without leading elsewhere. -/
structure IsEnding (text : String) : Prop where
  noSlash : '/' ∉ text.toList
  last : ∃ char, text.toList.getLast? = some char ∧ char ≠ '.'

/-- A text without slashes and dots. -/
structure IsName (text : String) : Prop where
  noSlash : '/' ∉ text.toList
  noDot : '.' ∉ text.toList

instance (text : String) : Decidable (IsName text) :=
  decidable_of_iff ('/' ∉ text.toList ∧ '.' ∉ text.toList)
    ⟨fun both => ⟨both.1, both.2⟩, fun isName => ⟨isName.noSlash, isName.noDot⟩⟩

theorem IsName.isEnding
    {name : String}
    (isName : IsName name)
    (notEmpty : name ≠ "") :
    IsEnding name := by
  refine ⟨isName.noSlash, ?_⟩
  rw [Ne, ← String.toList_eq_nil_iff] at notEmpty
  refine ⟨_, List.getLast?_eq_some_getLast notEmpty, ?_⟩
  intro dot
  apply isName.noDot
  rw [← dot]
  exact List.getLast_mem notEmpty

/-- The part of a path behind its last slash. -/
def leaf (path : String) : String :=
  (Text.split '/' path).getLast?.getD ""

theorem IsEnding.append
    {front ending : String}
    (isEnding : IsEnding ending)
    (noSlash : '/' ∉ front.toList) :
    IsEnding (front ++ ending) := by
  obtain ⟨char, last, notDot⟩ := isEnding.last
  refine ⟨?_, char, ?_, notDot⟩
  · rw [String.toList_append, List.mem_append, not_or]
    exact ⟨noSlash, isEnding.noSlash⟩
  · rw [String.toList_append, List.getLast?_append, last]
    rfl

/-- A path goes through the same directories when its end is made longer. -/
theorem split_append
    (path : String)
    {ending : String}
    (noSlash : '/' ∉ ending.toList) :
    Text.split '/' (path ++ ending) =
      (Text.split '/' path).dropLast ++ [leaf path ++ ending] := by
  obtain ⟨parts, last, split_eq, single, shape⟩ := Text.exists_last_part '/' path.toList
  have longer : '/' ∉ last ++ ending.toList := by
    rw [List.mem_append, not_or]
    exact ⟨single, noSlash⟩
  have split_longer : Text.splitChars '/' (path.toList ++ ending.toList) =
      parts ++ [last ++ ending.toList] := by
    rcases shape with ⟨rfl, path_eq⟩ | ⟨before, path_eq, rfl⟩
    · rw [path_eq, Text.splitChars_of_not_mem longer]
      rfl
    · rw [path_eq, List.append_assoc, List.cons_append, Text.splitChars_append,
        Text.splitChars_of_not_mem longer]
  simp [Text.split, leaf, split_eq, split_longer, String.ofList_append]

@[simp] theorem leaf_empty : leaf "" = "" := rfl

theorem isAbsolute_append
    {front : String}
    (notEmpty : front ≠ "")
    (back : String) :
    isAbsolute (front ++ back) = isAbsolute front := by
  rw [isAbsolute, isAbsolute, String.toList_append, List.head?_append_of_ne_nil]
  rwa [Ne, String.toList_eq_nil_iff]

end Path

/-! ## Locations of joined paths -/

namespace FileSystem

theorem step_of_isEnding
    (location : Location)
    {part : String}
    (isEnding : Path.IsEnding part) :
    step location part = location ++ [part] := by
  obtain ⟨char, last, notDot⟩ := isEnding.last
  rw [step, if_neg, if_neg]
  · intro equal
    obtain rfl : part = ".." := by simpa using equal
    exact notDot (Option.some.inj last).symm
  · intro equal
    rcases Bool.or_eq_true_iff.mp equal with equal | equal
    · obtain rfl : part = "" := by simpa using equal
      cases last
    · obtain rfl : part = "." := by simpa using equal
      exact notDot (Option.some.inj last).symm

/-- The location that a path leads to from a directory. -/
def locationFrom (directory : Location) (path : String) : Location :=
  (Text.split '/' path).foldl step (if Path.isAbsolute path then [] else directory)

/-- Where a path leads without the part behind its last slash. -/
def home (directory : Location) (path : String) : Location :=
  (Text.split '/' path).dropLast.foldl step (if Path.isAbsolute path then [] else directory)

/-- A path behind a slash leads on from what is before it. -/
theorem location_append_slash
    {directory : String}
    (notEmpty : directory ≠ "")
    (path : String) :
    location (directory ++ "/" ++ path) =
      (Text.split '/' path).foldl step (location directory) := by
  have split_eq : Text.split '/' (directory ++ "/" ++ path) =
      Text.split '/' directory ++ Text.split '/' path := by
    simp only [Text.split, String.toList_append, ← List.map_append]
    rw [← Text.splitChars_append, List.append_assoc]
    rfl
  rw [location, location, start, start, split_eq, List.foldl_append, String.append_assoc,
    Path.isAbsolute_append notEmpty]

/-- A joined path leads to where its second part leads from its first. -/
theorem location_join (directory path : String) :
    location (Path.join directory path) = locationFrom (location directory) path := by
  rw [Path.join, locationFrom]
  by_cases absolute : Path.isAbsolute path = true
  · rw [if_pos absolute, if_pos absolute, location, start, if_pos absolute]
  rw [if_neg absolute, if_neg absolute]
  by_cases empty : directory = ""
  · subst empty
    rw [if_pos (by simp), String.empty_append, location, start, if_neg absolute]
    rfl
  by_cases slash : Path.endsInSlash directory = true
  · rw [slash, Bool.or_true, if_pos rfl]
    obtain ⟨front, front_eq⟩ : ∃ front, directory = front ++ "/" := by
      rw [Path.endsInSlash, beq_iff_eq, List.getLast?_eq_some_iff] at slash
      obtain ⟨chars, chars_eq⟩ := slash
      refine ⟨String.ofList chars, ?_⟩
      rw [← String.toList_inj, String.toList_append, chars_eq, String.toList_ofList]
      rfl
    by_cases root : front = ""
    · subst root
      obtain rfl : directory = "/" := front_eq
      rw [location, start, if_pos (by rw [Path.isAbsolute_append (by decide)]; rfl)]
      simp [Text.split, Text.splitChars, location, step, start, Path.isAbsolute]
    · subst front_eq
      rw [location_append_slash root]
      have idle : location (front ++ "/") = location front := by
        rw [← String.append_empty (s := front ++ "/"), location_append_slash root]
        rfl
      rw [idle]
  · have joined : (directory.isEmpty || Path.endsInSlash directory) = false := by
      rw [Bool.or_eq_false_iff]
      refine ⟨?_, Bool.eq_false_iff.mpr slash⟩
      rw [Bool.eq_false_iff]
      simpa using empty
    rw [joined, if_neg Bool.false_ne_true, location_append_slash empty]

/-- A path whose end is made longer leads to an entry of its home. -/
theorem locationFrom_append
    (directory : Location)
    (path : String)
    {ending : String}
    (isEnding : Path.IsEnding ending) :
    locationFrom directory (path ++ ending) =
      home directory path ++ [Path.leaf path ++ ending] := by
  have noSlash : '/' ∉ (Path.leaf path).toList := by
    obtain ⟨parts, last, split_eq, single, _⟩ := Text.exists_last_part '/' path.toList
    simpa [Path.leaf, Text.split, split_eq] using single
  have absolute : Path.isAbsolute (path ++ ending) = Path.isAbsolute path := by
    by_cases empty : path = ""
    · subst empty
      rw [String.empty_append, Path.isAbsolute]
      cases chars_eq : ending.toList with
      | nil => rfl
      | cons char rest =>
        have other : char ≠ '/' := by
          rintro rfl
          exact isEnding.noSlash (by rw [chars_eq]; exact List.mem_cons_self ..)
        simpa [Path.isAbsolute] using other
    · exact Path.isAbsolute_append empty ending
  rw [locationFrom, home, absolute, Path.split_append path isEnding.noSlash, List.foldl_append,
    List.foldl_cons, List.foldl_nil, step_of_isEnding _ (isEnding.append noSlash)]

/-- A name leads to an entry of the directory. -/
theorem locationFrom_of_isEnding
    (directory : Location)
    {name : String}
    (isEnding : Path.IsEnding name) :
    locationFrom directory name = directory ++ [name] := by
  have named := locationFrom_append directory "" isEnding
  rw [String.empty_append, Path.leaf_empty, String.empty_append] at named
  exact named

/-- A path without slashes leads from a directory into it. -/
theorem home_of_noSlash
    {path : String}
    (noSlash : '/' ∉ path.toList)
    (directory : Location) :
    home directory path = directory ∧ Path.leaf path = path := by
  have split_eq : Text.split '/' path = [path] := by
    rw [Text.split, Text.splitChars_of_not_mem noSlash]
    simp
  have relative : Path.isAbsolute path = false := by
    rw [Path.isAbsolute, beq_eq_false_iff_ne]
    exact fun slash => noSlash (List.mem_of_head? slash)
  rw [home, Path.leaf, split_eq, relative]
  exact ⟨rfl, rfl⟩

end FileSystem

/-! ## Files of federates -/

/-- The ends of the names that begin with the base name. -/
def Target.ownEndings : Target -> List String
  | .python => [".c", ".py"]
  | _ => ["_triggers.c"]

/-- The names of the files that every federate has. -/
def Target.commonNames : Target -> List String
  | .python => ["setup.py", "setup.json", "triggers.json", manifestFile]
  | _ => ["triggers.json", manifestFile]

namespace Target

theorem isEnding_of_mem_ownEndings
    {target : Target}
    {ending : String}
    (member : ending ∈ target.ownEndings) :
    Path.IsEnding ending := by
  have known : ending = ".c" ∨ ending = ".py" ∨ ending = "_triggers.c" := by
    cases target <;> simp only [ownEndings, List.mem_cons, List.not_mem_nil] at member <;>
      tauto
  rcases known with rfl | rfl | rfl
  · exact ⟨by decide, 'c', rfl, by decide⟩
  · exact ⟨by decide, 'y', rfl, by decide⟩
  · exact ⟨by decide, 'c', rfl, by decide⟩

theorem isEnding_of_mem_commonNames
    {target : Target}
    {name : String}
    (member : name ∈ target.commonNames) :
    Path.IsEnding name := by
  have known : name = "setup.py" ∨ name = "setup.json" ∨ name = "triggers.json" ∨
      name = manifestFile := by
    cases target <;> simp only [commonNames, List.mem_cons, List.not_mem_nil] at member <;>
      tauto
  rcases known with rfl | rfl | rfl | rfl
  · exact ⟨by decide, 'y', rfl, by decide⟩
  all_goals exact ⟨by decide, 'n', rfl, by decide⟩

theorem nodup_ownEndings (target : Target) : target.ownEndings.Nodup := by
  cases target <;> decide

theorem nodup_commonNames (target : Target) : target.commonNames.Nodup := by
  cases target <;> decide

/-- The last character of a name of a federate's own is that of its ending. -/
theorem getLast?_append_ownEnding
    {target : Target}
    {ending : String}
    (member : ending ∈ target.ownEndings)
    (stem : String) :
    (stem ++ ending).toList.getLast? = ending.toList.getLast? := by
  obtain ⟨char, last, _⟩ := (isEnding_of_mem_ownEndings member).last
  rw [String.toList_append, List.getLast?_append, last]
  rfl

/-- What begins a name of a federate's own can be told from the name. -/
theorem append_ownEnding_inj
    {target : Target}
    {first second firstEnding secondEnding : String}
    (firstMember : firstEnding ∈ target.ownEndings)
    (secondMember : secondEnding ∈ target.ownEndings)
    (equal : first ++ firstEnding = second ++ secondEnding) :
    first = second ∧ firstEnding = secondEnding := by
  have told : ∀ one ∈ target.ownEndings, ∀ other ∈ target.ownEndings,
      one.toList.getLast? = other.toList.getLast? -> one = other := by
    cases target <;> decide
  obtain rfl : firstEnding = secondEnding := by
    apply told _ firstMember _ secondMember
    rw [← getLast?_append_ownEnding firstMember first, equal,
      getLast?_append_ownEnding secondMember second]
  exact ⟨(String.append_left_inj _).mp equal, rfl⟩

/-- Only the module of the interpreter may be named like a file that every federate
has. -/
theorem append_ownEnding_mem_commonNames
    {target : Target}
    {stem ending : String}
    (member : ending ∈ target.ownEndings) :
    stem ++ ending ∈ target.commonNames ↔
      target = .python ∧ ending = ".py" ∧ stem = "setup" := by
  constructor
  · intro common
    have told : ∀ name ∈ target.commonNames, ∀ other ∈ target.ownEndings,
        name.toList.getLast? = other.toList.getLast? ->
          target = .python ∧ other = ".py" ∧ name = "setup" ++ ".py" := by
      cases target <;> decide
    obtain ⟨python, rfl, name_eq⟩ :=
      told _ common _ member (getLast?_append_ownEnding member stem)
    exact ⟨python, rfl, (String.append_left_inj _).mp name_eq⟩
  · rintro ⟨rfl, rfl, rfl⟩
    decide

end Target

/-- Where the files of a federate go. -/
structure FederatePlace where
  /-- The directory of the federate. -/
  directory : Location
  /-- The directory of the files whose names begin with the base name. -/
  home : Location
  /-- What these names begin with. -/
  stem : String

namespace FederatePlace

/-- Where the files go whose names begin with the base name. -/
def ownLocations (target : Target) (place : FederatePlace) : List Location :=
  target.ownEndings.map fun ending => place.home ++ [place.stem ++ ending]

/-- Where the files go that every federate has. -/
def commonLocations (target : Target) (place : FederatePlace) : List Location :=
  target.commonNames.map fun name => place.directory ++ [name]

/-- No file of federates goes to where another one is. -/
structure Apart (target : Target) (places : List FederatePlace) : Prop where
  /-- No module takes the place of a build script. -/
  modules : target = .python -> ∀ first ∈ places, first.stem = "setup" ->
    ∀ second ∈ places, first.home ≠ second.directory
  /-- No two federates have the same names in the same place. -/
  own : places.Pairwise fun first second =>
    first.home = second.home -> first.stem ≠ second.stem
  /-- No two federates have the same directory. -/
  directories : places.Pairwise fun first second => first.directory ≠ second.directory

variable {target : Target}

theorem nodup_ownLocations (place : FederatePlace) : (place.ownLocations target).Nodup := by
  refine List.Nodup.map ?_ target.nodup_ownEndings
  intro first second equal
  have names_eq := (List.append_singleton_inj.mp equal).2
  exact (String.append_right_inj _).mp names_eq

theorem nodup_commonLocations (place : FederatePlace) :
    (place.commonLocations target).Nodup := by
  refine List.Nodup.map ?_ target.nodup_commonNames
  exact fun _ _ equal => (List.append_singleton_inj.mp equal).2

theorem disjoint_ownLocations_iff {first second : FederatePlace} :
    (first.ownLocations target).Disjoint (second.ownLocations target) ↔
      (first.home = second.home -> first.stem ≠ second.stem) := by
  constructor
  · intro disjoint home_eq stem_eq
    obtain ⟨ending, member⟩ : ∃ ending, ending ∈ target.ownEndings := by
      cases target <;> exact ⟨_, List.mem_cons_self ..⟩
    apply disjoint (List.mem_map_of_mem member)
    rw [home_eq, stem_eq]
    exact List.mem_map_of_mem member
  · intro apart location firstMember secondMember
    obtain ⟨firstEnding, firstEndingMember, rfl⟩ := List.mem_map.mp firstMember
    obtain ⟨secondEnding, secondEndingMember, equal⟩ := List.mem_map.mp secondMember
    obtain ⟨home_eq, names_eq⟩ := List.append_singleton_inj.mp equal
    apply apart home_eq.symm
    exact (Target.append_ownEnding_inj firstEndingMember secondEndingMember
      names_eq.symm).1

theorem disjoint_commonLocations_iff {first second : FederatePlace} :
    (first.commonLocations target).Disjoint (second.commonLocations target) ↔
      first.directory ≠ second.directory := by
  constructor
  · intro disjoint directory_eq
    have member : manifestFile ∈ target.commonNames := by cases target <;> decide
    apply disjoint (List.mem_map_of_mem member)
    rw [directory_eq]
    exact List.mem_map_of_mem member
  · intro apart location firstMember secondMember
    obtain ⟨firstName, _, rfl⟩ := List.mem_map.mp firstMember
    obtain ⟨secondName, _, equal⟩ := List.mem_map.mp secondMember
    exact apart (List.append_singleton_inj.mp equal).1.symm

/-- A module takes the place of a build script if it has its name and goes to its
directory. -/
theorem disjoint_own_commonLocations_iff {first second : FederatePlace} :
    (first.ownLocations target).Disjoint (second.commonLocations target) ↔
      (target = .python -> first.stem = "setup" -> first.home ≠ second.directory) := by
  constructor
  · intro disjoint python stem_eq home_eq
    have own : ".py" ∈ target.ownEndings := by
      rw [python]
      decide
    have common := (Target.append_ownEnding_mem_commonNames own).mpr ⟨python, rfl, stem_eq⟩
    apply disjoint (List.mem_map_of_mem own)
    rw [home_eq]
    exact List.mem_map_of_mem common
  · intro apart location ownMember commonMember
    obtain ⟨ending, own, rfl⟩ := List.mem_map.mp ownMember
    obtain ⟨name, common, equal⟩ := List.mem_map.mp commonMember
    obtain ⟨home_eq, rfl⟩ := List.append_singleton_inj.mp equal
    obtain ⟨python, _, stem_eq⟩ := (Target.append_ownEnding_mem_commonNames own).mp common
    exact apart python stem_eq home_eq.symm

/-- Files go to different locations exactly where none goes to where another one is. -/
theorem nodup_locations_iff {places : List FederatePlace} :
    (places.flatMap fun place =>
      place.ownLocations target ++ place.commonLocations target).Nodup ↔
        Apart target places := by
  rw [← (List.flatMap_append_perm places _ _).nodup_iff, List.nodup_append',
    List.nodup_flatMap, List.nodup_flatMap]
  have across : (places.flatMap (ownLocations target)).Disjoint
      (places.flatMap (commonLocations target)) ↔
        (target = .python -> ∀ first ∈ places, first.stem = "setup" ->
          ∀ second ∈ places, first.home ≠ second.directory) := by
    constructor
    · intro disjoint python first firstMember stem_eq second secondMember
      refine disjoint_own_commonLocations_iff.mp ?_ python stem_eq
      intro location own common
      exact disjoint (List.mem_flatMap_of_mem firstMember own)
        (List.mem_flatMap_of_mem secondMember common)
    · intro modules location own common
      obtain ⟨first, firstMember, own⟩ := List.mem_flatMap.mp own
      obtain ⟨second, secondMember, common⟩ := List.mem_flatMap.mp common
      refine disjoint_own_commonLocations_iff.mpr ?_ own common
      exact fun python stem_eq => modules python first firstMember stem_eq second secondMember
  rw [across]
  constructor
  · rintro ⟨⟨_, own⟩, ⟨_, directories⟩, modules⟩
    exact ⟨modules, own.imp disjoint_ownLocations_iff.mp,
      directories.imp disjoint_commonLocations_iff.mp⟩
  · rintro ⟨modules, own, directories⟩
    exact ⟨⟨fun place _ => nodup_ownLocations place,
        own.imp disjoint_ownLocations_iff.mpr⟩,
      ⟨fun place _ => nodup_commonLocations place,
        directories.imp disjoint_commonLocations_iff.mpr⟩, modules⟩

end FederatePlace
end ReactorGen
