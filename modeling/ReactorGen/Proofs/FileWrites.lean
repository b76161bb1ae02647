import Mathlib.Data.List.Basic
import ReactorGen.Output
import ReactorGen.Proofs.Results

/-!
# Writing files

A path leads to a location that can be told from its text.  Writing a file changes what
stands at its location and nothing else, and making directories changes nothing that is
there.  So after a series of writes every file holds what was written last to its
location.
-/

namespace ReactorGen

/-! ## Parts of paths -/

namespace Text

theorem splitChars_of_not_mem
    {separator : Char}
    {chars : List Char}
    (single : separator ∉ chars) :
    splitChars separator chars = [chars] := by
  induction chars with
  | nil => rfl
  | cons char rest inductionHypothesis =>
    rw [List.mem_cons, not_or] at single
    rw [splitChars, if_neg (Ne.symm single.1), inductionHypothesis single.2]

/-- The parts before and after a separator. -/
theorem splitChars_append
    (separator : Char)
    (first second : List Char) :
    splitChars separator (first ++ separator :: second) =
      splitChars separator first ++ splitChars separator second := by
  induction first with
  | nil => simp [splitChars]
  | cons char rest inductionHypothesis =>
    rw [List.cons_append, splitChars, splitChars, inductionHypothesis]
    split
    case isTrue => rfl
    case isFalse =>
      obtain ⟨part, parts, rest_eq⟩ :=
        List.exists_cons_of_ne_nil (splitChars_ne_nil separator rest)
      rw [rest_eq]
      rfl

/-- A text is its last part or ends in it after a separator. -/
theorem exists_last_part (separator : Char) (chars : List Char) :
    ∃ parts last, splitChars separator chars = parts ++ [last] ∧ separator ∉ last ∧
      (parts = [] ∧ chars = last ∨
        ∃ before, chars = before ++ separator :: last ∧
          splitChars separator before = parts) := by
  by_cases single : separator ∈ chars
  · obtain ⟨back, front, reversed_eq, absent⟩ :=
      List.eq_append_cons_of_mem (List.mem_reverse.mpr single)
    have chars_eq : chars = front.reverse ++ separator :: back.reverse := by
      rw [← List.reverse_reverse chars, reversed_eq]
      simp
    have last : separator ∉ back.reverse := by rwa [List.mem_reverse]
    refine ⟨splitChars separator front.reverse, back.reverse, ?_, last,
      .inr ⟨front.reverse, chars_eq, rfl⟩⟩
    rw [chars_eq, splitChars_append, splitChars_of_not_mem last]
  · exact ⟨[], chars, splitChars_of_not_mem single, single, .inl ⟨rfl, rfl⟩⟩

end Text

/-! ## Entries -/

namespace FileSystem

/-- The location that a path leads to. -/
def location (path : String) : Location :=
  (Text.split '/' path).foldl step (start path)

theorem lookup_map_replace
    (entries : List (Location × FileEntry))
    (location other : Location)
    (entry : FileEntry) :
    (entries.map fun old => if old.1 = location then (location, entry) else old).lookup
        other =
      if other = location then (entries.lookup location).map fun _ => entry
      else entries.lookup other := by
  induction entries with
  | nil => simp
  | cons old rest inductionHypothesis =>
    obtain ⟨place, content⟩ := old
    rw [List.map_cons]
    by_cases here : place = location
    · subst here
      by_cases same : other = place
      · subst same
        simp
      · simp [List.lookup_cons, beq_eq_false_iff_ne.mpr same, inductionHypothesis, same]
    · rw [if_neg here, List.lookup_cons, inductionHypothesis]
      by_cases same : other = location
      · subst same
        simp [List.lookup_cons, beq_eq_false_iff_ne.mpr (Ne.symm here)]
      · simp [List.lookup_cons, same]

/-- What is put at a location is found there, and nothing else changes. -/
theorem lookup?_put (files : FileSystem) (location other : Location) (entry : FileEntry) :
    (files.put location entry).lookup? other =
      if other = location then some entry else files.lookup? other := by
  rw [put]
  split
  case isTrue present =>
    obtain ⟨found, found_eq⟩ := Option.isSome_iff_exists.mp present
    rw [lookup?] at found_eq
    rw [lookup?, lookup_map_replace, found_eq]
    rfl
  case isFalse absent =>
    rw [Bool.not_eq_true, Option.isSome_eq_false_iff, Option.isNone_iff_eq_none] at absent
    simp only [lookup?, List.lookup_append] at absent ⊢
    by_cases same : other = location
    · subst same
      simp [absent]
    · simp [same, List.lookup_cons, beq_eq_false_iff_ne.mpr same]

/-- A file system that has at least the entries of another one. -/
def Extends (second first : FileSystem) : Prop :=
  ∀ location entry, first.lookup? location = some entry ->
    second.lookup? location = some entry

theorem Extends.trans
    {first second third : FileSystem}
    (later : third.Extends second)
    (earlier : second.Extends first) :
    third.Extends first := fun _ _ found => later _ _ (earlier _ _ found)

theorem extends_of_ok
    {files made : FileSystem}
    (made_eq : (.ok files : Except FileError FileSystem) = .ok made) :
    made.Extends files := by
  rw [Except.ok.inj made_eq]
  exact fun _ _ => id

theorem extends_of_ite
    {files made : FileSystem}
    {isThere : Bool}
    {error : FileError}
    (made_eq : (if isThere = true then .ok files else .error error :
      Except FileError FileSystem) = .ok made) :
    made.Extends files := by
  split at made_eq
  case isTrue => exact extends_of_ok made_eq
  case isFalse => exact nomatch made_eq

theorem extends_makeDirectory
    {files made : FileSystem}
    {path : String}
    (made_eq : files.makeDirectory path = .ok made) :
    made.Extends files := by
  rw [makeDirectory] at made_eq
  obtain ⟨parent, _, made_eq⟩ := Result.bind_eq_ok.mp made_eq
  dsimp only at made_eq
  split at made_eq
  case isTrue => exact nomatch made_eq
  case isFalse =>
    split at made_eq
    case isTrue => exact nomatch made_eq
    case isFalse =>
      split at made_eq
      case isTrue => exact nomatch made_eq
      case isFalse absent =>
        intro location entry found
        rw [← Except.ok.inj made_eq, lookup?_put, if_neg]
        · exact found
        · rintro rfl
          exact absent (by rw [found]; rfl)

/-- Making directories keeps everything that is there. -/
theorem extends_makeDirectories
    {files made : FileSystem}
    {path : String}
    (made_eq : files.makeDirectories path = .ok made) :
    made.Extends files := by
  rw [makeDirectories] at made_eq
  generalize path.length + 1 = bound at made_eq
  induction bound generalizing files made path with
  | zero => exact nomatch made_eq
  | succ bound inductionHypothesis =>
    rw [makeDirectoriesWithin] at made_eq
    split at made_eq
    case isTrue => exact extends_of_ok made_eq
    case isFalse =>
      split at made_eq
      case h_1 directly =>
        rw [← Except.ok.inj made_eq]
        exact extends_makeDirectory directly
      case h_2 =>
        split at made_eq
        case isFalse => exact extends_of_ite made_eq
        case isTrue =>
          dsimp only at made_eq
          split at made_eq
          case h_1 => exact nomatch made_eq
          case h_2 =>
            obtain ⟨above, above_eq, made_eq⟩ := Result.bind_eq_ok.mp made_eq
            have fromAbove : above.Extends files := inductionHypothesis above_eq
            split at made_eq
            case h_1 directly =>
              rw [← Except.ok.inj made_eq]
              exact (extends_makeDirectory directly).trans fromAbove
            case h_2 => exact (extends_of_ite made_eq).trans fromAbove

/-! ## Walking -/

/-- Where a walk succeeds, it starts at an entry. -/
theorem exists_entry_of_walk
    {files : FileSystem}
    {location : Location}
    {parts : List String}
    {found : Location × FileEntry}
    (walked : files.walk location parts = .ok found) :
    ∃ entry, files.lookup? location = some entry := by
  cases parts with
  | nil =>
    rw [walk] at walked
    split at walked
    case h_1 => exact nomatch walked
    case h_2 entry entry_eq => exact ⟨entry, entry_eq⟩
  | cons part rest =>
    obtain ⟨_, descended, _⟩ := Result.bind_eq_ok.mp walked
    rw [descend] at descended
    split at descended
    case h_1 => exact nomatch descended
    case h_2 => exact nomatch descended
    case h_3 entry_eq => exact ⟨_, entry_eq⟩

theorem descend_eq_ok
    {files : FileSystem}
    {location next : Location}
    {part : String}
    {entry : FileEntry} :
    files.descend location part = .ok (next, entry) ↔
      files.lookup? location = some .directory ∧ part.utf8ByteSize ≤ longestName ∧
        next = step location part ∧ files.lookup? next = some entry := by
  rw [descend]
  cases files.lookup? location with
  | none => simp
  | some here =>
    cases here with
    | file contents => simp
    | directory =>
      by_cases long : longestName < part.utf8ByteSize
      · simp [long, Nat.not_le.mpr long]
      · simp only [long, if_false, Nat.le_of_not_lt long, true_and]
        cases there : files.lookup? (step location part) with
        | none =>
          refine iff_of_false nofun ?_
          rintro ⟨rfl, found⟩
          exact absurd (there.symm.trans found) nofun
        | some other =>
          rw [Except.ok.injEq, Prod.mk.injEq]
          constructor
          · rintro ⟨rfl, rfl⟩
            exact ⟨rfl, there⟩
          · rintro ⟨rfl, found⟩
            exact ⟨rfl, Option.some.inj (there.symm.trans found)⟩

/-- A walk ends at the entry that it finds. -/
theorem lookup?_of_walk
    {files : FileSystem}
    {location found : Location}
    {entry : FileEntry}
    {parts : List String}
    (walked : files.walk location parts = .ok (found, entry)) :
    files.lookup? found = some entry := by
  induction parts generalizing location with
  | nil =>
    rw [walk] at walked
    split at walked
    case h_1 => exact nomatch walked
    case h_2 entry entry_eq =>
      obtain ⟨rfl, rfl⟩ := Prod.mk.inj (Except.ok.inj walked)
      exact entry_eq
  | cons part rest inductionHypothesis =>
    obtain ⟨_, _, walked⟩ := Result.bind_eq_ok.mp walked
    exact inductionHypothesis walked

/-- A walk to a directory leads to the location of the path, and it goes on from
there. -/
theorem walk_append
    {files : FileSystem}
    {location found : Location}
    {parts : List String}
    (walked : files.walk location parts = .ok (found, .directory))
    (rest : List String) :
    found = parts.foldl step location ∧
      files.walk location (parts ++ rest) = files.walk found rest := by
  induction parts generalizing location with
  | nil =>
    rw [walk] at walked
    split at walked
    case h_1 => exact nomatch walked
    case h_2 entry entry_eq =>
      obtain ⟨rfl, rfl⟩ := Prod.mk.inj (Except.ok.inj walked)
      exact ⟨rfl, rfl⟩
  | cons part others inductionHypothesis =>
    obtain ⟨⟨next, entry⟩, descended, walked⟩ := Result.bind_eq_ok.mp walked
    obtain ⟨found_eq, walk_eq⟩ := inductionHypothesis walked
    obtain ⟨_, _, rfl, _⟩ := descend_eq_ok.mp descended
    refine ⟨found_eq, ?_⟩
    rw [List.cons_append, walk, descended, Result.ok_bind]
    exact walk_eq

/-- A walk to a directory succeeds wherever the directories on its way are there. -/
theorem walk_of_directories
    {files others : FileSystem}
    (kept : ∀ location, files.lookup? location = some .directory ->
      others.lookup? location = some .directory)
    {location found : Location}
    {parts : List String}
    (walked : files.walk location parts = .ok (found, .directory)) :
    others.walk location parts = .ok (found, .directory) := by
  induction parts generalizing location with
  | nil =>
    rw [walk] at walked ⊢
    split at walked
    case h_1 => exact nomatch walked
    case h_2 entry entry_eq =>
      obtain ⟨rfl, rfl⟩ := Prod.mk.inj (Except.ok.inj walked)
      rw [kept _ entry_eq]
  | cons part rest inductionHypothesis =>
    obtain ⟨⟨next, entry⟩, descended, walked⟩ := Result.bind_eq_ok.mp walked
    obtain ⟨isDirectory, short, rfl, _⟩ := descend_eq_ok.mp descended
    have walkedHere := inductionHypothesis walked
    obtain ⟨other, other_eq⟩ := exists_entry_of_walk walkedHere
    rw [walk, descend_eq_ok.mpr ⟨kept _ isDirectory, short, rfl, other_eq⟩,
      Result.ok_bind]
    exact walkedHere

/-! ## Files at their paths -/

/-- A file that stands where its path leads, with every directory on the way. -/
structure Stores (files : FileSystem) (path contents : String) : Prop where
  checked : checkPath path = .ok ()
  reached : ∃ parts last parent, Text.split '/' path = parts ++ [last] ∧
    files.walk (start path) parts = .ok (parent, .directory) ∧
    last.utf8ByteSize ≤ longestName
  found : files.lookup? (location path) = some (.file contents)

theorem location_eq
    {files : FileSystem}
    {path last : String}
    {parts : List String}
    {parent : Location}
    (split_eq : Text.split '/' path = parts ++ [last])
    (walked : files.walk (start path) parts = .ok (parent, .directory)) :
    location path = step parent last := by
  rw [location, split_eq, List.foldl_append, (walk_append walked []).1]
  rfl

/-- What is stored at a path is found there. -/
theorem Stores.find_eq
    {files : FileSystem}
    {path contents : String}
    (stores : files.Stores path contents) :
    files.find path = .ok (.file contents) := by
  obtain ⟨parts, last, parent, split_eq, walked, short⟩ := stores.reached
  have found := stores.found
  rw [location_eq split_eq walked] at found
  have descended : files.descend parent last =
      .ok (step parent last, .file contents) :=
    descend_eq_ok.mpr ⟨lookup?_of_walk walked, short, rfl, found⟩
  have arrived : files.walk (step parent last) [] =
      .ok (step parent last, .file contents) := by
    rw [walk, found]
  have walkedOn : files.walk parent [last] = .ok (step parent last, .file contents) :=
    Result.bind_eq_ok.mpr ⟨_, descended, arrived⟩
  rw [find, stores.checked, Result.ok_bind, split_eq, (walk_append walked [last]).2,
    walkedOn]
  rfl

/-- What is stored stays stored while directories stay and the file is not changed. -/
theorem Stores.of_kept
    {files others : FileSystem}
    {path contents : String}
    (stores : files.Stores path contents)
    (directories : ∀ location, files.lookup? location = some .directory ->
      others.lookup? location = some .directory)
    (same : others.lookup? (location path) = files.lookup? (location path)) :
    others.Stores path contents := by
  obtain ⟨parts, last, parent, split_eq, walked, short⟩ := stores.reached
  exact ⟨stores.checked,
    ⟨parts, last, parent, split_eq, walk_of_directories directories walked, short⟩,
    same.trans stores.found⟩

theorem Stores.of_extends
    {files others : FileSystem}
    {path contents : String}
    (stores : files.Stores path contents)
    (extended : others.Extends files) :
    others.Stores path contents :=
  stores.of_kept (fun _ => extended _ _)
    ((extended _ _ stores.found).trans stores.found.symm)

theorem isEmpty_of_checkPath
    {path : String}
    (checked : checkPath path = .ok ()) :
    path.isEmpty = false := by
  rw [checkPath] at checked
  split at checked
  case isTrue => exact nomatch checked
  case isFalse =>
    split at checked
    case isTrue => exact nomatch checked
    case isFalse notEmpty => exact Bool.eq_false_iff.mpr notEmpty

/-- The last part of a path that does not end in a slash. -/
theorem parentAndLast_eq
    {path : String}
    (notEmpty : path.isEmpty = false)
    (noSlash : Path.endsInSlash path = false) :
    Text.split '/' path = (parentAndLast path).1 ++ [(parentAndLast path).2] := by
  obtain ⟨parts, last, split_eq, _, shape⟩ := Text.exists_last_part '/' path.toList
  have last_ne : last ≠ [] := by
    rintro rfl
    rcases shape with ⟨_, empty⟩ | ⟨before, path_eq, _⟩
    · rw [String.toList_eq_nil_iff] at empty
      rw [empty] at notEmpty
      exact absurd notEmpty (by decide)
    · rw [Path.endsInSlash, path_eq] at noSlash
      simp at noSlash
  have named : (String.ofList last == "") = false := by
    rw [beq_eq_false_iff_ne]
    intro empty
    exact last_ne (by rw [← String.toList_ofList (l := last), empty]; rfl)
  rw [parentAndLast, Text.split, split_eq]
  simp [named]

/-- A file is written by putting it at the location of its path, where no directory
is. -/
theorem writeFile_spec
    {files written : FileSystem}
    {path contents : String}
    (written_eq : files.writeFile path contents = .ok written) :
    files.lookup? (location path) ≠ some .directory ∧
      written = files.put (location path) (.file contents) ∧
      written.Stores path contents := by
  rw [writeFile] at written_eq
  obtain ⟨parent, parent_eq, written_eq⟩ := Result.bind_eq_ok.mp written_eq
  rw [findParent] at parent_eq
  obtain ⟨_, checked, parent_eq⟩ := Result.bind_eq_ok.mp parent_eq
  obtain ⟨⟨found, entry⟩, walked, parent_eq⟩ := Result.bind_eq_ok.mp parent_eq
  cases entry with
  | file other => exact nomatch parent_eq
  | directory =>
    obtain rfl : found = parent := Except.ok.inj parent_eq
    dsimp only at written_eq
    split at written_eq
    case isTrue => exact nomatch written_eq
    case isFalse named =>
      split at written_eq
      case isTrue => exact nomatch written_eq
      case isFalse short =>
        simp only [Bool.or_eq_true, not_or, Bool.not_eq_true] at named
        obtain ⟨⟨⟨notIdle, notDot⟩, notDots⟩, noSlash⟩ := named
        have split_eq := parentAndLast_eq (isEmpty_of_checkPath checked) noSlash
        have location_eq : location path = found ++ [(parentAndLast path).2] := by
          rw [location_eq split_eq walked, step]
          simp [notIdle, notDot, notDots]
        split at written_eq
        case h_1 => exact nomatch written_eq
        case h_2 free =>
          rw [← location_eq] at free written_eq
          obtain rfl := Except.ok.inj written_eq
          refine ⟨free, rfl, checked, ?_, by rw [lookup?_put, if_pos rfl]⟩
          refine ⟨_, _, found, split_eq, walk_of_directories ?_ walked,
            Nat.le_of_not_lt short⟩
          intro other isDirectory
          rw [lookup?_put, if_neg]
          · exact isDirectory
          · rintro rfl
            exact free isDirectory

/-- What is stored survives a write to another location. -/
theorem Stores.of_writeFile
    {files written : FileSystem}
    {path contents other otherContents : String}
    (stores : files.Stores path contents)
    (written_eq : files.writeFile other otherContents = .ok written)
    (apart : location other ≠ location path) :
    written.Stores path contents := by
  obtain ⟨free, rfl, _⟩ := writeFile_spec written_eq
  refine stores.of_kept (fun place isDirectory => ?_) ?_
  · rw [lookup?_put, if_neg]
    · exact isDirectory
    · rintro rfl
      exact free isDirectory
  · rw [lookup?_put, if_neg (Ne.symm apart)]

end FileSystem

/-! ## Series of writes -/

open FileSystem

/-- Whether no path among later writes leads to the location of a path. -/
def UntouchedBy (path : String) (writes : List (String × String)) : Prop :=
  ∀ later ∈ writes, location later.1 ≠ location path

/-- What a series of writes does: it notes its paths, it keeps what stands elsewhere, and
what it writes last to a location is stored there. -/
structure Performs
    (before after : OutputState)
    (writes : List (String × String)) : Prop where
  written : after.written = before.written ++ writes.map Prod.fst
  kept : ∀ {path contents}, before.files.Stores path contents ->
    UntouchedBy path writes -> after.files.Stores path contents
  stored : ∀ {earlier path contents later},
    writes = earlier ++ (path, contents) :: later -> UntouchedBy path later ->
    after.files.Stores path contents

namespace Performs

theorem refl (state : OutputState) : Performs state state [] :=
  ⟨by simp, fun stores _ => stores, fun split => absurd split (by simp)⟩

theorem trans
    {first second third : OutputState}
    {earlier later : List (String × String)}
    (before : Performs first second earlier)
    (after : Performs second third later) :
    Performs first third (earlier ++ later) := by
  constructor
  case written => rw [after.written, before.written, List.map_append, List.append_assoc]
  case kept =>
    intro path contents stores untouched
    exact after.kept
      (before.kept stores fun write member => untouched write (List.mem_append_left _ member))
      fun write member => untouched write (List.mem_append_right _ member)
  case stored =>
    intro front path contents back split untouched
    rcases List.append_eq_append_iff.mp split with
      ⟨middle, rfl, later_eq⟩ | ⟨middle, earlier_eq, rest_eq⟩
    · exact after.stored later_eq untouched
    · cases middle with
      | nil =>
        have later_eq : later = [] ++ (path, contents) :: back := rest_eq.symm
        exact after.stored later_eq untouched
      | cons write middle =>
        obtain ⟨rfl, rfl⟩ := List.cons.inj rest_eq
        exact after.kept
          (before.stored earlier_eq fun write member =>
            untouched write (List.mem_append_left _ member))
          fun write member => untouched write (List.mem_append_right _ member)

end Performs

namespace OutputM

/-- What an action gives, and the state that it leaves. -/
def outcome (action : OutputM α) (state : OutputState) :
    Except OutputError α × OutputState :=
  (action.run.run state).result

/-- A sequence succeeds if both of its parts do. -/
theorem outcome_bind_eq_ok
    {first : OutputM α}
    {next : α -> OutputM β}
    {value : β}
    {before after : OutputState} :
    (first >>= next).outcome before = (.ok value, after) ↔
      ∃ middle state, first.outcome before = (.ok middle, state) ∧
        (next middle).outcome state = (.ok value, after) := by
  simp only [outcome, ExceptT.run_bind, StateT.run_bind, Report.result_bind]
  obtain ⟨result, state⟩ := (first.run.run before).result
  cases result with
  | error failure => simp
  | ok middle => simp

theorem outcome_change_eq_ok
    {path : String}
    {operation : FileSystem -> Except FileError FileSystem}
    {before after : OutputState} :
    (change path operation).outcome before = (.ok (), after) ↔
      ∃ files, operation before.files = .ok files ∧
        after = { before with files := files } := by
  rw [change, outcome_bind_eq_ok]
  constructor
  · rintro ⟨state, _, got, changed⟩
    obtain ⟨state_eq, rfl⟩ := Prod.mk.inj got
    obtain rfl := Except.ok.inj state_eq
    split at changed
    case h_1 => exact absurd (congrArg Prod.fst changed) nofun
    case h_2 files files_eq => exact ⟨files, files_eq, (congrArg Prod.snd changed).symm⟩
  · rintro ⟨files, files_eq, rfl⟩
    refine ⟨before, before, rfl, ?_⟩
    rw [files_eq]
    rfl

theorem performs_makeDirectories
    {path : String}
    {before after : OutputState}
    (made : (makeDirectories path).outcome before = (.ok (), after)) :
    Performs before after [] := by
  obtain ⟨files, files_eq, rfl⟩ := outcome_change_eq_ok.mp made
  have extended := extends_makeDirectories files_eq
  exact ⟨by simp, fun stores _ => stores.of_extends extended,
    fun split => absurd split (by simp)⟩

theorem performs_writeFile
    {path contents : String}
    {before after : OutputState}
    (written : (writeFile path contents).outcome before = (.ok (), after)) :
    Performs before after [(path, contents)] := by
  obtain ⟨_, state, changed, noted⟩ := outcome_bind_eq_ok.mp written
  obtain ⟨files, files_eq, rfl⟩ := outcome_change_eq_ok.mp changed
  obtain rfl : (⟨files, before.written ++ [path]⟩ : OutputState) = after :=
    congrArg Prod.snd noted
  constructor
  case written => rfl
  case kept =>
    intro other otherContents stores untouched
    exact stores.of_writeFile files_eq
      (untouched (path, contents) (List.mem_singleton_self _))
  case stored =>
    intro earlier other otherContents later split _
    have member : (other, otherContents) ∈ [(path, contents)] := by
      rw [split]
      simp
    obtain ⟨rfl, rfl⟩ := Prod.mk.inj (List.mem_singleton.mp member)
    exact (writeFile_spec files_eq).2.2

theorem performs_forM
    {items : List α}
    {action : α -> OutputM Unit}
    {writesOf : α -> List (String × String)}
    (performs : ∀ item ∈ items, ∀ {before after : OutputState},
      (action item).outcome before = (.ok (), after) ->
        Performs before after (writesOf item))
    {before after : OutputState}
    (done : (items.forM action).outcome before = (.ok (), after)) :
    Performs before after (items.flatMap writesOf) := by
  induction items generalizing before with
  | nil =>
    obtain rfl : before = after := congrArg Prod.snd done
    exact .refl before
  | cons first rest inductionHypothesis =>
    obtain ⟨_, state, first_eq, rest_eq⟩ := outcome_bind_eq_ok.mp done
    rw [List.flatMap_cons]
    exact (performs first (List.mem_cons_self ..) first_eq).trans
      (inductionHypothesis (fun item member => performs item (List.mem_cons_of_mem _ member))
        rest_eq)

end OutputM

/-- Everything that is written of a federate. -/
def FederateArtifacts.writes
    (generated : FederateArtifacts)
    (outputDirectory : String) : List (String × String) :=
  generated.outputFiles (generated.directory outputDirectory)

/-- Everything that is written of a compilation. -/
def CompileResult.writes
    (result : CompileResult)
    (outputDirectory : String) : List (String × String) :=
  result.generated.flatMap fun generated => generated.writes outputDirectory

open OutputM

theorem FederateArtifacts.performs_writeTo
    {generated : FederateArtifacts}
    {outputDirectory : String}
    {before after : OutputState}
    (done : (generated.writeTo outputDirectory).outcome before = (.ok (), after)) :
    Performs before after (generated.writes outputDirectory) := by
  obtain ⟨_, made, made_eq, done⟩ := outcome_bind_eq_ok.mp done
  obtain ⟨_, written, written_eq, logged⟩ := outcome_bind_eq_ok.mp done
  obtain rfl : written = after := congrArg Prod.snd logged
  have performs := performs_forM (fun file _ => performs_writeFile) written_eq
  rw [show generated.writes outputDirectory =
    (generated.outputFiles (generated.directory outputDirectory)).flatMap
      fun file => [(file.1, file.2)] by simp [writes]]
  exact (performs_makeDirectories made_eq).trans performs

/-- A compilation whose output succeeds performs its writes. -/
theorem CompileResult.performs_writeTo
    {result : CompileResult}
    {outputDirectory : String}
    {before after : OutputState}
    (done : (result.writeTo outputDirectory).outcome before = (.ok (), after)) :
    Performs before after (result.writes outputDirectory) :=
  performs_forM (fun _ _ => FederateArtifacts.performs_writeTo) done

end ReactorGen
