import Mathlib.Data.List.Chain
import ReactorGen.Package.Build
import ReactorGen.Proofs.LiteralParts

/-!
# Literals of scripts

The interpreter reads a literal between double quotes up to the first quote that is not
part of an escape.  An escape is a backslash with what stands behind it; most of them stand
for one character.  A backslash in front of a character that begins no escape stands for
itself.  So a text that is put between quotes as it is may be read as another text, and
where it is followed by further literals, these may be read differently, too.  That does
not happen exactly if no text holds a quote, the end of a line, or an escape, and none ends
with a backslash.
-/

namespace ReactorGen
namespace Script

/-! ## Escapes -/

/-- What an escape stands for. -/
structure Escape where
  value : List Char
  /-- How many characters behind the backslash belong to the escape. -/
  used : Nat
deriving DecidableEq

/-- The characters that are an escape behind a backslash. -/
def escapeLetters : List (Char × Char) := [
  ('\\', '\\'), ('\x27', '\x27'), ('"', '"'), ('a', '\x07'), ('b', '\x08'), ('f', '\x0c'),
  ('n', '\n'), ('r', '\r'), ('t', '\t'), ('v', '\x0b')
]

/-- The characters that make hexadecimal digits an escape, and how many of them. -/
def hexLengths : List (Char × Nat) := [('x', 2), ('u', 4), ('U', 8)]

def isLineEnd (char : Char) : Bool :=
  char = '\n' || char = '\r'

def isOctalDigit (char : Char) : Bool :=
  (Text.digitValue? 8 char).isSome

/-- Whether names of characters may hold the character. -/
def isNameChar (char : Char) : Bool :=
  char.isAlphanum || char = ' ' || char = '-'

/-- Up to three octal digits stand for a character. -/
def octalEscape (digit : Char) (rest : List Char) : Escape :=
  let digits := digit :: (rest.take 2).takeWhile isOctalDigit
  ⟨[Char.ofNat ((Text.number? 8 digits).getD 0)], digits.length⟩

/-- A fixed number of hexadecimal digits stands for a character if there is one. -/
def hexEscape? (count : Nat) (rest : List Char) : Option Escape :=
  let digits := rest.take count
  match Text.number? 16 digits with
  | none => none
  | some code =>
    if digits.length = count ∧ code.isValidChar then
      some ⟨[Char.ofNat code], digits.length + 1⟩
    else none

/-- A name between braces stands for a character if there is one of that name. -/
def nameEscape? (named : List Char -> Option Char) : List Char -> Option Escape
  | [] => none
  | opening :: rest =>
    let name := rest.takeWhile isNameChar
    if opening = '\x7b' ∧ (rest.dropWhile isNameChar).head? = some '\x7d' then
      (named name).map fun char => ⟨[char], name.length + 3⟩
    else none

/-- The end of a line stands for nothing. -/
def lineEscape (char : Char) (rest : List Char) : Escape :=
  ⟨[], if char = '\r' ∧ rest.head? = some '\n' then 2 else 1⟩

/-- What a backslash in front of the characters stands for.  An escape that is begun but
not finished makes the script unreadable; so does a backslash at its end. -/
def escape? (named : List Char -> Option Char) : List Char -> Option Escape
  | [] => none
  | char :: rest =>
    match escapeLetters.lookup char, hexLengths.lookup char with
    | some value, _ => some ⟨[value], 1⟩
    | none, some count => hexEscape? count rest
    | none, none =>
      if isOctalDigit char then some (octalEscape char rest)
      else if isLineEnd char then some (lineEscape char rest)
      else if char = 'N' then nameEscape? named rest
      else some ⟨['\\'], 0⟩

/-- Whether a backslash in front of the character begins an escape. -/
def beginsEscape (char : Char) : Bool :=
  (escapeLetters.lookup char).isSome || (hexLengths.lookup char).isSome ||
    isOctalDigit char || isLineEnd char || char = 'N'

/-! ## Reading -/

/-- Whether a character can neither stand in a literal nor be escaped there. -/
def isUnreadable (char : Char) : Bool :=
  isLineEnd char || char = '\x00'

/-- Where a reader of literals is. -/
inductive Place
  | outside
  /-- Inside a literal, where so many characters have been read as part of an escape. -/
  | inside (skipped : Nat)

/-- Put characters in front of the first value. -/
def prepend (chars : List Char) : List (List Char) -> List (List Char)
  | [] => []
  | value :: values => (chars ++ value) :: values

/-- The values of the literals, of which the first is what is left of the current one inside
a literal.  Literals between three quotes are not read. -/
def literalsFrom (named : List Char -> Option Char) :
    Place -> List Char -> Option (List (List Char))
  | .outside, [] => some []
  | .outside, char :: rest =>
    if char ≠ '"' then literalsFrom named .outside rest
    else if ['"', '"'].isPrefixOf rest then none
    else literalsFrom named (.inside 0) rest
  | .inside _, [] => none
  | .inside (skipped + 1), _ :: rest => literalsFrom named (.inside skipped) rest
  | .inside 0, char :: rest =>
    if char = '"' then (literalsFrom named .outside rest).map ([] :: ·)
    else if char = '\\' then
      (escape? named rest).bind fun escape =>
        (literalsFrom named (.inside escape.used) rest).map (prepend escape.value)
    else if isUnreadable char then none
    else (literalsFrom named (.inside 0) rest).map (prepend [char])

/-- The values of the literals of a script between double quotes, in their order; `named`
tells which characters have names. -/
def literals? (named : List Char -> Option Char) (script : String) : Option (List String) :=
  (literalsFrom named .outside script.toList).map (·.map String.ofList)

/-! ## Texts that are read as they are written -/

/-- Whether a character stands for itself in a literal, wherever it stands. -/
def isOrdinary (char : Char) : Bool :=
  char ≠ '"' && char ≠ '\\' && !isUnreadable char

/-- Characters that can be put between quotes as they are. -/
structure Verbatim (chars : List Char) : Prop where
  readable : ∀ char ∈ chars, char ≠ '"' ∧ isUnreadable char = false
  /-- No backslash stands in front of the beginning of an escape, such as the quote that
  ends the literal. -/
  escapeFree : (chars ++ ['"']).IsChain fun first second =>
    first = '\\' -> beginsEscape second = false

instance (chars : List Char) : Decidable (Verbatim chars) :=
  decidable_of_iff
    (chars.all (fun char => char ≠ '"' ∧ isUnreadable char = false) = true ∧
      (chars ++ ['"']).IsChain fun first second =>
        first = '\\' -> beginsEscape second = false)
    ⟨fun ⟨readable, escapeFree⟩ => ⟨by simpa using readable, escapeFree⟩,
      fun verbatim => ⟨by simpa using verbatim.readable, verbatim.escapeFree⟩⟩

example :
    literals? (fun _ => none) "a = [\"b\\\"\", \"\\x63\\144\"]" = some ["b\"", "cd"] ∧
      literals? (fun _ => none) "\"\\U00110000\"" = none := by
  decide

/-! ## What an escape takes -/

/-- An escape that begins with a character takes this and what else belongs to it, which has
no quote in it. -/
structure Escape.Takes (escape : Escape) (char : Char) (rest : List Char) : Prop where
  begins : beginsEscape char = true
  short : escape.value.length ≤ 1
  taken : ∃ others after, rest = others ++ after ∧ escape.used = others.length + 1 ∧
    '"' ∉ others
  quote : char = '"' -> escape = ⟨['"'], 1⟩

theorem quote_not_mem_of_number?
    {digits : List Char}
    {number : Nat}
    (read : Text.number? 16 digits = some number) :
    '"' ∉ digits := by
  intro member
  obtain ⟨value, digit⟩ :=
    ((Text.number?_eq_some_iff (Nat.le_refl 16)).mp read).2.isDigit member
  exact absurd (Text.digitValue?_sixteen_eq_some_iff.mpr digit)
    (by rw [show Text.digitValue? 16 '"' = none from by decide]; exact nofun)

theorem octalEscape_takes
    {digit : Char}
    (isOctal : isOctalDigit digit = true)
    (rest : List Char) :
    (octalEscape digit rest).Takes digit rest := by
  let others := (rest.take 2).takeWhile isOctalDigit
  have front : others <+: rest :=
    (List.takeWhile_prefix isOctalDigit).trans (List.take_prefix 2 rest)
  obtain ⟨after, split⟩ := front
  constructor
  case begins => simp [beginsEscape, isOctal]
  case short => exact Nat.le_refl 1
  case taken =>
    refine ⟨others, after, split.symm, rfl, fun member => ?_⟩
    have isOctalQuote := List.all_eq_true.mp List.all_takeWhile _ member
    exact absurd isOctalQuote (by decide)
  case quote =>
    rintro rfl
    exact absurd isOctal (by decide)

theorem hexEscape?_takes
    {char : Char}
    (begins : beginsEscape char = true)
    (notQuote : char ≠ '"')
    {count : Nat}
    {rest : List Char}
    {escape : Escape}
    (found : hexEscape? count rest = some escape) :
    escape.Takes char rest := by
  rw [hexEscape?] at found
  split at found
  case h_1 => exact nomatch found
  case h_2 number read =>
    split at found
    case isFalse => exact nomatch found
    case isTrue =>
      obtain rfl := Option.some.inj found
      exact ⟨begins, Nat.le_refl 1,
        ⟨rest.take count, rest.drop count, (List.take_append_drop count rest).symm, rfl,
          quote_not_mem_of_number? read⟩,
        fun quote => absurd quote notQuote⟩

theorem nameEscape?_takes
    {named : List Char -> Option Char}
    {char : Char}
    (begins : beginsEscape char = true)
    (notQuote : char ≠ '"')
    {rest : List Char}
    {escape : Escape}
    (found : nameEscape? named rest = some escape) :
    escape.Takes char rest := by
  cases rest with
  | nil => exact nomatch found
  | cons opening rest =>
    rw [nameEscape?] at found
    split at found
    case isFalse => exact nomatch found
    case isTrue closed =>
      obtain ⟨rfl, closing⟩ := closed
      obtain ⟨value, _, rfl⟩ := Option.map_eq_some_iff.mp found
      obtain ⟨after, after_eq⟩ := List.head?_eq_some_iff.mp closing
      let name := rest.takeWhile isNameChar
      have split : rest = name ++ '\x7d' :: after := by
        rw [← after_eq]
        exact List.takeWhile_append_dropWhile.symm
      have quoteFree : '"' ∉ name := fun member =>
        absurd (List.all_eq_true.mp List.all_takeWhile _ member) (by decide)
      refine ⟨begins, Nat.le_refl 1, ⟨'\x7b' :: name ++ ['\x7d'], after, ?_, ?_, ?_⟩,
        fun quote => absurd quote notQuote⟩
      · rw [split, List.append_assoc, List.singleton_append, List.cons_append]
      · simp [name]
      · simp [quoteFree]

theorem lineEscape_takes
    {char : Char}
    (lineEnd : isLineEnd char = true)
    (notQuote : char ≠ '"')
    (rest : List Char) :
    (lineEscape char rest).Takes char rest := by
  refine ⟨by simp [beginsEscape, lineEnd], Nat.zero_le 1, ?_,
    fun quote => absurd quote notQuote⟩
  by_cases both : char = '\r' ∧ rest.head? = some '\n'
  · obtain ⟨after, rfl⟩ := List.head?_eq_some_iff.mp both.2
    refine ⟨['\n'], after, rfl, ?_, by decide⟩
    rw [lineEscape, if_pos both]
    rfl
  · refine ⟨[], rest, rfl, ?_, List.not_mem_nil⟩
    rw [lineEscape, if_neg both]
    rfl

/-- A quote is always an escape behind a backslash. -/
theorem ne_quote_of_lookup_eq_none
    {char : Char}
    (noLetter : escapeLetters.lookup char = none) :
    char ≠ '"' := by
  rintro rfl
  exact nomatch noLetter.symm.trans (show escapeLetters.lookup '"' = some '"' by decide)

/-- A backslash stands for itself, or an escape is taken. -/
theorem escape?_cases
    {named : List Char -> Option Char}
    {char : Char}
    {rest : List Char}
    {escape : Escape}
    (found : escape? named (char :: rest) = some escape) :
    (beginsEscape char = false ∧ escape = ⟨['\\'], 0⟩) ∨ escape.Takes char rest := by
  rw [escape?] at found
  split at found
  case h_1 value letter =>
    obtain rfl := Option.some.inj found
    refine .inr ⟨by simp [beginsEscape, letter], Nat.le_refl 1,
      ⟨[], rest, rfl, rfl, List.not_mem_nil⟩, ?_⟩
    rintro rfl
    obtain rfl : value = '"' := Option.some.inj (letter.symm.trans (by decide))
    rfl
  case h_2 count noLetter hex =>
    exact .inr (hexEscape?_takes (by simp [beginsEscape, hex])
      (ne_quote_of_lookup_eq_none noLetter) found)
  case h_3 noLetter noHex =>
    have notQuote := ne_quote_of_lookup_eq_none noLetter
    by_cases isOctal : isOctalDigit char = true
    · rw [if_pos isOctal] at found
      obtain rfl := Option.some.inj found
      exact .inr (octalEscape_takes isOctal rest)
    rw [if_neg isOctal] at found
    by_cases lineEnd : isLineEnd char = true
    · rw [if_pos lineEnd] at found
      obtain rfl := Option.some.inj found
      exact .inr (lineEscape_takes lineEnd notQuote rest)
    rw [if_neg lineEnd] at found
    by_cases isName : char = 'N'
    · rw [if_pos isName] at found
      exact .inr (nameEscape?_takes (by simp [beginsEscape, isName]) notQuote found)
    rw [if_neg isName] at found
    obtain rfl := Option.some.inj found
    exact .inl ⟨by simp [beginsEscape, noLetter, noHex, isOctal, lineEnd, isName], rfl⟩

/-- Where no escape begins, a backslash stands for itself. -/
theorem escape?_of_not_begins
    (named : List Char -> Option Char)
    {char : Char}
    (notBegins : beginsEscape char = false)
    (rest : List Char) :
    escape? named (char :: rest) = some ⟨['\\'], 0⟩ := by
  simp only [beginsEscape, Bool.or_eq_false_iff, Option.isSome_eq_false_iff,
    Option.isNone_iff_eq_none, decide_eq_false_iff_not] at notBegins
  obtain ⟨⟨⟨⟨noLetter, noHex⟩, noOctal⟩, noLineEnd⟩, noName⟩ := notBegins
  rw [escape?, noLetter, noHex]
  simp only [noOctal, noLineEnd, noName, Bool.false_eq_true, if_false]

/-! ## Reading one literal -/

variable {named : List Char -> Option Char}

theorem map_prepend_eq_some
    {result : Option (List (List Char))}
    {chars value : List Char}
    {values : List (List Char)} :
    result.map (prepend chars) = some (value :: values) ↔
      ∃ left, result = some (left :: values) ∧ value = chars ++ left := by
  rw [Option.map_eq_some_iff]
  constructor
  · rintro ⟨_ | ⟨left, others⟩, rfl, prepended⟩
    · exact nomatch prepended
    · obtain ⟨rfl, rfl⟩ := List.cons.inj prepended
      exact ⟨left, rfl, rfl⟩
  · rintro ⟨left, rfl, rfl⟩
    exact ⟨_, rfl, rfl⟩

theorem map_nil_cons_eq_some
    {result : Option (List (List Char))}
    {value : List Char}
    {values : List (List Char)} :
    result.map ([] :: ·) = some (value :: values) ↔ result = some values ∧ value = [] := by
  rw [Option.map_eq_some_iff]
  constructor
  · rintro ⟨others, rfl, same⟩
    obtain ⟨rfl, rfl⟩ := List.cons.inj same
    exact ⟨rfl, rfl⟩
  · rintro ⟨rfl, rfl⟩
    exact ⟨_, rfl, rfl⟩

theorem literalsFrom_quote (rest : List Char) :
    literalsFrom named (.inside 0) ('"' :: rest) =
      (literalsFrom named .outside rest).map ([] :: ·) := rfl

theorem literalsFrom_backslash (rest : List Char) :
    literalsFrom named (.inside 0) ('\\' :: rest) =
      (escape? named rest).bind fun escape =>
        (literalsFrom named (.inside escape.used) rest).map (prepend escape.value) := rfl

theorem literalsFrom_unreadable
    {char : Char}
    (unreadable : isUnreadable char = true)
    (rest : List Char) :
    literalsFrom named (.inside 0) (char :: rest) = none := by
  have notQuote : char ≠ '"' := by
    rintro rfl
    exact absurd unreadable (by decide)
  have notBackslash : char ≠ '\\' := by
    rintro rfl
    exact absurd unreadable (by decide)
  rw [literalsFrom, if_neg notQuote, if_neg notBackslash, if_pos unreadable]

theorem literalsFrom_ordinary
    {char : Char}
    (ordinary : isOrdinary char = true)
    (rest : List Char) :
    literalsFrom named (.inside 0) (char :: rest) =
      (literalsFrom named (.inside 0) rest).map (prepend [char]) := by
  simp only [isOrdinary, Bool.and_eq_true, decide_eq_true_eq, Bool.not_eq_true'] at ordinary
  obtain ⟨⟨notQuote, notBackslash⟩, readable⟩ := ordinary
  rw [literalsFrom, if_neg notQuote, if_neg notBackslash, readable,
    if_neg Bool.false_ne_true]

/-- A character in a literal ends it, begins an escape, makes it unreadable or stands for
itself. -/
theorem isOrdinary_cases (char : Char) :
    char = '"' ∨ char = '\\' ∨ isUnreadable char = true ∨ isOrdinary char = true := by
  by_cases quote : char = '"'
  · exact .inl quote
  by_cases backslash : char = '\\'
  · exact .inr (.inl backslash)
  cases readable : isUnreadable char with
  | true => exact .inr (.inr (.inl rfl))
  | false => exact .inr (.inr (.inr (by simp [isOrdinary, quote, backslash, readable])))

theorem verbatim_nil : Verbatim [] := by
  decide

theorem verbatim_cons {char : Char} {rest : List Char} :
    Verbatim (char :: rest) ↔
      (char ≠ '"' ∧ isUnreadable char = false) ∧
        (char = '\\' -> ∀ first ∈ (rest ++ ['"']).head?, beginsEscape first = false) ∧
        Verbatim rest := by
  constructor
  · rintro ⟨readable, escapeFree⟩
    rw [List.forall_mem_cons] at readable
    rw [List.cons_append, List.isChain_cons] at escapeFree
    exact ⟨readable.1, fun backslash first isFirst => escapeFree.1 first isFirst backslash,
      readable.2, escapeFree.2⟩
  · rintro ⟨charReadable, notBegins, readable, escapeFree⟩
    refine ⟨List.forall_mem_cons.mpr ⟨charReadable, readable⟩, ?_⟩
    rw [List.cons_append, List.isChain_cons]
    exact ⟨fun first isFirst backslash => notBegins backslash first isFirst, escapeFree⟩

/-- Characters of which the last is not a backslash. -/
def EndsElsewhere (chars : List Char) : Prop :=
  ∃ last ∈ chars.getLast?, last ≠ '\\'

/-- What stands behind a text in a script.  If it is read as part of a literal, then this
does not end with a backslash. -/
def Guards (named : List Char -> Option Char) (after : List Char) : Prop :=
  ∀ {value : List Char} {values : List (List Char)},
    literalsFrom named (.inside 0) after = some (value :: values) -> EndsElsewhere value

theorem Escape.Takes.used_pos
    {escape : Escape}
    {char : Char}
    {rest : List Char}
    (takes : escape.Takes char rest) :
    0 < escape.used := by
  obtain ⟨others, _, _, used, _⟩ := takes.taken
  rw [used]
  exact Nat.succ_pos _

/-- An escape that begins inside a text ends there, too, unless it is the quote behind it. -/
theorem Escape.Takes.used_le
    {escape : Escape}
    {first : Char}
    {others after : List Char}
    (takes : escape.Takes first (others ++ '"' :: after)) :
    escape.used ≤ (first :: others).length := by
  obtain ⟨taken, left, split, used, quoteFree⟩ := takes.taken
  rw [used, List.length_cons]
  apply Nat.succ_le_succ
  rcases List.append_eq_append_iff.mp split with ⟨between, taken_eq, left_eq⟩ |
    ⟨between, others_eq, _⟩
  · cases between with
    | nil => rw [taken_eq, List.append_nil]
    | cons quote rest =>
      obtain ⟨rfl, _⟩ := List.cons.inj left_eq
      exact absurd (taken_eq ▸ List.mem_append_right _ (List.mem_cons_self ..)) quoteFree
  · rw [others_eq, List.length_append]
    exact Nat.le_add_right ..

/-- What a backslash in a text stands for when the text is followed by a quote. -/
inductive EscapesIn (text : List Char) (escape : Escape) : Prop
  /-- The backslash ends the text and takes the quote. -/
  | runsOver
    (atEnd : text = [])
    (quote : escape = ⟨['"'], 1⟩)
  /-- The backslash stands for itself. -/
  | itself
    (notBegins : ∀ first ∈ (text ++ ['"']).head?, beginsEscape first = false)
    (backslash : escape = ⟨['\\'], 0⟩)
  /-- An escape takes characters of the text and stands for at most one. -/
  | shortens
    (short : escape.value.length ≤ 1)
    (takes : 0 < escape.used)
    (used : escape.used ≤ text.length)

theorem escapesIn_of_escape?
    {text after : List Char}
    {escape : Escape}
    (found : escape? named (text ++ '"' :: after) = some escape) :
    EscapesIn text escape := by
  cases text with
  | nil =>
    rcases escape?_cases found with ⟨notBegins, _⟩ | takes
    · exact absurd notBegins (by decide)
    · exact .runsOver rfl (takes.quote rfl)
  | cons first others =>
    rcases escape?_cases found with ⟨notBegins, rfl⟩ | takes
    · refine .itself ?_ rfl
      rintro _ ⟨⟩
      exact notBegins
    · exact .shortens takes.short takes.used_pos takes.used_le

variable
  {text after value : List Char}
  {values : List (List Char)}

theorem EndsElsewhere.append
    (ends : EndsElsewhere value)
    (before : List Char) :
    EndsElsewhere (before ++ value) := by
  obtain ⟨last, isLast, notBackslash⟩ := ends
  refine ⟨last, ?_, notBackslash⟩
  rw [List.getLast?_append, Option.mem_def.mp isLast]
  rfl

/-- The value of a literal is not longer than the text in it, unless a backslash at the end
of the text makes the quote part of the literal. -/
theorem length_le_or_runsOver
    (guards : Guards named after)
    {skipped : Nat}
    (inside : skipped ≤ text.length)
    (read : literalsFrom named (.inside skipped) (text ++ '"' :: after) =
      some (value :: values)) :
    value.length + skipped ≤ text.length ∨
      text.getLast? = some '\\' ∧ EndsElsewhere value := by
  induction text generalizing skipped value with
  | nil =>
    obtain rfl := Nat.le_zero.mp inside
    obtain ⟨_, rfl⟩ := map_nil_cons_eq_some.mp read
    exact .inl (Nat.le_refl 0)
  | cons char rest inductionHypothesis =>
    have further
        {skipped : Nat}
        {left : List Char}
        (inside : skipped ≤ rest.length)
        (read : literalsFrom named (.inside skipped) (rest ++ '"' :: after) =
          some (left :: values)) :
        left.length + skipped ≤ rest.length ∨
          (char :: rest).getLast? = some '\\' ∧ EndsElsewhere left := by
      rcases inductionHypothesis inside read with fits | ⟨backslash, ends⟩
      · exact .inl fits
      · exact .inr ⟨by rw [List.getLast?_cons, backslash]; rfl, ends⟩
    -- At most one character is put in front of what is left.
    have onward
        {skipped : Nat}
        {before left : List Char}
        (short : before.length ≤ 1)
        (inside : skipped ≤ rest.length)
        (read : literalsFrom named (.inside skipped) (rest ++ '"' :: after) =
          some (left :: values)) :
        (before ++ left).length ≤ (char :: rest).length ∨
          (char :: rest).getLast? = some '\\' ∧ EndsElsewhere (before ++ left) := by
      rcases further inside read with fits | ⟨backslash, ends⟩
      · left
        rw [List.length_append, List.length_cons]
        omega
      · exact .inr ⟨backslash, ends.append before⟩
    cases skipped with
    | succ skipped =>
      rcases further (Nat.le_of_succ_le_succ inside) read with fits | runsOver
      · exact .inl (Nat.succ_le_succ fits)
      · exact .inr runsOver
    | zero =>
      rcases isOrdinary_cases char with rfl | rfl | unreadable | ordinary
      · obtain ⟨_, rfl⟩ := map_nil_cons_eq_some.mp read
        exact .inl (Nat.zero_le _)
      · rw [List.cons_append, literalsFrom_backslash, Option.bind_eq_some_iff] at read
        obtain ⟨escape, found, escaped⟩ := read
        rw [map_prepend_eq_some] at escaped
        obtain ⟨left, read, rfl⟩ := escaped
        cases escapesIn_of_escape? found with
        | runsOver atEnd quote =>
          subst atEnd quote
          exact .inr ⟨rfl, (guards read).append _⟩
        | itself _ backslash =>
          subst backslash
          exact onward (Nat.le_refl 1) (Nat.zero_le _) read
        | shortens short _ used => exact onward short used read
      · rw [List.cons_append, literalsFrom_unreadable unreadable] at read
        exact nomatch read
      · rw [List.cons_append, literalsFrom_ordinary ordinary, map_prepend_eq_some] at read
        obtain ⟨left, read, rfl⟩ := read
        exact onward (Nat.le_refl 1) (Nat.zero_le _) read

/-- A text in which an escape takes characters is not the value of its literal. -/
theorem not_reads_of_shortens
    (guards : Guards named after)
    {escape : Escape}
    (short : escape.value.length ≤ 1)
    (takes : 0 < escape.used)
    (used : escape.used ≤ text.length)
    (read : literalsFrom named (.inside escape.used) (text ++ '"' :: after) =
      some (value :: values)) :
    '\\' :: text ≠ escape.value ++ value := by
  intro same
  rcases length_le_or_runsOver guards used read with fits | ⟨backslash, ends⟩
  · have length := congrArg List.length same
    rw [List.length_cons, List.length_append] at length
    omega
  · obtain ⟨last, isLast, notBackslash⟩ := ends.append escape.value
    rw [← same, List.getLast?_cons, backslash] at isLast
    exact notBackslash (Option.some.inj isLast).symm

/-- Only a text that is read as it is written is the value of a literal that it is put
into. -/
theorem literalsFrom_eq_iff (guards : Guards named after) :
    literalsFrom named (.inside 0) (text ++ '"' :: after) = some (text :: values) ↔
      Verbatim text ∧ literalsFrom named .outside after = some values := by
  induction text with
  | nil =>
    rw [List.nil_append, literalsFrom_quote, map_nil_cons_eq_some]
    exact ⟨fun read => ⟨verbatim_nil, read.1⟩, fun read => ⟨read.2, rfl⟩⟩
  | cons char rest inductionHypothesis =>
    rw [verbatim_cons, List.cons_append]
    rcases isOrdinary_cases char with rfl | rfl | unreadable | ordinary
    · refine iff_of_false ?_ fun verbatim => verbatim.1.1.1 rfl
      intro read
      exact nomatch (map_nil_cons_eq_some.mp read).2
    · rw [literalsFrom_backslash, Option.bind_eq_some_iff]
      constructor
      · rintro ⟨escape, found, escaped⟩
        rw [map_prepend_eq_some] at escaped
        obtain ⟨left, read, same⟩ := escaped
        cases escapesIn_of_escape? found with
        | runsOver _ quote =>
          subst quote
          exact absurd (List.cons.inj same).1 (by decide)
        | itself notBegins backslash =>
          subst backslash
          obtain ⟨_, rfl⟩ := List.cons.inj same
          obtain ⟨verbatim, behind⟩ := inductionHypothesis.mp read
          exact ⟨⟨by decide, fun _ => notBegins, verbatim⟩, behind⟩
        | shortens short takes used =>
          exact absurd same (not_reads_of_shortens guards short takes used read)
      · rintro ⟨⟨_, notBegins, verbatim⟩, behind⟩
        refine ⟨⟨['\\'], 0⟩, ?_,
          map_prepend_eq_some.mpr ⟨rest, inductionHypothesis.mpr ⟨verbatim, behind⟩, rfl⟩⟩
        cases rest with
        | nil => exact absurd (notBegins rfl '"' rfl) (by decide)
        | cons first others => exact escape?_of_not_begins named (notBegins rfl first rfl) _
    · rw [literalsFrom_unreadable unreadable]
      refine iff_of_false nofun fun verbatim => ?_
      rw [verbatim.1.1.2] at unreadable
      exact nomatch unreadable
    · rw [literalsFrom_ordinary ordinary, map_prepend_eq_some]
      simp only [isOrdinary, Bool.and_eq_true, decide_eq_true_eq, Bool.not_eq_true']
        at ordinary
      obtain ⟨⟨notQuote, notBackslash⟩, readable⟩ := ordinary
      constructor
      · rintro ⟨left, read, same⟩
        obtain ⟨_, rfl⟩ := List.cons.inj same
        obtain ⟨verbatim, behind⟩ := inductionHypothesis.mp read
        exact ⟨⟨⟨notQuote, readable⟩, fun backslash => absurd backslash notBackslash,
          verbatim⟩, behind⟩
      · rintro ⟨⟨_, _, verbatim⟩, behind⟩
        exact ⟨rest, inductionHypothesis.mpr ⟨verbatim, behind⟩, rfl⟩

/-! ## Ordinary characters around a text -/

theorem isOrdinary_iff {char : Char} :
    isOrdinary char = true ↔
      (char ≠ '"' ∧ isUnreadable char = false) ∧ char ≠ '\\' := by
  simp only [isOrdinary, Bool.and_eq_true, decide_eq_true_eq, Bool.not_eq_true']
  tauto

/-- Ordinary characters can stand in front of any text. -/
theorem verbatim_ordinary_append_iff
    {front text : List Char}
    (ordinary : ∀ char ∈ front, isOrdinary char = true) :
    Verbatim (front ++ text) ↔ Verbatim text := by
  induction front with
  | nil => rfl
  | cons char front inductionHypothesis =>
    rw [List.forall_mem_cons] at ordinary
    obtain ⟨readable, notBackslash⟩ := isOrdinary_iff.mp ordinary.1
    rw [List.cons_append, verbatim_cons, inductionHypothesis ordinary.2]
    exact ⟨fun verbatim => verbatim.2.2,
      fun verbatim => ⟨readable, fun backslash => absurd backslash notBackslash, verbatim⟩⟩

theorem verbatim_of_ordinary
    {text : List Char}
    (ordinary : ∀ char ∈ text, isOrdinary char = true) :
    Verbatim text := by
  rw [← List.append_nil text]
  exact (verbatim_ordinary_append_iff ordinary).mpr verbatim_nil

/-- Ordinary characters can stand behind a text that is read as it is written. -/
theorem Verbatim.append_ordinary
    {text behind : List Char}
    (verbatim : Verbatim text)
    (ordinary : ∀ char ∈ behind, isOrdinary char = true) :
    Verbatim (text ++ behind) := by
  induction text with
  | nil => exact verbatim_of_ordinary ordinary
  | cons char rest inductionHypothesis =>
    obtain ⟨readable, notBegins, verbatimRest⟩ := verbatim_cons.mp verbatim
    refine verbatim_cons.mpr ⟨readable, fun backslash => ?_, inductionHypothesis verbatimRest⟩
    have begun := notBegins backslash
    cases rest with
    | nil => exact absurd (begun '"' rfl) (by decide)
    | cons next rest => exact begun

theorem isOrdinary_of_isDecimalDigit
    {char : Char}
    (decimal : Text.isDecimalDigit char = true) :
    isOrdinary char = true := by
  obtain ⟨value, digit⟩ := Text.isDecimalDigit_iff.mp decimal
  refine Text.IsDigit.holds_of_codes ?_ (digit.of_le (by decide))
  decide +kernel

/-- Numbers are read as they are written. -/
theorem verbatim_toString (number : Nat) : Verbatim (toString number).toList := by
  have digits : (toString number).toList = Nat.toDigits 10 number := String.toList_ofList
  rw [digits]
  exact verbatim_of_ordinary fun char member =>
    isOrdinary_of_isDecimalDigit ((Text.denotes_toDigits number).isDecimalDigit char member)

end Script
end ReactorGen
