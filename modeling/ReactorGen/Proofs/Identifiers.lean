import Mathlib.Data.List.Nodup
import ReactorGen.Proofs.TextCuts
import ReactorGen.Target

/-!
# Identifiers of a target

A name becomes an identifier by an underscore behind it if it is reserved.  No target
reserves a word that ends in an underscore, so an identifier is never reserved, and the
only names with the same identifier are a reserved word and this word with an underscore.
-/

namespace ReactorGen
namespace Target

open Text

variable {target : Target} {first second : String}

theorem isReserved_iff_mem {word : String} :
    target.isReserved word = true ↔ word ∈ target.reservedWords :=
  List.contains_iff_mem

theorem not_endsIn_underscore_of_isReserved
    {word : String}
    (reserved : target.isReserved word = true) :
    ¬EndsIn '_' word := by
  have free : ∀ word ∈ target.reservedWords, ¬EndsIn '_' word := by
    cases target <;> decide +kernel
  exact free word (isReserved_iff_mem.mp reserved)

theorem endsIn_append_underscore (name : String) : EndsIn '_' (name ++ "_") :=
  EndsIn.append (by decide) name

theorem isReserved_append_underscore (target : Target) (name : String) :
    target.isReserved (name ++ "_") = false := by
  rw [Bool.eq_false_iff]
  intro reserved
  exact not_endsIn_underscore_of_isReserved reserved (endsIn_append_underscore name)

theorem sanitize_of_isReserved
    {name : String}
    (reserved : target.isReserved name = true) :
    target.sanitize name = name ++ "_" :=
  if_pos reserved

theorem sanitize_of_not_isReserved
    {name : String}
    (free : target.isReserved name = false) :
    target.sanitize name = name := by
  rw [sanitize, free, if_neg Bool.false_ne_true]

/-- No identifier is reserved. -/
@[simp] theorem isReserved_sanitize (target : Target) (name : String) :
    target.isReserved (target.sanitize name) = false := by
  cases reserved : target.isReserved name with
  | true => rw [sanitize_of_isReserved reserved, isReserved_append_underscore]
  | false => rw [sanitize_of_not_isReserved reserved, reserved]

/-- A word that does not end in an underscore is the identifier of itself only. -/
theorem sanitize_eq_iff_of_not_endsIn
    {name word : String}
    (free : target.isReserved word = false)
    (letter : ¬EndsIn '_' word) :
    target.sanitize name = word ↔ name = word := by
  constructor
  · intro identifier
    cases reserved : target.isReserved name with
    | true =>
      rw [sanitize_of_isReserved reserved] at identifier
      exact absurd (identifier ▸ endsIn_append_underscore name) letter
    | false => rwa [sanitize_of_not_isReserved reserved] at identifier
  · rintro rfl
    exact sanitize_of_not_isReserved free

/-- Different names have the same identifier exactly if one of them is a reserved word
and the other is this word with an underscore. -/
theorem sanitize_eq_sanitize_iff :
    target.sanitize first = target.sanitize second ↔
      first = second ∨
      target.isReserved first = true ∧ second = first ++ "_" ∨
      target.isReserved second = true ∧ first = second ++ "_" := by
  constructor
  · intro equal
    cases firstReserved : target.isReserved first with
    | true =>
      rw [sanitize_of_isReserved firstReserved] at equal
      cases secondReserved : target.isReserved second with
      | true =>
        rw [sanitize_of_isReserved secondReserved] at equal
        exact .inl ((String.append_left_inj "_").mp equal)
      | false =>
        rw [sanitize_of_not_isReserved secondReserved] at equal
        exact .inr (.inl ⟨rfl, equal.symm⟩)
    | false =>
      rw [sanitize_of_not_isReserved firstReserved] at equal
      cases secondReserved : target.isReserved second with
      | true =>
        rw [sanitize_of_isReserved secondReserved] at equal
        exact .inr (.inr ⟨rfl, equal⟩)
      | false =>
        rw [sanitize_of_not_isReserved secondReserved] at equal
        exact .inl equal
  · rintro (rfl | ⟨reserved, rfl⟩ | ⟨reserved, rfl⟩)
    · rfl
    · rw [sanitize_of_isReserved reserved,
        sanitize_of_not_isReserved (isReserved_append_underscore target first)]
    · rw [sanitize_of_isReserved reserved,
        sanitize_of_not_isReserved (isReserved_append_underscore target second)]

/-- Names keep apart as identifiers exactly if they are different and no reserved word
stands beside this word with an underscore. -/
theorem nodup_map_sanitize_iff {names : List String} :
    (names.map target.sanitize).Nodup ↔
      names.Nodup ∧
      ∀ name ∈ names, target.isReserved name = true -> name ++ "_" ∉ names := by
  constructor
  · intro distinct
    have once := distinct.of_map
    refine ⟨once, ?_⟩
    intro name member reserved beside
    have same : name = name ++ "_" :=
      (List.nodup_map_iff_inj_on once).mp distinct name member (name ++ "_") beside
        (sanitize_eq_sanitize_iff.mpr (.inr (.inl ⟨reserved, rfl⟩)))
    rw [same, isReserved_append_underscore] at reserved
    exact Bool.false_ne_true reserved
  · rintro ⟨once, apart⟩
    rw [List.nodup_map_iff_inj_on once]
    intro first firstMember second secondMember equal
    rcases sanitize_eq_sanitize_iff.mp equal with
      same | ⟨reserved, rfl⟩ | ⟨reserved, rfl⟩
    · exact same
    · exact absurd secondMember (apart first firstMember reserved)
    · exact absurd firstMember (apart second secondMember reserved)

end Target
end ReactorGen
