import Mathlib.Data.List.Basic
import ReactorGen.Text.Dedent

/-!
# Indentation in bytes

Texts are stored as bytes, and a text can be cut at a byte only where a character starts.
The characters that indent a line take one byte each, and no other character starts with
one of these bytes.  So it does not matter whether indentation is counted in bytes or in
characters, and a line can be cut anywhere inside its indentation.
-/

namespace ReactorGen
namespace Text

/-! ## Counting bytes -/

/-- Whether a byte is a space or a tab. -/
def isIndentByte (byte : UInt8) : Bool :=
  byte = 0x20 || byte = 0x09

/-- How many bytes at the start of a line are spaces or tabs. -/
def indentBytes (line : String) : Nat :=
  (line.toByteArray.data.toList.takeWhile isIndentByte).length

theorem bytes_eq_flatMap (text : String) :
    text.toByteArray.data.toList = text.toList.flatMap String.utf8EncodeChar := by
  rw [← String.utf8Encode_toList, List.utf8Encode, List.toList_data_toByteArray]

theorem isIndentByte_ofNat {code : Nat} (small : code < 0x100) :
    isIndentByte (UInt8.ofNat code) = true ↔ code = 0x20 ∨ code = 0x09 := by
  simp only [isIndentByte, Bool.or_eq_true, decide_eq_true_eq, ← UInt8.toNat_inj,
    UInt8.toNat_ofNat_of_lt' small]
  rfl

theorem isIndent_iff {char : Char} :
    isIndent char = true ↔ char.val.toNat = 0x20 ∨ char.val.toNat = 0x09 := by
  simp only [isIndent, Bool.or_eq_true, decide_eq_true_eq, ← Char.val_inj,
    ← UInt32.toNat_inj]
  rfl

/-- The first byte of a character tells whether the character indents, and then it is the
only one. -/
theorem exists_utf8EncodeChar (char : Char) :
    ∃ byte rest, String.utf8EncodeChar char = byte :: rest ∧
      (isIndentByte byte = true ↔ isIndent char = true) ∧
      (isIndent char = true -> rest = []) := by
  let code := char.val.toNat
  by_cases ascii : code ≤ 0x7F
  · refine ⟨UInt8.ofNat code, [], if_pos ascii, ?_, fun _ => rfl⟩
    rw [isIndentByte_ofNat (Nat.lt_of_le_of_lt ascii (by decide)), isIndent_iff]
  · have notIndent : ¬isIndent char = true := by
      rw [isIndent_iff]
      omega
    -- Characters of several bytes start with a byte in which the two highest bits are set.
    have large : ∃ first rest,
        String.utf8EncodeChar char = UInt8.ofNat first :: rest ∧
          0xC0 ≤ first ∧ first < 0x100 := by
      by_cases two : code ≤ 0x7FF
      · exact ⟨_, _, (if_neg ascii).trans (if_pos two), by omega, by omega⟩
      by_cases three : code ≤ 0xFFFF
      · exact ⟨_, _, (if_neg ascii).trans ((if_neg two).trans (if_pos three)), by omega,
          by omega⟩
      · exact ⟨_, _, (if_neg ascii).trans ((if_neg two).trans (if_neg three)), by omega,
          by omega⟩
    obtain ⟨first, rest, bytes, high, small⟩ := large
    refine ⟨_, rest, bytes, iff_of_false ?_ notIndent, fun indents => absurd indents notIndent⟩
    rw [isIndentByte_ofNat small]
    omega

/-- Indentation may be counted in bytes or in characters. -/
theorem indentBytes_eq (line : String) : indentBytes line = indentWidth line := by
  rw [indentBytes, bytes_eq_flatMap, indentWidth]
  induction line.toList with
  | nil => rfl
  | cons char chars inductionHypothesis =>
    obtain ⟨byte, rest, bytes, indents, single⟩ := exists_utf8EncodeChar char
    rw [List.flatMap_cons, bytes, List.cons_append]
    by_cases isIndent : Text.isIndent char = true
    · rw [single isIndent, List.nil_append, List.takeWhile_cons_of_pos (indents.mpr isIndent),
        List.takeWhile_cons_of_pos isIndent, List.length_cons, List.length_cons,
        inductionHypothesis]
    · rw [List.takeWhile_cons_of_neg (mt indents.mp isIndent),
        List.takeWhile_cons_of_neg isIndent]
      rfl

/-- Each character that indents takes one byte. -/
theorem utf8ByteSize_of_isIndent
    {chars : List Char}
    (indents : ∀ char ∈ chars, isIndent char = true) :
    (String.ofList chars).utf8ByteSize = chars.length := by
  rw [← String.size_toByteArray, ← ByteArray.size_data, ← Array.length_toList,
    bytes_eq_flatMap, String.toList_ofList]
  induction chars with
  | nil => rfl
  | cons char chars inductionHypothesis =>
    rw [List.forall_mem_cons] at indents
    obtain ⟨byte, rest, bytes, _, single⟩ := exists_utf8EncodeChar char
    rw [List.flatMap_cons, bytes, single indents.1, List.length_append,
      inductionHypothesis indents.2, List.length_cons, List.length_cons]
    exact Nat.add_comm ..

/-! ## Cutting at a byte -/

/-- What is behind the first bytes of a text, if so many are there and they do not end
inside a character. -/
def sliceFrom? (text : String) (offset : Nat) : Option String :=
  (text.pos? ⟨offset⟩).map fun start => (text.sliceFrom start).copy

theorem sliceFrom?_append (before after : String) :
    sliceFrom? (before ++ after) before.utf8ByteSize = some after := by
  have valid : before.rawEndPos.IsValid (before ++ after) :=
    String.Pos.Raw.isValid_iff_exists_append.mpr ⟨before, after, rfl, rfl⟩
  have found : (before ++ after).pos? before.rawEndPos =
      some ((before ++ after).pos before.rawEndPos valid) := by
    rw [String.pos?, String.Slice.pos?,
      dif_pos (String.Pos.Raw.isValidForSlice_eq_true_iff.mpr valid.toSlice)]
    rfl
  have behind : ((before ++ after).sliceFrom
      ((before ++ after).pos before.rawEndPos valid)).copy = after :=
    String.copy_sliceFrom_eq_iff_exists_splits.mpr ⟨before, rfl, rfl⟩
  have cut := congrArg (Option.map fun start => ((before ++ after).sliceFrom start).copy) found
  rw [Option.map_some, behind] at cut
  exact cut

/-- A character cannot be cut, and neither can what is not there. -/
example :
    sliceFrom? "\u3000x" 3 = some "x" ∧ sliceFrom? "\u3000x" 1 = none ∧
      sliceFrom? "x" 2 = none := by
  decide

end Text
end ReactorGen
