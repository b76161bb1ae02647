import ReactorGen.Text.CaseData

/-!
# Lowercase

The full lowercase mapping of the character standard.  Every capital letter has
one lowercase letter, with two exceptions: a capital I with a dot keeps the dot
as a mark of its own, and a capital sigma that ends a word becomes the final
small sigma.
-/

namespace ReactorGen
namespace Text

/-- Whether a run maps the code point. -/
def CaseRun.covers (run : CaseRun) (code : Nat) : Bool :=
  run.first ≤ code && code ≤ run.last && (code - run.first) % run.step == 0

/-- Whether a character has case. -/
def isCased (char : Char) : Bool :=
  inRanges casedRanges char.toNat

/-- Whether a character is passed over when the neighbours of a letter are
examined for case. -/
def isCaseIgnorable (char : Char) : Bool :=
  inRanges caseIgnorableRanges char.toNat

/-- The lowercase form of a character regardless of its neighbours. -/
def lowercaseChar (char : Char) : List Char :=
  if char.toNat < 0x80 then [char.toLower]
  else if char = 'İ' then ['i', '\u0307']
  else
    match lowercaseRuns.find? (·.covers char.toNat) with
    | some run => [Char.ofNat (char.toNat + run.offset).toNat]
    | none => [char]

/-- Whether the first character that is not passed over is cased. -/
def startsCased (chars : List Char) : Bool :=
  match chars.dropWhile isCaseIgnorable with
  | [] => false
  | char :: _ => isCased char

/-- The lowercase form of the characters that follow `before`, which is given
last character first. -/
def lowercaseAfter (before : List Char) : List Char -> List Char
  | [] => []
  | char :: rest =>
    let lowered :=
      if char = 'Σ' then
        if startsCased before && !startsCased rest then ['ς'] else ['σ']
      else lowercaseChar char
    lowered ++ lowercaseAfter (char :: before) rest

/-- The lowercase form of a text. -/
def lowercase (text : String) : String :=
  String.ofList (lowercaseAfter [] text.toList)

@[simp] theorem lowercase_empty : lowercase "" = "" := rfl

end Text
end ReactorGen
