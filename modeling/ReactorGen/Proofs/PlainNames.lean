import ReactorGen.Naming
import ReactorGen.Proofs.TextCuts

/-!
# Plain names

A name of letters and digits holds no character that joins names, so texts that are joined
from such names can be cut where one name ends and the next begins.
-/

namespace ReactorGen
namespace Text

/-- A text that consists of letters and digits. -/
def Plain (text : String) : Prop :=
  ∀ char ∈ text.toList, char.isAlphanum = true

instance (text : String) : Decidable (Plain text) :=
  decidable_of_iff (text.toList.all Char.isAlphanum = true) List.all_eq_true

theorem Plain.not_mem
    {text : String}
    (plain : Plain text)
    {separator : Char}
    (notAlphanum : separator.isAlphanum = false) :
    separator ∉ text.toList := by
  intro member
  have alphanum := plain separator member
  rw [notAlphanum] at alphanum
  exact Bool.false_ne_true alphanum

theorem underscored_of_dotless
    {text : String}
    (dotless : '.' ∉ text.toList) :
    underscored text = text := by
  have unchanged : ∀ char ∈ text.toList, (if char = '.' then '_' else char) = id char := by
    intro char member
    rw [if_neg, id]
    rintro rfl
    exact dotless member
  rw [underscored, List.map_congr_left unchanged, List.map_id, String.ofList_toList]

/-- Equal texts are cut before the first separator into equal parts. -/
theorem append_cons_inj
    {separator : Char}
    {first second left right : List Char}
    (firstFree : separator ∉ first)
    (secondFree : separator ∉ second)
    (equal : first ++ separator :: left = second ++ separator :: right) :
    first = second ∧ left = right := by
  have reversed : left.reverse ++ [separator] ++ first.reverse =
      right.reverse ++ [separator] ++ second.reverse := by
    rw [← List.reverse_cons, ← List.reverse_append, equal, List.reverse_append,
      List.reverse_cons]
  obtain ⟨behind, before⟩ := append_inj_of_getLast? List.getLast?_concat
    List.getLast?_concat (fun member => firstFree (List.mem_reverse.mp member))
    (fun member => secondFree (List.mem_reverse.mp member)) reversed
  rw [List.append_cancel_right_eq] at behind
  exact ⟨List.reverse_injective before, List.reverse_injective behind⟩

/-- Equal texts are cut at their first separator into equal parts. -/
theorem append_append_inj
    {separator : Char}
    {between first second left right : String}
    (single : between.toList = [separator])
    (firstFree : separator ∉ first.toList)
    (secondFree : separator ∉ second.toList)
    (equal : first ++ between ++ left = second ++ between ++ right) :
    first = second ∧ left = right := by
  have chars := congrArg String.toList equal
  simp only [String.toList_append, single, List.append_assoc, List.singleton_append] at chars
  obtain ⟨before, behind⟩ := append_cons_inj firstFree secondFree chars
  exact ⟨String.toList_injective before, String.toList_injective behind⟩

end Text

end ReactorGen
