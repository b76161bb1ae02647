import ReactorGen.Model.Reaction

/-!
# First occurrences

A list without repetitions holds every item of the list once, in the order in which
the items occur first.
-/

namespace ReactorGen
namespace FirstOccurrences

variable {α : Type} [BEq α] [LawfulBEq α]

theorem idxOf_cons_of_ne
    {item other : α}
    (different : item ≠ other)
    (rest : List α) :
    (item :: rest).idxOf other = rest.idxOf other + 1 := by
  rw [List.idxOf_cons, beq_false_of_ne different]
  rfl

/-- Dropping other items keeps the order of first occurrences. -/
theorem idxOf_lt_of_filter
    {items : List α}
    (keep : α -> Bool)
    {first second : α}
    (secondKept : keep second = true)
    (before : (items.filter keep).idxOf first < (items.filter keep).idxOf second) :
    items.idxOf first < items.idxOf second := by
  induction items with
  | nil => simp at before
  | cons item rest inductionHypothesis =>
    by_cases isSecond : item = second
    · rw [List.filter_cons, isSecond, secondKept, if_pos rfl, List.idxOf_cons_self] at before
      exact absurd before (Nat.not_lt_zero _)
    · rw [idxOf_cons_of_ne isSecond]
      by_cases isFirst : item = first
      · rw [isFirst, List.idxOf_cons_self]
        exact Nat.zero_lt_succ _
      · rw [idxOf_cons_of_ne isFirst]
        apply Nat.succ_lt_succ
        apply inductionHypothesis
        cases kept : keep item with
        | false => rwa [List.filter_cons, kept, if_neg Bool.false_ne_true] at before
        | true =>
          rw [List.filter_cons, kept, if_pos rfl, idxOf_cons_of_ne isFirst,
            idxOf_cons_of_ne isSecond] at before
          exact Nat.lt_of_succ_lt_succ before

/-- Without repetitions, items stand in the order in which they occur first. -/
theorem pairwise_eraseDups (items : List α) :
    items.eraseDups.Pairwise fun first second =>
      items.idxOf first < items.idxOf second :=
  match items with
  | [] => .nil
  | item :: rest => by
    have shorter : (rest.filter fun other => !other == item).length < rest.length + 1 :=
      Nat.lt_succ_of_le (List.length_filter_le _ _)
    have tail := pairwise_eraseDups (rest.filter fun other => !other == item)
    have different {other : α}
        (member : other ∈ (rest.filter fun other => !other == item).eraseDups) :
        (!other == item) = true :=
      (List.mem_filter.mp (List.mem_eraseDups.mp member)).2
    have notItem {other : α} (kept : (!other == item) = true) : item ≠ other := by
      rintro rfl
      simp at kept
    rw [List.eraseDups_cons, List.pairwise_cons]
    constructor
    · intro other member
      rw [List.idxOf_cons_self, idxOf_cons_of_ne (notItem (different member))]
      exact Nat.zero_lt_succ _
    · apply tail.imp_of_mem
      intro first second firstMember secondMember before
      have firstKept := different firstMember
      have secondKept := different secondMember
      rw [idxOf_cons_of_ne (notItem firstKept), idxOf_cons_of_ne (notItem secondKept)]
      apply Nat.succ_lt_succ
      exact idxOf_lt_of_filter (fun other => !other == item) secondKept before
termination_by items.length

/-- Without repetitions, no item occurs twice. -/
theorem nodup_eraseDups (items : List α) : items.eraseDups.Nodup := by
  apply (pairwise_eraseDups items).imp
  rintro first second before rfl
  exact Nat.lt_irrefl _ before

end FirstOccurrences

namespace Reaction

/-- What a reaction names, in order and with repetitions. -/
def named (reaction : Reaction) : List VarRef :=
  reaction.triggers.filterMap TriggerRef.var? ++ reaction.sources ++ reaction.effects

/-- A list that has everything that a reaction names once, in the order in which the
reaction first names it. -/
structure Lists (reaction : Reaction) (refs : List VarRef) : Prop where
  complete : ∀ ref, ref ∈ refs ↔
    .var ref ∈ reaction.triggers ∨ ref ∈ reaction.sources ∨ ref ∈ reaction.effects
  once : refs.Nodup
  ordered : refs.Pairwise fun first second =>
    reaction.named.idxOf first < reaction.named.idxOf second

theorem mem_named {reaction : Reaction} {ref : VarRef} :
    ref ∈ reaction.named ↔
      .var ref ∈ reaction.triggers ∨ ref ∈ reaction.sources ∨ ref ∈ reaction.effects := by
  have trigger : ref ∈ reaction.triggers.filterMap TriggerRef.var? ↔
      .var ref ∈ reaction.triggers := by
    rw [List.mem_filterMap]
    constructor
    · rintro ⟨trigger, member, var_eq⟩
      cases trigger with
      | startup => simp [TriggerRef.var?] at var_eq
      | shutdown => simp [TriggerRef.var?] at var_eq
      | var other =>
        rw [TriggerRef.var?, Option.some.injEq] at var_eq
        rwa [← var_eq]
    · intro member
      exact ⟨.var ref, member, rfl⟩
  rw [named, List.mem_append, List.mem_append, trigger, or_assoc]

theorem lists_variables (reaction : Reaction) : reaction.Lists reaction.variables where
  complete ref := by
    have erased : ref ∈ reaction.variables ↔ ref ∈ reaction.named := List.mem_eraseDups
    rw [erased, mem_named]
  once := FirstOccurrences.nodup_eraseDups reaction.named
  ordered := FirstOccurrences.pairwise_eraseDups reaction.named

end Reaction
end ReactorGen
