import Mathlib.Data.List.Sort
import ReactorGen.Network.Serialization
import ReactorGen.Proofs.Results

/-!
# Collecting serializers

The serializers of a federate are chosen from all there are.  They come out as if they were
collected connection by connection, each when it is first met, with protocol buffers at the
end where files describe them, and then put into the order of declaration.
-/

namespace ReactorGen
namespace Serializer

/-- The place of a serializer in the order of declaration. -/
def rank (serializer : Serializer) : Nat :=
  all.idxOf serializer

theorem mem_all (serializer : Serializer) : serializer ∈ all := by
  cases serializer <;> decide

theorem rank_inj {first second : Serializer} : first.rank = second.rank ↔ first = second :=
  List.idxOf_inj first.mem_all

/-- All serializers are declared in their order. -/
theorem pairwise_all : all.Pairwise fun first second => first.rank < second.rank := by
  decide

/-- The serializers that have been met, with one more unless it is among them. -/
def adjoin (met : List Serializer) (serializer : Serializer) : List Serializer :=
  if met.contains serializer then met else met ++ [serializer]

variable
  {met used : List Serializer}
  {serializer other : Serializer}

@[simp] theorem mem_adjoin :
    other ∈ adjoin met serializer ↔ other ∈ met ∨ other = serializer := by
  by_cases again : serializer ∈ met
  · rw [adjoin, if_pos (List.contains_iff_mem.mpr again), iff_self_or]
    rintro rfl
    exact again
  · rw [adjoin, if_neg (mt List.contains_iff_mem.mp again), List.mem_append,
      List.mem_singleton]

theorem nodup_adjoin (nodup : met.Nodup) (serializer : Serializer) :
    (adjoin met serializer).Nodup := by
  by_cases again : serializer ∈ met
  · rwa [adjoin, if_pos (List.contains_iff_mem.mpr again)]
  · rw [adjoin, if_neg (mt List.contains_iff_mem.mp again)]
    rw [← List.concat_eq_append]
    exact nodup.concat again

theorem mem_foldl_adjoin : other ∈ used.foldl adjoin met ↔ other ∈ met ∨ other ∈ used := by
  induction used generalizing met with
  | nil => simp
  | cons serializer rest inductionHypothesis =>
    rw [List.foldl_cons, inductionHypothesis, mem_adjoin, List.mem_cons, or_assoc]

theorem nodup_foldl_adjoin (nodup : met.Nodup) : (used.foldl adjoin met).Nodup := by
  induction used generalizing met with
  | nil => exact nodup
  | cons serializer rest inductionHypothesis =>
    exact inductionHypothesis (nodup_adjoin nodup serializer)

/-- The serializers in use as they are met, and then protocol buffers where files describe
them. -/
def collect (used : List Serializer) (described : Bool) : List Serializer :=
  let met := used.foldl adjoin []
  if described then adjoin met .proto else met

theorem mem_collect {described : Bool} :
    serializer ∈ collect used described ↔
      serializer ∈ used ∨ serializer = .proto ∧ described = true := by
  cases described with
  | true => simp [collect, mem_foldl_adjoin]
  | false => simp [collect, mem_foldl_adjoin]

theorem nodup_collect (used : List Serializer) (described : Bool) :
    (collect used described).Nodup := by
  have nodup : (used.foldl adjoin []).Nodup := nodup_foldl_adjoin List.nodup_nil
  cases described with
  | true => exact nodup_adjoin nodup .proto
  | false => exact nodup

/-- What is collected in the order of declaration. -/
def collectInOrder (used : List Serializer) (described : Bool) : List Serializer :=
  (collect used described).mergeSort fun first second => decide (first.rank ≤ second.rank)

theorem pairwise_collectInOrder (used : List Serializer) (described : Bool) :
    (collectInOrder used described).Pairwise fun first second => first.rank ≤ second.rank := by
  have sorted : (collectInOrder used described).Pairwise fun first second =>
      decide (first.rank ≤ second.rank) = true :=
    List.pairwise_mergeSort (fun first second third => by simpa using Nat.le_trans)
      (fun first second => by simpa using Nat.le_total first.rank second.rank) _
  simpa only [decide_eq_true_eq] using sorted

/-- Choosing from all serializers gives what is collected in the order of declaration. -/
theorem filter_all_eq (used : List Serializer) (described : Bool) :
    (all.filter fun serializer =>
        used.contains serializer || (serializer = .proto && described)) =
      collectInOrder used described := by
  have chosen : (all.filter fun serializer =>
      used.contains serializer || (serializer = .proto && described)).Pairwise
        fun first second => first.rank < second.rank :=
    pairwise_all.sublist List.filter_sublist
  have nodup : (all.filter fun serializer =>
      used.contains serializer || (serializer = .proto && described)).Nodup :=
    chosen.imp fun before equal => before.ne (congrArg rank equal)
  have sameMembers : ∀ serializer, (serializer ∈ all.filter fun serializer =>
        used.contains serializer || (serializer = .proto && described)) ↔
      serializer ∈ collectInOrder used described := by
    intro serializer
    rw [collectInOrder, List.mem_mergeSort, mem_collect, List.mem_filter]
    simp [mem_all]
  have nodupCollected : (collectInOrder used described).Nodup :=
    (List.mergeSort_perm _ _).nodup_iff.mpr (nodup_collect used described)
  refine List.Perm.eq_of_pairwise ?_ (chosen.imp Nat.le_of_lt)
    (pairwise_collectInOrder used described)
    ((List.perm_ext_iff_of_nodup nodup nodupCollected).mpr sameMembers)
  intro first second _ _ before after
  exact rank_inj.mp (Nat.le_antisymm before after)

end Serializer

/-- The serializers in use are those of the connections of a federate, collected one after
the other and put into the order of declaration. -/
theorem Program.enabledSerializers_eq
    (program : Program)
    (settings : Settings)
    (federate : Federate) :
    program.enabledSerializers settings federate = do
      let used ← (program.federateConnections federate).mapM
        (program.resolveSerializer settings)
      return Serializer.collectInOrder used !settings.protoFiles.isEmpty := by
  simp only [enabledSerializers, Serializer.filter_all_eq]

end ReactorGen
