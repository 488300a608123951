import NabuIris.Proof.TimestampMetadata

/-!
# The index of the timestamp ring

An insertion reduces the index before it uses it. A lookup does not, and reads past the ring when it
misses right after a full round.
-/

namespace NabuIris

open Lib Lib.Ring

variable {tss : TsRing} {timestampNs : BitVec 64}

/-- The timestamp is that of one of the last 32 inputs, unless no round has just been completed. -/
def LookupSafe (inputs : List Vbuf) (timestampNs : BitVec 64) : Prop :=
  inputs ≠ [] → videoMaxFrame ∣ inputs.length →
    ∃ k, Candidate videoMaxFrame (Vbuf.stamped timestampNs) inputs k

def TsOp.Safe (inputs : List Vbuf) : TsOp → Prop
  | .set _ => True
  | .get timestampNs _ => LookupSafe inputs timestampNs

/-! ### One access -/

theorem place_lt (tss : TsRing) : tss.place videoMaxFrame < videoMaxFrame := by
  unfold Ring.place
  split_ifs with hend
  · decide
  · exact not_le.1 hend

/-- Only the read after the loop can be out of range. -/
theorem readsOf_lt_iff (hbounded : tss.next ≤ videoMaxFrame) :
    (∀ index ∈ readsOf timestampNs tss, index < videoMaxFrame) ↔
      (tss.next = videoMaxFrame →
        tss.search videoMaxFrame (fun data => data.tsNs == timestampNs) ≠ none) := by
  unfold readsOf
  cases hsearch : tss.search videoMaxFrame fun data => data.tsNs == timestampNs with
  | some i =>
      have hi : i < videoMaxFrame := by
        rw [Ring.search, List.find?_range_eq_some] at hsearch
        exact List.mem_range.1 hsearch.2.1
      refine iff_of_true (fun index hindex => ?_) fun _ => Option.some_ne_none i
      have hle : index < i + 1 := List.mem_range.1 hindex
      omega
  | none =>
      constructor
      · intro hall hend
        have hlt := hall tss.next (by simp)
        omega
      · intro hfound index hindex
        rcases List.mem_append.1 hindex with hloop | hlast
        · exact List.mem_range.1 hloop
        · rw [List.mem_singleton.1 hlast]
          exact lt_of_le_of_ne hbounded fun hend => hfound hend rfl

theorem irisGetTsMetadata_eq_none_iff (hbounded : tss.next ≤ videoMaxFrame) (vbuf : Vbuf) :
    irisGetTsMetadata timestampNs vbuf tss = none ↔
      ¬∀ index ∈ readsOf timestampNs tss, index < videoMaxFrame := by
  rw [readsOf_lt_iff hbounded, irisGetTsMetadata]
  cases hsearch : tss.search videoMaxFrame fun data => data.tsNs == timestampNs with
  | some i => simp
  | none =>
      by_cases hend : tss.next < videoMaxFrame
      · simp [hend, Nat.ne_of_lt hend]
      · simp [le_antisymm hbounded (not_lt.1 hend)]

/-! ### Runs -/

/-- The ring holds the inputs of a run, whatever lookups are among them. -/
theorem tssAfterOps_eq (ops : List TsOp) :
    tssAfterOps ops = tssAfter (ops.filterMap TsOp.input?) := by
  induction ops using List.reverseRecOn with
  | nil => rfl
  | append_singleton ops op ih =>
      rw [tssAfterOps, List.foldl_append, ← tssAfterOps, ih, List.filterMap_append]
      cases op with
      | set vbuf =>
          have hone : [TsOp.set vbuf].filterMap TsOp.input? = [vbuf] := rfl
          rw [hone, tssAfter, tssAfter, List.foldl_append]
          rfl
      | get timestampNs vbuf =>
          have hnone : [TsOp.get timestampNs vbuf].filterMap TsOp.input? = [] := rfl
          rw [hnone, List.append_nil]
          rfl

theorem lookupSafe_iff (inputs : List Vbuf) (timestampNs : BitVec 64) :
    (∀ index ∈ readsOf timestampNs (tssAfter inputs), index < videoMaxFrame) ↔
      LookupSafe inputs timestampNs := by
  have hholds := holds_tssAfter inputs
  have hring : tssAfter inputs = pushAll videoMaxFrame { slots := TsRing.zero.slots, next := 0 }
      (inputs.map Vbuf.metadata) := tssAfter_eq inputs
  have hnext : (tssAfter inputs).next = videoMaxFrame ↔
      inputs ≠ [] ∧ videoMaxFrame ∣ inputs.length := by
    rw [hring, pushAll_next_eq_iff (by decide), List.length_map, ne_eq, List.map_eq_nil_iff]
  rw [readsOf_lt_iff hholds.bounded, hnext, LookupSafe, and_imp]
  refine forall_congr' fun hsome => forall_congr' fun hround => ?_
  have hfull : videoMaxFrame ≤ (inputs.map Vbuf.metadata).length := by
    rw [List.length_map]
    exact Nat.le_of_dvd (List.length_pos_iff.2 hsome) hround
  rw [ne_eq, hholds.search_eq_none_iff (by decide) hfull, not_forall]
  exact exists_congr fun k => not_not.trans candidate_metadata

theorem accesses_lt_iff (ops : List TsOp) (op : TsOp) :
    (∀ index ∈ op.accesses (tssAfterOps ops), index < videoMaxFrame) ↔
      op.Safe (ops.filterMap TsOp.input?) := by
  cases op with
  | set vbuf =>
      refine iff_of_true (fun index hindex => ?_) trivial
      rw [List.mem_singleton.1 hindex]
      exact place_lt _
  | get timestampNs vbuf =>
      rw [TsOp.accesses, tssAfterOps_eq]
      exact lookupSafe_iff _ timestampNs

/-- A lookup after a run has no answer in the ring exactly when it is not safe. -/
theorem irisGetTsMetadata_tssAfterOps_eq_none_iff (ops : List TsOp) (timestampNs : BitVec 64)
    (vbuf : Vbuf) :
    irisGetTsMetadata timestampNs vbuf (tssAfterOps ops) = none ↔
      ¬LookupSafe (ops.filterMap TsOp.input?) timestampNs := by
  have hbounded : (tssAfterOps ops).next ≤ videoMaxFrame := by
    rw [tssAfterOps_eq]
    exact (holds_tssAfter _).bounded
  rw [irisGetTsMetadata_eq_none_iff hbounded]
  exact not_congr (accesses_lt_iff ops (.get timestampNs vbuf))

/-- **The metadata index.** All accesses of a run are in range exactly when no lookup misses after a
full round of insertions, and a lookup that follows reads past the ring exactly when it does. -/
theorem metadata_index_in_range_iff (ops : List TsOp) :
    ((∀ pre op, pre ++ [op] <+: ops →
        ∀ index ∈ op.accesses (tssAfterOps pre), index < videoMaxFrame) ↔
      ∀ pre op, pre ++ [op] <+: ops → op.Safe (pre.filterMap TsOp.input?)) ∧
    ∀ timestampNs vbuf, irisGetTsMetadata timestampNs vbuf (tssAfterOps ops) = none ↔
      ¬LookupSafe (ops.filterMap TsOp.input?) timestampNs :=
  ⟨forall_congr' fun pre => forall_congr' fun op => imp_congr_right fun _ => accesses_lt_iff pre op,
    irisGetTsMetadata_tssAfterOps_eq_none_iff ops⟩

/-- Inputs at 1 to 32 nanoseconds, and an output at time zero. -/
def fullRound : List TsOp :=
  ((List.range 32).map fun k => .set { inputAtHour 0 with timestamp := BitVec.ofNat 64 (k + 1) }) ++
    [.get 0 (inputAtHour 0)]

theorem metadata_index_past_end :
    ¬∀ (ops : List TsOp) (pre : List TsOp) (op : TsOp), pre ++ [op] <+: ops →
      ∀ index ∈ op.accesses (tssAfterOps pre), index < videoMaxFrame := by
  intro hall
  have hlt := hall fullRound _ _ List.prefix_rfl 32 (by decide +kernel)
  exact absurd hlt (by decide)

end NabuIris
