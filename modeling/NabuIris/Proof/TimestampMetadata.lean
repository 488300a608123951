import NabuIris.Timestamps

/-!
# Whose metadata a CAPTURE buffer gets

The ring is searched from slot zero, so that of several inputs with one timestamp the one in the
lowest slot answers, and not the one that was queued last.
-/

namespace NabuIris

open Lib Lib.Ring

variable {inputs : List Vbuf} {timestampNs : BitVec 64} {k l : Nat}

/-- The search for a timestamp, over inputs. -/
def Vbuf.stamped (timestampNs : BitVec 64) (vbuf : Vbuf) : Bool := vbuf.timestamp == timestampNs

/-- The input at `k` is the last one with the timestamp among the last 32. -/
def NewestInput (timestampNs : BitVec 64) (inputs : List Vbuf) (k : Nat) : Prop :=
  Newest videoMaxFrame (Vbuf.stamped timestampNs) inputs k

/-- The input at `k` is the one in the lowest slot. -/
def LowestInput (timestampNs : BitVec 64) (inputs : List Vbuf) (k : Nat) : Prop :=
  Lowest videoMaxFrame (Vbuf.stamped timestampNs) inputs k

/-- A CAPTURE buffer with the timestamp gets the metadata of the newest input. -/
def RestoresNewest (inputs : List Vbuf) (timestampNs : BitVec 64) (vbuf : Vbuf) : Prop :=
  ∀ k input, NewestInput timestampNs inputs k → inputs[k]? = some input →
    irisGetTsMetadata timestampNs vbuf (tssAfter inputs) = some (vbuf.restore input.metadata)

/-! ### The ring -/

theorem tssAfter_eq (inputs : List Vbuf) :
    tssAfter inputs = pushAll videoMaxFrame TsRing.zero (inputs.map Vbuf.metadata) := by
  rw [pushAll, List.foldl_map]
  rfl

theorem holds_tssAfter (inputs : List Vbuf) :
    (tssAfter inputs).Holds videoMaxFrame TsRing.zero.slots (inputs.map Vbuf.metadata) := by
  rw [tssAfter_eq]
  exact holds_pushAll (by decide) _ _

theorem candidate_metadata :
    Candidate videoMaxFrame (fun data => data.tsNs == timestampNs) (inputs.map Vbuf.metadata) k ↔
      Candidate videoMaxFrame (Vbuf.stamped timestampNs) inputs k := by
  simp only [Candidate, List.length_map, List.getElem_map]
  rfl

theorem LowestInput.metadata (hlowest : LowestInput timestampNs inputs k) :
    Lowest videoMaxFrame (fun data => data.tsNs == timestampNs) (inputs.map Vbuf.metadata) k :=
  ⟨candidate_metadata.2 hlowest.1, fun j hj => hlowest.2 j (candidate_metadata.1 hj)⟩

/-- The input in the lowest slot answers. -/
theorem LowestInput.answers (hlowest : LowestInput timestampNs inputs k) {input : Vbuf}
    (hinput : inputs[k]? = some input) (vbuf : Vbuf) :
    irisGetTsMetadata timestampNs vbuf (tssAfter inputs) = some (vbuf.restore input.metadata) := by
  have hholds := holds_tssAfter inputs
  have hsearch := hholds.search (by decide) hlowest.metadata
  obtain ⟨hrecent, hk, -⟩ := hlowest.metadata.1
  obtain ⟨hk', hget⟩ := List.getElem?_eq_some_iff.1 hinput
  have hslot := hholds.recent k hk hrecent
  rw [List.getElem_map, hget] at hslot
  rw [irisGetTsMetadata, hsearch]
  simp only
  rw [hslot]

/-! ### The newest input and the lowest -/

theorem Vbuf.restore_injective {a b vbuf : Vbuf} (hstamp : a.timestamp = b.timestamp)
    (hrestore : vbuf.restore a.metadata = vbuf.restore b.metadata) : a.metadata = b.metadata := by
  have hflags : vbuf.flags &&& ~~~tsFlags ||| a.flags &&& tsFlags =
      vbuf.flags &&& ~~~tsFlags ||| b.flags &&& tsFlags := congrArg Vbuf.flags hrestore
  have htc := congrArg Vbuf.timecode hrestore
  change a.timecode = b.timecode at htc
  have hmasked : a.flags &&& tsFlags = b.flags &&& tsFlags := by
    apply BitVec.eq_of_getLsbD_eq
    intro bit hbit
    have hbits := congrArg (BitVec.getLsbD · bit) hflags
    simp only [BitVec.getLsbD_or, BitVec.getLsbD_and, BitVec.getLsbD_not, hbit, decide_true,
      Bool.true_and] at hbits ⊢
    cases hmask : tsFlags.getLsbD bit with
    | false => rw [Bool.and_false, Bool.and_false]
    | true => simpa [hmask] using hbits
  rw [Vbuf.metadata, Vbuf.metadata, hstamp, hmasked, htc]

theorem stamped_timestamp {input : Vbuf}
    (hcandidate : Candidate videoMaxFrame (Vbuf.stamped timestampNs) inputs k)
    (hinput : inputs[k]? = some input) : input.timestamp = timestampNs := by
  obtain ⟨-, hk, hstamped⟩ := hcandidate
  obtain ⟨-, rfl⟩ := List.getElem?_eq_some_iff.1 hinput
  exact eq_of_beq hstamped

/-- **Timestamp metadata.** The newest input answers exactly when the one in the lowest slot has the
same metadata. -/
theorem restores_newest_iff (inputs : List Vbuf) (timestampNs : BitVec 64) (vbuf : Vbuf) :
    RestoresNewest inputs timestampNs vbuf ↔
      ∀ k l newest lowest, NewestInput timestampNs inputs k → LowestInput timestampNs inputs l →
        inputs[k]? = some newest → inputs[l]? = some lowest →
          lowest.timecode = newest.timecode ∧
            lowest.flags &&& tsFlags = newest.flags &&& tsFlags := by
  constructor
  · intro hrestores k l newest lowest hnewest hlowest hk hl
    have hwant := hrestores k newest hnewest hk
    rw [hlowest.answers hl vbuf] at hwant
    have hstamp : lowest.timestamp = newest.timestamp :=
      (stamped_timestamp hlowest.1 hl).trans (stamped_timestamp hnewest.1 hk).symm
    have hdata := Vbuf.restore_injective hstamp (Option.some.inj hwant)
    exact ⟨congrArg TsMetadata.tc hdata, congrArg TsMetadata.flags hdata⟩
  · intro hsame k newest hnewest hk
    obtain ⟨l, hlowest⟩ := hnewest.1.exists_lowest
    obtain ⟨-, hlt, -⟩ := hlowest.1
    have hl : inputs[l]? = some inputs[l] := List.getElem?_eq_getElem hlt
    obtain ⟨htc, hflags⟩ := hsame k l newest inputs[l] hnewest hlowest hk hl
    have hstamp : inputs[l].timestamp = newest.timestamp :=
      (stamped_timestamp hlowest.1 hl).trans (stamped_timestamp hnewest.1 hk).symm
    rw [LowestInput.answers hlowest hl vbuf, Vbuf.metadata, Vbuf.metadata, hstamp, hflags, htc]

/-! ### A timestamp that repeats -/

/-- An input at one millisecond, with a timecode of so many hours. -/
def inputAtHour (hours : BitVec 8) : Vbuf where
  timestamp := 1000000
  flags := v4l2BufFlagTimecode
  timecode := ⟨1, 0, 0, 0, 0, hours, 0⟩

theorem older_metadata_restored :
    ¬ ∀ inputs timestampNs vbuf, RestoresNewest inputs timestampNs vbuf := by
  intro hall
  have hnewest : NewestInput 1000000 [inputAtHour 1, inputAtHour 2] 1 :=
    ⟨⟨by decide, by decide, rfl⟩, fun j hj => Nat.le_of_lt_succ hj.2.1⟩
  have hwant := hall [inputAtHour 1, inputAtHour 2] 1000000 (inputAtHour 0) 1 (inputAtHour 2)
    hnewest rfl
  exact absurd hwant (by decide)

end NabuIris
