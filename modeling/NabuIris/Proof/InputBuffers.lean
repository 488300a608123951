import Mathlib.Data.List.Infix
import Mathlib.Logic.Function.Basic
import NabuIris.Admission
import NabuIris.Proof.PoolRuns
import NabuIris.Proof.Queues

/-!
# The internal buffers of the input side

Every stream start that creates input-side buffers adds to those of the starts before it: a release
only marks a buffer, and a destruction skips it as long as it counts as queued.
-/

namespace NabuIris

open Lib Lib.Reading

variable {s t : PoolInst} {type : BufType}

/-! ### What is counted -/

/-- The input-side buffers are at most as many as the starts that have created some, one each. -/
def Counted (s : PoolInst) : Prop :=
  ∀ type ∈ decIntBufTbl .output, (s.pool type).list.length ≤ s.starts type ∧
    ((s.pool type).minCount = 1 ∨ (s.pool type).minCount = 0 ∧ s.starts type = 0)

theorem mem_inputTbl : type ∈ decIntBufTbl .output ↔ type = .bin ∨ type = .scratch1 := by
  simp [decIntBufTbl]

namespace Counted

theorem setPool (hs : Counted s) {pool : BufferPool}
    (hlength : pool.list.length ≤ (s.pool type).list.length)
    (hmin : pool.minCount = (s.pool type).minCount ∨ pool.minCount = 1) :
    Counted (s.setPool type pool) := by
  intro other hother
  obtain ⟨hcount, hcounts⟩ := hs other hother
  by_cases htype : other = type
  · subst htype
    rw [pool_setPool]
    refine ⟨hlength.trans hcount, ?_⟩
    obtain hsame | hone := hmin
    · rw [hsame]
      exact hcounts
    · exact .inl hone
  · rw [pool_setPool_of_ne htype]
    exact ⟨hcount, hcounts⟩

theorem setList (hs : Counted s) {list : List InternalAttr}
    (hlength : list.length ≤ (s.pool type).list.length) : Counted (s.setList type list) :=
  hs.setPool hlength (.inl rfl)

/-- A type that is not in the table does not count. -/
theorem setPool_other (hs : Counted s) (htype : type ∉ decIntBufTbl .output) (pool : BufferPool) :
    Counted (s.setPool type pool) := by
  intro other hother
  have hne : other ≠ type := fun heq => htype (heq ▸ hother)
  rw [pool_setPool_of_ne hne]
  exact hs other hother

theorem fill (hs : Counted s) (env : PoolEnv) (type : BufType) :
    Counted (s.irisFillInternalBufInfo env type) := by
  cases type with
  | dpb => exact hs
  | bin | scratch1 => exact hs.setPool le_rfl (.inr rfl)
  | _ => exact hs.setPool_other (by decide) _

theorem get (hs : Counted s) (env : PoolEnv) (plane : Plane) :
    Counted (s.irisGetInternalBuffers env plane) := by
  cases plane with
  | output => exact (hs.fill env .bin).fill env .scratch1
  | capture => exact hs.fill env .dpb

theorem starts_noteStart : (t.noteStart .output s).starts type =
    if (s.pool type).list.length < (t.pool type).list.length then t.starts type + 1
    else t.starts type := rfl

theorem pool_noteStart (plane : Plane) : (t.noteStart plane s).pool = t.pool := by
  cases plane <;> rfl

/-- After a creation: what is new is at most `min_count` buffers of each type. -/
theorem noteStart (hs : Counted s) (hstarts : t.starts = s.starts)
    (hnew : ∀ type ∈ decIntBufTbl .output, (t.pool type).minCount = (s.pool type).minCount ∧
      (t.pool type).list.length ≤ (s.pool type).list.length + (s.pool type).minCount.toNat) :
    Counted (t.noteStart .output s) := by
  intro type hmem
  obtain ⟨hcount, hmin⟩ := hs type hmem
  obtain ⟨hsame, hlength⟩ := hnew type hmem
  rw [starts_noteStart, pool_noteStart, hsame, hstarts]
  obtain hone | ⟨hzero, hnone⟩ := hmin
  · rw [hone] at hlength
    refine ⟨?_, .inl hone⟩
    have hle : (t.pool type).list.length ≤ (s.pool type).list.length + 1 := hlength
    split_ifs <;> omega
  · rw [hzero] at hlength
    have hle : (t.pool type).list.length ≤ (s.pool type).list.length := hlength
    rw [if_neg hle.not_gt]
    exact ⟨hle.trans hcount, .inr ⟨hzero, hnone⟩⟩

theorem createInput (hs : Counted s) (env : PoolEnv) :
    Counted (s.irisCreateInternalBuffers env .output).2 := by
  let New (t : PoolInst) : Prop := t.starts = s.starts ∧ ∀ type ∈ decIntBufTbl .output,
    (t.pool type).minCount = (s.pool type).minCount ∧
      (t.pool type).list.length ≤ (s.pool type).list.length + (s.pool type).minCount.toNat
  suffices hnew : New (PoolInst.forTypes (PoolInst.createType env) (decIntBufTbl .output) s).2 from
    hs.noteStart hnew.1 hnew.2
  obtain ⟨bin, hbin, hbinLength⟩ := @createType_setList .bin env nofun s
  obtain ⟨scratch, hscratch, hscratchLength⟩ :=
    @createType_setList .scratch1 env nofun (s.setList .bin bin)
  have hother : (s.setList .bin bin).pool .scratch1 = s.pool .scratch1 :=
    pool_setList_of_ne (by decide) bin
  rw [hother] at hscratchLength
  have hfirst : New (s.setList .bin bin) := by
    refine ⟨rfl, fun type hmem => ?_⟩
    obtain rfl | rfl := mem_inputTbl.1 hmem
    · exact ⟨by simp, by simpa using hbinLength⟩
    · rw [hother]
      exact ⟨rfl, Nat.le_add_right _ _⟩
  have hsecond : New ((s.setList .bin bin).setList .scratch1 scratch) := by
    refine ⟨rfl, fun type hmem => ?_⟩
    obtain rfl | rfl := mem_inputTbl.1 hmem
    · rw [pool_setList_of_ne (by decide)]
      exact hfirst.2 .bin (by decide)
    · rw [pool_setList, hother]
      exact ⟨rfl, hscratchLength⟩
  refine orGoto_keep (P := fun r : Int × PoolInst => New r.2) (Q := (· = s.setList .bin bin)) hbin
    ?_ ?_
  · rintro _ _ rfl
    exact hfirst
  · rintro _ rfl
    refine orGoto_keep (P := fun r : Int × PoolInst => New r.2) (Q := New) ?_ (fun _ _ => id)
      fun _ => id
    rw [hscratch]
    exact hsecond

theorem create (hs : Counted s) (env : PoolEnv) (plane : Plane) :
    Counted (s.irisCreateInternalBuffers env plane).2 := by
  cases plane with
  | output => exact hs.createInput env
  | capture =>
      obtain ⟨k, dpbs, hdpbs, -⟩ := createDpbs_setDpbs env s
      intro type hmem
      rw [PoolInst.irisCreateInternalBuffers, pool_noteStart, hdpbs]
      exact hs type hmem

theorem queueType (hs : Counted s) (ret : BufType → Nat → Int) (type : BufType) :
    Counted (PoolInst.queueType ret type s).2 := by
  by_cases htype : type = .dpb
  · subst htype
    exact hs
  · obtain ⟨list, hlist, hlength⟩ := queueType_setList ret htype s
    rw [hlist]
    exact hs.setList hlength.le

theorem persist (hs : Counted s) (env : PoolEnv) :
    Counted (s.irisAllocAndQueuePersistBufs env).2 := by
  unfold PoolInst.irisAllocAndQueuePersistBufs
  split_ifs
  · exact hs
  · refine orGoto_keep (P := fun r : Int × PoolInst => Counted r.2) (Q := Counted) ?_
      (fun _ _ => id) fun s hs => hs.queueType env.queueRet .persist
    obtain ⟨list, hlist, -⟩ :=
      @createType_setList .persist env nofun (s.irisFillInternalBufInfo env .persist)
    rw [hlist]
    exact (hs.fill env .persist).setPool_other (by decide) _

theorem destroyType (hs : Counted s) (force : Bool) (type : BufType) :
    Counted (PoolInst.destroyType force s type) := by
  by_cases htype : type = .dpb
  · subst htype
    exact hs
  · rw [destroyType_setList force htype]
    exact hs.setList (List.length_filter_le _ _)

theorem destroyTypes (hs : Counted s) (force : Bool) (types : List BufType) :
    Counted (types.foldl (PoolInst.destroyType force) s) := by
  induction types generalizing s with
  | nil => exact hs
  | cons type rest ih => exact ih (hs.destroyType force type)

theorem pool_destroyAll (hmem : type ∈ decIntBufTbl .output) :
    (s.irisDestroyAllInternalBuffers .output).pool type = { s.pool type with list := [] } := by
  obtain rfl | rfl := mem_inputTbl.1 hmem <;>
    simp [PoolInst.irisDestroyAllInternalBuffers, decIntBufTbl, PoolInst.destroyType,
      PoolInst.setList, PoolInst.setPool]

theorem destroyAll (hs : Counted s) (plane : Plane) :
    Counted (s.irisDestroyAllInternalBuffers plane) := by
  cases plane with
  | capture =>
      have hdestroyed : Counted (PoolInst.destroyType true (PoolInst.destroyType true s .dpb)
          .persist) := (hs.destroyType true .dpb).destroyType true .persist
      intro type hmem
      have hkept : type ∉ decIntBufTbl .capture := by
        obtain rfl | rfl := mem_inputTbl.1 hmem <;> decide
      change _ ≤ (if _ then _ else _) ∧ (_ ∨ _ ∧ (if _ then _ else _) = 0)
      rw [if_neg hkept]
      exact hdestroyed type hmem
  | output =>
      intro type hmem
      have hnone : (s.irisDestroyAllInternalBuffers .output).starts type = 0 := if_pos hmem
      obtain ⟨-, hmin⟩ := hs type hmem
      rw [hnone, pool_destroyAll hmem]
      exact ⟨le_rfl, hmin.imp id fun hzero => ⟨hzero.1, rfl⟩⟩

theorem rules : PoolRules Counted where
  session := fun _ _ hs => hs
  get := fun env plane _ hs => hs.get env plane
  create := fun env plane _ hs => hs.create env plane
  queue := fun ret _ _ hs => forTypes_keep (fun type _ _ hs => hs.queueType ret type) hs
  deferred := fun _ _ hs => hs
  persist := fun env _ hs => hs.persist env
  release := fun _ _ _ hs => hs.setList (List.length_modify _ _ _).le
  dequeued := fun plane _ hs => hs.destroyTypes false (decIntBufTbl plane)
  all := fun plane _ hs => hs.destroyAll plane
  message := fun _ _ _ _ hs => hs
  negotiated := fun _ _ _ _ hs => hs

end Counted

/-! ### The bound -/

def InputBounded (s : PoolInst) : Prop :=
  ∀ type ∈ decIntBufTbl .output,
    (s.pool type).list.length ≤ 2 * (s.pool type).minCount.toNat

instance (s : PoolInst) : Decidable (InputBounded s) :=
  inferInstanceAs (Decidable (∀ type ∈ decIntBufTbl .output, _ ≤ _))

/-- Since the lists were emptied, at most two starts have created buffers of the type. -/
def StartedTwice (s : PoolInst) : Prop := ∀ type ∈ decIntBufTbl .output, s.starts type ≤ 2

instance (s : PoolInst) : Decidable (StartedTwice s) :=
  inferInstanceAs (Decidable (∀ type ∈ decIntBufTbl .output, _ ≤ _))

theorem Counted.bounded (hs : Counted s) (hstarts : StartedTwice s) : InputBounded s := by
  intro type hmem
  obtain ⟨hcount, hone | ⟨-, hnone⟩⟩ := hs type hmem
  · rw [hone]
    exact hcount.trans (hstarts type hmem)
  · rw [hnone] at hcount
    exact hcount.trans (Nat.zero_le _)

theorem opened_counted (base : Gen1Message.Gen1Inst) : Counted (.opened base) := by
  intro type _
  exact ⟨le_rfl, .inr ⟨rfl, rfl⟩⟩

/-! ### A decoder whose source changes twice -/

/-- A decoder as `iris_open` leaves it; `minCount` is what the OUTPUT rules say. -/
def openedPools (splitMode : Bool) (minCount : U32) : PoolInst :=
  .opened
    { inst := { openedDecoder .gen1 .h264 false with splitMode }
      formats :=
        (LoadInst.opened { size := fun _ => 0, count := fun _ => minCount } .decoder).formats
      bufCrop := fun _ => { left := 0, top := 0, width := 0, height := 0 }
      dpbs := []
      dpbMinCount := 0
      numBuffers := 4
      fwBufferSizes := fun _ => 0
      queueError := false
      iovaHole := false
      srcChanges := 0
      completion := 0
      flushCompletion := 0 }

/-- There is memory, and every command is taken. -/
def plentiful : PoolEnv where
  call := undisturbed
  calculated := fun _ => 4096
  alloc := fun _ i => some (4096 * i)
  queueRet := fun _ _ => 0
  releaseRet := fun _ _ => 0

def takenEnv : Gen1Message.Gen1Env where
  rules := { size := fun _ => 0, count := fun _ => 4 }
  flushRet := 0
  queueRet := 0
  resumeRet := 0

/-- `HFI_EVENT_SESSION_SEQUENCE_CHANGED` with a property that the driver does not know. -/
def sequenceMessage : PoolMove :=
  .event (.message takenEnv Gen1Message.hfiMsgEventNotify (wordMemory
    [(0, 28), (4, Gen1Message.hfiMsgEventNotify), (8, 1),
      (12, Gen1Message.hfiEventSessionSequenceChanged),
      (16, Gen1Message.hfiEventDataSequenceChangedSufficientBufResources), (20, 1)]))

def flushAnswer : PoolMove :=
  .event (.message takenEnv Gen1Message.hfiMsgSessionFlush (wordMemory []))

/-- STREAMON of both queues; each wait ends with its response. -/
def bothStarted : List PoolMove :=
  [.call (.streamon plentiful .output [])] ++ List.replicate 4 (.resume false) ++
    [.call (.streamon plentiful .capture [])] ++ [.resume false]

/-- The CAPTURE queue is stopped and started again for a new sequence. -/
def sequenceRestarted : List PoolMove :=
  [sequenceMessage, .call (.streamoff plentiful .capture), flushAnswer, flushAnswer,
    .resume false, .call (.streamon plentiful .capture [])] ++ List.replicate 4 (.resume false)

/-- **Internal buffers of the input side.** They stay within twice `min_count` through a run in
which no more than two starts create some between two destructions. -/
theorem input_buffers_bounded (base : Gen1Message.Gen1Inst) {moves : List PoolMove}
    (hstarts : ∀ pre, pre <+: moves → StartedTwice (poolMachine.runs (.opened base) pre).state) :
    ∀ pre, pre <+: moves → InputBounded (poolMachine.runs (.opened base) pre).state :=
  fun pre hpre => (Counted.rules.runs (opened_counted base) pre).bounded (hstarts pre hpre)

theorem input_buffers_bounded_restarted :
    (∀ pre, pre <+: bothStarted ++ sequenceRestarted →
        StartedTwice (poolMachine.runs (openedPools false 4) pre).state) ∧
      ∀ pre, pre <+: bothStarted ++ sequenceRestarted →
        InputBounded (poolMachine.runs (openedPools false 4) pre).state := by
  have hstarts : ∀ pre, pre <+: bothStarted ++ sequenceRestarted →
      StartedTwice (poolMachine.runs (openedPools false 4) pre).state := by
    have hinits : ∀ pre ∈ (bothStarted ++ sequenceRestarted).inits,
        StartedTwice (poolMachine.runs (openedPools false 4) pre).state := by decide +kernel
    exact fun pre hpre => hinits pre ((List.mem_inits _ _).2 hpre)
  exact ⟨hstarts, input_buffers_bounded _ hstarts⟩

/-- Two source changes later there are three buffers of each type, and all three are queued. -/
theorem input_buffers_unbounded :
    ¬ InputBounded (poolMachine.runs (openedPools false 4)
      (bothStarted ++ sequenceRestarted ++ sequenceRestarted)).state := by
  decide +kernel

end NabuIris
