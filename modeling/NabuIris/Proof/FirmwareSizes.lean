import NabuIris.Lib.Peaks
import NabuIris.Proof.DpbTags
import NabuIris.Proof.FormatExactness
import NabuIris.Proof.PropertySizes

/-!
# The sizes that the firmware states

A response to the query for buffer requirements raises the recorded size of a type to the sizes that
it states, and nothing ever lowers one. The driver therefore uses the size of the latest response
only as long as no response before has stated more for the type, over all sequences and sessions of
an instance.
-/

namespace NabuIris

open Lib Lib.Reading Gen1Message

variable {type : BufType} {mem : Memory}

/-! ### Responses -/

/-- The requirements that a response lists; a malformed one lists none. -/
def requirementCount (mem : Memory) : Nat :=
  let reqBytes := (wordAt mem 0 - 20).toNat
  if wordAt mem 12 = 1 ∧ wordAt mem 16 = hfiPropertyConfigBufferRequirements ∧
      reqBytes % 32 = 0 then reqBytes / 32
  else 0

/-- The size that the requirement at `req` states for a type. -/
def statedSize (type : BufType) (inst : Inst) (mem : Memory) (req : Nat) : Option Nat :=
  if requirementType inst (wordAt mem req) = some type then some (wordAt mem (req + 4)).toNat
  else none

/-- The sizes that a response states for a type. -/
def statedSizes (type : BufType) (inst : Inst) (mem : Memory) : List Nat :=
  (List.range (requirementCount mem)).filterMap fun i => statedSize type inst mem (20 + 32 * i)

theorem readRequirements_sizes (type : BufType) (n req : Nat) (s : Gen1Inst) :
    (((readRequirements n req s).run mem).fwBufferSizes type).toNat =
      ((List.range n).filterMap fun i => statedSize type s.inst mem (req + 32 * i)).foldl max
        (s.fwBufferSizes type).toNat := by
  induction n generalizing req s with
  | zero => rfl
  | succ n ih =>
      have hnext : ∀ i, req + 32 * (i + 1) = req + 32 + 32 * i := fun i => by omega
      have hrest : ((List.range n).map Nat.succ).filterMap
          (fun i => statedSize type s.inst mem (req + 32 * i)) =
          (List.range n).filterMap fun i => statedSize type s.inst mem (req + 32 + 32 * i) := by
        rw [List.filterMap_map]
        exact List.filterMap_congr fun i _ => congrArg (statedSize type s.inst mem) (hnext i)
      rw [List.range_succ_eq_map, List.filterMap_cons, hrest, readRequirements, run_bind, run_u32,
        statedSize, Nat.mul_zero, Nat.add_zero]
      cases hreq : requirementType s.inst (wordAt mem req) with
      | none => exact ih (req + 32) s
      | some bufType =>
          rw [run_bind, run_u32]
          refine (ih (req + 32) _).trans ?_
          by_cases htype : bufType = type
          · subst htype
            rw [if_pos rfl]
            simp only [List.foldl_cons, Function.update_self]
            rw [FormatSizes.toNat_larger, max_comm]
          · have hne : ¬some bufType = some type := fun heq => htype (Option.some.inj heq)
            rw [if_neg hne]
            simp only [Function.update_of_ne (Ne.symm htype)]

theorem propertyInfo_sizes (type : BufType) (s : Gen1Inst) :
    (((irisHfiGen1SessionPropertyInfo s).run mem).2.fwBufferSizes type).toNat =
      (statedSizes type s.inst mem).foldl max (s.fwBufferSizes type).toNat := by
  have hword : ∀ i, (word i).run mem = wordAt mem (4 * i) := fun _ => rfl
  simp only [irisHfiGen1SessionPropertyInfo, run_bind, hword, run_ite, Nat.mul_zero, Nat.reduceMul]
  unfold statedSizes requirementCount
  extract_lets reqBytes
  by_cases hsound : wordAt mem 12 = 1 ∧ wordAt mem 16 = hfiPropertyConfigBufferRequirements ∧
      reqBytes % 32 = 0
  · rw [if_pos hsound]
    obtain ⟨hnum, hproperty, hwhole⟩ := hsound
    by_cases hnone : reqBytes = 0
    · rw [if_pos (.inr (.inr (.inl hnone))), hnone]
      rfl
    · have hgood : ¬(wordAt mem 12 ≠ 1 ∨ wordAt mem 16 ≠ hfiPropertyConfigBufferRequirements ∨
          reqBytes = 0 ∨ reqBytes % 32 ≠ 0) := by
        rw [hnum, hproperty]
        simp [hnone, hwhole]
      rw [if_neg hgood]
      exact readRequirements_sizes type _ _ s
  · have hbad : wordAt mem 12 ≠ 1 ∨ wordAt mem 16 ≠ hfiPropertyConfigBufferRequirements ∨
        reqBytes = 0 ∨ reqBytes % 32 ≠ 0 := by
      by_contra hgood
      simp only [not_or, not_not] at hgood
      exact hsound ⟨hgood.1, hgood.2.1, hgood.2.2.2⟩
    rw [if_neg hsound, if_pos hbad]
    rfl

/-! ### Runs -/

/-- What an event tells of the sizes of a type. -/
def stated (type : BufType) : PoolEvent → PoolInst → List Nat
  | .message _ pktType mem, s =>
      if pktType = hfiMsgSessionPropertyInfo then statedSizes type s.base.inst mem else []
  | _, _ => []

/-- The responses of a run, as far as they concern a type. -/
def responses (type : BufType) (s : PoolInst) (moves : List PoolMove) : List (List Nat) :=
  poolMachine.seen (stated type) { state := s, thread := none } moves

def SameSizes (a s : PoolInst) : Prop := s.base.fwBufferSizes = a.base.fwBufferSizes

namespace SameSizes

variable {a s : PoolInst}

theorem create (hs : SameSizes a s) (env : PoolEnv) (plane : Plane) :
    SameSizes a (s.irisCreateInternalBuffers env plane).2 := by
  have hcreated : SameSizes a
      (PoolInst.forTypes (PoolInst.createType env) (decIntBufTbl plane) s).2 := by
    refine forTypes_keep (fun type _ s hs => ?_) hs
    by_cases htype : type = .dpb
    · subst htype
      by_cases hsize : s.size .dpb = 0
      · rw [PoolInst.createType, createFrom_empty env hsize]
        exact hs
      · obtain ⟨k, dpbs, hdpbs, -⟩ := createFrom_setDpbs env hsize (s.minCount .dpb).toNat 0
        rw [PoolInst.createType, hdpbs]
        exact hs
    · obtain ⟨list, hlist, -⟩ := createType_setList env htype s
      rw [hlist]
      exact hs
  cases plane with
  | output => exact hcreated
  | capture => exact hcreated

theorem queueType (hs : SameSizes a s) (ret : BufType → Nat → Int) (type : BufType) :
    SameSizes a (PoolInst.queueType ret type s).2 := by
  cases type <;> exact hs

theorem fill (hs : SameSizes a s) (env : PoolEnv) (type : BufType) :
    SameSizes a (s.irisFillInternalBufInfo env type) := by
  cases type <;> exact hs

theorem destroyTypes (hs : SameSizes a s) (force : Bool) (types : List BufType) :
    SameSizes a (types.foldl (PoolInst.destroyType force) s) :=
  List.foldlRecOn _ _ hs fun s hs type _ => by cases type <;> exact hs

/-- No call touches the table. -/
theorem frame : PoolFrame SameSizes where
  refl := fun _ => rfl
  session := fun _ _ _ hs => hs
  get := fun env plane a s hs => List.foldlRecOn (decIntBufTbl plane) _ hs
    fun s hs type _ => fill hs env type
  create := fun env plane a s hs => create hs env plane
  queue := fun ret plane a s hs => forTypes_keep (fun type _ s hs => queueType hs ret type) hs
  deferred := fun ret a s hs => hs
  persist := fun env a s hs => by
    unfold PoolInst.irisAllocAndQueuePersistBufs
    split_ifs
    · exact hs
    · refine orGoto_keep (P := fun r : Int × PoolInst => SameSizes a r.2) (Q := SameSizes a) ?_
        (fun _ _ => id) fun s hs => queueType hs env.queueRet .persist
      obtain ⟨list, hlist, -⟩ :=
        @createType_setList .persist env nofun (s.irisFillInternalBufInfo env .persist)
      rw [hlist]
      exact hs
  release := fun type k a s hs => hs
  dequeued := fun plane a s hs => destroyTypes hs false _
  all := fun plane a s hs => destroyTypes (destroyTypes hs true _) true [.persist]

end SameSizes

theorem handle_sizes (type : BufType) (event : PoolEvent) (s : PoolInst) :
    ((s.handle event).base.fwBufferSizes type).toNat =
      (stated type event s).foldl max (s.base.fwBufferSizes type).toNat := by
  have hkept : ∀ {t : PoolInst}, SameSizes s t →
      (t.base.fwBufferSizes type).toNat = (s.base.fwBufferSizes type).toNat :=
    fun hsame => congrArg (fun table => (table type).toNat) hsame
  cases event with
  | message env pktType mem =>
      by_cases hinfo : pktType = hfiMsgSessionPropertyInfo
      · subst hinfo
        exact propertyInfo_sizes type s.base
      · have hrule : BufferRule fun base => base.fwBufferSizes = s.base.fwBufferSizes :=
          fun _ _ _ hsizes hbase => hsizes.trans hbase
        rw [stated, if_neg hinfo]
        exact hkept (hrule.handleSession env hinfo rfl)
  | systemError => rfl
  | responseTimeout => rfl
  | cmd env dpbRet cmd => exact hkept (SameSizes.frame.decCmd env dpbRet cmd rfl)
  | startFlushed env dpbRet timedOut =>
      cases timedOut with
      | true => rfl
      | false => exact hkept (SameSizes.frame.startCmdFlushed env dpbRet rfl)
  | negotiated formats splitMode numBuffers => rfl

/-- **The recorded size** is the largest that any response has stated. -/
theorem runs_sizes (type : BufType) (s : PoolInst) (moves : List PoolMove) :
    ((poolMachine.runs s moves).state.base.fwBufferSizes type).toNat =
      (responses type s moves).flatten.foldl max (s.base.fwBufferSizes type).toNat := by
  rw [← foldl_reports]
  have hidle : Config.Framed SameSizes
      ({ state := s, thread := none } : Config PoolInst InstCall Int) := nofun
  refine @Machine.runs_seen _ _ _ _ _ _ poolMachine SameSizes _
    (fun s : PoolInst => (s.base.fwBufferSizes type).toNat) (stated type)
    (fun kept sizes => sizes.foldl max kept) ?_ (handle_sizes type) ?_ ?_ _ hidle moves
  · exact fun a s hsame => congrArg (fun table => (table type).toNat) hsame
  · intro call timedOut s t hresume
    obtain ⟨session, -, rfl⟩ := Option.map_eq_some_iff.1 hresume
    exact rfl
  · exact fun call s => SameSizes.frame.body call rfl

/-! ### The sizes that are used -/

/-- The recorded size, or the calculated one while there is none. -/
def exactSize (recorded calculated : U32) : U32 := if recorded ≠ 0 then recorded else calculated

theorem size_fill (env : PoolEnv) {s : PoolInst} (hlegacy : s.base.inst.legacyVpu5 = true) :
    (s.irisFillInternalBufInfo env type).size type =
      exactSize (s.base.fwBufferSizes type) (env.calculated type) := by
  have hsize : (s.irisFillInternalBufInfo env type).size type =
      if s.base.inst.legacyVpu5 ∧ s.base.fwBufferSizes type ≠ 0 then s.base.fwBufferSizes type
      else if env.calculated type < s.base.fwBufferSizes type then s.base.fwBufferSizes type
      else env.calculated type := by
    cases type with
    | dpb => rfl
    | _ => exact congrArg BufferPool.size (pool_setPool _)
  rw [hsize, exactSize]
  by_cases hnone : s.base.fwBufferSizes type = 0
  · have hbelow : ¬env.calculated type < 0 := BitVec.not_lt_zero
    rw [hnone, if_neg (fun h => h.2 rfl), if_neg hbelow, if_neg (not_not.2 rfl)]
  · rw [if_pos ⟨hlegacy, hnone⟩, if_pos hnone]

/-- The size is the largest one in the latest response that contains the type. -/
def Current (responses : List (List Nat)) (size : U32) : Prop :=
  ∀ response, latest responses = some response → size.toNat = peak response

/-- No response has stated more than the latest one, and this one has not stated zero. -/
def Refreshed (responses : List (List Nat)) (calculated : U32) : Prop :=
  ∀ response, latest responses = some response →
    (∀ size ∈ responses.flatten, size ≤ peak response) ∧ (peak response = 0 → calculated = 0)

theorem exactSize_current {responses : List (List Nat)} {recorded calculated : U32}
    (hrecorded : recorded.toNat = peak responses.flatten) :
    Current responses (exactSize recorded calculated) ↔ Refreshed responses calculated := by
  refine forall_congr' fun response => forall_congr' fun hlatest => ?_
  rw [← peak_eq_latest hlatest, ← hrecorded, exactSize]
  by_cases hnone : recorded = 0
  · subst hnone
    have hzero : peak response = 0 := by
      have hle : peak response ≤ peak responses.flatten := peak_le.2 fun size hsize =>
        peak_le.1 le_rfl size (List.mem_flatten.2 ⟨response, mem_of_latest hlatest, hsize⟩)
      rw [← hrecorded] at hle
      exact Nat.le_zero.1 hle
    rw [if_neg (not_not.2 rfl), hzero]
    simp [BitVec.toNat_eq]
  · have hpos : recorded.toNat ≠ 0 := fun h => hnone (BitVec.eq_of_toNat_eq h)
    rw [if_pos hnone]
    refine ⟨fun heq => ⟨heq, fun hzero => absurd (heq.trans hzero) hpos⟩, fun h => h.1⟩

/-! ### The size of the DPBs that is sent -/

section Sent

open Gen1Properties

/-- The sizes that the first configuration of the CAPTURE queue sends for `HFI_BUFFER_OUTPUT`. The
response to its query leaves the instance as `answered`. -/
def dpbSizesSent (env : PropertyEnv) (s : PropertyInst) (answered : Gen1Inst) : List U32 :=
  (irisHfiGen1SetFirstCaptureConfig { env with requirements := fun _ => (0, answered) }
    { s with calls := [] }).2.calls.filterMap fun call =>
  if call.ptype = .bufferSizeActual ∧ call.payload[0]? = some hfiBufferOutput then call.payload[1]?
  else none

/-- A call that sends no size for `HFI_BUFFER_OUTPUT` but this one. -/
def Sends (size : U32) (call : PropertyCall) : Prop :=
  call.ptype = .bufferSizeActual → call.payload[0]? = some hfiBufferOutput →
    call.payload[1]? = some size

/-- All calls so far send this size, and the instance is the one that has been answered. -/
structure Sending (size : U32) (answered : Gen1Inst) (s : PropertyInst) : Prop where
  base : s.base = answered
  calls : ∀ call ∈ s.calls, Sends size call

variable {size : U32} {answered : Gen1Inst} {env : PropertyEnv} {s : PropertyInst}

theorem calls_sent {ptype : Property} {payload : List U32} (hs : ∀ call ∈ s.calls, Sends size call)
    (hcall : ptype = .bufferSizeActual → payload[0]? = some hfiBufferOutput →
      payload[1]? = some size) :
    ∀ call ∈ (hfiGen1SetProperty env ptype payload s).2.calls, Sends size call := by
  obtain ⟨call, rfl, rfl, hlog⟩ := hfiGen1SetProperty_logs env ptype payload s
  rw [hlog]
  exact List.forall_mem_append.2 ⟨hs, List.forall_mem_singleton.2 hcall⟩

theorem Sending.setProperty {ptype : Property} {payload : List U32} (hs : Sending size answered s)
    (hcall : ptype = .bufferSizeActual → payload[0]? = some hfiBufferOutput →
      payload[1]? = some size) :
    Sending size answered (hfiGen1SetProperty env ptype payload s).2 := by
  refine ⟨?_, calls_sent hs.calls hcall⟩
  obtain ⟨call, -, -, hlog⟩ := hfiGen1SetProperty_logs env ptype payload s
  rw [hlog]
  exact hs.base

theorem calls_sentEach {ptype : Property} (htype : ptype ≠ .bufferSizeActual)
    (payloads : List (List U32)) (hs : ∀ call ∈ s.calls, Sends size call) :
    ∀ call ∈ (setEach env ptype payloads s).2.calls, Sends size call := by
  induction payloads generalizing s with
  | nil => exact hs
  | cons payload rest ih =>
      exact orGoto_keep (Q := fun s : PropertyInst => ∀ call ∈ s.calls, Sends size call)
        (P := fun r : Int × PropertyInst => ∀ call ∈ r.2.calls, Sends size call)
        (calls_sent hs fun h => absurd h htype) (fun _ _ => id) fun s hs => ih hs

/-- Every step of a chain of calls keeps `Q`, and the calls of the last state send the size. -/
theorem sent_orReturn {Q : PropertyInst → Prop} {first : Int × PropertyInst}
    {next : PropertyInst → Int × PropertyInst}
    (hcalls : ∀ s, Q s → ∀ call ∈ s.calls, Sends size call) (hfirst : Q first.2)
    (hnext : ∀ s, Q s → ∀ call ∈ (next s).2.calls, Sends size call) :
    ∀ call ∈ (orReturn first next).2.calls, Sends size call :=
  orGoto_keep (Q := Q) (P := fun r : Int × PropertyInst => ∀ call ∈ r.2.calls, Sends size call)
    hfirst (fun _ s hs => hcalls s hs) hnext

theorem firstCaptureConfig_sends (env : PropertyEnv) (answered : Gen1Inst)
    (hs : ∀ call ∈ s.calls, Sends size call)
    (hsize : size = exactSize (answered.fwBufferSizes .dpb) (env.calculated .dpb)) :
    ∀ call ∈ (irisHfiGen1SetFirstCaptureConfig
      { env with requirements := fun _ => (0, answered) } s).2.calls, Sends size call := by
  have hsame : ∀ s : PropertyInst, (∀ call ∈ s.calls, Sends size call) →
      ∀ call ∈ s.calls, Sends size call := fun _ => id
  have hkept : ∀ s, Sending size answered s → ∀ call ∈ s.calls, Sends size call :=
    fun _ hs => hs.calls
  have hformat : Property.uncompressedFormatSelect ≠ .bufferSizeActual := by decide
  refine sent_orReturn hsame ?_ fun s hs => ?_
  · split_ifs
    · refine sent_orReturn hsame (calls_sentEach hformat _ hs) fun s hs => ?_
      exact sent_orReturn hsame (calls_sent hs nofun) fun s hs => hs
    · exact hs
  · simp only
    split_ifs
    · exact hs
    · have hanswered : Sending size answered { s with base := answered } := ⟨rfl, hs⟩
      refine sent_orReturn hkept hanswered fun s hs => ?_
      refine sent_orReturn hkept (hs.setProperty nofun) fun s hs => ?_
      refine sent_orReturn hkept (hs.setProperty nofun) fun s hs => ?_
      refine sent_orReturn hkept (hs.setProperty fun _ hother => ?_) fun s hs => ?_
      · have houtput2 : hfiBufferOutput2 ≠ hfiBufferOutput := by decide
        exact absurd (Option.some.inj hother) houtput2
      refine sent_orReturn hkept (hs.setProperty fun _ _ => ?_) fun s hs => ?_
      · rw [hsize, ← hs.base]
        rfl
      exact calls_sent hs.calls nofun

theorem dpbSizesSent_eq (hsize : size ∈ dpbSizesSent env s answered) :
    size = exactSize (answered.fwBufferSizes .dpb) (env.calculated .dpb) := by
  obtain ⟨call, hcall, hsent⟩ := List.mem_filterMap.1 hsize
  have hnone : ∀ call ∈ ({ s with calls := [] } : PropertyInst).calls,
      Sends (exactSize (answered.fwBufferSizes .dpb) (env.calculated .dpb)) call :=
    List.forall_mem_nil _
  have hsends := firstCaptureConfig_sends env answered hnone rfl call hcall
  split_ifs at hsent with houtput
  exact Option.some.inj (hsent.symm.trans (hsends houtput.1 houtput.2))

end Sent

/-! ### Sizes over a run -/

/-- An instance as `iris_open` leaves it: no size has been stated. -/
def openedVpu5 (base : Gen1Inst) : PoolInst := .opened { base with fwBufferSizes := fun _ => 0 }

theorem recorded_eq (type : BufType) (base : Gen1Inst) (moves : List PoolMove) :
    ((poolMachine.runs (openedVpu5 base) moves).state.base.fwBufferSizes type).toNat =
      peak (responses type (openedVpu5 base) moves).flatten :=
  runs_sizes type (openedVpu5 base) moves

/-- **Sizes that the firmware states.** In every run, the size of an internal buffer and the size
that is sent for the DPBs are current if and only if the responses have never shrunk. -/
theorem firmware_sizes_current_iff (base : Gen1Inst) (moves : List PoolMove) {s : PoolInst}
    (hs : s = (poolMachine.runs (openedVpu5 base) moves).state)
    (hlegacy : s.base.inst.legacyVpu5 = true) :
    (∀ env type, Current (responses type (openedVpu5 base) moves)
        ((s.irisFillInternalBufInfo env type).size type) ↔
      Refreshed (responses type (openedVpu5 base) moves) (env.calculated type)) ∧
    ∀ env inst, ∀ size ∈ dpbSizesSent env inst s.base,
      (Current (responses .dpb (openedVpu5 base) moves) size ↔
        Refreshed (responses .dpb (openedVpu5 base) moves) (env.calculated .dpb)) := by
  subst hs
  constructor
  · intro env type
    rw [size_fill env hlegacy]
    exact exactSize_current (recorded_eq type base moves)
  · intro env inst size hsize
    rw [dpbSizesSent_eq hsize]
    exact exactSize_current (recorded_eq .dpb base moves)

/-! ### A sequence that needs less -/

def vpu5Base : Gen1Inst :=
  { (openedPools true 4).base with
    inst := { openedDecoder .gen1 .h264 true with splitMode := true } }

def vpu5Inst : Gen1Properties.PropertyInst :=
  { Gen1Properties.streamingEncoder with base := vpu5Base }

/-- A response with one requirement. -/
def requirement (type size : U32) : PoolMove :=
  .event (.message takenEnv hfiMsgSessionPropertyInfo (wordMemory
    [(0, 52), (4, hfiMsgSessionPropertyInfo), (8, 1), (12, 1),
      (16, hfiPropertyConfigBufferRequirements), (20, type), (24, size)]))

/-- The DPBs of the second sequence are smaller. -/
def shrunk : List PoolMove := [requirement 0x2 8192, requirement 0x2 4096]

theorem responses_shrunk : responses .dpb (openedVpu5 vpu5Base) shrunk = [[8192], [4096]] := by
  decide +kernel

theorem firmware_sizes_current_iff_shrunk :
    (∀ env type, Current (responses type (openedVpu5 vpu5Base) shrunk)
        (((poolMachine.runs (openedVpu5 vpu5Base) shrunk).state.irisFillInternalBufInfo env
          type).size type) ↔
      Refreshed (responses type (openedVpu5 vpu5Base) shrunk) (env.calculated type)) ∧
    ∀ env inst, ∀ size ∈ dpbSizesSent env inst
        (poolMachine.runs (openedVpu5 vpu5Base) shrunk).state.base,
      (Current (responses .dpb (openedVpu5 vpu5Base) shrunk) size ↔
        Refreshed (responses .dpb (openedVpu5 vpu5Base) shrunk) (env.calculated .dpb)) :=
  firmware_sizes_current_iff vpu5Base shrunk rfl rfl

/-- The latest response asks for 4096 bytes, and 8192 are used and sent. -/
theorem firmware_sizes_outdated :
    ((poolMachine.runs (openedVpu5 vpu5Base) shrunk).state.irisFillInternalBufInfo plentiful
        .dpb).size .dpb = 8192 ∧
      ¬Current (responses .dpb (openedVpu5 vpu5Base) shrunk) 8192 ∧
      dpbSizesSent Gen1Properties.grantedEnv vpu5Inst
        (poolMachine.runs (openedVpu5 vpu5Base) shrunk).state.base = [8192] := by
  refine ⟨by decide +kernel, fun hcurrent => ?_, by decide +kernel⟩
  rw [responses_shrunk] at hcurrent
  exact absurd (hcurrent [4096] rfl) (by decide)

end NabuIris
