import NabuIris.Gen1Properties
import NabuIris.Proof.Interference

/-!
# The size of a property packet

Two sizes meet in a packet that sets a property: its caller sizes the allocation by the payload, and
the builder sizes the packet by a structure of its own. The packet lies in its allocation when the
structure is no larger than the payload. That is so of every call but those that set the bitrate and
the entropy mode: they pass one word for a structure of two.
-/

namespace NabuIris.Gen1Properties

open Lib Lib.Reading Lib.Writing

variable {env : PropertyEnv} {s : PropertyInst} {call : PropertyCall} {ptype : Property}
  {p010 : Bool} {pdata : Nat → U32} {words : List (Nat × U32)} {size : Nat} {plane : Plane}

/-- What is stored to the packet, and what is copied from it to the command queue, lies in its
allocation. -/
def PropertyCall.Contained (call : PropertyCall) : Prop :=
  call.allocated →
    (∀ word ∈ call.built.2, word.1 + 4 ≤ call.packetSize) ∧ call.hdrSize ≤ call.packetSize

/-! ### The builder -/

/-- The size of the structure of a property. -/
def Property.dataSize : Property → Nat
  | .absent | .bufferAllocMode => 0
  | .videocoresUsage | .vdecOutputOrder | .workMode | .workRoute => 4
  | .vencSyncFrameSequenceHeader | .vencRateControl => 4
  | .uncompressedFormatSelect | .vdecMultiStream | .bufferSizeActual | .profileLevelCurrent => 8
  | .frameRate | .vencTargetBitrate | .vencIntraPeriod | .vencH264EntropyControl => 8
  | .frameSize | .bufferCountActual => 12
  | .uncompressedPlaneActualInfo => 24
  | .uncompressedPlaneActualConstraintsInfo => 40
  | .vencSessionQpRangeV2 => 64

theorem Property.dataSize_le (ptype : Property) : ptype.dataSize ≤ 64 := by
  cases ptype <;> decide

/-- Every branch stays in the structure by which it sizes the packet. -/
theorem propData_fits (hdata : propData p010 pdata ptype = .ok (words, size)) :
    size = ptype.dataSize ∧ ∀ word ∈ words, 4 * word.1 + 4 ≤ size := by
  revert hdata
  cases ptype <;> simp only [propData, qpRangeData, constraintsData] <;> (try split_ifs) <;>
    rintro ⟨⟩ <;> exact ⟨rfl, by simp⟩

/-- The five words of the header come first, and the size first of them. -/
theorem wordAt_header (mem : Memory) (w cmd sessionId n id : U32) :
    wordAt (storeWords [(0, w), (4, cmd), (8, sessionId), (12, n), (16, id)] mem) 0 = w := by
  simp only [storeWords, List.foldl_cons, List.foldl_nil]
  rw [wordAt_storeWord_outside (by decide), wordAt_storeWord_outside (by decide),
    wordAt_storeWord_outside (by decide), wordAt_storeWord_outside (by decide), wordAt_storeWord]

theorem wordAt_storeWords_last (stores : List (Nat × U32)) (w : U32) (mem : Memory) (offset : Nat) :
    wordAt (storeWords (stores ++ [(offset, w)]) mem) offset = w := by
  rw [storeWords, List.foldl_append]
  exact wordAt_storeWord _ _ _

namespace PropertyCall

/-- The words of the call that the builder reads. -/
abbrev word (call : PropertyCall) (i : Nat) : U32 := call.payload.getD i 0

theorem contained_of_rejected {ret : Int}
    (hdata : propData call.p010 call.word call.ptype = .error ret) : call.Contained := by
  intro _
  have hbuilt : call.built =
      (ret, [(0, BitVec.ofNat 32 setPropertyPktSize), (4, hfiCmdSessionSetProperty),
        (8, call.sessionId), (12, 1), (16, call.ptype.id)]) := by
    rw [built, irisHfiGen1PacketSessionSetProperty, hdata]
  have hsize : call.hdrSize = setPropertyPktSize := by
    rw [hdrSize, hbuilt, wordAt_header]
    rfl
  have hroom : setPropertyPktSize + 4 ≤ call.packetSize := Nat.le_add_right _ _
  refine ⟨fun word hword => ?_, by omega⟩
  rw [hbuilt] at hword
  have hoffset : word.1 + 4 ≤ setPropertyPktSize + 4 := by
    simp only [List.mem_cons, List.not_mem_nil, or_false] at hword
    rcases hword with rfl | rfl | rfl | rfl | rfl <;> simp [setPropertyPktSize]
  omega

theorem contained_iff_of_built (hdata : propData call.p010 call.word call.ptype = .ok (words, size))
    (halloc : call.allocated = true) :
    call.Contained ↔ call.ptype.dataSize ≤ 4 * call.payload.length := by
  obtain ⟨hsize, hwords⟩ := propData_fits hdata
  have hsmall := call.ptype.dataSize_le
  have hbuilt : call.built =
      (0, [(0, BitVec.ofNat 32 setPropertyPktSize), (4, hfiCmdSessionSetProperty),
        (8, call.sessionId), (12, 1), (16, call.ptype.id)] ++
        words.map (fun word => (20 + 4 * word.1, word.2)) ++
        [(0, BitVec.ofNat 32 (setPropertyPktSize + (4 + size)))]) := by
    rw [built, irisHfiGen1PacketSessionSetProperty, hdata]
  have hhdr : call.hdrSize = 20 + call.ptype.dataSize := by
    rw [hdrSize, hbuilt, wordAt_storeWords_last, BitVec.toNat_ofNat, hsize, setPropertyPktSize]
    omega
  have hpacket : call.packetSize = 20 + 4 * call.payload.length := rfl
  constructor
  · intro hcontained
    have := (hcontained halloc).2
    omega
  · intro hfits _
    refine ⟨fun word hword => ?_, by omega⟩
    rw [hbuilt] at hword
    simp only [List.mem_append, List.mem_cons, List.mem_map, List.not_mem_nil, or_false] at hword
    rcases hword with ((rfl | rfl | rfl | rfl | rfl) | ⟨word, hword, rfl⟩) | rfl
    case inl.inr =>
      have := hwords word hword
      simp only
      omega
    all_goals simp only; omega

end PropertyCall

/-! ### The callers -/

/-- The bytes that every caller passes for a property. -/
def Property.payloadSize : Property → Nat
  | .vencTargetBitrate | .vencH264EntropyControl => 4
  | ptype => ptype.dataSize

def PropertyCall.Sized (call : PropertyCall) : Prop :=
  4 * call.payload.length = call.ptype.payloadSize

def PropertyInst.AllSized (s : PropertyInst) : Prop := ∀ call ∈ s.calls, call.Sized

theorem orReturn_sized {call : Int × PropertyInst} {next : PropertyInst → Int × PropertyInst}
    (hcall : call.2.AllSized) (hnext : ∀ s, s.AllSized → (next s).2.AllSized) :
    (orReturn call next).2.AllSized :=
  orGoto_keep (Q := PropertyInst.AllSized)
    (P := fun result : Int × PropertyInst => result.2.AllSized) hcall (fun _ _ hs => hs) hnext

/-- A call changes nothing but the log. -/
theorem hfiGen1SetProperty_logs (env : PropertyEnv) (ptype : Property) (payload : List U32)
    (s : PropertyInst) : ∃ call : PropertyCall, call.ptype = ptype ∧ call.payload = payload ∧
      (hfiGen1SetProperty env ptype payload s).2 = { s with calls := s.calls ++ [call] } := by
  simp only [hfiGen1SetProperty, orReturn, orGoto]
  split_ifs <;> exact ⟨_, rfl, rfl, rfl⟩

theorem hfiGen1SetProperty_sized {payload : List U32} (hs : s.AllSized)
    (hsize : 4 * payload.length = ptype.payloadSize) :
    (hfiGen1SetProperty env ptype payload s).2.AllSized := by
  obtain ⟨call, rfl, rfl, hlog⟩ := hfiGen1SetProperty_logs env ptype payload s
  rw [hlog]
  exact List.forall_mem_append.2 ⟨hs, List.forall_mem_singleton.2 hsize⟩

theorem setEach_sized {payloads : List (List U32)} (hs : s.AllSized)
    (hsize : ∀ payload ∈ payloads, 4 * payload.length = ptype.payloadSize) :
    (setEach env ptype payloads s).2.AllSized := by
  induction payloads generalizing s with
  | nil => exact hs
  | cons payload rest ih =>
      refine orReturn_sized (hfiGen1SetProperty_sized hs (hsize payload (List.mem_cons_self ..)))
        fun s hs => ih hs fun other hother => hsize other (List.mem_cons_of_mem _ hother)

/-! ### The handlers -/

theorem irisHfiGen1SetResolution_sized (hs : s.AllSized) :
    (irisHfiGen1SetResolution env s).2.AllSized := by
  refine setEach_sized hs ?_
  simp only [List.mem_append, List.mem_singleton]
  rintro payload (hinput | rfl)
  · split_ifs at hinput with hdrc
    · simp at hinput
    · rw [List.mem_singleton.1 hinput]
      rfl
  · rfl

theorem irisHfiGen1DecideCore_sized (hs : s.AllSized) :
    (irisHfiGen1DecideCore env s).2.AllSized := by
  refine orGoto_keep (Q := PropertyInst.AllSized)
    (P := fun result : Int × PropertyInst => result.2.AllSized)
    (hfiGen1SetProperty_sized hs rfl) (fun ret s hs => ?_) fun s hs => hs
  simp only
  split_ifs
  · exact hs
  · exact hs

theorem irisHfiGen1SetRawFormat_sized (hs : s.AllSized) :
    (irisHfiGen1SetRawFormat env s).2.AllSized := by
  refine setEach_sized hs ?_
  split
  · split_ifs <;> simp [Property.payloadSize, Property.dataSize]
  · simp [Property.payloadSize, Property.dataSize]

theorem irisHfiGen1SetFormatConstraints_sized (hs : s.AllSized) :
    (irisHfiGen1SetFormatConstraints env s).2.AllSized :=
  hfiGen1SetProperty_sized hs rfl

theorem irisHfiGen1SetNumBufs_sized (hs : s.AllSized) :
    (irisHfiGen1SetNumBufs env s).2.AllSized := by
  refine setEach_sized hs ?_
  split_ifs <;> simp [bufferCountActual, Property.payloadSize, Property.dataSize]

theorem irisHfiGen1SetMultistream_sized (hs : s.AllSized) :
    (irisHfiGen1SetMultistream env s).2.AllSized := by
  refine setEach_sized hs ?_
  split_ifs <;> simp [Property.payloadSize, Property.dataSize]

theorem irisHfiGen1SetBufsize_sized (hs : s.AllSized) :
    (irisHfiGen1SetBufsize env s).2.AllSized := by
  refine setEach_sized hs ?_
  split_ifs <;> simp [Property.payloadSize, Property.dataSize]

theorem irisHfiGen1SetFrameRate_sized (hs : s.AllSized) :
    (irisHfiGen1SetFrameRate env plane s).2.AllSized := by
  cases plane with
  | output => exact hs
  | capture => exact hfiGen1SetProperty_sized hs rfl

theorem irisHfiGen1SetStride_sized (hs : s.AllSized) :
    (irisHfiGen1SetStride env s).2.AllSized :=
  hfiGen1SetProperty_sized hs rfl

theorem irisSetProfileLevelGen1_sized {cap : FwCap} (hcap : cap.hfiId = .profileLevelCurrent)
    (hs : s.AllSized) : (irisSetProfileLevelGen1 env cap s).2.AllSized := by
  simp only [irisSetProfileLevelGen1, hcap]
  split
  · exact hs
  · exact hfiGen1SetProperty_sized hs rfl

theorem irisHfiGen1SetFirstCaptureConfig_sized (hs : s.AllSized) :
    (irisHfiGen1SetFirstCaptureConfig env s).2.AllSized := by
  refine orReturn_sized ?_ fun s hs => ?_
  · split_ifs
    · exact orReturn_sized (irisHfiGen1SetRawFormat_sized hs) fun s hs =>
        orReturn_sized (irisHfiGen1SetFormatConstraints_sized hs) fun s hs => hs
    · exact hs
  · simp only
    split_ifs
    · exact hs
    · exact orReturn_sized hs fun s hs =>
        orReturn_sized (hfiGen1SetProperty_sized hs rfl) fun s hs =>
        orReturn_sized (hfiGen1SetProperty_sized hs rfl) fun s hs =>
        orReturn_sized (hfiGen1SetProperty_sized hs rfl) fun s hs =>
        orReturn_sized (hfiGen1SetProperty_sized hs rfl) fun s hs =>
        hfiGen1SetProperty_sized hs rfl

theorem propTypeHandle_sized {domain : Domain} {handle : PropertyInst → Int × PropertyInst}
    (hhandle : propTypeHandle env plane domain ptype = some handle) (hs : s.AllSized) :
    (handle s).2.AllSized := by
  cases domain with
  | decoder =>
      cases ptype with
      | frameSize =>
          cases hhandle
          exact irisHfiGen1SetResolution_sized hs
      | videocoresUsage =>
          simp only [propTypeHandle] at hhandle
          split_ifs at hhandle
          cases hhandle
          exact irisHfiGen1DecideCore_sized hs
      | uncompressedFormatSelect =>
          cases hhandle
          exact irisHfiGen1SetRawFormat_sized hs
      | uncompressedPlaneActualConstraintsInfo =>
          cases hhandle
          exact irisHfiGen1SetFormatConstraints_sized hs
      | bufferCountActual =>
          cases hhandle
          exact irisHfiGen1SetNumBufs_sized hs
      | vdecMultiStream =>
          cases hhandle
          exact irisHfiGen1SetMultistream_sized hs
      | bufferSizeActual =>
          cases hhandle
          exact irisHfiGen1SetBufsize_sized hs
      | _ => cases hhandle
  | encoder =>
      cases ptype with
      | frameRate =>
          cases hhandle
          exact irisHfiGen1SetFrameRate_sized hs
      | uncompressedPlaneActualInfo =>
          cases hhandle
          exact irisHfiGen1SetStride_sized hs
      | frameSize =>
          cases hhandle
          exact irisHfiGen1SetResolution_sized hs
      | uncompressedFormatSelect =>
          cases hhandle
          exact irisHfiGen1SetRawFormat_sized hs
      | bufferCountActual =>
          cases hhandle
          exact irisHfiGen1SetNumBufs_sized hs
      | _ => cases hhandle

theorem setConfigParams_sized {domain : Domain} {params : List Property} (hs : s.AllSized) :
    (setConfigParams env plane domain params s).2.AllSized := by
  induction params generalizing s with
  | nil => exact hs
  | cons ptype rest ih =>
      rw [setConfigParams]
      split
      case h_1 handle hhandle =>
        exact orReturn_sized (propTypeHandle_sized hhandle hs) fun s hs => ih hs
      case h_2 => exact ih hs

theorem irisHfiGen1SessionSetConfigParams_sized (hs : s.AllSized) :
    (irisHfiGen1SessionSetConfigParams env plane s).2.AllSized := by
  simp only [irisHfiGen1SessionSetConfigParams]
  split_ifs
  · exact irisHfiGen1SetFirstCaptureConfig_sized hs
  · refine orReturn_sized (setConfigParams_sized hs) fun s hs => ?_
    cases plane with
    | output => exact hs
    | capture => exact hs

theorem FwCap.set_sized {cap : FwCap} {set : PropertyInst → Int × PropertyInst}
    (hset : cap.set env = some set) (hs : s.AllSized) : (set s).2.AllSized := by
  cases cap with
  | profileH264 | profileHevc | levelH264 | levelHevc =>
      cases hset
      exact irisSetProfileLevelGen1_sized rfl hs
  | frameSkipMode | frameRcEnable => cases hset
  | entropyMode =>
      cases hset
      rw [irisSetEntropyModeGen1]
      split
      · exact hs
      · exact hfiGen1SetProperty_sized hs rfl
  | _ =>
      cases hset
      exact hfiGen1SetProperty_sized hs rfl

theorem applyCap_sized {cap : FwCap} (hs : s.AllSized) : (applyCap env s cap).AllSized := by
  unfold applyCap
  split
  case h_1 set hset => exact cap.set_sized hset hs
  case h_2 => exact hs

theorem irisSetProperties_sized (hs : s.AllSized) :
    (irisSetProperties env plane s).2.AllSized := by
  refine orReturn_sized (irisHfiGen1SessionSetConfigParams_sized hs) fun s hs => ?_
  exact List.foldlRecOn _ _ hs fun s hs cap _ => applyCap_sized hs

/-! ### The callers -/

theorem PropertyCaller.run_sized (caller : PropertyCaller) (hs : s.AllSized) :
    (caller.run env s).2.AllSized := by
  cases caller with
  | vdecStreamonInput =>
      refine orReturn_sized (irisSetProperties_sized hs) fun s hs => ?_
      split_ifs
      · exact hfiGen1SetProperty_sized hs rfl
      · exact hs
  | vdecStreamonOutput => exact irisHfiGen1SessionSetConfigParams_sized hs
  | vencStreamon plane => exact irisSetProperties_sized hs
  | processStreamonOutput =>
      simp only [run, irisProcessStreamonOutput]
      split_ifs
      · exact orReturn_sized (hfiGen1SetProperty_sized hs rfl) fun s hs =>
          hfiGen1SetProperty_sized hs rfl
      · exact hs
  | sCtrl cap val =>
      simp only [run, irisOpSCtrl]
      split_ifs
      · exact hs
      · exact applyCap_sized hs
      · exact hs

theorem propertyCalls_sized {steps : List PropertyStep} (hcall : call ∈ propertyCalls steps s) :
    call.Sized := by
  have hnone : ({ s with calls := [] } : PropertyInst).AllSized := List.forall_mem_nil _
  have hstep : ∀ s : PropertyInst, s.AllSized → ∀ step ∈ steps,
      (PropertyStep.apply s step).AllSized := fun s hs step _ => step.caller.run_sized hs
  exact List.foldlRecOn steps PropertyStep.apply hnone hstep call hcall

/-! ### The packets -/

theorem propData_short (p010 : Bool) (pdata : Nat → U32)
    (hptype : ptype = .vencTargetBitrate ∨ ptype = .vencH264EntropyControl) :
    ∃ words, propData p010 pdata ptype = .ok (words, 8) := by
  rcases hptype with rfl | rfl
  · exact ⟨_, rfl⟩
  · exact ⟨_, rfl⟩

theorem dataSize_le_payloadSize (hbitrate : ptype ≠ .vencTargetBitrate)
    (hentropy : ptype ≠ .vencH264EntropyControl) : ptype.dataSize ≤ ptype.payloadSize := by
  cases ptype <;> first | exact Nat.le_refl _ | contradiction

/-- **Property packets.** In every run of the driver, the packet of a call lies in its allocation if
and only if there is none, or the call sets neither the bitrate nor the entropy mode. -/
theorem set_property_contained_iff {steps : List PropertyStep}
    (hcall : call ∈ propertyCalls steps s) :
    call.Contained ↔ call.allocated = false ∨
      (call.ptype ≠ .vencTargetBitrate ∧ call.ptype ≠ .vencH264EntropyControl) := by
  have hsized : 4 * call.payload.length = call.ptype.payloadSize := propertyCalls_sized hcall
  by_cases halloc : call.allocated = true
  case neg =>
    have hnone : call.allocated = false := Bool.eq_false_iff.2 halloc
    exact ⟨fun _ => .inl hnone, fun _ h => absurd h halloc⟩
  by_cases hshort : call.ptype = .vencTargetBitrate ∨ call.ptype = .vencH264EntropyControl
  · obtain ⟨words, hdata⟩ := propData_short call.p010 call.word hshort
    rw [PropertyCall.contained_iff_of_built hdata halloc]
    rcases hshort with hptype | hptype
    · simp_all [Property.payloadSize, Property.dataSize]
    · simp_all [Property.payloadSize, Property.dataSize]
  · rw [not_or] at hshort
    have hfits := dataSize_le_payloadSize hshort.1 hshort.2
    refine iff_of_true ?_ (.inr hshort)
    cases hdata : propData call.p010 call.word call.ptype with
    | error ret => exact PropertyCall.contained_of_rejected hdata
    | ok data =>
        have hbuilt : propData call.p010 call.word call.ptype = .ok (data.1, data.2) := hdata
        rw [PropertyCall.contained_iff_of_built hbuilt halloc]
        omega

/-! ### A control of an encoder -/

def grantedEnv : PropertyEnv where
  numVppPipe := 4
  others := []
  calculated := fun _ => 4096
  kzalloc := fun _ => true
  queueRet := fun _ => 0
  requirements := fun base => (0, base)

def streamingEncoder : PropertyInst where
  base :=
    { Gen1Message.probe .encoder false 1 0 0 with
      formats := { Gen1Message.probeFormats with rawFormat := .nv12 } }
  hfiCoreId := 0
  frameRate := 30
  srcNv12 := true
  displayDelayEnable := false
  displayDelay := 0
  capValue := fun _ => 0
  calls := []

/-- The client changes the bitrate while the encoder runs. -/
def setBitrate : PropertyStep where
  between := id
  env := grantedEnv
  caller := .sCtrl .bitrate 1000000

def bitrateCall : PropertyCall where
  ptype := .vencTargetBitrate
  payload := [1000000]
  sessionId := 1
  p010 := false
  allocated := true

theorem bitrateCall_made : propertyCalls [setBitrate] streamingEncoder = [bitrateCall] := rfl

theorem set_property_contained_iff_bitrate :
    bitrateCall.Contained ↔ bitrateCall.allocated = false ∨
      (bitrateCall.ptype ≠ .vencTargetBitrate ∧ bitrateCall.ptype ≠ .vencH264EntropyControl) :=
  have hmade : bitrateCall ∈ propertyCalls [setBitrate] streamingEncoder :=
    bitrateCall_made ▸ List.mem_singleton_self bitrateCall
  set_property_contained_iff hmade

/-- The packet of 24 bytes gets a word at offset 24, and 28 of its bytes are copied. -/
theorem set_property_overruns :
    ∃ call ∈ propertyCalls [setBitrate] streamingEncoder,
      ¬call.Contained ∧ call.packetSize = 24 ∧ (24, 0) ∈ call.built.2 ∧ call.hdrSize = 28 := by
  have hstore : (24, 0) ∈ bitrateCall.built.2 := by decide
  rw [bitrateCall_made]
  refine ⟨bitrateCall, List.mem_singleton_self _, fun hcontained => ?_, rfl, hstore, by decide⟩
  exact absurd ((hcontained rfl).1 (24, 0) hstore) (by decide)

end NabuIris.Gen1Properties
