import NabuIris.Gen1Message
import NabuIris.Lib.Stale

/-!
# What is left over from earlier messages

A message is *settled* when the bytes that it declares pin down all that its handlers make of it.
The bytes behind them change nothing exactly then.
-/

namespace NabuIris.Gen1Message

open Lib Lib.Reading

variable {mem mem' : Memory} {limit n data : Nat} {event event' : HfiEventData} {legacy : Bool}

/-! ### Messages -/

/-- `hdr->size` -/
def hdrSize (mem : Memory) : Nat := (wordAt mem 0).toNat

/-- The message passes the size check. -/
def Admitted (mem : Memory) : Prop :=
  ∃ pktSz, pktInfos.lookup (wordAt mem 4) = some pktSz ∧ pktSz ≤ hdrSize mem

/-- The domain of the instance that a message is for, and whether it is in a source change. -/
abbrev Addressee := Option (Domain × Bool)

def addressee (core : Gen1Core) (sessionId : U32) : Addressee :=
  (irisGetInstance core sessionId).map fun i =>
    ((core.inst i).inst.domain, hasFlag (core.inst i).inst.subState subDrc)

/-- Two contents of the packet buffer that agree on the declared bytes have the same effect, on
every core where the message finds such an addressee. -/
def Noninterfering (target : Addressee) (mem : Memory) : Prop :=
  Admitted mem →
    ∀ env core, addressee core (wordAt mem 8) = target →
      ∀ m₁ m₂, AgreeBelow (hdrSize mem) mem m₁ → AgreeBelow (hdrSize mem) mem m₂ →
        (irisHfiGen1HandleResponse env core).run m₁ = (irisHfiGen1HandleResponse env core).run m₂

/-! ### Settled messages -/

def supportedDepth (depth : U32) : Bool := depth == hfiBitDepth8 || depth == hfiBitDepth10

/-- What the instance makes of a property is settled by the bytes below the limit. -/
def ChangedProperty.Settled (limit : Nat) (mem : Memory) (data : Nat) : ChangedProperty → Prop
  | frameSize => data + 12 ≤ limit
  | profileLevelCurrent => True
  | pixelBitdepth => data + 8 ≤ limit ∨
      ∀ depth, MayBe limit mem (data + 4) depth → supportedDepth depth = false
  | picStruct => data + 4 ≤ limit ∨ ¬MayBe limit mem data 0
  | colourSpace => data + 4 ≤ limit
  | entropy => True
  | bufferRequirements => data + 20 ≤ limit
  | inputCrop => data + 28 ≤ limit ∨ (data + 24 ≤ limit ∧ wordAt mem (data + 20) = 0)
  | dpbCounts => data + 20 ≤ limit

/-- The loop over the properties sees only types that it does not know, or settled properties. -/
def SequenceSettled (limit : Nat) (mem : Memory) : Nat → Nat → Prop
  | 0, _ => True
  | n + 1, dataPtr => ∀ ptype property, MayBe limit mem dataPtr ptype →
      ChangedProperty.ofType ptype = some property →
        property.Settled limit mem (dataPtr + 4) ∧
          SequenceSettled limit mem n (dataPtr + 4 + property.size)

/-- Of a decoder's frame the tag is declared, and the picture type or that it is none. -/
def FrameSettled (limit : Nat) (mem : Memory) : Prop :=
  92 ≤ limit ∨
    (88 ≤ limit ∧ ∀ picType, MayBe limit mem 88 picType → pictureType picType = .other)

structure Settled (target : Addressee) (mem : Memory) : Prop where
  frame : wordAt mem 4 = hfiMsgSessionFillBuffer → (∃ drc, target = some (.decoder, drc)) →
    FrameSettled (hdrSize mem) mem
  sequence : wordAt mem 4 = hfiMsgEventNotify →
    wordAt mem 12 = hfiEventSessionSequenceChanged → (∃ domain, target = some (domain, false)) →
      (wordAt mem 16 = hfiEventDataSequenceChangedSufficientBufResources ∨
        wordAt mem 16 = hfiEventDataSequenceChangedInsufficientBufResources) →
      SequenceSettled (hdrSize mem) mem (wordAt mem 20).toNat 24

/-! ### Words -/

@[simp]
theorem within_word (i : Nat) : Within limit mem (word i) ↔ 4 * i + 4 ≤ limit := within_u32 _

@[simp]
theorem run_word (i : Nat) : (word i).run mem = wordAt mem (4 * i) := rfl

/-! ### Properties -/

/-- An event up to what nobody tells apart: depths that are not supported, kinds of progressive
content, and empty crops. -/
def normal (event : HfiEventData) : HfiEventData :=
  { event with
    bitDepth := if supportedDepth event.bitDepth then event.bitDepth else 1
    picStruct := if event.picStruct = 0 then 0 else 1
    inputCrop :=
      if 0 < event.inputCrop.width ∧ 0 < event.inputCrop.height then event.inputCrop
      else noEvent.inputCrop }

theorem read_settled {property : ChangedProperty} (hagree : AgreeBelow limit mem mem')
    (hsettled : property.Settled limit mem data) (hnormal : normal event = normal event') :
    normal ((property.read legacy data event).run mem) =
      normal ((property.read legacy data event').run mem') := by
  have hword : ∀ offset, offset + 4 ≤ limit → wordAt mem' offset = wordAt mem offset :=
    fun offset hle => (hagree.wordAt_eq hle).symm
  have hmay : ∀ offset, MayBe limit mem offset (wordAt mem' offset) := fun _ => hagree.mayBe
  obtain ⟨hwidth, hheight, hdepth, hpic, hcolour, hcount, hcrop⟩ :
      event.width = event'.width ∧ event.height = event'.height ∧ _ := by
    simpa only [normal, HfiEventData.mk.injEq] using hnormal
  cases property with
  | frameSize =>
      have hle : data + 12 ≤ limit := hsettled
      simp only [ChangedProperty.read, run_bind, run_pure, run_u32, normal, HfiEventData.mk.injEq]
      exact ⟨(hword _ (by omega)).symm, (hword _ (by omega)).symm, hdepth, hpic, hcolour, hcount,
        hcrop⟩
  | profileLevelCurrent => exact hnormal
  | entropy => exact hnormal
  | pixelBitdepth =>
      simp only [ChangedProperty.read, run_bind, run_pure, run_u32, normal, HfiEventData.mk.injEq]
      refine ⟨hwidth, hheight, ?_, hpic, hcolour, hcount, hcrop⟩
      rcases hsettled with hle | hnone
      · rw [hword _ (by omega)]
      · rw [hnone _ (hmay _), hnone _ (AgreeBelow.refl.mayBe)]
        rfl
  | picStruct =>
      simp only [ChangedProperty.read, run_bind, run_pure, run_u32, normal, HfiEventData.mk.injEq]
      refine ⟨hwidth, hheight, hdepth, ?_, hcolour, hcount, hcrop⟩
      rcases hsettled with hle | hnone
      · rw [hword _ (by omega)]
      · have hne : ∀ w, MayBe limit mem data w → w ≠ 0 := fun w hw hzero => hnone (hzero ▸ hw)
        rw [if_neg (hne _ (hmay _)), if_neg (hne _ AgreeBelow.refl.mayBe)]
  | colourSpace =>
      have hle : data + 4 ≤ limit := hsettled
      simp only [ChangedProperty.read, run_bind, run_pure, run_u32, normal, HfiEventData.mk.injEq]
      exact ⟨hwidth, hheight, hdepth, hpic, (hword _ (by omega)).symm, hcount, hcrop⟩
  | bufferRequirements =>
      have hle : data + 20 ≤ limit := hsettled
      simp only [ChangedProperty.read, run_bind, run_pure, run_u32, normal, HfiEventData.mk.injEq]
      refine ⟨hwidth, hheight, hdepth, hpic, hcolour, (hword _ ?_).symm, hcrop⟩
      split <;> omega
  | inputCrop =>
      simp only [ChangedProperty.read, run_bind, run_pure, run_u32, normal, HfiEventData.mk.injEq]
      refine ⟨hwidth, hheight, hdepth, hpic, hcolour, hcount, ?_⟩
      rcases hsettled with hle | ⟨hle, hzero⟩
      · rw [hword _ (by omega), hword _ (by omega), hword _ (by omega), hword _ (by omega)]
      · have hempty : ∀ h : U32, ¬((0 : U32) < 0 ∧ 0 < h) := fun h hand =>
          absurd hand.1 (by decide)
        rw [hword (data + 20) (by omega), hzero, if_neg (hempty _), if_neg (hempty _)]
  | dpbCounts =>
      have hle : data + 20 ≤ limit := hsettled
      simp only [ChangedProperty.read, run_bind, run_pure, run_u32, normal, HfiEventData.mk.injEq]
      exact ⟨hwidth, hheight, hdepth, hpic, hcolour, (hword _ (by omega)).symm, hcrop⟩

/-! ### The loop over the properties -/

theorem readProperties_unknown {dataPtr : Nat}
    (hunknown : ChangedProperty.ofType (wordAt mem dataPtr) = none) :
    (readProperties legacy n dataPtr event).run mem = event := by
  induction n with
  | zero => rfl
  | succ n ih =>
      rw [readProperties, run_bind, run_u32, hunknown]
      exact ih

theorem readProperties_known {property : ChangedProperty} {dataPtr : Nat}
    (hknown : ChangedProperty.ofType (wordAt mem dataPtr) = some property) :
    (readProperties legacy (n + 1) dataPtr event).run mem =
      (readProperties legacy n (dataPtr + 4 + property.size)
        ((property.read legacy (dataPtr + 4) event).run mem)).run mem := by
  rw [readProperties, run_bind, run_u32, hknown]
  simp only [run_bind]

/-- Of a property that is not declared at all nothing may count. -/
theorem settled_stale {property : ChangedProperty} (hsettled : property.Settled limit mem data)
    (hlt : limit < data) :
    (property.read legacy data event).run mem' = event := by
  cases property with
  | frameSize =>
      have hle : data + 12 ≤ limit := hsettled
      omega
  | profileLevelCurrent => rfl
  | entropy => rfl
  | pixelBitdepth =>
      rcases hsettled with hle | hnone
      · omega
      · exact absurd (hnone hfiBitDepth8 (mayBe_of_le (by omega))) (by decide)
  | picStruct =>
      rcases hsettled with hle | hnone
      · omega
      · exact absurd (mayBe_of_le (by omega)) hnone
  | colourSpace =>
      have hle : data + 4 ≤ limit := hsettled
      omega
  | bufferRequirements =>
      have hle : data + 20 ≤ limit := hsettled
      omega
  | inputCrop => rcases hsettled with hle | ⟨hle, -⟩ <;> omega
  | dpbCounts =>
      have hle : data + 20 ≤ limit := hsettled
      omega

theorem sequenceSettled_stale {dataPtr : Nat} (hsettled : SequenceSettled limit mem n dataPtr)
    (hle : limit ≤ dataPtr) : n = 0 := by
  cases n with
  | zero => rfl
  | succ n =>
      have hframe : dataPtr + 4 + 12 ≤ limit :=
        (hsettled ChangedProperty.frameSize.ptype .frameSize (mayBe_of_le hle) (by decide)).1
      omega

/-- The loop ends at a type that is not fully declared. -/
theorem readProperties_stale {dataPtr : Nat} (hagree : AgreeBelow limit mem mem')
    (hsettled : SequenceSettled limit mem (n + 1) dataPtr) (hlt : limit < dataPtr + 4) :
    (readProperties legacy (n + 1) dataPtr event).run mem' = event := by
  cases hknown : ChangedProperty.ofType (wordAt mem' dataPtr) with
  | none => exact readProperties_unknown hknown
  | some property =>
      obtain ⟨hproperty, hrest⟩ := hsettled _ property hagree.mayBe hknown
      obtain rfl := sequenceSettled_stale hrest (by omega)
      rw [readProperties_known hknown, settled_stale hproperty hlt]
      rfl

theorem readProperties_settled {dataPtr : Nat} (hagree : AgreeBelow limit mem mem')
    (hsettled : SequenceSettled limit mem n dataPtr) (hnormal : normal event = normal event') :
    normal ((readProperties legacy n dataPtr event).run mem) =
      normal ((readProperties legacy n dataPtr event').run mem') := by
  induction n generalizing dataPtr event event' with
  | zero => exact hnormal
  | succ n ih =>
      by_cases hlt : limit < dataPtr + 4
      · rw [readProperties_stale AgreeBelow.refl hsettled hlt,
          readProperties_stale hagree hsettled hlt]
        exact hnormal
      · have hword : wordAt mem dataPtr = wordAt mem' dataPtr := hagree.wordAt_eq (by omega)
        cases hknown : ChangedProperty.ofType (wordAt mem dataPtr) with
        | none =>
            rw [readProperties_unknown hknown, readProperties_unknown (hword ▸ hknown)]
            exact hnormal
        | some property =>
            obtain ⟨hproperty, hrest⟩ := hsettled _ property AgreeBelow.refl.mayBe hknown
            rw [readProperties_known hknown, readProperties_known (hword ▸ hknown)]
            exact ih hrest (read_settled hagree hproperty hnormal)

/-! ### What the instance makes of an event -/

theorem normal_depth8 (event : HfiEventData) :
    ((normal event).bitDepth == hfiBitDepth8) = (event.bitDepth == hfiBitDepth8) := by
  simp only [normal]
  cases hdepth : supportedDepth event.bitDepth with
  | true => rfl
  | false =>
      obtain ⟨hnot, -⟩ := Bool.or_eq_false_iff.1 hdepth
      rw [hnot]
      rfl

theorem normal_depth10 (event : HfiEventData) :
    ((normal event).bitDepth == hfiBitDepth10) = (event.bitDepth == hfiBitDepth10) := by
  simp only [normal]
  cases hdepth : supportedDepth event.bitDepth with
  | true => rfl
  | false =>
      obtain ⟨-, hnot⟩ := Bool.or_eq_false_iff.1 hdepth
      rw [hnot]
      rfl

theorem normal_picStruct (event : HfiEventData) :
    (normal event).picStruct = 0 ↔ event.picStruct = 0 := by
  simp only [normal]
  split_ifs with hzero
  · simp [hzero]
  · exact ⟨fun h => absurd h (by decide), fun h => absurd h hzero⟩

theorem normal_crop (event : HfiEventData) (default : Rect) :
    (if 0 < (normal event).inputCrop.width ∧ 0 < (normal event).inputCrop.height then
        (normal event).inputCrop else default) =
      if 0 < event.inputCrop.width ∧ 0 < event.inputCrop.height then event.inputCrop
      else default := by
  by_cases hcrop : 0 < event.inputCrop.width ∧ 0 < event.inputCrop.height
  · have hsame : (normal event).inputCrop = event.inputCrop := if_pos hcrop
    rw [hsame]
  · have hnone : (normal event).inputCrop = noEvent.inputCrop := if_neg hcrop
    rw [hnone, if_neg hcrop, if_neg (by decide)]

theorem readChangedParams_normal (rules : OutputRules) (event : HfiEventData) (formats : Formats) :
    irisHfiGen1ReadChangedParams rules legacy (normal event) formats =
      irisHfiGen1ReadChangedParams rules legacy event formats := by
  simp only [irisHfiGen1ReadChangedParams, normal_depth10, normal_picStruct, normal_crop]
  rfl

theorem unsupportedContent_normal (event : HfiEventData) (formats : Formats) :
    unsupportedContent (normal event) formats = unsupportedContent event formats := by
  simp only [unsupportedContent, bne, normal_depth8, normal_depth10]

theorem applySequence_normal (env : Gen1Env) (event : HfiEventData) (s : Gen1Inst) :
    applySequence env (normal event) s = applySequence env event s := by
  simp only [applySequence, readChangedParams_normal, unsupportedContent_normal]

/-! ### Frames -/

theorem ftbHandle_inst (env : Gen1Env) (pkt : FtbDone) (s : Gen1Inst) :
    ∃ ftbEnv, ((ftbHandle env pkt s).run mem).2.inst =
      NabuIris.irisHfiGen1SessionFtbDone ftbEnv pkt s.inst := by
  refine ⟨⟨(completeDpb pkt s.dpbs).isSome, env.flushRet, env.queueRet⟩, ?_⟩
  unfold ftbHandle
  by_cases hdpb : s.inst.splitMode ∧ s.inst.domain = .decoder ∧ pkt.streamId = 0
  · simp only [if_pos hdpb, run_pure]
  · simp only [if_neg hdpb]
    split
    · rfl
    · simp only [run_bind, run_pure]

theorem eventVp9Resize_within {pkt : FtbDone} {s : Gen1Inst}
    (hle : s.inst.domain = .decoder → 76 ≤ limit) :
    Within limit mem (irisHfiGen1EventVp9Resize pkt s) := by
  by_cases hresizable : ftbResizable pkt s = true
  · have hdecoder : s.inst.domain = .decoder := by
      simp only [ftbResizable, Bool.and_eq_true, beq_iff_eq] at hresizable
      exact hresizable.1.1.1.1.1
    have hlimit := hle hdecoder
    simp only [irisHfiGen1EventVp9Resize, within_ite, within_bind, within_word, within_pure,
      implies_true, and_true]
    exact fun _ => ⟨by omega, by omega, fun _ => ⟨by omega, by omega⟩⟩
  · rw [irisHfiGen1EventVp9Resize, if_neg hresizable]
    exact within_pure _

theorem ftbHandle_within (env : Gen1Env) (pkt : FtbDone) (s : Gen1Inst)
    (hle : s.inst.domain = .decoder → 76 ≤ limit) : Within limit mem (ftbHandle env pkt s) := by
  unfold ftbHandle
  simp only [within_ite, within_pure, implies_true, true_and]
  intro _
  split
  · exact within_pure _
  · simp only [ftbCrop, within_bind, within_ite, within_pure, implies_true, and_true]
    exact eventVp9Resize_within hle

theorem readFtbDone_encoder (hagree : AgreeBelow limit mem mem') (hle : 64 ≤ limit) :
    (readFtbDone .encoder).run mem = (readFtbDone .encoder).run mem' := by
  refine hagree.run_eq ?_
  simp only [readFtbDone, within_bind, within_word, within_pure, and_true]
  omega

theorem run_readFtbDone_decoder :
    (readFtbDone .decoder).run mem =
      ftbDone (wordAt mem 12) (wordAt mem 84) (wordAt mem 56) (wordAt mem 52) (wordAt mem 24)
        (wordAt mem 28) (wordAt mem 88) (wordAt mem 32) := by
  simp only [readFtbDone, run_bind, run_word, run_pure]

theorem readFtbDone_decoder (hagree : AgreeBelow limit mem mem')
    (hsettled : FrameSettled limit mem) :
    (readFtbDone .decoder).run mem = (readFtbDone .decoder).run mem' := by
  have htag : 88 ≤ limit := by
    rcases hsettled with hle | ⟨hle, -⟩ <;> omega
  have hword : ∀ offset, offset + 4 ≤ limit → wordAt mem offset = wordAt mem' offset :=
    fun offset hle => hagree.wordAt_eq hle
  have hpicture : pictureType (wordAt mem 88) = pictureType (wordAt mem' 88) := by
    rcases hsettled with hle | ⟨-, hnone⟩
    · rw [hword 88 (by omega)]
    · rw [hnone _ AgreeBelow.refl.mayBe, hnone _ hagree.mayBe]
  rw [run_readFtbDone_decoder, run_readFtbDone_decoder, hword 12 (by omega), hword 84 (by omega),
    hword 56 (by omega), hword 52 (by omega), hword 24 (by omega), hword 28 (by omega),
    hword 32 (by omega)]
  simp only [ftbDone, hpicture]

theorem sessionFtbDone_settled (env : Gen1Env) {s : Gen1Inst} (hagree : AgreeBelow limit mem mem')
    (hle : 72 ≤ limit) (hframe : s.inst.domain = .decoder → FrameSettled limit mem) :
    (irisHfiGen1SessionFtbDone env s).run mem = (irisHfiGen1SessionFtbDone env s).run mem' := by
  have hlong : s.inst.domain = .decoder → 76 ≤ limit := by
    intro hdecoder
    rcases hframe hdecoder with hle | ⟨hle, -⟩ <;> omega
  have hread : (readFtbDone s.inst.domain).run mem = (readFtbDone s.inst.domain).run mem' := by
    cases hdomain : s.inst.domain with
    | encoder => exact readFtbDone_encoder hagree (by omega)
    | decoder => exact readFtbDone_decoder hagree (hframe hdomain)
  simp only [irisHfiGen1SessionFtbDone, run_bind, ← hread]
  exact hagree.run_eq (ftbHandle_within env _ s hlong)

/-! ### Settled messages -/

theorem eventSeqChanged_settled (env : Gen1Env) {s : Gen1Inst}
    (hagree : AgreeBelow limit mem mem') (hle : 24 ≤ limit)
    (hsequence : hasFlag s.inst.subState subDrc = false →
      (wordAt mem 16 = hfiEventDataSequenceChangedSufficientBufResources ∨
        wordAt mem 16 = hfiEventDataSequenceChangedInsufficientBufResources) →
      SequenceSettled limit mem (wordAt mem 20).toNat 24) :
    (irisHfiGen1EventSeqChanged env s).run mem = (irisHfiGen1EventSeqChanged env s).run mem' := by
  have hdata1 : wordAt mem 16 = wordAt mem' 16 := hagree.wordAt_eq (by omega)
  have hdata2 : wordAt mem 20 = wordAt mem' 20 := hagree.wordAt_eq (by omega)
  cases hdrc : hasFlag s.inst.subState subDrc with
  | true => simp only [irisHfiGen1EventSeqChanged, hdrc, if_true, run_pure]
  | false =>
      simp only [irisHfiGen1EventSeqChanged, hdrc, Bool.false_eq_true, if_false, run_bind, run_ite,
        run_pure]
      rw [run_word, run_word, run_word, run_word, ← hdata1, ← hdata2]
      split_ifs with hstatus
      · rfl
      · rfl
      · have hvalid : wordAt mem 16 = hfiEventDataSequenceChangedSufficientBufResources ∨
            wordAt mem 16 = hfiEventDataSequenceChangedInsufficientBufResources := by
          by_contra hneither
          exact hstatus (not_or.1 hneither)
        have hevent : normal ((readProperties s.inst.legacyVpu5 (wordAt mem 20).toNat 24
            noEvent).run mem) = normal ((readProperties s.inst.legacyVpu5 (wordAt mem 20).toNat 24
              noEvent).run mem') :=
          readProperties_settled hagree (hsequence hdrc hvalid) rfl
        rw [← applySequence_normal, hevent, applySequence_normal]

theorem readRequirements_within {req : Nat} {s : Gen1Inst} (hle : req + 32 * n ≤ limit) :
    Within limit mem (readRequirements n req s) := by
  induction n generalizing req s with
  | zero => exact within_pure _
  | succ n ih =>
      rw [readRequirements, within_bind, within_u32]
      refine ⟨by omega, ?_⟩
      split
      · exact ih (by omega)
      · rw [within_bind, within_u32]
        exact ⟨by omega, ih (by omega)⟩

theorem sessionPropertyInfo_within {s : Gen1Inst} (hle : 20 ≤ hdrSize mem) :
    Within (hdrSize mem) mem (irisHfiGen1SessionPropertyInfo s) := by
  have hbytes : (wordAt mem (4 * 0) - 20).toNat = hdrSize mem - 20 := by
    have hlarge : (20 : U32) ≤ wordAt mem 0 := hle
    exact BitVec.toNat_sub_of_le hlarge
  simp only [irisHfiGen1SessionPropertyInfo, within_bind, within_word, within_ite, within_pure]
  refine ⟨by omega, by omega, by omega, fun _ => trivial, fun _ =>
    ⟨readRequirements_within ?_, trivial⟩⟩
  rw [run_word, hbytes]
  omega

theorem size_of_lookup {pktType : U32} {pktSz : Nat}
    (hinfo : pktInfos.lookup pktType = some pktSz) :
    12 ≤ pktSz ∧ (pktType ≠ hfiMsgSysPcPrep → 16 ≤ pktSz) := by
  have htable : ∀ info ∈ pktInfos, 12 ≤ info.2 ∧ (info.1 ≠ hfiMsgSysPcPrep → 16 ≤ info.2) := by
    decide
  obtain ⟨l₁, l₂, htable', -⟩ := List.lookup_eq_some_iff.1 hinfo
  exact htable (pktType, pktSz) (by rw [htable']; simp)

theorem handleSession_settled (env : Gen1Env) {s : Gen1Inst} {pktType : U32} {pktSz : Nat}
    (hagree : AgreeBelow (hdrSize mem) mem mem') (hinfo : pktInfos.lookup pktType = some pktSz)
    (hle : pktSz ≤ hdrSize mem) (hprep : pktType ≠ hfiMsgSysPcPrep) (htype : wordAt mem 4 = pktType)
    (hsettled : Settled (some (s.inst.domain, hasFlag s.inst.subState subDrc)) mem) :
    (handleSession env pktType s).run mem = (handleSession env pktType s).run mem' := by
  have hmin := (size_of_lookup hinfo).2 hprep
  simp only [handleSession]
  split_ifs with hevent hempty hfill hproperty
  · subst hevent
    have hsize : 24 = pktSz := Option.some.inj hinfo
    have hid : wordAt mem 12 = wordAt mem' 12 := hagree.wordAt_eq (by omega)
    simp only [irisHfiGen1SessionEventNotify, run_bind, run_ite, run_pure]
    rw [run_word, run_word, ← hid]
    split_ifs with herror hsequence
    · refine hagree.run_eq ?_
      simp only [irisHfiGen1EventSessionError, within_bind, within_word, within_ite, within_pure,
        implies_true, and_true]
      omega
    · refine eventSeqChanged_settled env hagree (by omega) fun hdrc hvalid => ?_
      exact hsettled.sequence htype hsequence ⟨s.inst.domain, by rw [hdrc]⟩ hvalid
    · rfl
  · subst hempty
    have hsize : 36 = pktSz := Option.some.inj hinfo
    refine hagree.run_eq ?_
    simp only [irisHfiGen1SessionEtbDone, within_bind, within_word, within_pure, and_true]
    omega
  · subst hfill
    have hsize : 72 = pktSz := Option.some.inj hinfo
    refine sessionFtbDone_settled env hagree (by omega) fun hdecoder => ?_
    exact hsettled.frame htype ⟨_, by rw [hdecoder]⟩
  · subst hproperty
    have hsize : 20 = pktSz := Option.some.inj hinfo
    exact hagree.run_eq (sessionPropertyInfo_within (by omega))
  · refine hagree.run_eq ?_
    simp only [irisHfiGen1SessionHdr, within_bind, within_word, within_ite, within_pure,
      implies_true, and_true]
    omega

theorem dispatch_settled (env : Gen1Env) {core : Gen1Core} {pktType : U32} {pktSz : Nat}
    (hagree : AgreeBelow (hdrSize mem) mem mem') (hinfo : pktInfos.lookup pktType = some pktSz)
    (hle : pktSz ≤ hdrSize mem) (htype : wordAt mem 4 = pktType)
    (hsettled : Settled (addressee core (wordAt mem 8)) mem) :
    (dispatch env pktType core).run mem = (dispatch env pktType core).run mem' := by
  obtain ⟨hhead, hmin⟩ := size_of_lookup hinfo
  have hid : wordAt mem 8 = wordAt mem' 8 := hagree.wordAt_eq (by omega)
  unfold dispatch
  by_cases hinit : pktType = hfiMsgSysInit
  · subst hinit
    have hsize : 16 = pktSz := Option.some.inj hinfo
    refine hagree.run_eq ?_
    simp only [if_true, irisHfiGen1SysInitDone, within_bind, within_word, within_ite, within_pure,
      implies_true, and_true]
    omega
  by_cases hprep : pktType = hfiMsgSysPcPrep
  · rw [if_neg hinit, if_pos hprep, run_pure, run_pure]
  by_cases hversion : pktType = hfiMsgSysPropertyInfo
  · rw [if_neg hinit, if_neg hprep, if_pos hversion, run_bind, run_bind, run_pure, run_pure]
  simp only [if_neg hinit, if_neg hprep, if_neg hversion, run_bind, run_word, Nat.reduceMul, ← hid]
  unfold addressee at hsettled
  cases hfind : irisGetInstance core (wordAt mem 8) with
  | none =>
      by_cases hevent : pktType = hfiMsgEventNotify
      · subst hevent
        have hsize : 24 = pktSz := Option.some.inj hinfo
        refine hagree.run_eq ?_
        simp only [if_true, irisHfiGen1SysEventNotify, within_bind, within_word, within_ite,
          within_pure, implies_true, and_true]
        omega
      · simp only [if_neg hevent, run_pure]
  | some i =>
      rw [hfind] at hsettled
      simp only [run_bind, run_pure]
      rw [handleSession_settled env hagree hinfo hle hprep htype hsettled]

theorem handleResponse_run (env : Gen1Env) (core : Gen1Core) {pktSz : Nat}
    (hagree : AgreeBelow (hdrSize mem) mem mem')
    (hinfo : pktInfos.lookup (wordAt mem 4) = some pktSz) (hle : pktSz ≤ hdrSize mem) :
    (irisHfiGen1HandleResponse env core).run mem' =
      (dispatch env (wordAt mem 4) core).run mem' := by
  have hmin := (size_of_lookup hinfo).1
  have hsize : wordAt mem 0 = wordAt mem' 0 := hagree.wordAt_eq (by omega)
  have htype : wordAt mem 4 = wordAt mem' 4 := hagree.wordAt_eq (by omega)
  have hlong : ¬(wordAt mem 0).toNat < pktSz := Nat.not_lt.2 hle
  simp only [irisHfiGen1HandleResponse, run_bind, run_word, Nat.reduceMul, ← hsize, ← htype, hinfo,
    if_neg hlong]

theorem noninterfering_of_settled {target : Addressee} (hsettled : Settled target mem) :
    Noninterfering target mem := by
  rintro ⟨pktSz, hinfo, hle⟩ env core htarget m₁ m₂ hagree₁ hagree₂
  have hdispatch : ∀ m, AgreeBelow (hdrSize mem) mem m →
      (irisHfiGen1HandleResponse env core).run m =
        (dispatch env (wordAt mem 4) core).run mem := by
    intro m hagree
    rw [handleResponse_run env core hagree hinfo hle]
    exact (dispatch_settled env hagree hinfo hle rfl (htarget ▸ hsettled)).symm
  rw [hdispatch m₁ hagree₁, hdispatch m₂ hagree₂]

end NabuIris.Gen1Message
