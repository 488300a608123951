import NabuIris.Proof.StaleBytes
import NabuIris.Proof.Vp9Buffers

/-!
# Messages that are not settled

For each of them there are an instance and two contents of the packet buffer, the same on the
declared bytes, that the instance tells apart.
-/

namespace NabuIris.Gen1Message

open Lib Lib.Reading

variable {mem mem' : Memory} {limit n data offset : Nat} {w : U32}

/-! ### Changing what is not declared -/

theorem agree_store_max (hmay : MayBe limit mem offset w) (hle : data ≤ offset) :
    AgreeBelow (max limit data) mem (store mem offset w) := by
  intro o hlt
  by_cases hdeclared : o < limit
  · exact hmay.agree_store o hdeclared
  · exact (store_of_lt (by omega)).symm

theorem ChangedProperty.Settled.of_agree {property : ChangedProperty}
    (hagree : AgreeBelow limit mem mem') (hsettled : property.Settled limit mem' data) :
    property.Settled limit mem data := by
  cases property with
  | pixelBitdepth =>
      exact hsettled.imp_right fun hnone depth hmay => hnone depth (hmay.of_agree hagree.symm)
  | picStruct => exact hsettled.imp_right fun hnone hmay => hnone (hmay.of_agree hagree.symm)
  | inputCrop =>
      exact hsettled.imp_right fun h => ⟨h.1, (hagree.wordAt_eq (by omega)).trans h.2⟩
  | frameSize => exact hsettled
  | profileLevelCurrent => exact hsettled
  | colourSpace => exact hsettled
  | entropy => exact hsettled
  | bufferRequirements => exact hsettled
  | dpbCounts => exact hsettled

theorem SequenceSettled.of_agree {dataPtr : Nat} (hagree : AgreeBelow limit mem mem')
    (hsettled : SequenceSettled limit mem' n dataPtr) : SequenceSettled limit mem n dataPtr := by
  induction n generalizing dataPtr with
  | zero => trivial
  | succ n ih =>
      intro ptype property hmay hknown
      obtain ⟨hproperty, hrest⟩ := hsettled ptype property (hmay.of_agree hagree.symm) hknown
      exact ⟨hproperty.of_agree hagree, ih hrest⟩

/-! ### The probe -/

def probeRules : OutputRules := { size := fun _ => 0, count := fun _ => 0 }

def probePixFormat : PixFormat where
  width := 0
  height := 0
  bytesperline := 0
  sizeimage := 0
  color := .default

def probeFormats : Formats where
  src := probePixFormat
  dst := probePixFormat
  rawFormat := .p010
  crop := noEvent.inputCrop
  fwMinCount := 0
  outputMinCount := 0
  outputSize := 0
  captureFormatChanged := false
  interlaced := false

/-- What the probe shows of an event. -/
def outcome (event : HfiEventData) : Formats × Bool :=
  let formats := irisHfiGen1ReadChangedParams probeRules false event probeFormats
  (formats, unsupportedContent event formats)

theorem outcome_unsupported (event : HfiEventData) :
    (outcome event).2 = !supportedDepth event.bitDepth := by
  have hraw : (outcome event).1.rawFormat = .p010 := rfl
  have hdef : (outcome event).2 = unsupportedContent event (outcome event).1 := rfl
  rw [hdef, unsupportedContent, hraw, supportedDepth]
  cases height : event.bitDepth == hfiBitDepth8 <;>
    cases hten : event.bitDepth == hfiBitDepth10 <;> simp only [bne, height, hten] <;> rfl

/-- Two memories that agree on what is declared, and before `start`, make events that the probe
tells apart. -/
def TellsApart (limit start : Nat) (mem : Memory)
    (read : Memory → HfiEventData → HfiEventData) : Prop :=
  ∃ m₁ m₂, AgreeBelow (max limit start) mem m₁ ∧ AgreeBelow (max limit start) mem m₂ ∧
    ∀ event, outcome (read m₁ event) ≠ outcome (read m₂ event)

theorem TellsApart.of_agree {start : Nat} {read : Memory → HfiEventData → HfiEventData}
    (hagree : AgreeBelow (max limit start) mem mem') (htells : TellsApart limit start mem' read) :
    TellsApart limit start mem read := by
  obtain ⟨m₁, m₂, h₁, h₂, hne⟩ := htells
  exact ⟨m₁, m₂, hagree.trans h₁, hagree.trans h₂, hne⟩

/-! ### Properties -/

/-- What the loop makes of the properties from `dataPtr` on. -/
def readFrom (n dataPtr : Nat) (m : Memory) (event : HfiEventData) : HfiEventData :=
  (readProperties false n dataPtr event).run m

/-- What it makes of them behind a property whose structure is at `data`. -/
def readOn (n : Nat) (property : ChangedProperty) (data : Nat) (m : Memory)
    (event : HfiEventData) : HfiEventData :=
  readFrom n (data + property.size) m ((property.read false data event).run m)

/-- A word of the property that may be either of two, both of which count. -/
theorem tellsApart_of_word {property : ChangedProperty} {a b : U32} (hstart : data ≤ offset)
    (hend : offset + 4 ≤ data + property.size) (hlimit : limit ≤ data + property.size)
    (ha : MayBe limit mem offset a) (hb : MayBe limit mem offset b)
    (hcounts : ∀ m₁ m₂, wordAt m₁ offset = a → wordAt m₂ offset = b →
      (∀ o, o + 4 ≤ offset → wordAt m₁ o = wordAt mem o ∧ wordAt m₂ o = wordAt mem o) →
        ∀ event, outcome ((property.read false data event).run m₁) ≠
          outcome ((property.read false data event).run m₂)) :
    TellsApart limit data mem (readOn n property data) := by
  -- Behind the property stands a type that ends the loop.
  have hbase : AgreeBelow (max limit data) mem (store mem (data + property.size) 0) :=
    agree_store_max (mayBe_of_le hlimit) (by omega)
  have hdeclared : AgreeBelow limit (store mem (data + property.size) 0) mem :=
    (hbase.mono (Nat.le_max_left _ _)).symm
  have hend' : ∀ c, wordAt (store (store mem (data + property.size) 0) offset c)
      (data + property.size) = 0 := by
    intro c
    rw [wordAt_store_of_disjoint (.inr hend), wordAt_store]
  have hrun : ∀ c event,
      readOn n property data (store (store mem (data + property.size) 0) offset c) event =
        (property.read false data event).run
          (store (store mem (data + property.size) 0) offset c) := by
    intro c event
    refine readProperties_unknown ?_
    rw [hend']
    decide
  have hbefore : ∀ c o, o + 4 ≤ offset →
      wordAt (store (store mem (data + property.size) 0) offset c) o = wordAt mem o := by
    intro c o hle
    rw [wordAt_store_of_disjoint (.inl hle), wordAt_store_of_disjoint (.inl (by omega))]
  refine ⟨store (store mem (data + property.size) 0) offset a,
    store (store mem (data + property.size) 0) offset b,
    hbase.trans (agree_store_max (ha.of_agree hdeclared) hstart),
    hbase.trans (agree_store_max (hb.of_agree hdeclared) hstart), fun event => ?_⟩
  rw [hrun, hrun]
  exact hcounts _ _ wordAt_store wordAt_store
    (fun o hle => ⟨hbefore a o hle, hbefore b o hle⟩) event

/-- A word whose last byte is not declared. -/
theorem tellsApart_of_top {property : ChangedProperty} (offset : Nat) (b b' : BitVec 8)
    (hstart : data ≤ offset) (hend : offset + 4 ≤ data + property.size)
    (hlimit : limit ≤ offset + 3)
    (hcounts : ∀ m₁ m₂, wordAt m₁ offset = withTop b (wordAt mem offset) →
      wordAt m₂ offset = withTop b' (wordAt mem offset) →
        ∀ event, outcome ((property.read false data event).run m₁) ≠
          outcome ((property.read false data event).run m₂)) :
    TellsApart limit data mem (readOn n property data) :=
  tellsApart_of_word hstart hend (by omega) (AgreeBelow.refl.mayBe.withTop hlimit b)
    (AgreeBelow.refl.mayBe.withTop hlimit b') fun m₁ m₂ h₁ h₂ _ => hcounts m₁ m₂ h₁ h₂

theorem frameSize_tellsApart (hlt : limit < data + 12) :
    TellsApart limit data mem (readOn n .frameSize data) := by
  have hsize : ChangedProperty.frameSize.size = 12 := rfl
  refine tellsApart_of_top (data + 8) 0 1 (by omega) (by omega) (by omega) ?_
  intro m₁ m₂ h₁ h₂ event heq
  have hheight : wordAt m₁ (data + 8) = wordAt m₂ (data + 8) :=
    congrArg (fun shown => shown.1.src.height) heq
  rw [h₁, h₂] at hheight
  exact withTop_ne (by decide) _ _ hheight

theorem bufCount_tellsApart {property : ChangedProperty}
    (hcount : property = .bufferRequirements ∨ property = .dpbCounts) (hlt : limit < data + 20) :
    TellsApart limit data mem (readOn n property data) := by
  have hsize : 20 ≤ property.size := by
    rcases hcount with rfl | rfl <;> decide
  have hread : ∀ m event, ((property.read false data event).run m).bufCount =
      wordAt m (data + 16) := by
    intro m event
    rcases hcount with rfl | rfl <;> rfl
  refine tellsApart_of_top (data + 16) 0 1 (by omega) (by omega) (by omega) ?_
  intro m₁ m₂ h₁ h₂ event heq
  have hcounts := congrArg (fun shown => shown.1.fwMinCount) heq
  have hshown : ∀ e : HfiEventData, (outcome e).1.fwMinCount = e.bufCount := fun _ => rfl
  rw [hshown, hshown, hread, hread, h₁, h₂] at hcounts
  exact withTop_ne (by decide) _ _ hcounts

theorem withTop_and (b c : BitVec 8) (w : U32) :
    withTop b w &&& (c ++ (0 : BitVec 24)) = (b &&& c) ++ (0 : BitVec 24) := by
  rw [withTop, BitVec.and_append]
  exact congrArg _ BitVec.and_zero

/-- Without the bit that says so there is no description, with it the range is described. -/
theorem describedColor_top (w : U32) :
    describedColor (withTop 0 w) = .default ∧
      describedColor (withTop 0x20 w) = { Colorimetry.default with quantization := 2 } := by
  have hsignal : ∀ b, withTop b w &&& 0x20000000 = (b &&& 0x20) ++ (0 : BitVec 24) := fun b =>
    withTop_and b 0x20 w
  have hrange : ∀ b, withTop b w &&& 0x2000000 = (b &&& 0x02) ++ (0 : BitVec 24) := fun b =>
    withTop_and b 0x02 w
  have hpresent : ∀ b, withTop b w &&& 0x1000000 = (b &&& 0x01) ++ (0 : BitVec 24) := fun b =>
    withTop_and b 0x01 w
  unfold describedColor
  simp only [hsignal, hrange, hpresent]
  exact ⟨if_pos (by decide), (if_neg (by decide)).trans (if_pos (by decide))⟩

theorem colourSpace_tellsApart (hlt : limit < data + 4) :
    TellsApart limit data mem (readOn n .colourSpace data) := by
  have hsize : ChangedProperty.colourSpace.size = 4 := rfl
  refine tellsApart_of_top data 0 0x20 (by omega) (by omega) (by omega) ?_
  intro m₁ m₂ h₁ h₂ event heq
  have hcolour : describedColor (wordAt m₁ data) = describedColor (wordAt m₂ data) :=
    congrArg (fun shown => shown.1.dst.color) heq
  rw [h₁, h₂, (describedColor_top _).1, (describedColor_top _).2] at hcolour
  exact absurd hcolour (by decide)

theorem pixelBitdepth_tellsApart {depth : U32} (hlt : limit < data + 8)
    (hmay : MayBe limit mem (data + 4) depth) (hsupported : supportedDepth depth = true) :
    TellsApart limit data mem (readOn n .pixelBitdepth data) := by
  have hsize : ChangedProperty.pixelBitdepth.size = 8 := rfl
  have hother : supportedDepth (withTop 0xff depth) = false := by
    rcases Bool.or_eq_true_iff.1 hsupported with h | h <;> rw [beq_iff_eq.1 h] <;> decide
  refine tellsApart_of_word (by omega : data ≤ data + 4) (by omega) (by omega) hmay
    (hmay.withTop (by omega) 0xff) ?_
  intro m₁ m₂ h₁ h₂ _ event heq
  have hread : ∀ m : Memory,
      ((ChangedProperty.pixelBitdepth.read false data event).run m).bitDepth =
        wordAt m (data + 4) := fun _ => rfl
  have hsame := congrArg Prod.snd heq
  rw [outcome_unsupported, outcome_unsupported, hread, hread, h₁, h₂, hsupported, hother] at hsame
  exact absurd hsame (by decide)

theorem picStruct_tellsApart (hlt : limit < data + 4) (hmay : MayBe limit mem data 0) :
    TellsApart limit data mem (readOn n .picStruct data) := by
  have hsize : ChangedProperty.picStruct.size = 4 := rfl
  refine tellsApart_of_word (Nat.le_refl data) (by omega) (by omega) hmay
    (hmay.withTop (by omega) 1) ?_
  intro m₁ m₂ h₁ h₂ _ event heq
  have hsame : decide (wordAt m₁ data = 0) = decide (wordAt m₂ data = 0) :=
    congrArg (fun shown => shown.1.interlaced) heq
  rw [h₁, h₂] at hsame
  exact absurd hsame (by decide)

theorem pos_of_ne_zero {w : U32} (hne : w ≠ 0) : 0 < w := (BitVec.pos_iff_ne_zero w).2 hne

theorem withTop_pos {b : BitVec 8} (hne : b ≠ 0) (w : U32) : 0 < withTop b w :=
  pos_of_ne_zero (withTop_ne hne w 0)

/-- With a width that is not zero, two heights. -/
theorem cropHeight_tellsApart (hlt : limit < data + 28) (hwidth : 0 < wordAt mem (data + 20)) :
    TellsApart limit data mem (readOn n .inputCrop data) := by
  have hsize : ChangedProperty.inputCrop.size = 28 := rfl
  have hmay : ∀ b, MayBe limit mem (data + 24) (withTop b (wordAt mem (data + 24))) := fun b =>
    AgreeBelow.refl.mayBe.withTop (by omega) b
  refine tellsApart_of_word (by omega : data ≤ data + 24) (by omega) (by omega) (hmay 1) (hmay 2) ?_
  intro m₁ m₂ h₁ h₂ hbefore event heq
  have hshown : ∀ m, 0 < wordAt m (data + 20) → 0 < wordAt m (data + 24) →
      (outcome ((ChangedProperty.inputCrop.read false data event).run m)).1.crop.height =
        wordAt m (data + 24) := fun m hw hh => congrArg Rect.height (if_pos ⟨hw, hh⟩)
  have hwidths := hbefore (data + 20) (by omega)
  have hheight := congrArg (fun shown => shown.1.crop.height) heq
  rw [hshown m₁ (hwidths.1 ▸ hwidth) (h₁ ▸ withTop_pos (by decide) _),
    hshown m₂ (hwidths.2 ▸ hwidth) (h₂ ▸ withTop_pos (by decide) _), h₁, h₂] at hheight
  exact withTop_ne (by decide) _ _ hheight

theorem inputCrop_tellsApart (hlt : limit < data + 28)
    (hwidth : data + 24 ≤ limit → wordAt mem (data + 20) ≠ 0) :
    TellsApart limit data mem (readOn n .inputCrop data) := by
  by_cases hknown : data + 24 ≤ limit
  · exact cropHeight_tellsApart hlt (pos_of_ne_zero (hwidth hknown))
  · have hmay : MayBe limit mem (data + 20) (withTop 1 (wordAt mem (data + 20))) :=
      AgreeBelow.refl.mayBe.withTop (by omega) 1
    refine (cropHeight_tellsApart hlt ?_).of_agree (agree_store_max hmay (by omega))
    rw [wordAt_store]
    exact withTop_pos (by decide) _

/-- **A property that is not settled shows.** -/
theorem property_tellsApart {property : ChangedProperty}
    (hunsettled : ¬property.Settled limit mem data) :
    TellsApart limit data mem (readOn n property data) := by
  cases property with
  | frameSize => exact frameSize_tellsApart (Nat.not_le.1 hunsettled)
  | profileLevelCurrent => exact absurd trivial hunsettled
  | pixelBitdepth =>
      obtain ⟨hlt, hdepths⟩ := not_or.1 hunsettled
      push Not at hdepths
      obtain ⟨depth, hmay, hsupported⟩ := hdepths
      exact pixelBitdepth_tellsApart (Nat.not_le.1 hlt) hmay (by simpa using hsupported)
  | picStruct =>
      obtain ⟨hlt, hzero⟩ := not_or.1 hunsettled
      exact picStruct_tellsApart (Nat.not_le.1 hlt) (not_not.1 hzero)
  | colourSpace => exact colourSpace_tellsApart (Nat.not_le.1 hunsettled)
  | entropy => exact absurd trivial hunsettled
  | bufferRequirements => exact bufCount_tellsApart (.inl rfl) (Nat.not_le.1 hunsettled)
  | inputCrop =>
      obtain ⟨hlt, hwidth⟩ := not_or.1 hunsettled
      exact inputCrop_tellsApart (Nat.not_le.1 hlt) fun hle hzero => hwidth ⟨hle, hzero⟩
  | dpbCounts => exact bufCount_tellsApart (.inr rfl) (Nat.not_le.1 hunsettled)

/-! ### Sequences -/

theorem read_within {property : ChangedProperty} {event : HfiEventData} :
    Within (data + property.size) mem (property.read false data event) := by
  cases property <;>
    simp only [ChangedProperty.read, ChangedProperty.size, within_bind, within_u32, within_pure,
      Bool.false_eq_true, if_false, and_true] <;> omega

/-- The types and the properties before the first that is not settled are kept. -/
theorem sequence_tellsApart {dataPtr : Nat}
    (hunsettled : ¬SequenceSettled limit mem n dataPtr) :
    TellsApart limit dataPtr mem (readFrom n dataPtr) := by
  induction n generalizing mem dataPtr with
  | zero => exact absurd trivial hunsettled
  | succ n ih =>
      unfold SequenceSettled at hunsettled
      push Not at hunsettled
      obtain ⟨ptype, property, hmay, hknown, hrest⟩ := hunsettled
      have hagree : AgreeBelow (max limit dataPtr) mem (store mem dataPtr ptype) :=
        agree_store_max hmay (Nat.le_refl dataPtr)
      have hdeclared : AgreeBelow limit mem (store mem dataPtr ptype) :=
        hagree.mono (Nat.le_max_left _ _)
      -- A memory that keeps the type reads the property and goes on.
      have hrun : ∀ m event, AgreeBelow (dataPtr + 4) (store mem dataPtr ptype) m →
          readFrom (n + 1) dataPtr m event = readOn n property (dataPtr + 4) m event := by
        intro m event hkeeps
        refine readProperties_known ?_
        rw [← hkeeps.wordAt_eq (Nat.le_refl _), wordAt_store]
        exact hknown
      refine TellsApart.of_agree hagree ?_
      by_cases hproperty : property.Settled limit mem (dataPtr + 4)
      · obtain ⟨m₁, m₂, h₁, h₂, hne⟩ := ih fun h => hrest hproperty (h.of_agree hdeclared)
        refine ⟨m₁, m₂, h₁.mono (by omega), h₂.mono (by omega), fun event => ?_⟩
        have hevent : (property.read false (dataPtr + 4) event).run m₁ =
            (property.read false (dataPtr + 4) event).run m₂ :=
          ((h₁.mono (Nat.le_max_right _ _)).run_eq read_within).symm.trans
            ((h₂.mono (Nat.le_max_right _ _)).run_eq read_within)
        rw [hrun m₁ event (h₁.mono (by omega)), hrun m₂ event (h₂.mono (by omega)), readOn, readOn,
          hevent]
        exact hne _
      · obtain ⟨m₁, m₂, h₁, h₂, hne⟩ := property_tellsApart fun h =>
          hproperty (ChangedProperty.Settled.of_agree hdeclared h)
        refine ⟨m₁, m₂, h₁.mono (by omega), h₂.mono (by omega), fun event => ?_⟩
        rw [hrun m₁ event (h₁.mono (by omega)), hrun m₂ event (h₂.mono (by omega))]
        exact hne event

/-! ### Handling a message with the probe -/

def probeEnv : Gen1Env where
  rules := probeRules
  flushRet := 0
  queueRet := 0
  resumeRet := 0

def probeBuffer (offset : Nat) : IrisBuffer where
  deviceAddr := 0
  dataOffset := offset
  dataSize := 0
  flags := 0
  timestamp := 0
  attr := { deferred := false, queued := true, dequeued := false, bufferDone := false }

/-- A streaming instance that waits for the CAPTURE buffer `tag`. -/
def probe (domain : Domain) (drc : Bool) (sessionId : U32) (tag offset : Nat) : Gen1Inst where
  inst :=
    { gen := .gen1
      domain
      codec := .h264
      legacyVpu5 := false
      splitMode := false
      sessionId
      state := .streaming
      subState := if drc then subDrc else 0
      ready := fun _ => [tag]
      buf := fun _ _ => probeBuffer offset
      vbufFlags := fun _ _ => 0
      streaming := fun _ => true
      hfiSessionOpened := true
      pendingOutput := none
      startStreamingRollbackType := none
      lastBufferDequeued := false
      streamoffPending := false
      m2mStopped := false
      flushResponsesPending := 0
      corruptOutputDrops := 0
      log := [] }
  formats := probeFormats
  bufCrop := fun _ => noEvent.inputCrop
  dpbs := []
  dpbMinCount := 0
  numBuffers := 1
  fwBufferSizes := fun _ => 0
  queueError := false
  iovaHole := false
  srcChanges := 0
  completion := 0
  flushCompletion := 0

def probeCore (s : Gen1Inst) : Gen1Core where
  state := .init
  coreInitDone := 1
  recoveryPending := false
  sysErrorQueued := false
  instances := [0]
  inst := fun _ => s

variable {domain : Domain} {drc : Bool} {tag : Nat} {sessionId : U32}

theorem probe_found :
    irisGetInstance (probeCore (probe domain drc sessionId tag offset)) sessionId = some 0 := by
  simp [irisGetInstance, probeCore, probe]

theorem probe_drc : hasFlag (probe domain drc sessionId tag offset).inst.subState subDrc = drc := by
  have hflag : hasFlag (if drc then subDrc else 0) subDrc = drc := by
    cases drc <;> decide
  exact hflag

theorem probe_addressee :
    addressee (probeCore (probe domain drc sessionId tag offset)) sessionId =
      some (domain, drc) := by
  rw [addressee, probe_found]
  simp only [Option.map_some, probeCore, probe_drc]
  rfl

/-- What a session handler leaves of the probe does not depend on what is not declared. -/
theorem handled_eq (tag offset : Nat) (hnone : Noninterfering (some (domain, drc)) mem)
    (hadmitted : Admitted mem)
    (htype : wordAt mem 4 = hfiMsgEventNotify ∨ wordAt mem 4 = hfiMsgSessionFillBuffer)
    (m₁ m₂ : Memory) (h₁ : AgreeBelow (hdrSize mem) mem m₁)
    (h₂ : AgreeBelow (hdrSize mem) mem m₂) :
    ((handleSession probeEnv (wordAt mem 4)
        (probe domain drc (wordAt mem 8) tag offset)).run m₁).2 =
      ((handleSession probeEnv (wordAt mem 4)
        (probe domain drc (wordAt mem 8) tag offset)).run m₂).2 := by
  have hsame := hnone hadmitted probeEnv
    (probeCore (probe domain drc (wordAt mem 8) tag offset)) probe_addressee m₁ m₂ h₁ h₂
  obtain ⟨pktSz, hinfo, hle⟩ := hadmitted
  have hmin := (size_of_lookup hinfo).1
  have hsys : wordAt mem 4 ≠ hfiMsgSysInit ∧ wordAt mem 4 ≠ hfiMsgSysPcPrep ∧
      wordAt mem 4 ≠ hfiMsgSysPropertyInfo := by
    rcases htype with h | h <;> rw [h] <;> decide
  have hrun : ∀ m, AgreeBelow (hdrSize mem) mem m →
      (irisHfiGen1HandleResponse probeEnv
        (probeCore (probe domain drc (wordAt mem 8) tag offset))).run m =
      (probeCore (probe domain drc (wordAt mem 8) tag offset)).put 0
        ((handleSession probeEnv (wordAt mem 4)
          (probe domain drc (wordAt mem 8) tag offset)).run m) := by
    intro m hagree
    have hid : wordAt mem 8 = wordAt m 8 := hagree.wordAt_eq (by omega)
    rw [handleResponse_run probeEnv _ hagree hinfo hle]
    simp only [dispatch, if_neg hsys.1, if_neg hsys.2.1, if_neg hsys.2.2, run_bind, run_word,
      Nat.reduceMul, ← hid, probe_found, run_pure]
    rfl
  rw [hrun m₁ h₁, hrun m₂ h₂] at hsame
  have hinst := congrArg (fun core : Gen1Core => core.inst 0) hsame
  simpa only [Gen1Core.put, Function.update_self] using hinst

/-! ### Sequence changes -/

/-- The formats are read, and the instance is as it was modelled without them. -/
theorem applySequence_frame (env : Gen1Env) (event : HfiEventData) (s : Gen1Inst) :
    (applySequence env event s).formats =
        irisHfiGen1ReadChangedParams env.rules s.inst.legacyVpu5 event s.formats ∧
      ∃ fits, (applySequence env event s).inst = NabuIris.irisHfiGen1EventSeqChanged
        { valid := true
          unsupported := unsupportedContent event
            (irisHfiGen1ReadChangedParams env.rules s.inst.legacyVpu5 event s.formats)
          initialFits := fits
          resumeRet := env.resumeRet
          flushRet := env.flushRet } s.inst := by
  simp only [applySequence]
  split_ifs <;> exact ⟨rfl, _, rfl⟩

theorem irisInstSubStateChangeDrc_state (inst : Inst) :
    (irisInstSubStateChangeDrc inst).2.state = inst.state := by
  unfold irisInstSubStateChangeDrc
  split_ifs
  · rfl
  · exact irisInstChangeSubState_state _ _ _
  · exact irisInstChangeSubState_state _ _ _

theorem irisInstSubStateChangeDrcLast_state (inst : Inst) :
    (irisInstSubStateChangeDrcLast inst).2.state = inst.state := by
  unfold irisInstSubStateChangeDrcLast
  split_ifs
  · rfl
  · rfl
  · rfl
  · exact irisInstChangeSubState_state _ _ _

theorem irisHfiGen1ArmDrc_state (flushRet : Int) (inst : Inst) :
    (irisHfiGen1ArmDrc flushRet inst).state = inst.state := by
  refine orGoto_keep (Q := fun armed : Inst => armed.state = inst.state)
    (P := fun armed : Inst => armed.state = inst.state) (irisInstSubStateChangeDrc_state inst)
    (fun _ _ h => h) fun armed harmed => ?_
  refine (irisInstSubStateChangeDrcLast_state _).trans ?_
  have hflushed : (sessionFlush flushRet armed).state = inst.state :=
    applyIf_keep (P := fun armed : Inst => armed.state = inst.state) _ harmed fun h => h
  exact applyIf_keep (P := fun armed : Inst => armed.state = inst.state) _ harmed fun _ => hflushed

theorem probe_state (pkt : SeqChanged) (hvalid : pkt.valid = true) :
    (NabuIris.irisHfiGen1EventSeqChanged pkt
      (probe domain false sessionId tag offset).inst).state =
        if pkt.unsupported then .error else .streaming := by
  have hreconfigure : ∀ inst : Inst, inst.legacyVpu5 = false →
      (seqReconfigure pkt inst).state = inst.state := by
    intro inst hlegacy
    rw [seqReconfigure, if_neg (by simp [hlegacy]), irisHfiGen1ArmDrc_state]
  have hrun : NabuIris.irisHfiGen1EventSeqChanged pkt
      (probe domain false sessionId tag offset).inst =
        seqReconfigure pkt ((probe domain false sessionId tag offset).inst.applyIf pkt.unsupported
          Inst.enterError) := by
    rw [NabuIris.irisHfiGen1EventSeqChanged, probe_drc, hvalid]
    rfl
  rw [hrun]
  cases hunsupported : pkt.unsupported with
  | true => exact hreconfigure _ rfl
  | false => exact hreconfigure _ rfl

theorem probe_outcome (event : HfiEventData) :
    ((applySequence probeEnv event (probe domain false sessionId tag offset)).formats,
      (applySequence probeEnv event (probe domain false sessionId tag offset)).inst.state ==
        .error) = outcome event := by
  obtain ⟨hformats, fits, hinst⟩ :=
    applySequence_frame probeEnv event (probe domain false sessionId tag offset)
  have herror : ∀ b : Bool, ((if b then InstState.error else .streaming) == .error) = b := by decide
  rw [hformats, hinst, probe_state _ rfl]
  exact Prod.ext rfl (herror _)

theorem eventSeqChanged_run
    (hstatus : wordAt mem 16 = hfiEventDataSequenceChangedSufficientBufResources ∨
      wordAt mem 16 = hfiEventDataSequenceChangedInsufficientBufResources)
    (hsome : wordAt mem 20 ≠ 0) :
    ((irisHfiGen1EventSeqChanged probeEnv (probe domain false sessionId tag offset)).run mem).2 =
      applySequence probeEnv (readFrom (wordAt mem 20).toNat 24 mem noEvent)
        (probe domain false sessionId tag offset) := by
  have hvalid : ¬(wordAt mem 16 ≠ hfiEventDataSequenceChangedSufficientBufResources ∧
      wordAt mem 16 ≠ hfiEventDataSequenceChangedInsufficientBufResources) := fun h =>
    hstatus.elim h.1 h.2
  simp only [irisHfiGen1EventSeqChanged, probe_drc, Bool.false_eq_true, if_false, run_bind, run_ite,
    run_pure]
  rw [run_word, run_word, if_neg hvalid, if_neg hsome]
  rfl

theorem sequence_interferes {domain : Domain} (hadmitted : Admitted mem)
    (htype : wordAt mem 4 = hfiMsgEventNotify)
    (hevent : wordAt mem 12 = hfiEventSessionSequenceChanged)
    (hstatus : wordAt mem 16 = hfiEventDataSequenceChangedSufficientBufResources ∨
      wordAt mem 16 = hfiEventDataSequenceChangedInsufficientBufResources)
    (hunsettled : ¬SequenceSettled (hdrSize mem) mem (wordAt mem 20).toNat 24) :
    ¬Noninterfering (some (domain, false)) mem := by
  intro hnone
  obtain ⟨m₁, m₂, h₁, h₂, hne⟩ := sequence_tellsApart hunsettled
  have hsize : 24 ≤ hdrSize mem := by
    obtain ⟨pktSz, hinfo, hle⟩ := hadmitted
    rw [htype] at hinfo
    have hpktSz : 24 = pktSz := Option.some.inj hinfo
    omega
  have hsome : wordAt mem 20 ≠ 0 := by
    intro hzero
    rw [hzero] at hunsettled
    exact hunsettled trivial
  have hhandled : ∀ m, AgreeBelow (max (hdrSize mem) 24) mem m →
      ((handleSession probeEnv (wordAt mem 4)
        (probe domain false (wordAt mem 8) 0 0)).run m).2 =
      applySequence probeEnv (readFrom (wordAt mem 20).toNat 24 m noEvent)
        (probe domain false (wordAt mem 8) 0 0) := by
    intro m hagree
    have hword : ∀ o, o + 4 ≤ 24 → wordAt m o = wordAt mem o := fun o hle =>
      (hagree.wordAt_eq (by omega)).symm
    have hrun := @eventSeqChanged_run m 0 domain 0 (wordAt mem 8) (by rwa [hword 16 (by omega)])
      (by rwa [hword 20 (by omega)])
    rw [hword 20 (by omega)] at hrun
    rw [← hrun, htype]
    simp only [handleSession, if_true, irisHfiGen1SessionEventNotify, run_bind, run_ite]
    rw [run_word, hword 12 (by omega), hevent]
    rfl
  have hsame := handled_eq 0 0 hnone hadmitted (.inl htype) m₁ m₂
    (h₁.mono (Nat.le_max_left _ _)) (h₂.mono (Nat.le_max_left _ _))
  rw [hhandled m₁ h₁, hhandled m₂ h₂] at hsame
  refine hne noEvent ?_
  rw [← probe_outcome, hsame, probe_outcome]

/-! ### Frames -/

theorem ftbFlags_picture (pkt : FtbDone) (last : Bool) (inst : Inst) :
    ftbFlags pkt last inst &&& 0x38 = pictureFlags pkt.pictureType := by
  unfold ftbFlags
  split_ifs <;> cases pkt.pictureType <;> decide

theorem ftbDeliver_buf (pkt : FtbDone) (last : Bool) (i : Nat) {inst : Inst}
    (hlegacy : inst.legacyVpu5 = false) :
    ((ftbDeliver pkt last i inst).buf .capture i).attr.queued = false ∧
      ((ftbDeliver pkt last i inst).buf .capture i).flags =
        (inst.buf .capture i).flags ||| ftbFlags pkt last inst := by
  have hheld : ∀ buf, ftbHeld pkt (inst.setBuf .capture i buf) = false := by
    intro buf
    simp [ftbHeld, Inst.setBuf, hlegacy]
  simp only [ftbDeliver, hheld, Bool.false_eq_true, if_false, irisVb2BufferDone_buf, setBuf_buf,
    true_and]

/-- The matched buffer goes to userspace with the picture type of the packet. -/
theorem ftbMatch_found {env : FtbEnv} {pkt : FtbDone} {inst : Inst} {i : Nat}
    (hlegacy : inst.legacyVpu5 = false) (hflags : (inst.buf .capture i).flags = 0)
    (hfind : ftbFind pkt inst = some i) :
    ((ftbMatch env pkt inst).buf .capture i).attr.queued = false ∧
      ((ftbMatch env pkt inst).buf .capture i).flags &&& 0x38 = pictureFlags pkt.pictureType := by
  have hstored : (ftbStore pkt i inst).legacyVpu5 = false := hlegacy
  have hpending : ftbPending env pkt (ftbStore pkt i inst) = (0, ftbStore pkt i inst) :=
    if_neg (by simp [hstored])
  have hdropped : ftbDropped pkt (ftbStore pkt i inst) = false := by
    simp [ftbDropped, hstored]
  have hkept : ((ftbStore pkt i inst).buf .capture i).flags = 0 := by
    rw [ftbStore, setBuf_buf]
    exact hflags
  have hmatch : ftbMatch env pkt inst = ftbDeliver pkt (ftbLast pkt inst) i
      ((ftbStore pkt i inst).applyIf ((ftbStore pkt i inst).domain == .decoder && pkt.filled)
        fun inst => { inst with corruptOutputDrops := 0 }) := by
    rw [ftbMatch, hfind]
    simp only [ftbOutput, hpending, orGoto_zero, ftbComplete, hdropped, Bool.false_eq_true,
      if_false]
  have hreset : ∀ cond : Bool,
      ((ftbStore pkt i inst).applyIf cond fun inst =>
          { inst with corruptOutputDrops := 0 }).legacyVpu5 = false ∧
        (((ftbStore pkt i inst).applyIf cond fun inst =>
          { inst with corruptOutputDrops := 0 }).buf .capture i).flags = 0 := by
    intro cond
    cases cond <;> exact ⟨hstored, hkept⟩
  obtain ⟨hqueued, hpicture⟩ := ftbDeliver_buf pkt (ftbLast pkt inst) i (hreset _).1
  rw [hmatch]
  refine ⟨hqueued, ?_⟩
  have hzero : ∀ flags : BufFlags, (0 : BufFlags) ||| flags = flags := fun _ => BitVec.zero_or
  rw [hpicture, (hreset _).2, hzero, ftbFlags_picture]

theorem ftbMatch_none {env : FtbEnv} {pkt : FtbDone} {inst : Inst}
    (hfind : ftbFind pkt inst = none) :
    (ftbMatch env pkt inst).buf = inst.buf := by
  rw [ftbMatch, hfind]
  exact applyIf_rule (P := fun after => after.buf = inst.buf) (fun _ => rfl) fun _ => by
    rw [enterError_eq]

theorem probe_ftbDone (ftbEnv : FtbEnv) (pkt : FtbDone) :
    ∃ subState flushResponsesPending,
      NabuIris.irisHfiGen1SessionFtbDone ftbEnv pkt
          (probe .decoder drc sessionId tag offset).inst =
        ftbMatch ftbEnv pkt
          { (probe .decoder drc sessionId tag offset).inst with
            subState, flushResponsesPending } := by
  obtain ⟨subState, pending, heos⟩ :=
    ftbEos_frame ftbEnv pkt (probe .decoder drc sessionId tag offset).inst
  refine ⟨subState, pending, ?_⟩
  rw [← heos]
  exact if_neg nofun

theorem probe_found_frame {ftbEnv : FtbEnv} {pkt : FtbDone} (htag : pkt.outputTag = tag)
    (hoffset : pkt.offset = offset) :
    ((NabuIris.irisHfiGen1SessionFtbDone ftbEnv pkt
        (probe .decoder drc sessionId tag offset).inst).buf .capture tag).attr.queued = false ∧
      ((NabuIris.irisHfiGen1SessionFtbDone ftbEnv pkt
        (probe .decoder drc sessionId tag offset).inst).buf .capture tag).flags &&& 0x38 =
          pictureFlags pkt.pictureType := by
  obtain ⟨subState, pending, hmatch⟩ := @probe_ftbDone offset drc tag sessionId ftbEnv pkt
  rw [hmatch]
  refine ftbMatch_found rfl rfl ?_
  subst htag hoffset
  simp [ftbFind, probe, probeBuffer]

theorem probe_unmatched_frame {ftbEnv : FtbEnv} {pkt : FtbDone} (htag : pkt.outputTag ≠ tag) :
    ((NabuIris.irisHfiGen1SessionFtbDone ftbEnv pkt
      (probe .decoder drc sessionId tag offset).inst).buf .capture tag).attr.queued = true := by
  obtain ⟨subState, pending, hmatch⟩ := @probe_ftbDone offset drc tag sessionId ftbEnv pkt
  rw [hmatch, ftbMatch_none]
  · rfl
  · simp [ftbFind, probe, probeBuffer, Ne.symm htag]

/-- What a frame leaves of the probe does not depend on what is not declared. -/
theorem frames_agree (tag offset : Nat) (hnone : Noninterfering (some (.decoder, drc)) mem)
    (hadmitted : Admitted mem) (hfill : wordAt mem 4 = hfiMsgSessionFillBuffer) {m₁ m₂ : Memory}
    (h₁ : AgreeBelow (hdrSize mem) mem m₁) (h₂ : AgreeBelow (hdrSize mem) mem m₂) :
    ∃ env₁ env₂,
      NabuIris.irisHfiGen1SessionFtbDone env₁ ((readFtbDone .decoder).run m₁)
          (probe .decoder drc (wordAt mem 8) tag offset).inst =
        NabuIris.irisHfiGen1SessionFtbDone env₂ ((readFtbDone .decoder).run m₂)
          (probe .decoder drc (wordAt mem 8) tag offset).inst := by
  have hhandle : handleSession probeEnv (wordAt mem 4)
      (probe .decoder drc (wordAt mem 8) tag offset) =
        irisHfiGen1SessionFtbDone probeEnv (probe .decoder drc (wordAt mem 8) tag offset) := by
    rw [hfill]
    rfl
  have hrun : ∀ m, ∃ env, ((handleSession probeEnv (wordAt mem 4)
      (probe .decoder drc (wordAt mem 8) tag offset)).run m).2.inst =
        NabuIris.irisHfiGen1SessionFtbDone env ((readFtbDone .decoder).run m)
          (probe .decoder drc (wordAt mem 8) tag offset).inst := by
    intro m
    rw [hhandle, irisHfiGen1SessionFtbDone, run_bind]
    exact ftbHandle_inst _ _ _
  obtain ⟨env₁, hrun₁⟩ := hrun m₁
  obtain ⟨env₂, hrun₂⟩ := hrun m₂
  refine ⟨env₁, env₂, ?_⟩
  rw [← hrun₁, ← hrun₂, handled_eq tag offset hnone hadmitted (.inr hfill) m₁ m₂ h₁ h₂]

theorem pictureType_top {picType : U32} (hpicture : pictureType picType ≠ .other) :
    pictureType (withTop 0xff picType) = .other := by
  unfold pictureType at hpicture
  split_ifs at hpicture with h h h h
  all_goals first | exact absurd rfl hpicture | (rw [h]; decide)

theorem pictureFlags_ne {type : PictureType} (hpicture : type ≠ .other) :
    pictureFlags type ≠ pictureFlags .other := by
  cases type with
  | other => exact absurd rfl hpicture
  | idr => decide
  | i => decide
  | p => decide
  | b => decide

theorem frame_tag (m : Memory) :
    ((readFtbDone .decoder).run m).outputTag = (wordAt m 84).toNat := by
  rw [run_readFtbDone_decoder]
  rfl

theorem frame_offset (m : Memory) :
    ((readFtbDone .decoder).run m).offset = (wordAt m 56).toNat := by
  rw [run_readFtbDone_decoder]
  rfl

theorem frame_picture (m : Memory) :
    ((readFtbDone .decoder).run m).pictureType = pictureType (wordAt m 88) := by
  rw [run_readFtbDone_decoder]
  rfl

/-- The tag may be that of the queued buffer, or not. -/
theorem tag_interferes (hadmitted : Admitted mem) (hfill : wordAt mem 4 = hfiMsgSessionFillBuffer)
    (hsize : 72 ≤ hdrSize mem) (hshort : hdrSize mem < 88) :
    ¬Noninterfering (some (.decoder, drc)) mem := by
  intro hnone
  have hmay : ∀ b, MayBe (hdrSize mem) mem 84 (withTop b (wordAt mem 84)) := fun b =>
    AgreeBelow.refl.mayBe.withTop (by omega) b
  obtain ⟨env₁, env₂, hsame⟩ := frames_agree (withTop 0 (wordAt mem 84)).toNat
    (wordAt mem 56).toNat hnone hadmitted hfill (hmay 0).agree_store (hmay 1).agree_store
  have htag : ((readFtbDone .decoder).run (store mem 84 (withTop 0 (wordAt mem 84)))).outputTag =
      (withTop 0 (wordAt mem 84)).toNat := by
    rw [frame_tag, wordAt_store]
  have hoffset : ((readFtbDone .decoder).run (store mem 84 (withTop 0 (wordAt mem 84)))).offset =
      (wordAt mem 56).toNat := by
    rw [frame_offset, wordAt_store_of_disjoint (by omega)]
  have hqueued := (@probe_found_frame _ drc _ (wordAt mem 8) env₁ _ htag hoffset).1
  rw [hsame, probe_unmatched_frame] at hqueued
  · cases hqueued
  · rw [frame_tag, wordAt_store]
    exact fun heq => withTop_ne (by decide) _ _ (BitVec.eq_of_toNat_eq heq)

/-- The picture type may be one that has a flag, or none. -/
theorem picture_interferes (hadmitted : Admitted mem)
    (hfill : wordAt mem 4 = hfiMsgSessionFillBuffer) (hshort : hdrSize mem < 92) {picType : U32}
    (hmay : MayBe (hdrSize mem) mem 88 picType) (hpicture : pictureType picType ≠ .other) :
    ¬Noninterfering (some (.decoder, drc)) mem := by
  intro hnone
  have hother : MayBe (hdrSize mem) mem 88 (withTop 0xff picType) := hmay.withTop (by omega) 0xff
  obtain ⟨env₁, env₂, hsame⟩ := frames_agree (wordAt mem 84).toNat (wordAt mem 56).toNat hnone
    hadmitted hfill hmay.agree_store hother.agree_store
  have hflags : ∀ env w, ((NabuIris.irisHfiGen1SessionFtbDone env
      ((readFtbDone .decoder).run (store mem 88 w))
      (probe .decoder drc (wordAt mem 8) (wordAt mem 84).toNat
        (wordAt mem 56).toNat).inst).buf .capture (wordAt mem 84).toNat).flags &&& 0x38 =
          pictureFlags (pictureType w) := by
    intro env w
    have htag : ((readFtbDone .decoder).run (store mem 88 w)).outputTag =
        (wordAt mem 84).toNat := by
      rw [frame_tag, wordAt_store_of_disjoint (by omega)]
    have hoffset : ((readFtbDone .decoder).run (store mem 88 w)).offset =
        (wordAt mem 56).toNat := by
      rw [frame_offset, wordAt_store_of_disjoint (by omega)]
    rw [(probe_found_frame htag hoffset).2, frame_picture, wordAt_store]
  have hsameFlags := hflags env₁ picType
  rw [hsame, hflags, pictureType_top hpicture] at hsameFlags
  exact pictureFlags_ne hpicture hsameFlags.symm

theorem frame_interferes (hadmitted : Admitted mem)
    (hfill : wordAt mem 4 = hfiMsgSessionFillBuffer)
    (hunsettled : ¬FrameSettled (hdrSize mem) mem) :
    ¬Noninterfering (some (.decoder, drc)) mem := by
  obtain ⟨hshort, hpicture⟩ := not_or.1 hunsettled
  by_cases htag : 88 ≤ hdrSize mem
  · have hsome : ∃ picType, MayBe (hdrSize mem) mem 88 picType ∧ pictureType picType ≠ .other := by
      by_contra hall
      push Not at hall
      exact hpicture ⟨htag, hall⟩
    obtain ⟨picType, hmay, htype⟩ := hsome
    exact picture_interferes hadmitted hfill (Nat.not_le.1 hshort) hmay htype
  · have hsize : 72 ≤ hdrSize mem := by
      obtain ⟨pktSz, hinfo, hle⟩ := hadmitted
      rw [hfill] at hinfo
      have hpktSz : 72 = pktSz := Option.some.inj hinfo
      omega
    exact tag_interferes hadmitted hfill hsize (Nat.not_le.1 htag)

/-- **Noninterference holds for the settled messages and no others.** -/
theorem noninterfering_iff (target : Addressee) (mem : Memory) :
    Noninterfering target mem ↔ (Admitted mem → Settled target mem) := by
  constructor
  · intro hnone hadmitted
    constructor
    · rintro hfill ⟨drc, rfl⟩
      by_contra hunsettled
      exact frame_interferes hadmitted hfill hunsettled hnone
    · rintro htype hevent ⟨domain, rfl⟩ hstatus
      by_contra hunsettled
      exact sequence_interferes hadmitted htype hevent hstatus hunsettled hnone
  · intro hsettled hadmitted
    exact noninterfering_of_settled (hsettled hadmitted) hadmitted

/-- A frame of the size that `pkt_infos` asks for, which is too small for a decoder's. -/
def shortFrame : Memory :=
  wordMemory [(0, 72), (4, hfiMsgSessionFillBuffer), (8, 1), (12, 1), (52, 100)]

theorem shortFrame_interferes : ¬Noninterfering (some (.decoder, false)) shortFrame :=
  tag_interferes ⟨72, by decide, by decide⟩ (by decide) (by decide) (by decide)

end NabuIris.Gen1Message
