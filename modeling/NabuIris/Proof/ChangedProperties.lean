import Mathlib.Data.List.GetD
import NabuIris.ChangedParams
import NabuIris.Proof.StaleBytes

/-!
# A sequence change, record by record

The walk gives the records their effect up to the first one that it does not know, where it stays.
It starts from zeros and not from the formats of the instance, and it is bounded by the count alone.
-/

namespace NabuIris.Gen1Message

open Lib Lib.Reading PropertyValues

variable {mem : Memory} {legacy : Bool} {event : HfiEventData} {record : PropertyRecord}
  {records : List PropertyRecord} {formats : Formats} {rules : OutputRules}

/-! ### What the walk makes of the words -/

theorem run_readChanged (property : ChangedProperty) (data : Nat) :
    (readChanged legacy property data event).run mem =
      (property.read legacy data event).run mem := by
  cases property <;> rfl

theorem run_walkChanged (n dataPtr : Nat) (event : HfiEventData) :
    (walkChanged legacy n dataPtr event).run mem =
      (readProperties legacy n dataPtr event).run mem := by
  induction n generalizing dataPtr event with
  | zero => rfl
  | succ n ih =>
      rw [walkChanged, readProperties, run_bind, run_bind]
      cases ChangedProperty.ofType ((u32 dataPtr).run mem) with
      | none => exact ih dataPtr event
      | some property =>
          dsimp only
          rw [run_bind, run_bind, run_readChanged]
          exact ih _ _

/-- The words lie one behind the other. -/
def PackedAt (mem : Memory) (offset : Nat) (words : List U32) : Prop :=
  ∀ i < words.length, wordAt mem (offset + 4 * i) = words.getD i 0

theorem PackedAt.left {offset : Nat} {as bs : List U32} (hpacked : PackedAt mem offset (as ++ bs)) :
    PackedAt mem offset as := by
  intro i hi
  rw [hpacked i (by rw [List.length_append]; omega), List.getD_append _ _ _ _ hi]

theorem PackedAt.right {offset : Nat} {as bs : List U32}
    (hpacked : PackedAt mem offset (as ++ bs)) :
    PackedAt mem (offset + 4 * as.length) bs := by
  intro i hi
  have hword := hpacked (as.length + i) (by rw [List.length_append]; omega)
  rw [List.getD_append_right _ _ _ _ (Nat.le_add_right _ _), Nat.add_sub_cancel_left] at hword
  rw [← hword, Nat.mul_add, Nat.add_assoc]

/-- Reading the structure of a record is its update. -/
theorem eventValues_read {property : ChangedProperty} {data : Nat}
    (hproperty : record.property? = some property)
    (hsize : 4 * record.payload.length = property.size)
    (hpacked : PackedAt mem data record.payload) :
    eventValues ((property.read legacy data event).run mem) =
      update legacy (eventValues event) record := by
  have hword : ∀ i, 4 * i < property.size → wordAt mem (data + 4 * i) = record.word i :=
    fun i hi => hpacked i (by omega)
  unfold update PropertyRecord.size PropertyRecord.bitDepth PropertyRecord.interlaced
    PropertyRecord.color PropertyRecord.bufCount PropertyRecord.inputCrop
  rw [hproperty]
  cases property with
  | frameSize =>
      have hwidth := hword 1 (by decide)
      have hheight := hword 2 (by decide)
      simp [ChangedProperty.read, run_u32, eventValues, ← hwidth, ← hheight]
  | profileLevelCurrent => rfl
  | pixelBitdepth =>
      have hdepth := hword 1 (by decide)
      simp [ChangedProperty.read, run_u32, eventValues, ← hdepth]
  | picStruct =>
      have hpic := hword 0 (by decide)
      simp [ChangedProperty.read, run_u32, eventValues, ← hpic]
  | colourSpace =>
      have hcolour := hword 0 (by decide)
      simp [ChangedProperty.read, run_u32, eventValues, ← hcolour]
  | entropy => rfl
  | bufferRequirements =>
      have hhold := hword 3 (by decide)
      have hmin := hword 4 (by decide)
      cases legacy with
      | true => simp [ChangedProperty.read, run_u32, eventValues, ← hhold]
      | false => simp [ChangedProperty.read, run_u32, eventValues, ← hmin]
  | inputCrop =>
      have hleft := hword 3 (by decide)
      have htop := hword 4 (by decide)
      have hwidth := hword 5 (by decide)
      have hheight := hword 6 (by decide)
      simp [ChangedProperty.read, run_u32, eventValues, ← hleft, ← htop, ← hwidth, ← hheight]
  | dpbCounts =>
      have hcount := hword 4 (by decide)
      simp [ChangedProperty.read, run_u32, eventValues, ← hcount]

/-- The records before the first one that the walk does not know. -/
def walked (records : List PropertyRecord) : List PropertyRecord :=
  records.takeWhile fun record => record.property?.isSome

theorem eventValues_walk {dataPtr : Nat} (hwf : ∀ record ∈ records, record.WellFormed)
    (hpacked : PackedAt mem dataPtr (records.flatMap PropertyRecord.words)) :
    eventValues ((readProperties legacy records.length dataPtr event).run mem) =
      (walked records).foldl (update legacy) (eventValues event) := by
  induction records generalizing dataPtr event with
  | nil => rfl
  | cons record rest ih =>
      obtain ⟨hrecord, hrest⟩ := List.forall_mem_cons.1 hwf
      rw [List.flatMap_cons] at hpacked
      have htype : wordAt mem dataPtr = record.ptype := hpacked.left 0 (Nat.succ_pos _)
      cases hproperty : record.property? with
      | none =>
          have hunknown : ChangedProperty.ofType (wordAt mem dataPtr) = none := by
            rw [htype]
            exact hproperty
          rw [readProperties_unknown hunknown, walked, List.takeWhile_cons_of_neg]
          · rfl
          · simp [hproperty]
      | some property =>
          have hknown : ChangedProperty.ofType (wordAt mem dataPtr) = some property := by
            rw [htype]
            exact hproperty
          have hsize : 4 * record.payload.length = property.size := hrecord property hproperty
          have hpayload : PackedAt mem (dataPtr + 4) record.payload :=
            @PackedAt.right mem dataPtr [record.ptype] record.payload hpacked.left
          have hnext : dataPtr + 4 * record.words.length = dataPtr + 4 + property.size := by
            rw [PropertyRecord.words, List.length_cons, ← hsize]
            omega
          have hpacked' := hpacked.right
          rw [hnext] at hpacked'
          rw [List.length_cons, readProperties_known hknown, ih hrest hpacked',
            eventValues_read hproperty hsize hpayload, walked, walked,
            List.takeWhile_cons_of_pos (by simp [hproperty]), List.foldl_cons]

/-! ### Values with the same effect -/

structure SameEffect (legacy : Bool) (formats : Formats) (v w : PropertyValues) : Prop where
  size : v.size = w.size
  depth : depthEffect legacy formats.rawFormat v.bitDepth =
    depthEffect legacy formats.rawFormat w.bitDepth
  interlaced : v.interlaced = w.interlaced
  srcColor : v.srcColor = w.srcColor
  dstColor : v.dstColor = w.dstColor
  bufCount : v.bufCount = w.bufCount
  crop : shown v.size v.inputCrop = shown w.size w.inputCrop

/-- The change to another format can be seen from the format. -/
theorem toP010_eq {rawFormat : RawFormat} {d e : U32}
    (hformat : (if (depthEffect legacy rawFormat d).1 then RawFormat.p010 else rawFormat) =
      if (depthEffect legacy rawFormat e).1 then RawFormat.p010 else rawFormat) :
    (depthEffect legacy rawFormat d).1 = (depthEffect legacy rawFormat e).1 := by
  cases rawFormat with
  | p010 => simp [depthEffect]
  | nv12 =>
      revert hformat
      cases (depthEffect legacy .nv12 d).1 <;> cases (depthEffect legacy .nv12 e).1 <;> decide

theorem apply_eq_iff (v w : PropertyValues) :
    v.apply rules legacy formats = w.apply rules legacy formats ↔
      SameEffect legacy formats v w := by
  constructor
  · intro hsame
    have hfield : ∀ {α : Type} (field : Formats → α),
        field (v.apply rules legacy formats).1 = field (w.apply rules legacy formats).1 :=
      fun field => congrArg (fun result => field result.1) hsame
    have hformat : (depthEffect legacy formats.rawFormat v.bitDepth).1 =
        (depthEffect legacy formats.rawFormat w.bitDepth).1 :=
      toP010_eq (hfield Formats.rawFormat)
    have hunsupported : (depthEffect legacy formats.rawFormat v.bitDepth).2 =
        (depthEffect legacy formats.rawFormat w.bitDepth).2 :=
      congrArg (fun result : Formats × Bool => result.2) hsame
    exact {
      size := Prod.ext (hfield fun formats => formats.src.width)
        (hfield fun formats => formats.src.height)
      depth := Prod.ext hformat hunsupported
      interlaced := hfield Formats.interlaced
      srcColor := hfield fun formats => formats.src.color
      dstColor := hfield fun formats => formats.dst.color
      bufCount := hfield Formats.fwMinCount
      crop := hfield Formats.crop }
  · rintro ⟨hsize, hdepth, hinterlaced, hsrc, hdst, hcount, hcrop⟩
    rw [hsize] at hcrop
    unfold PropertyValues.apply
    rw [hdepth, hsize, hinterlaced, hsrc, hdst, hcount, hcrop]

/-! ### What a list of records determines -/

/-- What the last record gives a property that lists it. -/
def latest {α : Type} (lists : PropertyRecord → Option α) (initial : α)
    (records : List PropertyRecord) : α :=
  records.foldl (fun value record => (lists record).getD value) initial

theorem foldl_update {α : Type} (value : PropertyValues → α) (lists : PropertyRecord → Option α)
    (hlists : ∀ values record, value (update legacy values record) =
      (lists record).getD (value values)) (values : PropertyValues)
    (records : List PropertyRecord) :
    value (records.foldl (update legacy) values) = latest lists (value values) records := by
  induction records generalizing values with
  | nil => rfl
  | cons record rest ih =>
      rw [List.foldl_cons, ih, hlists]
      rfl

/-- The records before the first unknown one, over zeros, say the same of each property as all of
them do over the formats. -/
structure Determined (legacy : Bool) (formats : Formats) (records : List PropertyRecord) :
    Prop where
  size : latest PropertyRecord.size (0, 0) (walked records) =
    latest PropertyRecord.size (formats.src.width, formats.src.height) records
  depth : depthEffect legacy formats.rawFormat
      (latest PropertyRecord.bitDepth hfiBitDepth8 (walked records)) =
    depthEffect legacy formats.rawFormat
      (latest PropertyRecord.bitDepth (previousValues formats).bitDepth records)
  interlaced : latest PropertyRecord.interlaced true (walked records) =
    latest PropertyRecord.interlaced formats.interlaced records
  srcColor : latest PropertyRecord.color .default (walked records) =
    latest PropertyRecord.color formats.src.color records
  dstColor : latest PropertyRecord.color .default (walked records) =
    latest PropertyRecord.color formats.dst.color records
  bufCount : latest (PropertyRecord.bufCount legacy) 0 (walked records) =
    latest (PropertyRecord.bufCount legacy) formats.fwMinCount records
  crop : shown (latest PropertyRecord.size (0, 0) (walked records))
      (latest PropertyRecord.inputCrop noEvent.inputCrop (walked records)) =
    shown (latest PropertyRecord.size (formats.src.width, formats.src.height) records)
      (latest PropertyRecord.inputCrop formats.crop records)

theorem sameEffect_iff_determined (legacy : Bool) (formats : Formats)
    (records : List PropertyRecord) :
    SameEffect legacy formats ((walked records).foldl (update legacy) (eventValues noEvent))
        (records.foldl (update legacy) (previousValues formats)) ↔
      Determined legacy formats records := by
  have hsize := @foldl_update legacy _ PropertyValues.size PropertyRecord.size fun _ _ => rfl
  have hdepth := @foldl_update legacy _ PropertyValues.bitDepth PropertyRecord.bitDepth
    fun _ _ => rfl
  have hinterlaced := @foldl_update legacy _ PropertyValues.interlaced PropertyRecord.interlaced
    fun _ _ => rfl
  have hsrc := @foldl_update legacy _ PropertyValues.srcColor PropertyRecord.color fun _ _ => rfl
  have hdst := @foldl_update legacy _ PropertyValues.dstColor PropertyRecord.color fun _ _ => rfl
  have hcount := @foldl_update legacy _ PropertyValues.bufCount (PropertyRecord.bufCount legacy)
    fun _ _ => rfl
  have hcrop := @foldl_update legacy _ PropertyValues.inputCrop PropertyRecord.inputCrop
    fun _ _ => rfl
  constructor
  · rintro ⟨size, depth, interlaced, srcColor, dstColor, bufCount, crop⟩
    rw [hsize, hsize, hcrop, hcrop] at crop
    rw [hsize, hsize] at size
    rw [hdepth, hdepth] at depth
    rw [hinterlaced, hinterlaced] at interlaced
    rw [hsrc, hsrc] at srcColor
    rw [hdst, hdst] at dstColor
    rw [hcount, hcount] at bufCount
    exact ⟨size, depth, interlaced, srcColor, dstColor, bufCount, crop⟩
  · rintro ⟨size, depth, interlaced, srcColor, dstColor, bufCount, crop⟩
    exact {
      size := by rw [hsize, hsize]; exact size
      depth := by rw [hdepth, hdepth]; exact depth
      interlaced := by rw [hinterlaced, hinterlaced]; exact interlaced
      srcColor := by rw [hsrc, hsrc]; exact srcColor
      dstColor := by rw [hdst, hdst]; exact dstColor
      bufCount := by rw [hcount, hcount]; exact bufCount
      crop := by rw [hsize, hsize, hcrop, hcrop]; exact crop }

/-- The function, on a message that carries records. -/
theorem run_readChangedParams (hcarries : Carries mem records) (hne : records ≠ []) :
    (readChangedParams rules legacy formats).run mem =
      ((walked records).foldl (update legacy) (eventValues noEvent)).apply rules legacy
        formats := by
  have hlength : (wordAt mem 20 - 1).toNat + 1 = records.length := by
    have hpos := List.length_pos_of_ne_nil hne
    have hcount := hcarries.count
    rw [BitVec.toNat_sub_of_le (by rw [BitVec.le_def, hcount]; exact hpos), hcount]
    exact Nat.sub_add_cancel hpos
  have hvalues : eventValues ((readProperties legacy records.length 24 noEvent).run mem) =
      (walked records).foldl (update legacy) (eventValues noEvent) :=
    eventValues_walk hcarries.wellFormed hcarries.packed
  have hparams : (readChangedParams rules legacy formats).run mem =
      (eventValues ((walkChanged legacy ((wordAt mem 20 - 1).toNat + 1) 24 noEvent).run mem)).apply
        rules legacy formats := by
    rw [readChangedParams, run_bind, run_bind]
    rfl
  rw [hparams, hlength, run_walkChanged, hvalues]

/-! ### What the walk reads -/

/-- Where the last field ends that is read of a structure. -/
def ChangedProperty.readEnd (legacy : Bool) : ChangedProperty → Nat
  | frameSize => 12
  | profileLevelCurrent => 8
  | pixelBitdepth => 8
  | picStruct => 4
  | colourSpace => 4
  | entropy => 4
  | bufferRequirements => if legacy then 16 else 20
  | inputCrop => 28
  | dpbCounts => 20

theorem within_readChanged {limit data : Nat} (property : ChangedProperty) :
    Within limit mem (readChanged legacy property data event) ↔
      data + property.readEnd legacy ≤ limit := by
  cases property <;>
    simp only [readChanged, ChangedProperty.read, ChangedProperty.readEnd, within_bind, within_u32,
      within_pure, and_true] <;>
    first | omega | (cases legacy <;> simp)

/-- The records that the walk meets lie below the limit. -/
def WalkFits (legacy : Bool) (limit : Nat) (mem : Memory) : Nat → Nat → Prop
  | 0, _ => True
  | n + 1, dataPtr =>
      dataPtr + 4 ≤ limit ∧
        match ChangedProperty.ofType (wordAt mem dataPtr) with
        | none => WalkFits legacy limit mem n dataPtr
        | some property =>
            dataPtr + 4 + property.readEnd legacy ≤ limit ∧
              WalkFits legacy limit mem n (dataPtr + 4 + property.size)

theorem within_walkChanged {limit : Nat} (n dataPtr : Nat) (event : HfiEventData) :
    Within limit mem (walkChanged legacy n dataPtr event) ↔
      WalkFits legacy limit mem n dataPtr := by
  induction n generalizing dataPtr event with
  | zero => simp [walkChanged, WalkFits]
  | succ n ih =>
      rw [walkChanged, within_bind, within_u32, run_u32, WalkFits]
      cases ChangedProperty.ofType (wordAt mem dataPtr) with
      | none =>
          dsimp only
          rw [ih]
      | some property =>
          dsimp only
          rw [within_bind, within_readChanged, ih]

/-! ### The law -/

/-- The message lists the records, over the formats. -/
def listedParams (rules : OutputRules) (legacy : Bool) (formats : Formats)
    (records : List PropertyRecord) : Formats × Bool :=
  (records.foldl (update legacy) (previousValues formats)).apply rules legacy formats

structure ChangedParamsSound (rules : OutputRules) (legacy : Bool) (formats : Formats)
    (mem : Memory) : Prop where
  folds : ∀ records, records ≠ [] → Carries mem records →
    (readChangedParams rules legacy formats).run mem = listedParams rules legacy formats records
  inside : Within (hdrSize mem) mem (readChangedParams rules legacy formats)

/-- **Parameters of a sequence change.** -/
theorem changed_params_iff (rules : OutputRules) (legacy : Bool) (formats : Formats)
    (mem : Memory) :
    ChangedParamsSound rules legacy formats mem ↔
      (∀ records, records ≠ [] → Carries mem records → Determined legacy formats records) ∧
        24 ≤ hdrSize mem ∧
          WalkFits legacy (hdrSize mem) mem ((wordAt mem 20 - 1).toNat + 1) 24 := by
  have hfolds : ∀ records, records ≠ [] → Carries mem records →
      ((readChangedParams rules legacy formats).run mem =
          listedParams rules legacy formats records ↔ Determined legacy formats records) := by
    intro records hne hcarries
    rw [run_readChangedParams hcarries hne, listedParams, apply_eq_iff, sameEffect_iff_determined]
  have hinside : Within (hdrSize mem) mem (readChangedParams rules legacy formats) ↔
      24 ≤ hdrSize mem ∧ WalkFits legacy (hdrSize mem) mem ((wordAt mem 20 - 1).toNat + 1) 24 := by
    rw [readChangedParams, within_bind, within_bind, within_walkChanged]
    simp only [word, within_u32, run_u32, within_pure, and_true]
  constructor
  · intro hsound
    exact ⟨fun records hne hcarries => (hfolds records hne hcarries).1
      (hsound.folds records hne hcarries), hinside.1 hsound.inside⟩
  · rintro ⟨hdetermined, hfits⟩
    exact ⟨fun records hne hcarries => (hfolds records hne hcarries).2
      (hdetermined records hne hcarries), hinside.2 hfits⟩

/-- The structure of the progressive flag behind a type that the driver does not know. -/
def unknownFirst : List PropertyRecord :=
  [⟨0x1, []⟩, ⟨ChangedProperty.picStruct.ptype, [1]⟩]

def unknownFirstMessage : Memory :=
  wordMemory [(0, 36), (4, hfiMsgEventNotify), (12, hfiEventSessionSequenceChanged),
    (16, hfiEventDataSequenceChangedSufficientBufResources), (20, 2), (24, 0x1),
    (28, ChangedProperty.picStruct.ptype), (32, 1)]

/-- A decoder of progressive frames of 1280 by 720. -/
def progressiveFormats : Formats where
  src := { width := 1280, height := 720, bytesperline := 0, sizeimage := 0, color := .default }
  dst :=
    { width := 1280, height := 736, bytesperline := 1280, sizeimage := 1413120, color := .default }
  rawFormat := .nv12
  crop := { left := 0, top := 0, width := 1280, height := 720 }
  fwMinCount := 4
  outputMinCount := 4
  outputSize := 1413120
  captureFormatChanged := false
  interlaced := false

def fixedRules : OutputRules where
  size := fun _ => 1413120
  count := fun _ => 4

theorem changed_params_unsound :
    ¬ ChangedParamsSound fixedRules true progressiveFormats unknownFirstMessage := by
  intro hsound
  have hcarries : Carries unknownFirstMessage unknownFirst :=
    ⟨by decide, by decide, by decide, by decide⟩
  have hdiffer : (readChangedParams fixedRules true progressiveFormats).run unknownFirstMessage ≠
      listedParams fixedRules true progressiveFormats unknownFirst := by decide
  exact hdiffer (hsound.folds unknownFirst (List.cons_ne_nil _ _) hcarries)

end NabuIris.Gen1Message
