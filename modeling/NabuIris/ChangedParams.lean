import NabuIris.Gen1Message

/-!
# The parameters of a sequence change (`iris_hfi_gen1_read_changed_params`)

The walk over the records of the message, here with every word that it reads: what it makes of them
is `readProperties` of `Gen1Message`. Beside it stands what a list of records says, independent of
where they lie.
-/

namespace NabuIris.Gen1Message

open Lib Lib.Reading

/-! ### The walk -/

/-- The body of the `switch`, also with the fields that nobody uses. -/
def readChanged (legacyVpu5 : Bool) (property : ChangedProperty) (data : Nat)
    (event : HfiEventData) : Reading HfiEventData :=
  match property with
  | .profileLevelCurrent => do
      let _profile ← u32 data
      let _level ← u32 (data + 4)
      pure event
  | .entropy => do
      let _entropyMode ← u32 data
      pure event
  | property => property.read legacyVpu5 data event

def walkChanged (legacyVpu5 : Bool) : Nat → Nat → HfiEventData → Reading HfiEventData
  | 0, _, event => pure event
  | n + 1, dataPtr, event => do
      let ptype ← u32 dataPtr
      match ChangedProperty.ofType ptype with
      | none => walkChanged legacyVpu5 n dataPtr event
      | some property => do
          let event ← readChanged legacyVpu5 property (dataPtr + 4) event
          walkChanged legacyVpu5 n (dataPtr + 4 + property.size) event

/-- The formats that are left, and whether the instance enters the error state. The loop tests its
count at the end. -/
def readChangedParams (rules : OutputRules) (legacyVpu5 : Bool) (formats : Formats) :
    Reading (Formats × Bool) := do
  let numPropertiesChanged ← word 5
  let event ← walkChanged legacyVpu5 ((numPropertiesChanged - 1).toNat + 1) 24 noEvent
  let formats := irisHfiGen1ReadChangedParams rules legacyVpu5 event formats
  pure (formats, unsupportedContent event formats)

/-! ### Records -/

structure PropertyRecord where
  ptype : U32
  payload : List U32
deriving DecidableEq, Repr

namespace PropertyRecord

def property? (record : PropertyRecord) : Option ChangedProperty :=
  ChangedProperty.ofType record.ptype

/-- A record that is known has the size of its structure; another one may have any. -/
def WellFormed (record : PropertyRecord) : Prop :=
  ∀ property ∈ record.property?, 4 * record.payload.length = property.size

instance (record : PropertyRecord) : Decidable record.WellFormed :=
  inferInstanceAs (Decidable (∀ property ∈ record.property?, _))

def words (record : PropertyRecord) : List U32 := record.ptype :: record.payload

def word (record : PropertyRecord) (i : Nat) : U32 := record.payload.getD i 0

/-! What a record says of each property. -/

def size (record : PropertyRecord) : Option (U32 × U32) :=
  match record.property? with
  | some .frameSize => some (record.word 1, record.word 2)
  | _ => none

def bitDepth (record : PropertyRecord) : Option U32 :=
  match record.property? with
  | some .pixelBitdepth => some (record.word 1)
  | _ => none

def interlaced (record : PropertyRecord) : Option Bool :=
  match record.property? with
  | some .picStruct => some (record.word 0 = 0)
  | _ => none

def color (record : PropertyRecord) : Option Colorimetry :=
  match record.property? with
  | some .colourSpace => some (describedColor (record.word 0))
  | _ => none

def bufCount (legacyVpu5 : Bool) (record : PropertyRecord) : Option U32 :=
  match record.property? with
  | some .bufferRequirements => some (record.word (if legacyVpu5 then 3 else 4))
  | some .dpbCounts => some (record.word 4)
  | _ => none

def inputCrop (record : PropertyRecord) : Option Rect :=
  match record.property? with
  | some .inputCrop =>
      some
        { left := record.word 3
          top := record.word 4
          width := record.word 5
          height := record.word 6 }
  | _ => none

end PropertyRecord

/-- The message lists the records behind its header. -/
structure Carries (mem : Memory) (records : List PropertyRecord) : Prop where
  wellFormed : ∀ record ∈ records, record.WellFormed
  size : (wordAt mem 0).toNat = 24 + 4 * (records.flatMap PropertyRecord.words).length
  count : (wordAt mem 20).toNat = records.length
  packed : ∀ i < (records.flatMap PropertyRecord.words).length,
    wordAt mem (24 + 4 * i) = (records.flatMap PropertyRecord.words).getD i 0

/-! ### Values of the properties -/

structure PropertyValues where
  size : U32 × U32
  bitDepth : U32
  interlaced : Bool
  srcColor : Colorimetry
  dstColor : Colorimetry
  bufCount : U32
  inputCrop : Rect
deriving DecidableEq, Repr

/-- The values that the formats have before the message. -/
def previousValues (formats : Formats) : PropertyValues where
  size := (formats.src.width, formats.src.height)
  bitDepth := if formats.rawFormat = .p010 then hfiBitDepth10 else hfiBitDepth8
  interlaced := formats.interlaced
  srcColor := formats.src.color
  dstColor := formats.dst.color
  bufCount := formats.fwMinCount
  inputCrop := formats.crop

def eventValues (event : HfiEventData) : PropertyValues where
  size := (event.width, event.height)
  bitDepth := event.bitDepth
  interlaced := event.picStruct = 0
  srcColor := describedColor event.colourSpace
  dstColor := describedColor event.colourSpace
  bufCount := event.bufCount
  inputCrop := event.inputCrop

namespace PropertyValues

/-- A record changes what it lists. -/
def update (legacyVpu5 : Bool) (values : PropertyValues) (record : PropertyRecord) :
    PropertyValues where
  size := record.size.getD values.size
  bitDepth := record.bitDepth.getD values.bitDepth
  interlaced := record.interlaced.getD values.interlaced
  srcColor := record.color.getD values.srcColor
  dstColor := record.color.getD values.dstColor
  bufCount := (record.bufCount legacyVpu5).getD values.bufCount
  inputCrop := record.inputCrop.getD values.inputCrop

/-- A change to `V4L2_PIX_FMT_P010`, and whether the content is supported after it. -/
def depthEffect (legacyVpu5 : Bool) (rawFormat : RawFormat) (bitDepth : U32) : Bool × Bool :=
  let toP010 : Bool := legacyVpu5 && bitDepth == hfiBitDepth10 && rawFormat != .p010
  (toP010,
    (bitDepth != hfiBitDepth8 && bitDepth != hfiBitDepth10) ||
      (bitDepth == hfiBitDepth10 && (if toP010 then .p010 else rawFormat) != .p010))

/-- The visible rectangle: all of the frame when no crop is given. -/
def shown (size : U32 × U32) (inputCrop : Rect) : Rect :=
  if 0 < inputCrop.width ∧ 0 < inputCrop.height then inputCrop
  else { left := 0, top := 0, width := size.1, height := size.2 }

/-- What the formats become for these values, and whether the content is unsupported. -/
def apply (rules : OutputRules) (legacyVpu5 : Bool) (values : PropertyValues)
    (formats : Formats) : Formats × Bool :=
  let effect := depthEffect legacyVpu5 formats.rawFormat values.bitDepth
  let rawFormat := if effect.1 then .p010 else formats.rawFormat
  let sized : Formats :=
    { formats with
      rawFormat
      captureFormatChanged := formats.captureFormatChanged || effect.1
      src := { formats.src with width := values.size.1, height := values.size.2 }
      dst := { formats.dst with
        width := align values.size.1 128
        height := align values.size.2 32
        bytesperline := irisVdecRawStride values.size.1 rawFormat } }
  let described : Formats :=
    { sized with
      src := { sized.src with color := values.srcColor }
      dst := { sized.dst with color := values.dstColor, sizeimage := rules.size sized }
      crop := shown values.size values.inputCrop
      fwMinCount := values.bufCount }
  ({ described.setOutput rules with interlaced := values.interlaced }, effect.2)

end PropertyValues

end NabuIris.Gen1Message
