import NabuIris.SourceChange

/-!
# Admission control (`iris_common.c`, `iris_utils.c`, `iris_vdec.c`, `iris_venc.c`)

What a core spends on its instances: open sessions, macroblocks a frame and macroblocks a second.
An `AdmissionOp` is one section under `core->lock`, or one change of the formats of an instance.
The integers have the widths of the source.
-/

namespace NabuIris

/-- `DIV_ROUND_UP(n, 16)` -/
def divRoundUp16 (n : U32) : U32 := (n + 15) / 16

def numMbsPerFrame (height width : U32) : U32 := divRoundUp16 height * divRoundUp16 width

def iris1FourKMbpf : U32 := numMbsPerFrame 2160 3840

def iris1Max4KSessions : U32 := 3

/-- `inst_caps`, for frame sizes -/
structure InstCaps where
  minFrameWidth : U32
  maxFrameWidth : U32
  minFrameHeight : U32
  maxFrameHeight : U32
deriving DecidableEq, Repr

/-- What the platform tables say about admission. -/
structure AdmissionLimits where
  caps : InstCaps
  maxSessionCount : U32
  maxCoreMbpf : U32
  maxCoreMbps : U32
  legacyVpu5 : Bool
  /-- `core_arch` is not set -/
  p010Supported : Bool
deriving DecidableEq, Repr

def numMbs8K : U32 := 8192 * 4352 / 256

def sm8150Limits : AdmissionLimits where
  caps :=
    { minFrameWidth := 96, maxFrameWidth := 8192, minFrameHeight := 96, maxFrameHeight := 8192 }
  maxSessionCount := 16
  maxCoreMbpf := numMbs8K
  maxCoreMbps := 3840 * 2176 / 256 * 120
  legacyVpu5 := true
  p010Supported := true

/-- What admission reads of an instance. -/
structure LoadInst where
  domain : Domain
  codec : Codec
  formats : Formats
  hfiSessionOpened : Bool
  coreLoadReserved : Bool
  coreLoadRejected : Bool
  admissionFrameRate : U32

def irisGetMbpf (inst : LoadInst) : U32 :=
  let formats := inst.formats
  numMbsPerFrame
    (if formats.crop.height < formats.src.height then formats.src.height else formats.crop.height)
    (if formats.crop.width < formats.src.width then formats.src.width else formats.crop.width)

structure AdmissionCore where
  limits : AdmissionLimits
  /-- the list `instances` -/
  instances : List Nat
  inst : Nat → LoadInst

namespace AdmissionCore

def setInst (core : AdmissionCore) (i : Nat) (inst : LoadInst) : AdmissionCore :=
  { core with inst := Function.update core.inst i inst }

end AdmissionCore

/-! ### Sessions -/

/-- The loop of `iris_hfi_session_open`: `active_sessions` and `active_mbpf`. -/
def activeLoad (core : AdmissionCore) : BitVec 32 × BitVec 64 :=
  core.instances.foldl
    (fun active k =>
      if !(core.inst k).hfiSessionOpened then active
      else (active.1 + 1, active.2 + (irisGetMbpf (core.inst k)).signExtend 64))
    (0, 0)

/-- `iris_hfi_session_open` up to the end of its locked section. -/
def irisHfiSessionOpenSection (i : Nat) (core : AdmissionCore) : Int × AdmissionCore :=
  let inst := core.inst i
  if inst.hfiSessionOpened then (0, core)
  else
    let active := activeLoad core
    if core.limits.maxSessionCount ≤ active.1 then (-ebusy, core)
    else if core.limits.maxCoreMbpf.zeroExtend 64 <
        active.2 + (irisGetMbpf inst).signExtend 64 then (-enomem, core)
    else (0, core.setInst i { inst with hfiSessionOpened := true })

/-- The label `release_slot` of `iris_hfi_session_open` and the section of `iris_hfi_session_close`.
A second field, `hfi_core_id`, is cleared with them. -/
def LoadInst.closed (inst : LoadInst) : LoadInst :=
  { inst with
    hfiSessionOpened := false
    coreLoadReserved := false
    coreLoadRejected := false
    admissionFrameRate := 0 }

def irisReleaseCoreLoad (i : Nat) (core : AdmissionCore) : AdmissionCore :=
  core.setInst i { core.inst i with coreLoadReserved := false, admissionFrameRate := 0 }

/-- The section of `iris_hfi_session_close`, and what it does without a session. -/
def irisHfiSessionCloseSection (i : Nat) (core : AdmissionCore) : AdmissionCore :=
  if !(core.inst i).hfiSessionOpened then irisReleaseCoreLoad i core
  else core.setInst i (core.inst i).closed

/-! ### Load -/

/-- The loop of `iris_reserve_core_load`: `total_mbps` and `large_sessions`. -/
def reservedLoad (core : AdmissionCore) : BitVec 64 × BitVec 32 :=
  core.instances.foldl
    (fun total k =>
      let inst := core.inst k
      if !inst.coreLoadReserved then total
      else
        (total.1 + (irisGetMbpf inst).signExtend 64 * inst.admissionFrameRate.zeroExtend 64,
          if iris1FourKMbpf.sle (irisGetMbpf inst) then total.2 + 1 else total.2))
    (0, 0)

def irisReserveCoreLoad (i : Nat) (frameRate : U32) (core : AdmissionCore) : Int × AdmissionCore :=
  let inst := core.inst i
  let frameRate := if frameRate < 1 then 1 else frameRate
  let mbpf := irisGetMbpf inst
  if inst.coreLoadReserved then (0, core)
  else
    let total := reservedLoad core
    let totalMbps := total.1 + mbpf.zeroExtend 64 * frameRate.zeroExtend 64
    if core.limits.maxCoreMbps.zeroExtend 64 < totalMbps then (-enomem, core)
    else if core.limits.legacyVpu5 ∧ iris1FourKMbpf ≤ mbpf ∧ iris1Max4KSessions ≤ total.2 then
      (-enomem, core)
    else (0, core.setInst i { inst with admissionFrameRate := frameRate, coreLoadReserved := true })

/-! ### Formats -/

def clamp (n low high : U32) : U32 := if n < low then low else if high < n then high else n

/-- `iris_vdec_s_fmt` for the OUTPUT queue. `codec` is `none` for a pixel format that is not known;
the colours and the size of a bitstream buffer that come along are left out. -/
def irisVdecSFmtOutput (rules : OutputRules) (caps : InstCaps) (codec : Option Codec)
    (width height : U32) (inst : LoadInst) : LoadInst :=
  let src := inst.formats.src
  let width := clamp (if codec.isSome then width else src.width) caps.minFrameWidth
    caps.maxFrameWidth
  let height := clamp (if codec.isSome then height else src.height) caps.minFrameHeight
    caps.maxFrameHeight
  let codec := codec.getD inst.codec
  let codecAlign : U32 := if codec = .hevc then 32 else 16
  let sized : Formats :=
    { inst.formats with
      src := { src with width := align width codecAlign, height := align height codecAlign }
      dst := { inst.formats.dst with
        width := align width 128
        height := align height 32
        bytesperline := irisVdecRawStride width inst.formats.rawFormat } }
  { inst with
    codec
    formats :=
      { sized with
        dst := { sized.dst with sizeimage := rules.size sized }
        outputSize := rules.size sized
        crop := { left := 0, top := 0, width, height } } }

/-- `iris_vdec_s_fmt` for the CAPTURE queue; `srcStreaming` is `vb2_is_streaming(src_q)`. -/
def irisVdecSFmtCapture (rules : OutputRules) (p010Supported : Bool) (format : Option RawFormat)
    (srcStreaming : Bool) (width height : U32) (inst : LoadInst) : LoadInst :=
  let dst := inst.formats.dst
  let known := format = some .nv12 ∨ (format = some .p010 ∧ p010Supported)
  let rawFormat := if known then format.getD inst.formats.rawFormat else inst.formats.rawFormat
  let width := if srcStreaming then inst.formats.src.width else if known then width else dst.width
  let height :=
    if srcStreaming then inst.formats.src.height else if known then height else dst.height
  let sized : Formats :=
    { inst.formats with
      rawFormat
      dst := { dst with
        width := align width 128
        height := align height 32
        bytesperline := irisVdecRawStride width rawFormat } }
  { inst with
    formats :=
      { Formats.setOutput rules
          { sized with dst := { sized.dst with sizeimage := rules.size sized } }
        with crop := { left := 0, top := 0, width, height } } }

/-- `iris_venc_s_fmt` for the OUTPUT queue; the CAPTURE format of an encoder has no size. -/
def irisVencSFmtInput (nv12 : Bool) (width height : U32) (inst : LoadInst) : LoadInst :=
  let src := inst.formats.src
  let width := if nv12 then width else src.width
  let height := if nv12 then height else src.height
  let crop := inst.formats.crop
  { inst with
    formats :=
      { inst.formats with
        src := { src with width, height }
        dst := { inst.formats.dst with width, height }
        crop :=
          if width ≠ crop.width ∨ height ≠ crop.height then { left := 0, top := 0, width, height }
          else crop } }

def irisVencSSelection (width height : U32) (inst : LoadInst) : Int × LoadInst :=
  let src := inst.formats.src
  if src.width < width ∨ src.height < height then (-einval, inst)
  else
    (0, { inst with
      formats :=
        { inst.formats with
          crop := { left := 0, top := 0, width, height }
          dst := { inst.formats.dst with width, height } } })

/-- A change of the formats of an instance: S_FMT, S_SELECTION or a message of the firmware. A
queue with buffers refuses S_FMT, which changes nothing. -/
inductive FormatChange
  | vdecOutput (codec : Option Codec) (width height : U32)
  | vdecCapture (format : Option RawFormat) (srcStreaming : Bool) (width height : U32)
  | vencInput (nv12 : Bool) (width height : U32)
  | vencSelection (width height : U32)
  | gen1SeqChanged (event : HfiEventData)
  /-- the visible rectangle of a VP9 frame -/
  | gen1Vp9Resize (crop : Rect)
  | gen2SrcChange (params : SubscriptionParams)

def FormatChange.domain : FormatChange → Domain
  | .vencInput .. => .encoder
  | .vencSelection .. => .encoder
  | _ => .decoder

def FormatChange.change (rules : OutputRules) (limits : AdmissionLimits) (change : FormatChange)
    (inst : LoadInst) : LoadInst :=
  match change with
  | .vdecOutput codec width height => irisVdecSFmtOutput rules limits.caps codec width height inst
  | .vdecCapture format srcStreaming width height =>
      irisVdecSFmtCapture rules limits.p010Supported format srcStreaming width height inst
  | .vencInput nv12 width height => irisVencSFmtInput nv12 width height inst
  | .vencSelection width height => (irisVencSSelection width height inst).2
  | .gen1SeqChanged event =>
      { inst with
        formats := irisHfiGen1ReadChangedParams rules limits.legacyVpu5 event inst.formats }
  | .gen1Vp9Resize crop => { inst with formats := { inst.formats with crop } }
  | .gen2SrcChange params =>
      { inst with formats := subscribedFormats rules params inst.formats }

def FormatChange.apply (rules : OutputRules) (limits : AdmissionLimits) (change : FormatChange)
    (inst : LoadInst) : LoadInst :=
  if inst.domain = change.domain then change.change rules limits inst else inst

/-! ### Runs -/

/-- The sizes that `iris_vdec_inst_init` and `iris_venc_inst_init` leave. -/
def LoadInst.opened (rules : OutputRules) (domain : Domain) : LoadInst :=
  let src : PixFormat :=
    { width := 320, height := 240, bytesperline := 0, sizeimage := 0, color := .default }
  let crop : Rect :=
    match domain with
    | .decoder => { left := 0, top := 0, width := 0, height := 0 }
    | .encoder => { left := 0, top := 0, width := 320, height := 240 }
  let formats : Formats :=
    { src
      dst := { src with width := align 320 128, height := align 240 32 }
      rawFormat := .nv12
      crop
      fwMinCount := 0
      outputMinCount := 0
      outputSize := 0
      captureFormatChanged := false
      interlaced := false }
  { domain
    codec := .h264
    formats := formats.setOutput rules
    hfiSessionOpened := false
    coreLoadReserved := false
    coreLoadRejected := false
    admissionFrameRate := 0 }

inductive AdmissionOp
  /-- `iris_add_session` -/
  | add (i : Nat) (domain : Domain)
  /-- `iris_remove_session` -/
  | remove (i : Nat)
  | sessionOpen (i : Nat)
  /-- SESSION_INIT failed -/
  | releaseSlot (i : Nat)
  | sessionClose (i : Nat)
  | reserve (i : Nat) (frameRate : U32)
  | release (i : Nat)
  | setFormat (i : Nat) (change : FormatChange)

/-- The calls are made on open files, whose instances are on the list. -/
def applyAdmission (rules : OutputRules) (core : AdmissionCore) (op : AdmissionOp) :
    AdmissionCore :=
  match op with
  | .add i domain =>
      if i ∈ core.instances then core
      else
        { core.setInst i (.opened rules domain) with instances := core.instances ++ [i] }
  | .remove i => { core with instances := core.instances.erase i }
  | .sessionOpen i => if i ∈ core.instances then (irisHfiSessionOpenSection i core).2 else core
  | .releaseSlot i => if i ∈ core.instances then core.setInst i (core.inst i).closed else core
  | .sessionClose i => if i ∈ core.instances then irisHfiSessionCloseSection i core else core
  | .reserve i frameRate =>
      if i ∈ core.instances then (irisReserveCoreLoad i frameRate core).2 else core
  | .release i => if i ∈ core.instances then irisReleaseCoreLoad i core else core
  | .setFormat i change =>
      if i ∈ core.instances then core.setInst i (change.apply rules core.limits (core.inst i))
      else core

/-- A core without instances. -/
def AdmissionCore.start (rules : OutputRules) (limits : AdmissionLimits) : AdmissionCore where
  limits := limits
  instances := []
  inst := fun _ => .opened rules .decoder

def admissionAfter (rules : OutputRules) (core : AdmissionCore) (ops : List AdmissionOp) :
    AdmissionCore :=
  ops.foldl (applyAdmission rules) core

end NabuIris
