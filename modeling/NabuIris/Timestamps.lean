import NabuIris.Instance
import NabuIris.Lib.Ring

/-!
# Timestamp metadata (`iris_common.c`, `iris_buffer.c`)

What a CAPTURE buffer inherits from the input with its timestamp. The microseconds in the ring are
left out: nothing reads them.
-/

namespace NabuIris

open Lib

def videoMaxFrame : Nat := 32

def v4l2BufFlagTimecode : BufFlags := 0x100
def v4l2BufFlagTstampSrcMask : BufFlags := 0x70000

/-- `struct v4l2_timecode` -/
structure Timecode where
  type : BitVec 32
  flags : BitVec 32
  frames : BitVec 8
  seconds : BitVec 8
  minutes : BitVec 8
  hours : BitVec 8
  userbits : BitVec 32
deriving DecidableEq, Repr

/-- `struct iris_ts_metadata` -/
structure TsMetadata where
  tsNs : BitVec 64
  flags : BufFlags
  tc : Timecode
deriving DecidableEq, Repr

/-- The fields of a `struct vb2_v4l2_buffer` that are copied. -/
structure Vbuf where
  timestamp : BitVec 64
  flags : BufFlags
  timecode : Timecode
deriving DecidableEq, Repr

/-- The flags that go with a timestamp. -/
def tsFlags : BufFlags := v4l2BufFlagTimecode ||| v4l2BufFlagTstampSrcMask

namespace Vbuf

/-- What is kept of an input. -/
def metadata (vbuf : Vbuf) : TsMetadata where
  tsNs := vbuf.timestamp
  flags := vbuf.flags &&& tsFlags
  tc := vbuf.timecode

def restore (data : TsMetadata) (vbuf : Vbuf) : Vbuf :=
  { vbuf with
    flags := vbuf.flags &&& ~~~tsFlags ||| data.flags
    timecode := data.tc }

end Vbuf

/-- `inst->tss` and `inst->metadata_idx` -/
abbrev TsRing := Lib.Ring TsMetadata

/-- A new instance is all zeros. -/
def TsRing.zero : TsRing where
  slots := fun _ => { tsNs := 0, flags := 0, tc := ⟨0, 0, 0, 0, 0, 0, 0⟩ }
  next := 0

def irisSetTsMetadata (vbuf : Vbuf) (tss : TsRing) : TsRing := tss.push videoMaxFrame vbuf.metadata

/-- `none` is a read past the end of the array: the index may stand there when no slot matches. -/
def irisGetTsMetadata (timestampNs : BitVec 64) (vbuf : Vbuf) (tss : TsRing) : Option Vbuf :=
  match tss.search videoMaxFrame fun data => data.tsNs == timestampNs with
  | some i => some (vbuf.restore (tss.slots i))
  | none => if tss.next < videoMaxFrame then some (vbuf.restore (tss.slots tss.next)) else none

def tssAfter (inputs : List Vbuf) : TsRing :=
  inputs.foldl (fun tss vbuf => irisSetTsMetadata vbuf tss) TsRing.zero

/-! ### Runs -/

inductive TsOp
  /-- `iris_set_ts_metadata`, when an input is queued -/
  | set (vbuf : Vbuf)
  /-- `iris_get_ts_metadata`, when an output is returned -/
  | get (timestampNs : BitVec 64) (vbuf : Vbuf)

def TsOp.input? : TsOp → Option Vbuf
  | .set vbuf => some vbuf
  | .get _ _ => none

def applyTs (tss : TsRing) : TsOp → TsRing
  | .set vbuf => irisSetTsMetadata vbuf tss
  | .get _ _ => tss

def tssAfterOps (ops : List TsOp) : TsRing := ops.foldl applyTs TsRing.zero

/-- The elements of `tss` that a lookup reads: those of the loop, and the one after it. -/
def readsOf (timestampNs : BitVec 64) (tss : TsRing) : List Nat :=
  match tss.search videoMaxFrame fun data => data.tsNs == timestampNs with
  | some i => List.range (i + 1)
  | none => List.range videoMaxFrame ++ [tss.next]

/-- The indices that an operation uses. -/
def TsOp.accesses (tss : TsRing) : TsOp → List Nat
  | .set _ => [tss.place videoMaxFrame]
  | .get timestampNs _ => readsOf timestampNs tss

end NabuIris
