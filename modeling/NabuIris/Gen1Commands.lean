import NabuIris.Gen1Properties
import NabuIris.QueueTable
import NabuIris.SessionCommands

/-!
# Commands of the first generation (`iris_hfi_gen1_command.c`)

The packets, as the words of their structures in order. `CommandPacket.parse` is not in the driver:
it is what the structures of `iris_hfi_gen1_defines.h` tell the firmware about a packet that it
reads.
-/

namespace NabuIris.Gen1Command

open Lib

/-! ### Packets -/

abbrev CommandPacket := List U32

def hfiCmdSysInit : U32 := 0x10001
def hfiCmdSysPcPrep : U32 := 0x10002
def hfiCmdSysSetResource : U32 := 0x10003
def hfiCmdSysSetProperty : U32 := 0x10005
def hfiCmdSysGetProperty : U32 := 0x10006
def hfiCmdSysSessionInit : U32 := 0x10007
def hfiCmdSysSessionEnd : U32 := 0x10008
def hfiCmdSessionSetProperty : U32 := 0x11001
def hfiCmdSessionSetBuffers : U32 := 0x11002
def hfiCmdSessionLoadResources : U32 := 0x211001
def hfiCmdSessionStart : U32 := 0x211002
def hfiCmdSessionStop : U32 := 0x211003
def hfiCmdSessionEmptyBuffer : U32 := 0x211004
def hfiCmdSessionFillBuffer : U32 := 0x211005
def hfiCmdSessionFlush : U32 := 0x211008
def hfiCmdSessionGetProperty : U32 := 0x211009
def hfiCmdSessionReleaseBuffers : U32 := 0x21100b
def hfiCmdSessionReleaseResources : U32 := 0x21100c
def hfiCmdSessionContinue : U32 := 0x21100d

/-- The commands that name a session and nothing else. -/
inductive PlainCommand
  | sessionEnd
  | loadResources
  | start
  | stop
  | releaseResources
  | continue_
deriving DecidableEq, Repr

def PlainCommand.code : PlainCommand → U32
  | .sessionEnd => hfiCmdSysSessionEnd
  | .loadResources => hfiCmdSessionLoadResources
  | .start => hfiCmdSessionStart
  | .stop => hfiCmdSessionStop
  | .releaseResources => hfiCmdSessionReleaseResources
  | .continue_ => hfiCmdSessionContinue

/-- `HFI_BUFFER_*` -/
def bufferCode : Gen1BufferType → U32
  | .input => 1
  | .output => 2
  | .persist => 4
  | .persist1 => 5
  | .scratch => 6
  | .scratch1 => 7
  | .scratch2 => 8

/-- What a session tells in its commands. -/
structure CommandSession where
  sessionId : U32
  domain : Domain
  codec : Codec
  legacyVpu5 : Bool
  /-- `iris_split_mode_enabled` -/
  split : Bool
deriving DecidableEq, Repr

/-- `struct iris_buffer`; every mapping lies below the DMA mask, and a payload has 32 bits in
videobuf2. -/
structure HfiBuffer where
  type : BufType
  index : U32
  deviceAddr : BitVec 64
  bufferSize : BitVec 64
  dataSize : BitVec 64
  dataOffset : U32
  timestamp : BitVec 64
  flags : U32
  below : deviceAddr.toNat + bufferSize.toNat ≤ Queue.dmaMask + 1
  payload : dataSize.toNat < 2 ^ 32

/-- An assignment of 64 bits to a `u32`. -/
def u32 (n : BitVec 64) : U32 := n.setWidth 32

def upper32Bits (n : BitVec 64) : U32 := (n >>> 32).setWidth 32

/-! ### The core -/

def irisHfiGen1SysInit : CommandPacket := [12, hfiCmdSysInit, 1]

def irisHfiGen1SysImageVersion : CommandPacket := [16, hfiCmdSysGetProperty, 1, 6]

def irisHfiGen1SysPowerControl (enable : Bool) : CommandPacket :=
  [20, hfiCmdSysSetProperty, 1, 5, if enable then 1 else 0]

def irisHfiGen1SysDebugConfig : CommandPacket := [24, hfiCmdSysSetProperty, 1, 1, 0x8 ||| 0x10, 1]

/-- The packet of `iris_hfi_gen1_syscache_config`: the two slices, each with its size and its id. -/
def syscachePacket (size₀ id₀ size₁ id₁ : U32) : CommandPacket :=
  [36, hfiCmdSysSetResource, 1, 2, 2, size₀, id₀, size₁, id₁]

def irisHfiGen1SysPcPrep : CommandPacket := [8, hfiCmdSysPcPrep]

/-! ### Sessions -/

def sessionCodec : Codec → U32
  | .h264 => 0x2
  | .hevc => 0x2000
  | .vp9 => 0x4000

/-- `HFI_SESSION_TYPE_*` -/
def sessionDomain : Domain → U32
  | .decoder => 2
  | .encoder => 1

/-- The last packet of `iris_hfi_gen1_session_open`. -/
def irisHfiGen1SessionOpen (inst : CommandSession) : CommandPacket :=
  [20, hfiCmdSysSessionInit, inst.sessionId, sessionDomain inst.domain, sessionCodec inst.codec]

def irisHfiGen1PacketSessionCmd (inst : CommandSession) (ptype : PlainCommand) : CommandPacket :=
  [12, ptype.code, inst.sessionId]

/-- `HFI_FLUSH_ALL` and `HFI_FLUSH_OUTPUT` -/
def flushType : Plane → U32
  | .output => 0x1000004
  | .capture => 0x1000002

/-- The flush of `iris_hfi_gen1_session_stop`. -/
def flushPacket (inst : CommandSession) (plane : Plane) : CommandPacket :=
  [16, hfiCmdSessionFlush, inst.sessionId, flushType plane]

def irisHfiGen1GetBufferRequirements (inst : CommandSession) : CommandPacket :=
  [20, hfiCmdSessionGetProperty, inst.sessionId, 1, 0x202001]

/-- The words of a property, in the zeroed `n` words that are allocated for them. -/
def propWords (stores : List (Nat × U32)) (n : Nat) : List U32 :=
  stores.foldl (fun data store => data.set store.1 store.2) (List.replicate n 0)

/-- The packet of `hfi_gen1_set_property`, unless its builder refuses. -/
def setPropertyPacket (inst : CommandSession) (p010 : Bool) (ptype : Gen1Properties.Property)
    (payload : List U32) : Option CommandPacket :=
  match Gen1Properties.propData p010 (payload.getD · 0) ptype with
  | .error _ => none
  | .ok (stores, size) =>
      some ([BitVec.ofNat 32 (20 + size), hfiCmdSessionSetProperty, inst.sessionId, 1, ptype.id] ++
        propWords stores payload.length)

/-! ### Buffers -/

def irisHfiGen1QueueInputBuffer (inst : CommandSession) (buf : HfiBuffer) : CommandPacket :=
  match inst.domain with
  | .decoder =>
      [60, hfiCmdSessionEmptyBuffer, inst.sessionId, upper32Bits buf.timestamp, u32 buf.timestamp,
        0, 0, 0, buf.dataOffset, u32 buf.bufferSize, u32 buf.dataSize, buf.index,
        u32 buf.deviceAddr, 0, 0]
  | .encoder =>
      [64, hfiCmdSessionEmptyBuffer, inst.sessionId, 0, upper32Bits buf.timestamp,
        u32 buf.timestamp, buf.flags, 0, 0, u32 buf.bufferSize, u32 buf.dataSize, buf.dataOffset,
        buf.index, u32 buf.deviceAddr, 0, 0]

def irisHfiGen1QueueOutputBuffer (inst : CommandSession) (buf : HfiBuffer) : CommandPacket :=
  let streamId := if buf.type = .output ∧ inst.split then 1 else 0
  let extradataBuffer :=
    if inst.legacyVpu5 ∧ inst.codec = .vp9 then u32 (buf.deviceAddr + buf.bufferSize) else 0
  [44, hfiCmdSessionFillBuffer, inst.sessionId, streamId, buf.dataOffset, u32 buf.bufferSize,
    u32 buf.dataSize, buf.index, u32 buf.deviceAddr, extradataBuffer, 0]

def irisHfiGen1QueueInternalBuffer (inst : CommandSession) (buf : HfiBuffer) :
    Option CommandPacket :=
  match irisHfiGen1BufTypeFromDriver buf.type with
  | none => none
  | some bufferType =>
      some [36, hfiCmdSessionSetBuffers, inst.sessionId, bufferCode bufferType, u32 buf.bufferSize,
        0, u32 buf.bufferSize, 1, u32 buf.deviceAddr]

/-- The packet of `iris_hfi_gen1_session_queue_buffer`, for the buffers that it takes. -/
def irisHfiGen1SessionQueueBuffer (inst : CommandSession) (buf : HfiBuffer) :
    Option CommandPacket :=
  match buf.type with
  | .input => some (irisHfiGen1QueueInputBuffer inst buf)
  | .output | .dpb => some (irisHfiGen1QueueOutputBuffer inst buf)
  | .persist | .bin | .scratch1 | .scratch2 | .arp => irisHfiGen1QueueInternalBuffer inst buf
  | _ => none

/-- The allocation has room for a buffer with its extradata. An internal buffer leaves the last word
out of the packet. -/
def irisHfiGen1SessionUnsetBuffers (inst : CommandSession) (buf : HfiBuffer) :
    Option CommandPacket :=
  match irisHfiGen1BufTypeFromDriver buf.type with
  | none => none
  | some .input => none
  | some bufferType =>
      let size : U32 := if bufferType = .output then 40 else 36
      some [size, hfiCmdSessionReleaseBuffers, inst.sessionId, bufferCode bufferType,
        u32 buf.bufferSize, 0, 1, 1, u32 buf.deviceAddr, 0]

def irisHfiGen1SessionDrain (inst : CommandSession) : CommandPacket :=
  match inst.domain with
  | .decoder =>
      [60, hfiCmdSessionEmptyBuffer, inst.sessionId, 0, 0, 1, 0, 0, 0, 0, 0, 0, 0xdeadb000, 0, 0]
  | .encoder =>
      [64, hfiCmdSessionEmptyBuffer, inst.sessionId, 0, 0, 0, 1, 0, 0, 0, 0, 0, 0, 0xdeadb000, 0, 0]

/-! ### The host -/

/-- A packet of the driver, with what it is made of. -/
inductive HostCommand
  | sysInit
  | sysImageVersion
  | sysPowerControl (enable : Bool)
  | sysDebugConfig
  | syscache (size₀ id₀ size₁ id₁ : U32)
  | sysPcPrep
  | sessionOpen (inst : CommandSession)
  | plain (inst : CommandSession) (ptype : PlainCommand)
  | flush (inst : CommandSession) (plane : Plane)
  | getBufferRequirements (inst : CommandSession)
  | setProperty (inst : CommandSession) (p010 : Bool) (ptype : Gen1Properties.Property)
      (payload : List U32)
  | queueBuffer (inst : CommandSession) (buf : HfiBuffer)
  | unsetBuffers (inst : CommandSession) (buf : HfiBuffer)
  | drain (inst : CommandSession)

def HostCommand.packet : HostCommand → Option CommandPacket
  | .sysInit => some irisHfiGen1SysInit
  | .sysImageVersion => some irisHfiGen1SysImageVersion
  | .sysPowerControl enable => some (irisHfiGen1SysPowerControl enable)
  | .sysDebugConfig => some irisHfiGen1SysDebugConfig
  | .syscache size₀ id₀ size₁ id₁ => some (syscachePacket size₀ id₀ size₁ id₁)
  | .sysPcPrep => some irisHfiGen1SysPcPrep
  | .sessionOpen inst => some (irisHfiGen1SessionOpen inst)
  | .plain inst ptype => some (irisHfiGen1PacketSessionCmd inst ptype)
  | .flush inst plane => some (flushPacket inst plane)
  | .getBufferRequirements inst => some (irisHfiGen1GetBufferRequirements inst)
  | .setProperty inst p010 ptype payload => setPropertyPacket inst p010 ptype payload
  | .queueBuffer inst buf => irisHfiGen1SessionQueueBuffer inst buf
  | .unsetBuffers inst buf => irisHfiGen1SessionUnsetBuffers inst buf
  | .drain inst => some (irisHfiGen1SessionDrain inst)

/-! ### The firmware -/

/-- A frame in a command, in numbers. -/
structure FrameBuffer where
  timestamp : BitVec 64
  flags : U32
  offset : Nat
  allocLen : Nat
  filledLen : Nat
  tag : Nat
  packetBuffer : Nat
  extradataBuffer : Nat
deriving DecidableEq, Repr

/-- What a packet asks of the firmware. -/
inductive FirmwareCommand
  | sysInit (archType : U32)
  | sysPcPrep
  | sysSetResource (handle type : U32) (data : List U32)
  | sysSetProperty (property : U32) (data : List U32)
  | sysGetProperty (property : U32)
  | sessionInit (session domain codec : U32)
  | plain (ptype : PlainCommand) (session : U32)
  | flush (session flushType : U32)
  | setProperty (session property : U32) (data : List U32)
  | getProperty (session property : U32)
  | emptyCompressed (session : U32) (frame : FrameBuffer)
  | emptyUncompressed (session : U32) (frame : FrameBuffer)
  | fillBuffer (session streamId : U32) (frame : FrameBuffer)
  | setBuffers (session type : U32) (size minSize : Nat) (addrs : List Nat)
  | releaseBuffers (session type : U32) (size : Nat) (responseReq : U32) (addrs : List Nat)
deriving DecidableEq, Repr

/-- The types that have a structure of their own. -/
inductive PacketType
  | sysInit
  | sysPcPrep
  | sysSetResource
  | sysSetProperty
  | sysGetProperty
  | sessionInit
  | flush
  | setProperty
  | getProperty
  | emptyBuffer
  | fillBuffer
  | setBuffers
  | releaseBuffers
  | plain (ptype : PlainCommand)
deriving DecidableEq, Repr

def packetTypes : List (U32 × PacketType) :=
  [(hfiCmdSysInit, .sysInit), (hfiCmdSysPcPrep, .sysPcPrep),
    (hfiCmdSysSetResource, .sysSetResource), (hfiCmdSysSetProperty, .sysSetProperty),
    (hfiCmdSysGetProperty, .sysGetProperty), (hfiCmdSysSessionInit, .sessionInit),
    (hfiCmdSessionFlush, .flush), (hfiCmdSessionSetProperty, .setProperty),
    (hfiCmdSessionGetProperty, .getProperty), (hfiCmdSessionEmptyBuffer, .emptyBuffer),
    (hfiCmdSessionFillBuffer, .fillBuffer), (hfiCmdSessionSetBuffers, .setBuffers),
    (hfiCmdSessionReleaseBuffers, .releaseBuffers),
    (hfiCmdSysSessionEnd, .plain .sessionEnd),
    (hfiCmdSessionLoadResources, .plain .loadResources), (hfiCmdSessionStart, .plain .start),
    (hfiCmdSessionStop, .plain .stop),
    (hfiCmdSessionReleaseResources, .plain .releaseResources),
    (hfiCmdSessionContinue, .plain .continue_)]

def frameBuffer (hi lo flags offset allocLen filledLen tag addr extradata : U32) : FrameBuffer where
  timestamp := hi ++ lo
  flags
  offset := offset.toNat
  allocLen := allocLen.toNat
  filledLen := filledLen.toNat
  tag := tag.toNat
  packetBuffer := addr.toNat
  extradataBuffer := extradata.toNat

/-- The body of a packet behind its size and type, for the structure of its type. -/
def parseBody : PacketType → List U32 → Option FirmwareCommand
  | .sysInit, [archType] => some (.sysInit archType)
  | .sysPcPrep, [] => some .sysPcPrep
  | .sysSetResource, handle :: type :: data => some (.sysSetResource handle type data)
  | .sysSetProperty, 1 :: property :: data => some (.sysSetProperty property data)
  | .sysGetProperty, [1, property] => some (.sysGetProperty property)
  | .sessionInit, [session, domain, codec] => some (.sessionInit session domain codec)
  | .flush, [session, flushType] => some (.flush session flushType)
  | .setProperty, session :: 1 :: property :: data => some (.setProperty session property data)
  | .getProperty, [session, 1, property] => some (.getProperty session property)
  | .emptyBuffer, [session, hi, lo, flags, _, _, offset, alloc, filled, tag, addr, extra, _] =>
      some (.emptyCompressed session (frameBuffer hi lo flags offset alloc filled tag addr extra))
  | .emptyBuffer, [session, _, hi, lo, flags, _, _, alloc, filled, offset, tag, addr, extra, _] =>
      some (.emptyUncompressed session (frameBuffer hi lo flags offset alloc filled tag addr extra))
  | .fillBuffer, [session, streamId, offset, alloc, filled, tag, addr, extra, _] =>
      some (.fillBuffer session streamId (frameBuffer 0 0 0 offset alloc filled tag addr extra))
  | .setBuffers, session :: type :: size :: _ :: minSize :: count :: addrs =>
      if count.toNat = addrs.length then
        some (.setBuffers session type size.toNat minSize.toNat (addrs.map BitVec.toNat))
      else none
  | .releaseBuffers, session :: type :: size :: _ :: responseReq :: count :: addrs =>
      -- a CAPTURE buffer comes with its extradata
      let step := if type = bufferCode .output then 2 else 1
      if step * count.toNat = addrs.length then
        some (.releaseBuffers session type size.toNat responseReq
          ((List.range count.toNat).map fun i => (addrs.getD (step * i) 0).toNat))
      else none
  | .plain ptype, [session] => some (.plain ptype session)
  | _, _ => none

/-- A packet whose size is that of its words. -/
def CommandPacket.parse : CommandPacket → Option FirmwareCommand
  | size :: type :: body =>
      if size.toNat = 4 * (body.length + 2) then
        (packetTypes.lookup type).bind (parseBody · body)
      else none
  | _ => none

end NabuIris.Gen1Command
