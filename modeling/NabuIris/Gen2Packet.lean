import NabuIris.Instance

/-!
# Packets of the second firmware generation (`iris_hfi_common.h`, `iris_hfi_gen2_packet.h`)

The words of a packet as both sides write them, and the checks of a response that read one packet
only.
-/

namespace NabuIris

/-! ### `enum hfi_packet_port_type`, `enum hfi_packet_payload_info` -/

def hfiPortNone : BitVec 32 := 0
def hfiPortBitstream : BitVec 32 := 1
def hfiPortRaw : BitVec 32 := 2

def hfiPayloadNone : BitVec 32 := 0x0
def hfiPayloadU32 : BitVec 32 := 0x1
def hfiPayloadS32 : BitVec 32 := 0x2
def hfiPayloadU64 : BitVec 32 := 0x3
def hfiPayloadS64 : BitVec 32 := 0x4
def hfiPayloadStructure : BitVec 32 := 0x5
def hfiPayloadQ16 : BitVec 32 := 0x8
def hfiPayloadU32Enum : BitVec 32 := 0x9
def hfiPayload32Packed : BitVec 32 := 0xa
def hfiPayload64Packed : BitVec 32 := 0xd

/-! ### Packet types -/

def hfiCmdBuffer : BitVec 32 := 0x01000009

/-! ### `enum hfi_buffer_type`, and the flags of a buffer -/

def hfiBufferBitstream : BitVec 32 := 0x1
def hfiBufferRaw : BitVec 32 := 0x2
def hfiBufferDpb : BitVec 32 := 0x6
def hfiBufferBin : BitVec 32 := 0x7
def hfiBufferLine : BitVec 32 := 0x8
def hfiBufferArp : BitVec 32 := 0x9
def hfiBufferComv : BitVec 32 := 0xa
def hfiBufferNonComv : BitVec 32 := 0xb
def hfiBufferPersist : BitVec 32 := 0xc
def hfiBufferVpss : BitVec 32 := 0xd

def hfiBufHostFlagRelease : BitVec 32 := 0x1
def hfiBufHostFlagsCbNonSecure : BitVec 32 := 0x200

def hfiHostFlagsIntrRequired : BitVec 32 := 0x1

/-! ### Layout -/

/-- `sizeof(struct iris_hfi_header)` -/
def hfiHeaderSize : Nat := 32
/-- `sizeof(struct iris_hfi_packet)` -/
def hfiPacketSize : Nat := 32
/-- `sizeof(struct iris_hfi_buffer)` -/
def hfiBufferSize : Nat := 64

/-! ### Checks (`iris_hfi_gen2_response.c`) -/

/-- `payload_size` of `iris_hfi_gen2_validate_packet_payload` -/
def payloadSize (type payloadInfo : BitVec 32) : Nat :=
  if payloadInfo ∈ [hfiPayloadU32, hfiPayloadS32, hfiPayloadQ16, hfiPayloadU32Enum,
      hfiPayload32Packed] then 4
  else if payloadInfo ∈ [hfiPayloadU64, hfiPayloadS64, hfiPayload64Packed] then 8
  else if payloadInfo = hfiPayloadStructure ∧ type = hfiCmdBuffer then hfiBufferSize
  else 0

def irisHfiGen2ValidatePacketPayload (size type payloadInfo : BitVec 32) : Bool :=
  hfiPacketSize + payloadSize type payloadInfo ≤ size.toNat

def irisHfiGen2IsValidHfiBufferType (bufferType : BitVec 32) : Bool :=
  bufferType ∈ [hfiBufferBitstream, hfiBufferRaw, hfiBufferBin, hfiBufferArp, hfiBufferComv,
    hfiBufferNonComv, hfiBufferLine, hfiBufferDpb, hfiBufferPersist, hfiBufferVpss]

def irisHfiGen2IsValidHfiPort (port bufferType : BitVec 32) : Bool :=
  if port = hfiPortNone ∧ bufferType ≠ hfiBufferPersist then false
  else if port ≠ hfiPortBitstream ∧ port ≠ hfiPortRaw then false
  else true

end NabuIris
