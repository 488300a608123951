import NabuIris.Power
import NabuIris.Queue

/-!
# The message loops of the response handlers

`iris_hfi_gen1_response_handler` and `iris_hfi_gen2_response_handler` read the message queue until
a read fails. What they do with a packet is a parameter here, `handle`: it may change anything on
the host, the core state included, but neither the queue nor its memory.
-/

namespace NabuIris.Queue

open Lib

structure Handler (σ : Type) where
  coreState : σ → CoreState
  handle : σ → PacketBuf → σ
  systemError : σ → σ

structure LoopState (σ : Type) where
  host : σ
  messageQueue : IfaceQInfo
  responsePacket : PacketBuf

/-- `memset(core->response_packet, 0, len)` -/
def clearHeader (len : Nat) (packet : PacketBuf) : PacketBuf :=
  ⟨Region.store packet.byte 0 (List.replicate len 0)⟩

variable {σ : Type}

/-- The body of the `while`, at most `fuel` rounds of it; `none` when they do not suffice. -/
def messageLoop (h : Handler σ) (hdrSize : Nat) : Nat → LoopState σ → Option (LoopState σ)
  | 0, _ => none
  | fuel + 1, st => do
      let (ret, q, pkt) ← irisHfiQueueMsgRead (h.coreState st.host) st.messageQueue
        st.responsePacket
      if ret ≠ 0 then
        some { st with messageQueue := q, responsePacket := pkt }
      else
        messageLoop h hdrSize fuel
          { host := h.handle st.host pkt
            messageQueue := q
            responsePacket := clearHeader hdrSize pkt }

/-- `sizeof(struct hfi_pkt_hdr)` -/
def hfiPktHdrSize : Nat := 8

/-- `sizeof(struct iris_hfi_header)` -/
def irisHfiHeaderSize : Nat := 32

def irisHfiGen1ResponseHandler (h : Handler σ) (fuel : Nat) (st : LoopState σ) :
    Option (LoopState σ) :=
  messageLoop h hfiPktHdrSize fuel
    { st with responsePacket := clearHeader hfiPktHdrSize st.responsePacket }

def irisHfiGen2ResponseHandler (h : Handler σ) (legacyVpu5 : Bool) (intrStatus : UInt32)
    (fuel : Nat) (st : LoopState σ) : Option (LoopState σ) :=
  if irisVpuWatchdog legacyVpu5 intrStatus then
    some { st with host := h.systemError st.host }
  else
    messageLoop h irisHfiHeaderSize fuel
      { st with responsePacket := clearHeader irisHfiHeaderSize st.responsePacket }

end NabuIris.Queue
