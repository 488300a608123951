import NabuIris.Gen2Commands
import NabuIris.Proof.BuiltMessages
import NabuIris.Proof.QueueFifo

/-!
# What the commands hand to the queue

A command that finds its buffer writes messages of one packet each, which fit in the buffer, and
touches nothing outside. `Sends` says what the messages of a call are made of; calls in a row send
what each of them sends.
-/

namespace NabuIris.Gen2Command

open Lib Lib.Reading Gen2Message

/-! ### One message -/

/-- A message of this one packet, with its size beside it. -/
structure Written.Carries (m : Written) (packet : Gen2Message.Gen2Packet) : Prop where
  message : Message m.message [packet]
  size : m.size = wordAt m.message 0
  fits : hfiHeaderSize + hfiPacketSize + packet.payload.length ≤ packetAlloc
  dvd : 4 ∣ packet.payload.length

theorem Written.Carries.read {m : Written} {packet : Gen2Message.Gen2Packet}
    (hcarries : m.Carries packet) : readMessage.run m.message = [packet] :=
  hcarries.message.read

theorem Written.Carries.toNat_size {m : Written} {packet : Gen2Message.Gen2Packet}
    (hcarries : m.Carries packet) :
    m.size.toNat = hfiHeaderSize + hfiPacketSize + packet.payload.length := by
  rw [hcarries.size, hcarries.message.size, totalSize_cons, Gen2Packet.size]
  change _ + (_ + 0) = _
  rw [Nat.add_zero, Nat.add_assoc]

@[simp]
theorem length_wordPayload (words : List U32) : (wordPayload words).length = 4 * words.length := by
  induction words with
  | nil => rfl
  | cons w rest ih =>
      have hsplit : wordPayload (w :: rest) =
          [byteOf w 0, byteOf w 1, byteOf w 2, byteOf w 3] ++ wordPayload rest := rfl
      rw [hsplit, List.length_append, ih]
      simp only [List.length_cons, List.length_nil]
      omega

/-! ### What a call sends -/

/-- From one state to the other, messages of packets of this kind were handed over; the buffer is
there, and what is subscribed to has not changed. -/
structure Sends (kind : Gen2Message.Gen2Packet → Prop) (s s' : Session) : Prop where
  messages : ∃ new, s'.written = s.written ++ new ∧
    ∀ m ∈ new, ∃ packet, m.Carries packet ∧ kind packet
  packet : s'.packet.isSome
  ipsc : s'.ipscPropertiesSet = s.ipscPropertiesSet
  opsc : s'.opscPropertiesSet = s.opscPropertiesSet

/-- A call that finds its buffer returns, and sends packets of this kind. -/
def Call.Sending (kind : Gen2Message.Gen2Packet → Prop) (call : Call) : Prop :=
  ∀ s : Session, s.packet.isSome → ∃ ret s', call s = some (ret, s') ∧ Sends kind s s'

section Sends

variable {kind kind' : Gen2Message.Gen2Packet → Prop} {s s' s'' : Session} {call next : Call}

theorem Sends.refl (hpacket : s.packet.isSome) : Sends kind s s :=
  ⟨⟨[], (List.append_nil _).symm, fun _ hm => absurd hm List.not_mem_nil⟩, hpacket, rfl, rfl⟩

theorem Sends.trans (hfirst : Sends kind s s') (hsecond : Sends kind s' s'') :
    Sends kind s s'' := by
  obtain ⟨new, hnew, hkind⟩ := hfirst.messages
  obtain ⟨new', hnew', hkind'⟩ := hsecond.messages
  refine ⟨⟨new ++ new', by rw [hnew', hnew, List.append_assoc], ?_⟩, hsecond.packet,
    hsecond.ipsc.trans hfirst.ipsc, hsecond.opsc.trans hfirst.opsc⟩
  intro m hm
  exact (List.mem_append.1 hm).elim (hkind m) (hkind' m)

theorem Sends.mono (hmono : ∀ packet, kind packet → kind' packet) (hsends : Sends kind s s') :
    Sends kind' s s' := by
  obtain ⟨new, hnew, hkind⟩ := hsends.messages
  refine ⟨⟨new, hnew, fun m hm => ?_⟩, hsends.packet, hsends.ipsc, hsends.opsc⟩
  obtain ⟨packet, hcarries, hpacket⟩ := hkind m hm
  exact ⟨packet, hcarries, hmono packet hpacket⟩

theorem Call.Sending.done (ret : Int) : Call.Sending kind fun s => some (ret, s) :=
  fun s hpacket => ⟨ret, s, rfl, Sends.refl hpacket⟩

theorem Call.thenCall_of_ok (hdone : call s = some (0, s')) :
    call.thenCall next s = next s' := by
  rw [Call.thenCall, hdone]
  rfl

theorem Call.thenCall_of_failed {ret : Int} (hret : ret ≠ 0) (hdone : call s = some (ret, s')) :
    call.thenCall next s = some (ret, s') := by
  rw [Call.thenCall, hdone]
  exact if_pos hret

theorem Call.Sending.thenCall (hcall : call.Sending kind) (hnext : next.Sending kind) :
    (call.thenCall next).Sending kind := by
  intro s hpacket
  obtain ⟨ret, s₁, hdone, hsends⟩ := hcall s hpacket
  by_cases hret : ret = 0
  · subst hret
    obtain ⟨ret', s₂, hdone', hsends'⟩ := hnext s₁ hsends.packet
    exact ⟨ret', s₂, (Call.thenCall_of_ok hdone).trans hdone', hsends.trans hsends'⟩
  · exact ⟨ret, s₁, Call.thenCall_of_failed hret hdone, hsends⟩

theorem Call.Sending.mono (hmono : ∀ packet, kind packet → kind' packet)
    (hcall : call.Sending kind) : call.Sending kind' := by
  intro s hpacket
  obtain ⟨ret, s', hdone, hsends⟩ := hcall s hpacket
  exact ⟨ret, s', hdone, hsends.mono hmono⟩

/-- Keeping other parameters first makes no difference. -/
theorem Call.Sending.comp (f : Session → Session) (hcall : call.Sending kind)
    (hwritten : ∀ s, (f s).written = s.written) (hbuffer : ∀ s, (f s).packet = s.packet)
    (hipsc : ∀ s, (f s).ipscPropertiesSet = s.ipscPropertiesSet)
    (hopsc : ∀ s, (f s).opscPropertiesSet = s.opscPropertiesSet) :
    Call.Sending kind fun s => call (f s) := by
  intro s hpacket
  obtain ⟨ret, s', hdone, hsends⟩ := hcall (f s) (by rwa [hbuffer])
  obtain ⟨new, hnew, hkind⟩ := hsends.messages
  exact ⟨ret, s', hdone, ⟨new, by rw [hnew, hwritten], hkind⟩, hsends.packet,
    hsends.ipsc.trans (hipsc s), hsends.opsc.trans (hopsc s)⟩

end Sends

/-! ### The messages of the commands -/

section Commands

variable {env : QueueEnv} {tables : ParamTables} {inst : CommandInst} {plane : Plane}
  {s : Session} {pktType flags port sessionId payloadType : U32} {payload : List (BitVec 8)}

/-- **One command.** The message is the packet that was asked for, and the result is that of the
queue. -/
theorem sendCommand_eq (env : QueueEnv) (pktType flags port sessionId payloadType : U32)
    (hpacket : s.packet.isSome)
    (hfits : hfiHeaderSize + hfiPacketSize + payload.length ≤ packetAlloc)
    (hdvd : 4 ∣ payload.length) :
    ∃ s' m, sendCommand env pktType flags port sessionId payloadType payload s = some (m.ret, s') ∧
      s'.written = s.written ++ [m] ∧
      m.Carries ⟨pktType, flags, payloadType, port, s.packetId, payload⟩ ∧
      s'.packet.isSome ∧ s'.ipscPropertiesSet = s.ipscPropertiesSet ∧
      s'.opscPropertiesSet = s.opscPropertiesSet := by
  obtain ⟨mem, hmem⟩ := Option.isSome_iff_exists.1 hpacket
  have hmax : packetAlloc = ifaceqCorePktSize := rfl
  have hmessage : Message (irisHfiGen2CreatePacket
      ⟨pktType, flags, payloadType, port, s.packetId, payload⟩
        (irisHfiGen2CreateHeader sessionId s.headerId mem))
      [⟨pktType, flags, payloadType, port, s.packetId, payload⟩] := by
    refine (createHeader_message sessionId s.headerId mem).createPacket ?_
    rw [List.nil_append, totalSize_cons, Gen2Packet.size]
    change _ + (_ + 0) ≤ _
    rwa [Nat.add_zero, ← Nat.add_assoc, ← hmax]
  simp only [sendCommand, irisHfiGen2PacketSessionCommand, irisHfiQueueCmdWrite, hmem,
    Option.bind_eq_bind, Option.bind_some, if_neg (Nat.not_lt.2 hfits)]
  exact ⟨_, ⟨_, _, _⟩, rfl, rfl, ⟨hmessage, rfl, hfits, hdvd⟩, rfl, rfl, rfl⟩

theorem sendCommand_sending {kind : Gen2Message.Gen2Packet → Prop}
    (hfits : hfiHeaderSize + hfiPacketSize + payload.length ≤ packetAlloc)
    (hdvd : 4 ∣ payload.length)
    (hkind : ∀ packetId, kind ⟨pktType, flags, payloadType, port, packetId, payload⟩) :
    (sendCommand env pktType flags port sessionId payloadType payload).Sending kind := by
  intro s hpacket
  obtain ⟨s', m, hdone, hwritten, hcarries, hpacket', hipsc, hopsc⟩ :=
    sendCommand_eq env pktType flags port sessionId payloadType hpacket hfits hdvd
  refine ⟨m.ret, s', hdone, ⟨[m], hwritten, fun m' hm' => ?_⟩, hpacket', hipsc, hopsc⟩
  rw [List.mem_singleton.1 hm']
  exact ⟨_, hcarries, hkind _⟩

/-- A property, or a command that neither opens, starts nor subscribes. -/
def PlainType (type : U32) : Prop :=
  type ≠ hfiCmdOpen ∧ type ≠ hfiCmdStart ∧ type ≠ hfiCmdSubscribeMode

instance (type : U32) : Decidable (PlainType type) := inferInstanceAs (Decidable (_ ∧ _ ∧ _))

def Plain (packet : Gen2Message.Gen2Packet) : Prop := PlainType packet.type

/-- A property of at most 16 words. -/
theorem setProperty_sending {words : List U32} {packetType flag : U32}
    (hwords : words.length ≤ 16) (htype : PlainType packetType) :
    (irisHfiGen2SessionSetProperty env inst packetType flag port payloadType words).Sending
      Plain := by
  have hfits : hfiHeaderSize + hfiPacketSize + (wordPayload words).length ≤ packetAlloc := by
    rw [length_wordPayload]
    simp only [hfiHeaderSize, hfiPacketSize, packetAlloc]
    omega
  have hdvd : 4 ∣ (wordPayload words).length := ⟨_, length_wordPayload words⟩
  exact sendCommand_sending hfits hdvd fun _ => htype

theorem setSrcParam_sending (property : U32) {value : U32}
    {keep : SubscriptionParams → SubscriptionParams} (htype : PlainType property) :
    (setSrcParam env inst property port payloadType value keep).Sending Plain :=
  Call.Sending.comp (fun s => { s with srcSubcrParams := keep s.srcSubcrParams })
    (setProperty_sending (by simp) htype) (fun _ => rfl) (fun _ => rfl) (fun _ => rfl)
    fun _ => rfl

/-- Every handler of `prop_type_handle_arr`. -/
theorem propTypeHandles_sending :
    ∀ entry ∈ propTypeHandles env, (entry.2 inst plane).Sending Plain := by
  have hresolution : (irisHfiGen2SetBitstreamResolution env inst plane).Sending Plain := by
    unfold irisHfiGen2SetBitstreamResolution
    cases inst.domain with
    | decoder =>
        exact Call.Sending.comp (fun s => { s with srcSubcrParams := _ })
          (setProperty_sending (by simp) (by decide)) (fun _ => rfl) (fun _ => rfl)
          (fun _ => rfl) fun _ => rfl
    | encoder =>
        exact Call.Sending.comp (fun s => { s with dstSubcrParams := _ })
          (setProperty_sending (by simp) (by decide)) (fun _ => rfl) (fun _ => rfl)
          (fun _ => rfl) fun _ => rfl
  have hcrop : (irisHfiGen2SetCropOffsets env inst plane).Sending Plain := by
    unfold irisHfiGen2SetCropOffsets
    dsimp only
    exact Call.Sending.comp (fun s => { s with srcSubcrParams := _ })
      (setProperty_sending (by simp) (by decide)) (fun _ => rfl) (fun _ => rfl)
      (fun _ => rfl) fun _ => rfl
  have hstride : (irisHfiGen2SetLinearStrideScanline env inst plane).Sending Plain := by
    intro s hpacket
    unfold irisHfiGen2SetLinearStrideScanline
    split
    dsimp only
    split_ifs
    · exact Call.Sending.done 0 s hpacket
    · exact setProperty_sending (by simp) (by decide) s hpacket
  intro entry hentry
  simp only [propTypeHandles, List.mem_cons, List.not_mem_nil, or_false] at hentry
  rcases hentry with rfl | rfl | rfl | rfl | rfl | rfl | rfl | rfl | rfl | rfl | rfl | rfl | rfl
    | rfl
  · exact setProperty_sending (by simp) (by decide)
  · exact hresolution
  · exact hcrop
  · dsimp only [irisHfiGen2SetCodedFrames]
    exact setSrcParam_sending hfiPropCodedFrames (by decide)
  · dsimp only [irisHfiGen2SetBitDepth]
    exact setSrcParam_sending hfiPropLumaChromaBitDepth (by decide)
  · dsimp only [irisHfiGen2SetMinOutputCount]
    exact setSrcParam_sending hfiPropBufferFwMinOutputCount (by decide)
  · dsimp only [irisHfiGen2SetPictureOrderCount]
    exact setSrcParam_sending hfiPropPicOrderCntType (by decide)
  · dsimp only [irisHfiGen2SetColorspace]
    exact setSrcParam_sending hfiPropSignalColorInfo (by decide)
  · dsimp only [irisHfiGen2SetProfile]
    exact setSrcParam_sending hfiPropProfile (by decide)
  · dsimp only [irisHfiGen2SetLevel]
    exact setSrcParam_sending hfiPropLevel (by decide)
  · exact setProperty_sending (by simp) (by decide)
  · exact hstride
  · dsimp only [irisHfiGen2SetTier]
    exact setSrcParam_sending hfiPropTier (by decide)
  · exact setProperty_sending (by simp) (by decide)

theorem setConfigParams_sending (params : List U32) :
    (setConfigParams env inst plane params).Sending Plain := by
  induction params with
  | nil => exact Call.Sending.done 0
  | cons param rest ih =>
      unfold setConfigParams
      split
      · exact ih
      · next entry hfind =>
          exact (propTypeHandles_sending entry (List.mem_of_find?_eq_some hfind)).thenCall ih

theorem sessionSetConfigParams_sending :
    (irisHfiGen2SessionSetConfigParams env tables inst plane).Sending Plain := by
  intro s hpacket
  unfold irisHfiGen2SessionSetConfigParams
  dsimp only
  split_ifs
  · exact Call.Sending.done _ s hpacket
  · exact setConfigParams_sending _ s hpacket

/-- What `subscribedValue` knows is a property, and one or two words. -/
theorem subscribedValue_some {params : SubscriptionParams} {param : U32} {value : U32 × List U32}
    (hvalue : subscribedValue params param = some value) :
    PlainType param ∧ value.2.length ≤ 2 := by
  unfold subscribedValue at hvalue
  split_ifs at hvalue with h₁ h₂ h₃ h₄ h₅ h₆ h₇ h₈ h₉ h₁₀ <;>
  · obtain rfl := Option.some.inj hvalue
    exact ⟨by subst param; decide, by simp⟩

theorem sendSubscribed_sending (env : QueueEnv) (inst : CommandInst) (params : SubscriptionParams)
    (list : List U32) :
    (sendSubscribed env inst params list).Sending Plain := by
  induction list with
  | nil => exact Call.Sending.done 0
  | cons param rest ih =>
      unfold sendSubscribed
      split
      · exact ih
      · next value hvalue =>
          obtain ⟨htype, hlength⟩ := subscribedValue_some hvalue
          exact (setProperty_sending (Nat.le_trans hlength (by decide)) htype).thenCall ih

theorem sendWords_sending {words : List U32} (hwords : words.length ≤ 16)
    (htype : PlainType pktType) :
    (sendCommand env pktType flags port sessionId payloadType (wordPayload words)).Sending
      Plain := by
  have hfits : hfiHeaderSize + hfiPacketSize + (wordPayload words).length ≤ packetAlloc := by
    rw [length_wordPayload]
    simp only [hfiHeaderSize, hfiPacketSize, packetAlloc]
    omega
  exact sendCommand_sending hfits ⟨_, length_wordPayload words⟩ fun _ => htype

theorem sendEmpty_sending (htype : PlainType pktType) :
    (sendCommand env pktType flags port sessionId payloadType []).Sending Plain :=
  sendCommand_sending (by decide) (by decide) fun _ => htype

theorem queueBuffer_sending {buffer : InternalBuffer} :
    (irisHfiGen2SessionQueueBuffer env tables inst buffer).Sending Plain := by
  have hcomv : Call.Sending Plain fun s =>
      if buffer.type = .comv then irisSetNumComv env tables inst s else some (0, s) := by
    intro s hpacket
    dsimp only
    split_ifs
    · exact setProperty_sending (by simp) (by decide) s hpacket
    · exact Call.Sending.done 0 s hpacket
  exact hcomv.thenCall (sendWords_sending (by simp [HfiBufferPayload.words]) (by decide))

/-- A subscription, or another message of at most 32 words. -/
theorem subscribeMode_sending {kind : Gen2Message.Gen2Packet → Prop} {words : List U32}
    (hwords : words.length ≤ 32)
    (hkind : ∀ packetId, kind ⟨hfiCmdSubscribeMode,
      hfiHostFlagsResponseRequired ||| hfiHostFlagsIntrRequired, hfiPayloadU32Array,
      irisHfiGen2GetPort inst.domain plane, packetId, wordPayload words⟩) :
    (irisHfiGen2SessionSubscribeMode env inst hfiCmdSubscribeMode plane words).Sending kind := by
  have hfits : hfiHeaderSize + hfiPacketSize + (wordPayload words).length ≤ packetAlloc := by
    rw [length_wordPayload]
    simp only [hfiHeaderSize, hfiPacketSize, packetAlloc]
    omega
  exact sendCommand_sending hfits ⟨_, length_wordPayload words⟩ hkind

/-- The operations whose packets are all plain. -/
def SessionOp.plainCall (env : QueueEnv) (tables : ParamTables) (inst : CommandInst) :
    SessionOp → Option Call
  | .setConfigParams plane => some (irisHfiGen2SessionSetConfigParams env tables inst plane)
  | .setProperty packetType flag port payloadType payload =>
      some (irisHfiGen2SessionSetProperty env inst packetType flag port payloadType payload)
  | .queueBuf buffer => some (irisHfiGen2SessionQueueBuffer env tables inst buffer)
  | .releaseBuf buffer => some (irisHfiGen2SessionReleaseBuffer env inst buffer)
  | .pause plane => some (irisHfiGen2SessionPause env inst plane)
  | .resumeDrc plane => some (irisHfiGen2SessionResumeDrc env inst plane)
  | .stop waitRet plane => some (irisHfiGen2SessionStop env waitRet inst plane)
  | .drain plane => some (irisHfiGen2SessionDrain env inst plane)
  | .resumeDrain plane => some (irisHfiGen2SessionResumeDrain env inst plane)
  | .open _ | .start _ | .close | .respond _ => none

/-- What a caller of `session_set_property` sets is a property, of few words. -/
def SessionOp.OfDriver : SessionOp → Prop
  | .setProperty packetType _ _ _ payload =>
      inRange (hfiPropBegin, hfiPropEnd) packetType ∧ payload.length ≤ 16
  | _ => True

theorem plainType_of_property {type : U32} (hrange : inRange (hfiPropBegin, hfiPropEnd) type) :
    PlainType type := by
  refine ⟨?_, ?_, ?_⟩ <;>
  · rintro rfl
    exact absurd hrange (by decide)

theorem SessionOp.plainCall_sending {op : SessionOp} {call : Call} (hop : op.OfDriver)
    (hcall : op.plainCall env tables inst = some call) : call.Sending Plain := by
  cases op with
  | setConfigParams plane =>
      obtain rfl := Option.some.inj hcall
      exact sessionSetConfigParams_sending
  | setProperty packetType flag port payloadType payload =>
      obtain rfl := Option.some.inj hcall
      exact setProperty_sending hop.2 (plainType_of_property hop.1)
  | queueBuf buffer =>
      obtain rfl := Option.some.inj hcall
      exact queueBuffer_sending
  | releaseBuf buffer =>
      obtain rfl := Option.some.inj hcall
      exact sendWords_sending (by simp [HfiBufferPayload.words]) (by decide)
  | pause plane =>
      obtain rfl := Option.some.inj hcall
      exact sendEmpty_sending (by decide)
  | resumeDrc plane =>
      obtain rfl := Option.some.inj hcall
      exact sendWords_sending (by simp) (by decide)
  | stop waitRet plane =>
      obtain rfl := Option.some.inj hcall
      exact (sendEmpty_sending (by decide)).thenCall
        (Call.Sending.done waitRet)
  | drain plane =>
      obtain rfl := Option.some.inj hcall
      cases plane with
      | capture => exact Call.Sending.done 0
      | output => exact sendEmpty_sending (by decide)
  | resumeDrain plane =>
      obtain rfl := Option.some.inj hcall
      exact sendWords_sending (by simp) (by decide)
  | _ => exact absurd hcall (by simp [SessionOp.plainCall])

theorem sessionStep_of_plain {op : SessionOp} {call : Call}
    (hcall : op.plainCall env tables inst = some call) :
    sessionStep env tables s (inst, op) = call s := by
  cases op <;>
    first
      | exact congrFun (Option.some.inj hcall) s
      | exact absurd hcall (by simp [SessionOp.plainCall])

end Commands

/-! ### The messages of the core -/

section Core

variable (headerId packetId : U32) (hdr : Memory)

theorem coreMessage_size (packets : List Gen2Message.Gen2Packet)
    (hfits : hfiHeaderSize + totalSize packets ≤ ifaceqCorePktSize) :
    (wordAt (createPackets packets (irisHfiGen2CreateHeader 0 headerId hdr)) 0).toNat =
      hfiHeaderSize + totalSize packets :=
  ((createHeader_message 0 headerId hdr).createPackets packets hfits).size

theorem corePacket_size (type flags payloadInfo : U32) (payload : List U32) :
    (corePacket type flags payloadInfo packetId payload).size =
      hfiPacketSize + 4 * payload.length := by
  unfold Gen2Packet.size corePacket
  rw [length_wordPayload]

/-- **The messages of the core** fill what is allocated for them. -/
theorem coreMessages_fill (c : CoreCommand) :
    (wordAt (c.message headerId packetId) 0).toNat = c.allocated := by
  cases c <;>
  · refine (coreMessage_size _ _ _ ?_).trans ?_ <;>
      simp [totalSize, corePacket_size, hfiHeaderSize, hfiPacketSize, ifaceqCorePktSize,
        CoreCommand.allocated, sysInitPktSize, sysNoPayloadPktSize, sysIfpcPktSize,
        numSysInitPackets]

def CoreCommand.numPackets : CoreCommand → Nat
  | .sysInit _ => numSysInitPackets
  | _ => 1

theorem CoreCommand.message_packets (c : CoreCommand) :
    ∃ packets, Message (c.message headerId packetId) packets ∧ packets.length = c.numPackets := by
  have hheader := createHeader_message 0 headerId fun _ => 0
  cases c <;>
  · refine ⟨_, hheader.createPackets _ ?_, rfl⟩
    simp [totalSize, corePacket_size, hfiHeaderSize, hfiPacketSize, ifaceqCorePktSize]

end Core

/-! ### What holds after a call -/

section Triple

variable {pre mid post fail : Session → Prop} {call next : Call}
  {kind : Gen2Message.Gen2Packet → Prop}

/-- From `pre`, a call that finds its buffer returns: with `post` when it succeeds, with `fail` when
it does not. -/
def Call.Triple (pre post fail : Session → Prop) (call : Call) : Prop :=
  ∀ s, pre s → s.packet.isSome → ∃ ret s', call s = some (ret, s') ∧ s'.packet.isSome ∧
    (ret = 0 → post s') ∧ (ret ≠ 0 → fail s')

theorem Call.Triple.thenCall (hcall : call.Triple pre mid fail)
    (hnext : next.Triple mid post fail) : (call.thenCall next).Triple pre post fail := by
  intro s hpre hpacket
  obtain ⟨ret, s₁, hdone, hpacket₁, hmid, hfail⟩ := hcall s hpre hpacket
  by_cases hret : ret = 0
  · subst hret
    obtain ⟨ret', s₂, hdone', hafter⟩ := hnext s₁ (hmid rfl) hpacket₁
    exact ⟨ret', s₂, (Call.thenCall_of_ok hdone).trans hdone', hafter⟩
  · exact ⟨ret, s₁, Call.thenCall_of_failed hret hdone, hpacket₁, fun h => absurd h hret, hfail⟩

theorem Call.Sending.triple (hcall : call.Sending kind)
    (hpost : ∀ s s', Sends kind s s' → pre s → post s')
    (hfail : ∀ s s', Sends kind s s' → pre s → fail s') : call.Triple pre post fail := by
  intro s hpre hpacket
  obtain ⟨ret, s', hdone, hsends⟩ := hcall s hpacket
  exact ⟨ret, s', hdone, hsends.packet, fun _ => hpost s s' hsends hpre,
    fun _ => hfail s s' hsends hpre⟩

/-- A store to the session that no message is made for. -/
theorem Call.Triple.store (f : Session → Session) (hbuffer : ∀ s, (f s).packet = s.packet)
    (hpost : ∀ s, pre s → post (f s)) : Call.Triple pre post fail fun s => some (0, f s) :=
  fun s hpre hpacket => ⟨0, f s, rfl, by rwa [hbuffer], fun _ => hpost s hpre,
    fun h => absurd rfl h⟩

end Triple

/-! ### Every message of a run -/

section Messages

variable {env : QueueEnv} {tables : ParamTables} {inst : CommandInst} {s s' : Session}

/-- The tables leave a word of the array on the stack for the mode. -/
structure ParamTables.Fit (tables : ParamTables) : Prop where
  decInput : ∀ codec, (tables.decInput codec).length ≤ 31
  subscribeProp : ∀ codec plane, (tables.subscribeProp codec plane).length ≤ 31

/-- The session has handed over messages of one packet only. -/
def Built (s : Session) : Prop := ∀ m ∈ s.written, ∃ packet, m.Carries packet

theorem Built.sends {kind : Gen2Message.Gen2Packet → Prop} (hsends : Sends kind s s')
    (hbuilt : Built s) : Built s' := by
  obtain ⟨new, hnew, hkind⟩ := hsends.messages
  intro m hm
  rw [hnew] at hm
  rcases List.mem_append.1 hm with hold | hlast
  · exact hbuilt m hold
  · obtain ⟨packet, hcarries, -⟩ := hkind m hlast
    exact ⟨packet, hcarries⟩

theorem Call.Sending.built {kind : Gen2Message.Gen2Packet → Prop} {call : Call}
    (hcall : call.Sending kind) : call.Triple Built Built Built :=
  hcall.triple (fun _ _ => Built.sends) fun _ _ => Built.sends

theorem subscription_eq {mode : U32} {list : List U32} (hlist : list.length ≤ 31) :
    subscription mode list = some (mode :: list) :=
  if_neg (by omega)

/-- The subscription message of a list that fits. -/
theorem subscribeMode_built {mode : U32} {list : List U32} {plane : Plane}
    (hlist : list.length ≤ 31) :
    (irisHfiGen2SessionSubscribeMode env inst hfiCmdSubscribeMode plane (mode :: list)).Triple
      Built Built Built := by
  have hwords : (mode :: list).length ≤ 32 := Nat.succ_le_succ hlist
  have hsending : Call.Sending (fun _ => True)
      (irisHfiGen2SessionSubscribeMode env inst hfiCmdSubscribeMode plane (mode :: list)) :=
    subscribeMode_sending hwords fun _ => trivial
  exact hsending.built

theorem subscribeChangeParam_built (htables : tables.Fit) {plane : Plane} :
    (irisHfiGen2SubscribeChangeParam env tables inst plane).Triple Built Built Built := by
  intro s hbuilt hpacket
  have hlist := htables.decInput inst.codec
  unfold irisHfiGen2SubscribeChangeParam
  by_cases hdomain : inst.domain = .encoder
  · rw [if_pos hdomain]
    exact ⟨0, s, rfl, hpacket, fun _ => hbuilt, fun _ => hbuilt⟩
  by_cases hset : s.propertiesSet plane
  · rw [if_neg hdomain, if_pos hset]
    exact ⟨0, s, rfl, hpacket, fun _ => hbuilt, fun _ => hbuilt⟩
  rw [if_neg hdomain, if_neg hset]
  dsimp only
  rw [subscription_eq hlist, Option.bind_eq_bind, Option.bind_some]
  refine ((subscribeMode_built hlist).thenCall ?_) s hbuilt hpacket
  cases plane with
  | output => exact .store _ (fun _ => rfl) fun _ h => h
  | capture =>
      intro s₁ hbuilt₁ hpacket₁
      have hset : Call.Triple Built Built Built fun s =>
          some (0, { s with opscPropertiesSet := true }) :=
        .store _ (fun _ => rfl) fun _ h => h
      have hsend := (sendSubscribed_sending env inst s₁.srcSubcrParams
        (tables.decInput inst.codec)).built.thenCall hset
      exact hsend { s₁ with dstSubcrParams := s₁.srcSubcrParams } hbuilt₁ hpacket₁

theorem subscribeProperty_built (htables : tables.Fit) {plane : Plane} :
    (irisHfiGen2SubscribeProperty env tables inst plane).Triple Built Built Built := by
  intro s hbuilt hpacket
  have hlist := htables.subscribeProp inst.codec plane
  unfold irisHfiGen2SubscribeProperty
  by_cases hdomain : inst.domain = .encoder
  · rw [if_pos hdomain]
    exact ⟨0, s, rfl, hpacket, fun _ => hbuilt, fun _ => hbuilt⟩
  rw [if_neg hdomain, subscription_eq hlist, Option.bind_eq_bind, Option.bind_some]
  exact subscribeMode_built hlist s hbuilt hpacket

theorem sessionStart_built (htables : tables.Fit) {plane : Plane} :
    (irisHfiGen2SessionStart env tables inst plane).Triple Built Built Built := by
  have hstart : Call.Sending (fun _ => True) (sendCommand env hfiCmdStart
      (hfiHostFlagsResponseRequired ||| hfiHostFlagsIntrRequired)
      (irisHfiGen2GetPort inst.domain plane) inst.sessionId hfiPayloadNone []) :=
    sendCommand_sending (by decide) (by decide) fun _ => trivial
  exact (subscribeChangeParam_built htables).thenCall
    ((subscribeProperty_built htables).thenCall hstart.built)

/-- The three commands that open a session. -/
def openCommands (env : QueueEnv) (inst : CommandInst) : Call :=
  (sendCommand env hfiCmdOpen (hfiHostFlagsResponseRequired ||| hfiHostFlagsIntrRequired)
    hfiPortNone 0 hfiPayloadU32 (wordPayload [inst.sessionId])).thenCall
      ((irisHfiGen2SessionSetCodec env inst).thenCall fun s =>
        if inst.domain = .decoder then irisHfiGen2SessionSetDefaultHeader env inst s
        else some (0, s))

theorem sessionOpen_eq (allocated : Bool) (s : Session) :
    irisHfiGen2SessionOpen env allocated inst s =
      if inst.state ≠ .deinit then some (-ealready, s)
      else if !allocated then
        some (-enomem, { s with
          ipscPropertiesSet := false, opscPropertiesSet := false, packet := none })
      else
        (openCommands env inst { s with
          ipscPropertiesSet := false
          opscPropertiesSet := false
          packet := some fun _ => 0 }).map fun (ret, s) =>
            if ret ≠ 0 then (ret, { s with packet := none }) else (0, s) := rfl

def closeCommand (env : QueueEnv) (inst : CommandInst) : Call :=
  sendCommand env hfiCmdClose
    (hfiHostFlagsResponseRequired ||| hfiHostFlagsIntrRequired ||| hfiHostFlagsNonDiscardable)
    hfiPortNone inst.sessionId hfiPayloadNone []

theorem sessionClose_eq (s : Session) :
    irisHfiGen2SessionClose env inst s =
      if s.packet.isNone then some (-einval, s)
      else (closeCommand env inst s).map fun (ret, s) => (ret, { s with packet := none }) := rfl

theorem closeCommand_sending (env : QueueEnv) (inst : CommandInst) :
    (closeCommand env inst).Sending Plain :=
  sendEmpty_sending (by decide)

/-- Behind the message that opens, properties. -/
theorem openTail_sending (env : QueueEnv) (inst : CommandInst) :
    ((irisHfiGen2SessionSetCodec env inst).thenCall fun s =>
      if inst.domain = .decoder then irisHfiGen2SessionSetDefaultHeader env inst s
      else some (0, s)).Sending Plain := by
  have hheader : Call.Sending Plain fun s =>
      if inst.domain = .decoder then irisHfiGen2SessionSetDefaultHeader env inst s
      else some (0, s) := by
    intro s hpacket
    dsimp only
    split_ifs
    · exact setProperty_sending (by simp) (by decide) s hpacket
    · exact Call.Sending.done 0 s hpacket
  exact Call.Sending.thenCall (setProperty_sending (by simp) (by decide)) hheader

theorem openCommands_built (env : QueueEnv) (inst : CommandInst) :
    (openCommands env inst).Triple Built Built Built := by
  have hopen : Call.Sending (fun _ => True) (sendCommand env hfiCmdOpen
      (hfiHostFlagsResponseRequired ||| hfiHostFlagsIntrRequired) hfiPortNone 0 hfiPayloadU32
      (wordPayload [inst.sessionId])) :=
    sendCommand_sending (by simp [hfiHeaderSize, hfiPacketSize, packetAlloc])
      ⟨_, length_wordPayload _⟩ fun _ => trivial
  exact hopen.built.thenCall (openTail_sending env inst).built

/-- The operations that use the buffer of the session without asking for it. -/
def SessionOp.needsPacket : SessionOp → Bool
  | .open _ => false
  | .close => false
  | .respond _ => false
  | _ => true

theorem needsPacket_of_plain {op : SessionOp} {call : Call}
    (hplain : op.plainCall env tables inst = some call) : op.needsPacket := by
  cases op <;> first | rfl | exact absurd hplain (by simp [SessionOp.plainCall])

/-- **One operation** returns if the buffer is there when it needs it. -/
theorem sessionStep_built (htables : tables.Fit) {op : SessionOp} (hop : op.OfDriver)
    (hpacket : op.needsPacket → s.packet.isSome) (hbuilt : Built s) :
    ∃ ret s', sessionStep env tables s (inst, op) = some (ret, s') ∧ Built s' := by
  cases hplain : op.plainCall env tables inst with
  | some call =>
      obtain ⟨ret, s', hdone, hsends⟩ :=
        SessionOp.plainCall_sending hop hplain s (hpacket (needsPacket_of_plain hplain))
      exact ⟨ret, s', (sessionStep_of_plain hplain).trans hdone, hbuilt.sends hsends⟩
  | none =>
      cases op with
      | «open» allocated =>
          change ∃ ret s', irisHfiGen2SessionOpen env allocated inst s = _ ∧ _
          rw [sessionOpen_eq]
          split_ifs with hstate halloc
          · exact ⟨_, _, rfl, hbuilt⟩
          · exact ⟨_, _, rfl, hbuilt⟩
          · obtain ⟨ret, s', hdone, -, hok, hfailed⟩ := openCommands_built env inst
              { s with
                ipscPropertiesSet := false
                opscPropertiesSet := false
                packet := some fun _ => 0 } hbuilt rfl
            rw [hdone, Option.map_some]
            by_cases hret : ret = 0
            · subst hret
              exact ⟨0, s', rfl, hok rfl⟩
            · exact ⟨ret, { s' with packet := none }, by simp [hret], hfailed hret⟩
      | start plane =>
          obtain ⟨ret, s', hdone, -, hok, hfailed⟩ :=
            sessionStart_built htables s hbuilt (hpacket rfl)
          exact ⟨ret, s', hdone, (eq_or_ne ret 0).elim hok hfailed⟩
      | close =>
          change ∃ ret s', irisHfiGen2SessionClose env inst s = _ ∧ _
          rw [sessionClose_eq]
          split_ifs with hnone
          · exact ⟨_, _, rfl, hbuilt⟩
          · have hsome : s.packet.isSome := by
              rwa [← Option.not_isNone, Bool.not_eq_true', ← Bool.not_eq_true]
            obtain ⟨ret, s', hdone, hsends⟩ := closeCommand_sending env inst s hsome
            have hbuilt' : Built s' := hbuilt.sends hsends
            rw [hdone]
            exact ⟨ret, { s' with packet := none }, rfl, hbuilt'⟩
      | respond params => exact ⟨0, _, rfl, hbuilt⟩
      | _ => exact absurd hplain (by simp [SessionOp.plainCall])

/-- The buffer as the queue reads it. -/
def Written.buffer (m : Written) : Region packetAlloc := ⟨fun i => .ofBitVec (m.message i)⟩

/-- A word of a message as the queue reads it. -/
theorem wordAt_ofBitVec (mem : Memory) :
    Region.wordAt (fun i => .ofBitVec (mem i)) 0 = .ofBitVec (wordAt mem 0) := by
  have hword : wordAt mem 0 = mem 3 ++ mem 2 ++ mem 1 ++ mem 0 := rfl
  rw [hword, ← UInt32.toNat_inj]
  simp only [Region.wordAt, UInt8.toNat_ofBitVec, UInt32.toNat_ofBitVec, UInt32.toNat_ofNat',
    BitVec.toNat_append, Nat.zero_add]
  have h0 := (mem 0).isLt
  have h1 := (mem 1).isLt
  have h2 := (mem 2).isLt
  have h3 := (mem 3).isLt
  rw [← Nat.shiftLeft_add_eq_or_of_lt h0, ← Nat.shiftLeft_add_eq_or_of_lt h1,
    ← Nat.shiftLeft_add_eq_or_of_lt h2]
  simp only [Nat.shiftLeft_eq]
  omega

/-- The size word at the front is the size that is handed over. -/
theorem Written.wordAt_buffer (m : Written) (hsize : m.size = wordAt m.message 0) :
    Region.wordAt m.buffer.byte 0 = .ofBitVec m.size := by
  rw [hsize]
  exact wordAt_ofBitVec m.message

theorem Written.Carries.validSize {m : Written} {packet : Gen2Message.Gen2Packet}
    (hcarries : m.Carries packet) : Queue.ValidSize packetAlloc (.ofBitVec m.size) := by
  have hsize := hcarries.toNat_size
  have hfits := hcarries.fits
  have hdvd := hcarries.dvd
  have hH : hfiHeaderSize = 32 := rfl
  have hP : hfiPacketSize = 32 := rfl
  have hmax : Queue.ifaceqCorePktSize = packetAlloc := rfl
  refine ⟨?_, ?_, ?_, ?_⟩ <;> rw [UInt32.toNat_ofBitVec, hsize]
  · omega
  · omega
  · exact hmax ▸ hfits
  · exact hfits

/-- The operation comes from the driver, and finds the buffer when it needs it. -/
structure Ready (s : Session) (op : CommandInst × SessionOp) : Prop where
  ofDriver : op.2.OfDriver
  packet : op.2.needsPacket → s.packet.isSome

/-- What the queue and the response side ask of a message of one packet. -/
structure Written.WellFormed (m : Written) (packet : Gen2Message.Gen2Packet) : Prop where
  read : readMessage.run m.message = [packet]
  valid : irisHfiGen2ValidateHdrPacket.run m.message = 0
  size : m.size.toNat = hfiHeaderSize + hfiPacketSize + packet.payload.length
  validSize : Queue.ValidSize packetAlloc (.ofBitVec m.size)
  sizeWord : Region.wordAt m.buffer.byte 0 = .ofBitVec m.size

theorem Written.Carries.wellFormed {m : Written} {packet : Gen2Message.Gen2Packet}
    (hcarries : m.Carries packet) : m.WellFormed packet := by
  have hfits : hfiHeaderSize + totalSize [packet] ≤ ifaceqCorePktSize := by
    have hsize := hcarries.fits
    rw [totalSize_cons, Gen2Packet.size]
    change _ + (_ + 0) ≤ packetAlloc
    omega
  exact {
    read := hcarries.read
    valid := hcarries.message.validate (List.cons_ne_nil _ _) hfits
    size := hcarries.toNat_size
    validSize := hcarries.validSize
    sizeWord := m.wordAt_buffer hcarries.size }

/-- **Messages of the second generation.** Whatever the queue answers, operations of a session that
find its buffer when they need it never touch anything outside it, and every message that they hand
over is one packet that the checks of the response side accept and read back, with a size that the
queue takes. -/
theorem commands_write_messages (env : QueueEnv) (tables : ParamTables) (htables : tables.Fit)
    (s : Session) (ops : List (CommandInst × SessionOp)) (hstart : s.written = [])
    (hops : Admits (sessionStep env tables) Ready s ops) :
    ∃ rets s', exec (sessionStep env tables) s ops = some (rets, s') ∧
      ∀ m ∈ s'.written, ∃ packet, m.WellFormed packet := by
  have hnone : Built s := by
    intro m hm
    rw [hstart] at hm
    exact absurd hm List.not_mem_nil
  obtain ⟨rets, s', hexec, hbuilt⟩ :=
    exec_of_admits (fun s op _ hbuilt hready =>
      sessionStep_built htables hready.ofDriver hready.packet hbuilt) hnone hops
  refine ⟨rets, s', hexec, fun m hm => ?_⟩
  obtain ⟨packet, hcarries⟩ := hbuilt m hm
  exact ⟨packet, hcarries.wellFormed⟩

/-- Nothing is known of the parameters before the first source change. -/
def noParams : SubscriptionParams where
  bitstreamResolution := 0
  cropOffsets0 := 0
  cropOffsets1 := 0
  bitDepth := 0
  codedFrames := 0
  fwMinCount := 0
  picOrderCnt := 0
  colorInfo := 0
  profile := 0
  level := 0
  tier := 0

/-- `kzalloc` of `iris_hfi_gen2_get_instance`, on a core that was just brought up. -/
def freshSession : Session where
  headerId := 3
  packetId := 10
  packet := none
  ipscPropertiesSet := false
  opscPropertiesSet := false
  srcSubcrParams := noParams
  dstSubcrParams := noParams
  written := []

/-- The tables of `sm8550_data`. -/
def sm8550Tables : ParamTables where
  decInputDefault :=
    [hfiPropBitstreamResolution, hfiPropCropOffsets, hfiPropLumaChromaBitDepth,
      hfiPropCodedFrames, hfiPropBufferFwMinOutputCount, hfiPropPicOrderCntType, hfiPropProfile,
      hfiPropLevel, hfiPropSignalColorInfo]
  decInputHevc :=
    [hfiPropBitstreamResolution, hfiPropCropOffsets, hfiPropLumaChromaBitDepth,
      hfiPropBufferFwMinOutputCount, hfiPropProfile, hfiPropLevel, hfiPropTier,
      hfiPropSignalColorInfo]
  decInputVp9 :=
    [hfiPropBitstreamResolution, hfiPropCropOffsets, hfiPropLumaChromaBitDepth,
      hfiPropBufferFwMinOutputCount, hfiPropProfile, hfiPropLevel]
  decOutput := [hfiPropColorFormat, hfiPropLinearStrideScanline]
  encInput :=
    [hfiPropColorFormat, hfiPropRawResolution, hfiPropCropOffsets, hfiPropLinearStrideScanline,
      hfiPropSignalColorInfo]
  encOutput := [hfiPropBitstreamResolution, hfiPropCropOffsets, hfiPropFrameRate]
  decInputProp := [hfiPropNoOutput]
  decOutputPropAvc := [hfiPropPictureType, hfiPropCabacSession]
  decOutputPropHevc := [hfiPropPictureType]
  decOutputPropVp9 := [hfiPropPictureType]
  numComv := 0

theorem sm8550Tables_fit : sm8550Tables.Fit where
  decInput := by
    intro codec
    cases codec <;> decide
  subscribeProp := by
    intro codec plane
    cases codec <;> cases plane <;> decide

def smallDecoder (state : InstState) : CommandInst :=
  let format : PixFormat :=
    { width := 320, height := 240, bytesperline := 0, sizeimage := 0, color := .default }
  { domain := .decoder
    codec := .h264
    state
    sessionId := 0x1000
    src := format
    srcNv12 := false
    dst := format
    dstNv12 := true
    crop := ⟨0, 0, 320, 240⟩
    compose := ⟨0, 0, 320, 240⟩
    outputMinCount := 4
    frameRate := 30
    fwCaps := fun cap => if cap = .bitDepth then bitDepth8 else 0 }

def openAndStart : List (CommandInst × SessionOp) :=
  [(smallDecoder .deinit, .open true), (smallDecoder .init, .start .output)]

theorem commands_write_messages_started :
    ∃ rets s', exec (sessionStep (fun _ => 0) sm8550Tables) freshSession openAndStart =
        some (rets, s') ∧
      ∀ m ∈ s'.written, ∃ packet, m.WellFormed packet := by
  refine commands_write_messages (fun _ => 0) sm8550Tables sm8550Tables_fit freshSession
    openAndStart rfl ⟨⟨trivial, fun h => absurd h (by decide)⟩, fun ret s hopen =>
      ⟨⟨trivial, fun _ => ?_⟩, fun _ _ _ => trivial⟩⟩
  cases hopen
  rfl

end Messages

end NabuIris.Gen2Command
