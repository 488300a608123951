import NabuIris.Gen1Commands
import NabuIris.Proof.PropertySizes

/-!
# What the packets say

A packet of the first generation is read back as what the driver was asked to tell: the timestamp
that was split in two, and the lengths and addresses that were cut to 32 bits, are whole again.
-/

namespace NabuIris.Gen1Command

variable {inst : CommandSession} {buf : HfiBuffer} {c : HostCommand} {p : CommandPacket}

/-! ### What a command says -/

/-- A buffer as the driver has it, for the flags and the extradata that a command gives it. -/
def HfiBuffer.frame (buf : HfiBuffer) (timestamp : BitVec 64) (flags : U32)
    (extradataBuffer : Nat) : FrameBuffer where
  timestamp
  flags
  offset := buf.dataOffset.toNat
  allocLen := buf.bufferSize.toNat
  filledLen := buf.dataSize.toNat
  tag := buf.index.toNat
  packetBuffer := buf.deviceAddr.toNat
  extradataBuffer

/-- The end of a stream: a frame without a buffer. -/
def drainFrame : FrameBuffer where
  timestamp := 0
  flags := 1
  offset := 0
  allocLen := 0
  filledLen := 0
  tag := 0
  packetBuffer := 0xdeadb000
  extradataBuffer := 0

def queueInputAsks (inst : CommandSession) (buf : HfiBuffer) : FirmwareCommand :=
  match inst.domain with
  | .decoder => .emptyCompressed inst.sessionId (buf.frame buf.timestamp 0 0)
  | .encoder => .emptyUncompressed inst.sessionId (buf.frame buf.timestamp buf.flags 0)

/-- The firmware of the legacy VPU5 looks for a VP9 frame's extradata behind the frame. -/
def queueOutputAsks (inst : CommandSession) (buf : HfiBuffer) : FirmwareCommand :=
  .fillBuffer inst.sessionId (if buf.type = .output ∧ inst.split then 1 else 0)
    (buf.frame 0 0 (if inst.legacyVpu5 ∧ inst.codec = .vp9 then
      buf.deviceAddr.toNat + buf.bufferSize.toNat else 0))

def queueInternalAsks (inst : CommandSession) (buf : HfiBuffer) : Option FirmwareCommand :=
  (irisHfiGen1BufTypeFromDriver buf.type).map fun type =>
    .setBuffers inst.sessionId (bufferCode type) buf.bufferSize.toNat buf.bufferSize.toNat
      [buf.deviceAddr.toNat]

def queueBufferAsks (inst : CommandSession) (buf : HfiBuffer) : Option FirmwareCommand :=
  match buf.type with
  | .input => some (queueInputAsks inst buf)
  | .output | .dpb => some (queueOutputAsks inst buf)
  | .persist | .bin | .scratch1 | .scratch2 | .arp => queueInternalAsks inst buf
  | _ => none

def unsetBuffersAsks (inst : CommandSession) (buf : HfiBuffer) : Option FirmwareCommand :=
  match irisHfiGen1BufTypeFromDriver buf.type with
  | none => none
  | some .input => none
  | some type =>
      some (.releaseBuffers inst.sessionId (bufferCode type) buf.bufferSize.toNat 1
        [buf.deviceAddr.toNat])

def drainAsks (inst : CommandSession) : FirmwareCommand :=
  match inst.domain with
  | .decoder => .emptyCompressed inst.sessionId drainFrame
  | .encoder => .emptyUncompressed inst.sessionId drainFrame

/-- The structure of the property, from the words of its caller. -/
def setPropertyAsks (inst : CommandSession) (p010 : Bool) (ptype : Gen1Properties.Property)
    (payload : List U32) : Option FirmwareCommand :=
  match Gen1Properties.propData p010 (payload.getD · 0) ptype with
  | .error _ => none
  | .ok (stores, size) =>
      some (.setProperty inst.sessionId ptype.id
        ((propWords stores payload.length).take (size / 4)))

/-- What the driver is asked to tell, by its own data. -/
def HostCommand.asks : HostCommand → Option FirmwareCommand
  | .sysInit => some (.sysInit 1)
  | .sysImageVersion => some (.sysGetProperty 6)
  | .sysPowerControl enable => some (.sysSetProperty 5 [if enable then 1 else 0])
  | .sysDebugConfig => some (.sysSetProperty 1 [0x18, 1])
  | .syscache size₀ id₀ size₁ id₁ => some (.sysSetResource 1 2 [2, size₀, id₀, size₁, id₁])
  | .sysPcPrep => some .sysPcPrep
  | .sessionOpen inst =>
      some (.sessionInit inst.sessionId (sessionDomain inst.domain) (sessionCodec inst.codec))
  | .plain inst ptype => some (.plain ptype inst.sessionId)
  | .flush inst plane => some (.flush inst.sessionId (flushType plane))
  | .getBufferRequirements inst => some (.getProperty inst.sessionId 0x202001)
  | .setProperty inst p010 ptype payload => setPropertyAsks inst p010 ptype payload
  | .queueBuffer inst buf => queueBufferAsks inst buf
  | .unsetBuffers inst buf => unsetBuffersAsks inst buf
  | .drain inst => some (drainAsks inst)

/-! ### Packets -/

/-- `hdr.size` -/
def CommandPacket.size (p : CommandPacket) : Nat := (p.headD 0).toNat

/-- The words that go to the queue. -/
def CommandPacket.sent (p : CommandPacket) : CommandPacket := p.take (p.size / 4)

/-- A packet that may go to the queue: its size is a whole number of words, and they are there. -/
structure CommandPacket.Whole (p : CommandPacket) : Prop where
  dvd : 4 ∣ p.size
  ge : 8 ≤ p.size
  le : p.size ≤ 96
  inside : p.size ≤ 4 * p.length

/-- The packet tells the firmware what was asked, which is something. -/
structure CommandPacket.Tells (p : CommandPacket) (asks : Option FirmwareCommand) : Prop where
  whole : p.Whole
  parse : p.sent.parse = asks
  ne_none : asks ≠ none

/-- A property whose structure is inside its payload. -/
def HostCommand.Contained : HostCommand → Prop
  | .setProperty _ _ ptype payload => ptype.dataSize ≤ 4 * payload.length
  | _ => True

theorem toNat_u32 {n : BitVec 64} (hn : n.toNat < 2 ^ 32) : (u32 n).toNat = n.toNat := by
  rw [u32, BitVec.toNat_setWidth, Nat.mod_eq_of_lt hn]

theorem halves_append (t : BitVec 64) : upper32Bits t ++ u32 t = t := by
  apply BitVec.eq_of_getLsbD_eq
  intro i hi
  rw [BitVec.getLsbD_append, upper32Bits, u32]
  by_cases hlow : i < 32
  · simp [hlow]
  · have hrest : i - 32 < 32 := by omega
    have hsum : 32 + (i - 32) = i := by omega
    simp [hlow, hrest, hsum]

namespace HfiBuffer

variable (buf : HfiBuffer)

theorem end_lt : buf.deviceAddr.toNat + buf.bufferSize.toNat < 2 ^ 32 := by
  have hbelow := buf.below
  change _ ≤ 3758096383 + 1 at hbelow
  omega

theorem addr_lt : buf.deviceAddr.toNat < 2 ^ 32 :=
  lt_of_le_of_lt (Nat.le_add_right _ _) buf.end_lt

theorem size_lt : buf.bufferSize.toNat < 2 ^ 32 :=
  lt_of_le_of_lt (Nat.le_add_left _ _) buf.end_lt

theorem toNat_end :
    (buf.deviceAddr + buf.bufferSize).toNat = buf.deviceAddr.toNat + buf.bufferSize.toNat := by
  have hlt := buf.end_lt
  rw [BitVec.toNat_add, Nat.mod_eq_of_lt (by omega)]

/-- What is read of the words of a buffer is the buffer. -/
theorem frameBuffer_eq {hi lo flags extra : U32} {timestamp : BitVec 64} {extradataBuffer : Nat}
    (htime : hi ++ lo = timestamp) (hextra : extra.toNat = extradataBuffer) :
    frameBuffer hi lo flags buf.dataOffset (u32 buf.bufferSize) (u32 buf.dataSize) buf.index
      (u32 buf.deviceAddr) extra = buf.frame timestamp flags extradataBuffer := by
  rw [frameBuffer, frame, htime, hextra, toNat_u32 buf.size_lt, toNat_u32 buf.payload,
    toNat_u32 buf.addr_lt]

end HfiBuffer

theorem length_propWords (stores : List (Nat × U32)) (n : Nat) :
    (propWords stores n).length = n := by
  unfold propWords
  refine List.foldlRecOn (motive := fun data : List U32 => data.length = n) stores _
    List.length_replicate fun data hdata _ _ => ?_
  rw [List.length_set, hdata]

/-- A packet of `n` words, with what may lie behind them. -/
theorem tells_of_size {asked : FirmwareCommand} (n : Nat) (hsize : p.size = 4 * n)
    (hlen : n ≤ p.length) (hn : 2 ≤ n ∧ n ≤ 24)
    (hparse : CommandPacket.parse (p.take n) = some asked) : p.Tells (some asked) where
  whole := ⟨⟨n, hsize⟩, by omega, by omega, by omega⟩
  parse := by
    rw [CommandPacket.sent, hsize, Nat.mul_div_cancel_left _ (by decide), hparse]
  ne_none := Option.some_ne_none asked

theorem setProperty_tells {p010 : Bool} {ptype : Gen1Properties.Property} {payload : List U32}
    (hfits : ptype.dataSize ≤ 4 * payload.length)
    (hp : setPropertyPacket inst p010 ptype payload = some p) :
    p.Tells (setPropertyAsks inst p010 ptype payload) := by
  unfold setPropertyPacket at hp
  unfold setPropertyAsks
  cases hdata : Gen1Properties.propData p010 (payload.getD · 0) ptype with
  | error ret => simp only [hdata, reduceCtorEq] at hp
  | ok data =>
      obtain ⟨stores, size⟩ := data
      simp only [hdata, Option.some.injEq] at hp
      obtain ⟨hsize, -⟩ := Gen1Properties.propData_fits hdata
      have hle := ptype.dataSize_le
      have hdvd : 4 ∣ size := by
        rw [hsize]
        cases ptype <;> decide
      have hword : (BitVec.ofNat 32 (20 + size)).toNat = 20 + size := by
        rw [BitVec.toNat_ofNat, Nat.mod_eq_of_lt (by omega)]
      have hlen : p.length = 5 + payload.length := by
        rw [← hp, List.length_append, length_propWords]
        rfl
      have hpsize : p.size = 4 * (5 + size / 4) := by
        rw [← hp]
        exact hword.trans (by omega)
      refine tells_of_size (5 + size / 4) hpsize (by omega) (by omega) ?_
      have hheader : [BitVec.ofNat 32 (20 + size), hfiCmdSessionSetProperty, inst.sessionId, 1,
        ptype.id].length = 5 := rfl
      have hcount : (BitVec.ofNat 32 (20 + size)).toNat =
          4 * ((inst.sessionId :: 1 :: ptype.id ::
            (propWords stores payload.length).take (size / 4)).length + 2) := by
        have hmin : min (size / 4) payload.length = size / 4 := by omega
        simp only [hword, List.length_cons, List.length_take, length_propWords, hmin]
        omega
      rw [← hp, ← hheader, List.take_length_add_append]
      exact if_pos hcount

theorem queueInputBuffer_tells (inst : CommandSession) (buf : HfiBuffer) :
    (irisHfiGen1QueueInputBuffer inst buf).Tells (some (queueInputAsks inst buf)) := by
  unfold irisHfiGen1QueueInputBuffer queueInputAsks
  cases inst.domain with
  | decoder =>
      exact tells_of_size 15 rfl le_rfl (by decide)
        (congrArg (fun frame => some (FirmwareCommand.emptyCompressed inst.sessionId frame))
          (buf.frameBuffer_eq (halves_append buf.timestamp) rfl))
  | encoder =>
      exact tells_of_size 16 rfl le_rfl (by decide)
        (congrArg (fun frame => some (FirmwareCommand.emptyUncompressed inst.sessionId frame))
          (buf.frameBuffer_eq (halves_append buf.timestamp) rfl))

theorem queueOutputBuffer_tells (inst : CommandSession) (buf : HfiBuffer) :
    (irisHfiGen1QueueOutputBuffer inst buf).Tells (some (queueOutputAsks inst buf)) := by
  have hextra : (if inst.legacyVpu5 ∧ inst.codec = .vp9 then
      u32 (buf.deviceAddr + buf.bufferSize) else 0).toNat =
      if inst.legacyVpu5 ∧ inst.codec = .vp9 then
        buf.deviceAddr.toNat + buf.bufferSize.toNat else 0 := by
    split_ifs
    · rw [toNat_u32 (by rw [buf.toNat_end]; exact buf.end_lt), buf.toNat_end]
    · rfl
  exact tells_of_size 11 rfl le_rfl (by decide)
    (congrArg (fun frame => some (FirmwareCommand.fillBuffer inst.sessionId _ frame))
      (buf.frameBuffer_eq rfl hextra))

theorem queueInternalBuffer_tells (hp : irisHfiGen1QueueInternalBuffer inst buf = some p) :
    p.Tells (queueInternalAsks inst buf) := by
  unfold irisHfiGen1QueueInternalBuffer at hp
  unfold queueInternalAsks
  cases htype : irisHfiGen1BufTypeFromDriver buf.type with
  | none => simp only [htype, reduceCtorEq] at hp
  | some type =>
      simp only [htype, Option.some.injEq] at hp
      subst hp
      refine tells_of_size 9 rfl le_rfl (by decide) ?_
      rw [← toNat_u32 buf.size_lt, ← toNat_u32 buf.addr_lt]
      rfl

theorem queueBuffer_tells (hp : irisHfiGen1SessionQueueBuffer inst buf = some p) :
    p.Tells (queueBufferAsks inst buf) := by
  unfold irisHfiGen1SessionQueueBuffer at hp
  unfold queueBufferAsks
  cases htype : buf.type <;> simp only [htype, reduceCtorEq, Option.some.injEq] at hp ⊢
  case input =>
    subst hp
    exact queueInputBuffer_tells inst buf
  case output | dpb =>
    subst hp
    exact queueOutputBuffer_tells inst buf
  all_goals exact queueInternalBuffer_tells hp

/-- Only the words inside the size are sent, and they are those of the buffer. -/
theorem unsetBuffers_tells (hp : irisHfiGen1SessionUnsetBuffers inst buf = some p) :
    p.Tells (unsetBuffersAsks inst buf) := by
  unfold irisHfiGen1SessionUnsetBuffers at hp
  unfold unsetBuffersAsks
  rw [← toNat_u32 buf.size_lt, ← toNat_u32 buf.addr_lt]
  cases htype : irisHfiGen1BufTypeFromDriver buf.type with
  | none => simp only [htype, reduceCtorEq] at hp
  | some type =>
      cases type
      case input => simp only [htype, reduceCtorEq] at hp
      case output =>
        simp only [htype, Option.some.injEq] at hp
        subst hp
        exact tells_of_size 10 rfl le_rfl (by decide) rfl
      all_goals
        simp only [htype, Option.some.injEq] at hp
        subst hp
        exact tells_of_size 9 rfl (Nat.le_succ 9) (by decide) rfl

theorem drain_tells (inst : CommandSession) :
    (irisHfiGen1SessionDrain inst).Tells (some (drainAsks inst)) := by
  unfold irisHfiGen1SessionDrain drainAsks
  cases inst.domain with
  | decoder => exact tells_of_size 15 rfl le_rfl (by decide) rfl
  | encoder => exact tells_of_size 16 rfl le_rfl (by decide) rfl

/-- **A packet says what was asked.** -/
theorem packet_tells (hc : c.Contained) (hp : c.packet = some p) :
    p.Tells c.asks := by
  cases c
  case setProperty => exact setProperty_tells hc hp
  case queueBuffer => exact queueBuffer_tells hp
  case unsetBuffers => exact unsetBuffers_tells hp
  all_goals obtain rfl := Option.some.inj hp
  case sysInit => exact tells_of_size 3 rfl le_rfl (by decide) rfl
  case sysImageVersion => exact tells_of_size 4 rfl le_rfl (by decide) rfl
  case sysPowerControl => exact tells_of_size 5 rfl le_rfl (by decide) rfl
  case sysDebugConfig => exact tells_of_size 6 rfl le_rfl (by decide) rfl
  case syscache => exact tells_of_size 9 rfl le_rfl (by decide) rfl
  case sysPcPrep => exact tells_of_size 2 rfl le_rfl (by decide) rfl
  case sessionOpen => exact tells_of_size 5 rfl le_rfl (by decide) rfl
  case plain inst ptype =>
    refine tells_of_size 3 rfl le_rfl (by decide) ?_
    cases ptype <;> rfl
  case flush => exact tells_of_size 4 rfl le_rfl (by decide) rfl
  case getBufferRequirements => exact tells_of_size 5 rfl le_rfl (by decide) rfl
  case drain inst => exact drain_tells inst

end NabuIris.Gen1Command
