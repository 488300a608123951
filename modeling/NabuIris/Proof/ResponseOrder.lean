import NabuIris.Proof.Custody
import NabuIris.Proof.InternalRelease
import NabuIris.Proof.MessageLayout
import NabuIris.Proof.SourceChangeRoundTrip

/-!
# The order of the packets in a response

The ranges of the passes sort a response, so only the order within a range can count. It is so for
packets that bring all that is read of them; of a shorter one the handlers read into the packet
behind it, whichever that is.
-/

namespace NabuIris.Gen2Message

open Lib Lib.Reading

variable {mem mem' : Memory} {pkt o : Nat} {bs : List (BitVec 8)}

def OrderIndependent (mem : Memory) : Prop :=
  Accepted mem → ∀ mem', Reorders mem mem' → ∀ rules s,
    Gen2Instance.irisHfiGen2HandleSessionResponse rules mem' s =
      Gen2Instance.irisHfiGen2HandleSessionResponse rules mem s

/-- The packet brings all that the passes read of it. -/
def SelfContained (bs : List (BitVec 8)) : Prop := sessionExtent (alone bs) 0 ≤ bs.length

/-! ### What the handlers read of a packet -/

/-- Two packets that the handlers take for the same. -/
structure SameRead (v w : ReceivedPacket) : Prop where
  size : v.size = w.size
  type : v.type = w.type
  flags : v.flags = w.flags
  payloadInfo : v.payloadInfo = w.payloadInfo
  port : v.port = w.port
  word : hasFlag w.flags hfiFwFlagsInformation = false → w.type ∈ wordProperties →
    v.payload0 = w.payload0
  crop : hasFlag w.flags hfiFwFlagsInformation = false → w.type = hfiPropCropOffsets →
    v.payload0 = w.payload0 ∧ v.payload1 = w.payload1
  buffer : w.type = hfiCmdBuffer → ∀ info (s : InternalInst),
    s.irisHfiGen2HandleSessionBuffer info v.toBufferPacket =
      s.irisHfiGen2HandleSessionBuffer info w.toBufferPacket

theorem subscribedProperties_lookup {type : U32} {property : SubscribedProperty}
    (hlookup : Gen2Instance.subscribedProperties.lookup type = some property) :
    (property = .cropOffsets ∧ type = hfiPropCropOffsets) ∨
      (property ≠ .cropOffsets ∧ type ∈ wordProperties) := by
  have htable : ∀ entry ∈ Gen2Instance.subscribedProperties,
      (entry.2 = .cropOffsets ∧ entry.1 = hfiPropCropOffsets) ∨
        (entry.2 ≠ .cropOffsets ∧ entry.1 ∈ wordProperties) := by
    decide
  obtain ⟨l₁, l₂, heq, -⟩ := List.lookup_eq_some_iff.1 hlookup
  exact htable (type, property) (by rw [heq]; simp)

theorem set_word {property : SubscribedProperty} (hword : property ≠ .cropOffsets)
    (params : SubscriptionParams) (payload0 payload1 payload1' : U32) :
    params.set property payload0 payload1 = params.set property payload0 payload1' := by
  cases property with
  | cropOffsets => exact absurd rfl hword
  | _ => rfl

namespace SameRead

variable {v w : ReceivedPacket} {rules : OutputRules}

theorem property (hsame : SameRead v w) (s : Gen2Instance) :
    s.irisHfiGen2HandleSessionProperty v = s.irisHfiGen2HandleSessionProperty w := by
  unfold Gen2Instance.irisHfiGen2HandleSessionProperty
  rw [hsame.type, hsame.flags]
  by_cases hinfo : hasFlag w.flags hfiFwFlagsInformation = true
  · rw [if_pos hinfo, if_pos hinfo]
  rw [if_neg hinfo, if_neg hinfo]
  rw [Bool.not_eq_true] at hinfo
  by_cases hpicture : w.type = hfiPropPictureType
  · have hpayload := hsame.word hinfo (hpicture ▸ by decide)
    rw [if_pos hpicture, if_pos hpicture, hpayload]
  rw [if_neg hpicture, if_neg hpicture]
  by_cases hnone : w.type = hfiPropNoOutput
  · rw [if_pos hnone, if_pos hnone]
  rw [if_neg hnone, if_neg hnone]
  cases hlookup : Gen2Instance.subscribedProperties.lookup w.type with
  | none => rfl
  | some property =>
      rcases subscribedProperties_lookup hlookup with ⟨-, hcrop⟩ | ⟨hother, hword⟩
      · obtain ⟨hfirst, hsecond⟩ := hsame.crop hinfo hcrop
        simp only [hfirst, hsecond]
      · have hset := set_word hother s.params w.payload0 v.payload1 w.payload1
        simp only [hsame.word hinfo hword, hset]

theorem command (hsame : SameRead v w) (s : Gen2Instance) :
    s.irisHfiGen2HandleSessionCommand rules v = s.irisHfiGen2HandleSessionCommand rules w := by
  unfold Gen2Instance.irisHfiGen2HandleSessionCommand
  simp only [Gen2Instance.irisHfiGen2HandleSessionClose,
    Gen2Instance.irisHfiGen2HandleSessionStop, Gen2Instance.irisHfiGen2HandleSrcChange,
    Gen2Instance.irisHfiGen2HandleSessionDrain, hsame.type, hsame.flags, hsame.port]
  by_cases hbuffer : w.type = hfiCmdBuffer
  · simp only [Gen2Instance.irisHfiGen2HandleSessionBuffer, hsame.buffer hbuffer]
  · simp only [if_neg hbuffer]

/-- No pass tells them apart. -/
theorem alike (hsame : SameRead v w) : (Gen2Instance.sessionPasses rules).Alike v w where
  marked := by simp only [Gen2Instance.sessionPasses, hsame.flags]
  within pass := by simp only [Gen2Instance.sessionPasses, hsame.type]
  handle pass := by
    funext r
    have hhandler : pass.handler rules v r.2 = pass.handler rules w r.2 := by
      cases pass with
      | errors => rfl
      | infos => simp only [Gen2Pass.handler, Gen2Instance.irisHfiGen2HandleSessionInfo, hsame.type]
      | properties => exact congrArg some (hsame.property r.2)
      | commands => exact hsame.command r.2
    simp only [Gen2Instance.sessionPasses, hhandler]

end SameRead

/-! ### Reading a packet that brings all that is read -/

theorem release_congr {s : InternalInst} {a b : HfiBufferPayload} (htype : a.type = b.type)
    (haddr : b.type ≠ hfiBufferVpss → a.baseAddress = b.baseAddress) :
    NabuIris.irisHfiGen2HandleReleaseInternalBuffer a s =
      NabuIris.irisHfiGen2HandleReleaseInternalBuffer b s := by
  unfold NabuIris.irisHfiGen2HandleReleaseInternalBuffer
  rw [htype]
  cases hdriver : irisHfiGen2BufTypeToDriver s.inst.domain b.type with
  | none => rfl
  | some type =>
      have hvpss : b.type ≠ hfiBufferVpss := by
        intro heq
        rw [heq] at hdriver
        cases hdriver
      rw [haddr hvpss]

theorem sessionBuffer_congr {v w : BufferPacket} (hsize : v.size = w.size) (htype : v.type = w.type)
    (hinfo : v.payloadInfo = w.payloadInfo) (hport : v.port = w.port)
    (hread : w.payloadInfo ≠ hfiPayloadNone →
      irisHfiGen2ValidatePacketPayload w.size w.type w.payloadInfo →
        v.buffer.type = w.buffer.type ∧
          (irisHfiGen2IsValidHfiBufferType w.buffer.type →
            irisHfiGen2IsValidHfiPort w.port w.buffer.type →
              (w.buffer.type = hfiBufferBitstream ∨ w.buffer.type = hfiBufferRaw →
                v.buffer.client = w.buffer.client) ∧
              (w.buffer.type ≠ hfiBufferVpss → v.buffer.baseAddress = w.buffer.baseAddress)))
    (info : FrameInfo) (s : InternalInst) :
    s.irisHfiGen2HandleSessionBuffer info v = s.irisHfiGen2HandleSessionBuffer info w := by
  simp only [InternalInst.irisHfiGen2HandleSessionBuffer, hsize, htype, hinfo, hport]
  by_cases hnone : w.payloadInfo = hfiPayloadNone
  · rw [if_pos hnone, if_pos hnone]
  rw [if_neg hnone, if_neg hnone]
  cases hvalid : irisHfiGen2ValidatePacketPayload w.size w.type w.payloadInfo with
  | false => rfl
  | true =>
      obtain ⟨hbuffer, hfields⟩ := hread hnone hvalid
      rw [hbuffer]
      cases hknown : irisHfiGen2IsValidHfiBufferType w.buffer.type with
      | false => rfl
      | true =>
          cases hgate : irisHfiGen2IsValidHfiPort w.port w.buffer.type with
          | false => rfl
          | true =>
              obtain ⟨hclient, haddr⟩ := hfields hknown hgate
              rw [release_congr hbuffer haddr]
              by_cases hbitstream : w.buffer.type = hfiBufferBitstream
              · rw [hclient (.inl hbitstream)]
              by_cases hraw : w.buffer.type = hfiBufferRaw
              · rw [hclient (.inr hraw)]
              simp only [if_neg hbitstream, if_neg hraw]

theorem bufferAt_client (hlies : LiesAt mem pkt bs) (hle : o + 44 ≤ bs.length) :
    (bufferAt mem (pkt + o)).client = (bufferAt (alone bs) o).client := by
  have hword : ∀ k, k + 4 ≤ 44 → wordAt mem (pkt + o + k) = wordAt (alone bs) (o + k) := by
    intro k hk
    rw [Nat.add_assoc]
    exact hlies.wordAt_eq (by omega)
  have hlong : ∀ k, k + 8 ≤ 44 → (u64 (pkt + o + k)).run mem = (u64 (o + k)).run (alone bs) := by
    intro k hk
    rw [Nat.add_assoc]
    exact hlies.run_u64_eq (by omega)
  simp only [bufferAt, HfiBufferPayload.client, bufferIndex, bufferBaseAddress, bufferDataOffset,
    bufferDataSize, bufferTimestamp, bufferFlags, run_u32, hword 4 (by omega), hword 24 (by omega),
    hword 28 (by omega), hword 40 (by omega), hlong 8 (by omega), hlong 32 (by omega)]

theorem bufferPacketExtent_covers {limit : Nat} (hle : bufferPacketExtent mem pkt ≤ limit)
    (hnone : wordAt mem (pkt + 12) ≠ hfiPayloadNone)
    (hvalid : irisHfiGen2ValidatePacketPayload (wordAt mem pkt) (wordAt mem (pkt + 4))
      (wordAt mem (pkt + 12))) :
    hfiPacketSize + 4 ≤ limit ∧
      (irisHfiGen2IsValidHfiBufferType (wordAt mem (pkt + hfiPacketSize)) →
        irisHfiGen2IsValidHfiPort (wordAt mem (pkt + 16)) (wordAt mem (pkt + hfiPacketSize)) →
          hfiPacketSize + bufferExtent (wordAt mem (pkt + hfiPacketSize)) ≤ limit) := by
  have hread : ¬(wordAt mem (pkt + 12) = hfiPayloadNone ∨ !irisHfiGen2ValidatePacketPayload
      (wordAt mem pkt) (wordAt mem (pkt + 4)) (wordAt mem (pkt + 12))) := by
    simp [hnone, hvalid]
  have hextent : 4 ≤ bufferExtent (wordAt mem (pkt + hfiPacketSize)) := by
    unfold bufferExtent
    split_ifs <;> decide
  unfold bufferPacketExtent at hle
  simp only [if_neg hread] at hle
  split_ifs at hle with hboth
  · exact ⟨by omega, fun _ _ => hle⟩
  · exact ⟨hle, fun hknown hgate => absurd ⟨hknown, hgate⟩ hboth⟩

theorem receivedAt_sameRead (hlies : LiesAt mem pkt bs) (hhead : hfiPacketSize ≤ bs.length)
    (hself : SelfContained bs) : SameRead (receivedAt mem pkt) (receivedAt (alone bs) 0) := by
  have hP : hfiPacketSize = 32 := rfl
  have hword : ∀ k, k + 4 ≤ bs.length → wordAt mem (pkt + k) = wordAt (alone bs) (0 + k) := by
    intro k hk
    rw [Nat.zero_add]
    exact hlies.wordAt_eq hk
  have hextent := (@sessionExtent_le (alone bs) bs.length 0).1 (by rwa [Nat.zero_add])
  obtain ⟨-, -, hbuffer, hpayload⟩ := hextent
  refine ⟨hword 0 (by omega), hword 4 (by omega), hword 8 (by omega), hword 12 (by omega),
    hword 16 (by omega), ?_, ?_, ?_⟩
  · intro hinfo htype
    exact hword 32 (by have := (hpayload hinfo).2 htype; omega)
  · intro hinfo htype
    have hle := (hpayload hinfo).1 htype
    exact ⟨hword 32 (by omega), hword 36 (by omega)⟩
  · intro htype
    have hle := hbuffer htype
    rw [Nat.zero_add] at hle
    refine sessionBuffer_congr (hword 0 (by omega)) (hword 4 (by omega)) (hword 12 (by omega))
      (hword 16 (by omega)) fun hnone hvalid => ?_
    obtain ⟨hfirst, hall⟩ := bufferPacketExtent_covers hle hnone hvalid
    refine ⟨hword 32 (by omega), fun hknown hgate => ?_⟩
    have hcovered := hall hknown hgate
    rw [Nat.zero_add, bufferExtent] at hcovered
    refine ⟨fun (hclient : wordAt (alone bs) hfiPacketSize = hfiBufferBitstream ∨
      wordAt (alone bs) hfiPacketSize = hfiBufferRaw) => ?_, fun hvpss => ?_⟩
    · rw [if_pos hclient] at hcovered
      have hfields := bufferAt_client (o := hfiPacketSize) hlies (by omega)
      simpa only [receivedAt, Nat.zero_add] using hfields
    · have haddr : hfiPacketSize + 16 ≤ bs.length := by
        split_ifs at hcovered with hclient hother
        · omega
        · exact absurd hother hvpss
        · exact hcovered
      have hlong := hlies.run_u64_eq (o := hfiPacketSize + 8) (by omega)
      simpa only [receivedAt, bufferAt, bufferBaseAddress, Nat.add_assoc, Nat.zero_add] using hlong

/-! ### Walking over the blocks -/

theorem receivedPackets_eq (n pkt : Nat) :
    receivedPackets mem n pkt = (packetOffsets mem n pkt).map (receivedAt mem) := by
  induction n generalizing pkt with
  | zero => rfl
  | succ n ih => rw [receivedPackets, packetOffsets, List.map_cons, ih, run_pktSize]

/-- The message as blocks that each stand alone. -/
def standing (mem : Memory) : List ReceivedPacket :=
  (blocks mem).map fun bs => receivedAt (alone bs) 0

theorem received_standing (hsized : ∀ bs ∈ blocks mem, Sized bs)
    (hself : ∀ bs ∈ blocks mem, SelfContained bs) :
    List.Forall₂ SameRead (receivedPackets mem (wordAt mem 28).toNat hfiHeaderSize)
      (standing mem) := by
  rw [receivedPackets_eq, standing, blocks, List.map_map, packets]
  rw [List.forall₂_map_left_iff, List.forall₂_map_right_iff, List.forall₂_same]
  intro pkt hpkt
  have hmem : blockAt mem pkt (wordAt mem pkt).toNat ∈ blocks mem :=
    List.mem_map.2 ⟨pkt, hpkt, rfl⟩
  exact receivedAt_sameRead (liesAt_blockAt mem pkt _) (hsized _ hmem).head (hself _ hmem)

/-! ### The passes -/

/-- A session error was handled. -/
structure Raised (s : Gen2Instance) : Prop where
  queueError : s.queueError = true
  error : s.inst.state = .error

theorem error_of_steps {inst t : Inst} (hsteps : EventSteps (fun _ => True) inst t)
    (herror : inst.state = .error) : t.state = .error := by
  have hsettles := @EventSteps.settles (· = .error) rfl _ _ _ hsteps
  exact hsettles.keeps herror

namespace Raised

variable {s : Gen2Instance} {rules : OutputRules} {v : ReceivedPacket}

theorem call (hraised : Raised s) {f : Inst → Int × Inst}
    (hsteps : EventSteps (fun _ => True) s.inst (f s.inst).2) : Raised (s.call f).2 :=
  ⟨hraised.queueError, error_of_steps hsteps hraised.error⟩

theorem enterError (hraised : Raised s) : Raised s.enterError := by
  refine ⟨hraised.queueError, ?_⟩
  rw [Gen2Instance.enterError, enterError_eq]

theorem info (hraised : Raised s) (v : ReceivedPacket) :
    Raised (s.irisHfiGen2HandleSessionInfo v).2 := by
  have hrefl : EventSteps (fun _ => True) s.inst s.inst := .refl
  unfold Gen2Instance.irisHfiGen2HandleSessionInfo
  split_ifs
  · exact ⟨hraised.queueError, hraised.error⟩
  · exact ⟨hraised.queueError, hraised.error⟩
  · exact hraised.call hrefl.drainLast
  · exact hraised.call hrefl.drcLast
  · exact hraised

theorem property (hraised : Raised s) (v : ReceivedPacket) :
    Raised (s.irisHfiGen2HandleSessionProperty v).2 := by
  unfold Gen2Instance.irisHfiGen2HandleSessionProperty
  split_ifs
  · exact hraised
  · exact ⟨hraised.queueError, hraised.error⟩
  · exact ⟨hraised.queueError, hraised.error⟩
  · split
    · exact ⟨hraised.queueError, hraised.error⟩
    · exact hraised

theorem stop (hraised : Raised s) (v : ReceivedPacket) :
    Raised (s.irisHfiGen2HandleSessionStop v).2 := by
  have hrefl : EventSteps (fun _ => True) s.inst s.inst := .refl
  have hcomplete : ∀ t : Gen2Instance, Raised t → Raised t.complete :=
    fun t ht => ⟨ht.queueError, ht.error⟩
  unfold Gen2Instance.irisHfiGen2HandleSessionStop
  split_ifs
  · exact hcomplete _ (hraised.call (hrefl.pause _))
  · exact hcomplete _ (hraised.call (hrefl.pause _))
  · exact hcomplete _ hraised

theorem srcChange (hraised : Raised s) (rules : OutputRules) (v : ReceivedPacket) :
    Raised (s.irisHfiGen2HandleSrcChange rules v).2 := by
  have hrefl : EventSteps (fun _ => True) s.inst s.inst := .refl
  have hchange : Raised (s.setDecoder (handleSrcChange rules s.decoder).2) := by
    refine ⟨hraised.queueError, ?_⟩
    have hdrc := error_of_steps hrefl.drc hraised.error
    unfold handleSrcChange
    simp only
    split_ifs
    · exact hdrc
    · exact applyIf_keep (P := fun inst : Inst => inst.state = .error) _ hdrc fun _ => by
        rw [enterError_eq]
  unfold Gen2Instance.irisHfiGen2HandleSrcChange
  simp only
  split_ifs
  · exact hraised
  · exact hchange
  · unfold Gen2Instance.irisVdecSrcChange
    split_ifs
    · exact hchange
    · exact ⟨hchange.queueError, hchange.error⟩

theorem drain (hraised : Raised s) (v : ReceivedPacket) :
    Raised (s.irisHfiGen2HandleSessionDrain v).2 := by
  have hrefl : EventSteps (fun _ => True) s.inst s.inst := .refl
  unfold Gen2Instance.irisHfiGen2HandleSessionDrain
  split_ifs
  · exact hraised.enterError
  · exact hraised.call (hrefl.changeSubState _ _)
  · exact hraised

theorem buffer (hraised : Raised s) {r : Int × Gen2Instance}
    (hhandled : s.irisHfiGen2HandleSessionBuffer v = some r) : Raised r.2 := by
  have hrefl : EventSteps (fun _ => True) s.inst s.inst := .refl
  obtain ⟨⟨ret, t⟩, hbuffer, rfl⟩ := Option.map_eq_some_iff.1 hhandled
  have hsteps := hrefl.gen2Command (fun _ => trivial) s.info
    (.buffer (v.toBufferPacket.read s.internals))
  have hinst : NabuIris.irisHfiGen2HandleSessionCommand s.info
      (.buffer (v.toBufferPacket.read s.internals)) s.inst = (ret, t.inst) :=
    irisHfiGen2HandleSessionBuffer_refines hbuffer
  rw [hinst] at hsteps
  exact ⟨hraised.queueError, error_of_steps hsteps hraised.error⟩

theorem command (hraised : Raised s) {r : Int × Gen2Instance}
    (hhandled : s.irisHfiGen2HandleSessionCommand rules v = some r) : Raised r.2 := by
  unfold Gen2Instance.irisHfiGen2HandleSessionCommand at hhandled
  split_ifs at hhandled
  · obtain rfl := Option.some.inj hhandled
    unfold Gen2Instance.irisHfiGen2HandleSessionClose
    split_ifs
    · exact hraised.enterError
    · exact ⟨hraised.queueError, hraised.error⟩
  · obtain rfl := Option.some.inj hhandled
    exact hraised.stop v
  · exact hraised.buffer hhandled
  · obtain rfl := Option.some.inj hhandled
    exact hraised.srcChange rules v
  · obtain rfl := Option.some.inj hhandled
    exact hraised.drain v
  · obtain rfl := Option.some.inj hhandled
    exact hraised

theorem handler (hraised : Raised s) (pass : Gen2Pass) {r : Int × Gen2Instance}
    (hhandled : pass.handler rules v s = some r) : Raised r.2 := by
  cases pass with
  | errors =>
      obtain rfl := Option.some.inj hhandled
      exact Raised.enterError ⟨rfl, hraised.error⟩
  | infos =>
      obtain rfl := Option.some.inj hhandled
      exact hraised.info v
  | properties =>
      obtain rfl := Option.some.inj hhandled
      exact hraised.property v
  | commands => exact hraised.command hhandled

end Raised

section Order

variable {rules : OutputRules} {r : Int × Gen2Instance}

theorem mark_eq_iff : (Gen2Instance.sessionPasses rules).mark r = r ↔ Raised r.2 := by
  constructor
  · intro hmark
    rw [← hmark]
    refine ⟨rfl, ?_⟩
    exact congrArg Inst.state (enterError_eq r.2.inst)
  · intro hraised
    obtain ⟨ret, s⟩ := r
    obtain ⟨hqueue, herror⟩ := hraised
    have hinst : s.inst.enterError = s.inst := by
      rw [Inst.enterError, irisInstChangeState, if_pos herror]
    have hsame : s.irisHfiGen2HandleSessionError.2 = s := by
      cases s
      simp only [Gen2Instance.irisHfiGen2HandleSessionError, Gen2Instance.enterError,
        Gen2Instance.irisVb2QueueError] at hqueue hinst ⊢
      rw [hqueue, hinst]
    exact congrArg (ret, ·) hsame

/-- A session error is final, and `ret` is 0 in the pass that handles them. -/
theorem sessionPasses_final (rules : OutputRules) :
    (Gen2Instance.sessionPasses rules).Final .errors (fun r => r.1 = 0) where
  idem r := mark_eq_iff.2 ⟨rfl, congrArg Inst.state (enterError_eq r.2.inst)⟩
  init r hzero := hzero
  first v r hzero := by
    obtain ⟨ret, s⟩ := r
    obtain rfl : ret = 0 := hzero
    rfl
  keeps pass v r t hmark hhandle := by
    obtain ⟨u, hhandler, rfl⟩ := Option.map_eq_some_iff.1 hhandle
    have hraised := (mark_eq_iff.1 hmark).handler pass hhandler
    refine mark_eq_iff.2 ?_
    simp only
    split_ifs
    · exact hraised.enterError
    · exact hraised

theorem any_sameRead {items items' : List ReceivedPacket} {test : ReceivedPacket → Bool}
    (hsame : List.Forall₂ SameRead items items')
    (htest : ∀ v w, SameRead v w → test v = test w) : items.any test = items'.any test := by
  induction hsame with
  | nil => rfl
  | cons hfirst _ ih => rw [List.any_cons, List.any_cons, htest _ _ hfirst, ih]

theorem changesSource_eq (v w : ReceivedPacket) (hsame : SameRead v w) :
    v.changesSource = w.changesSource := by
  rw [ReceivedPacket.changesSource, ReceivedPacket.changesSource, hsame.type, hsame.port]

theorem handlePackets_sameRead {items items' : List ReceivedPacket}
    (hsame : List.Forall₂ SameRead items items') (s : Gen2Instance) :
    s.handlePackets rules items = s.handlePackets rules items' := by
  have hchange := any_sameRead hsame changesSource_eq
  have hbuffer : (items.any fun pkt => pkt.type == hfiCmdBuffer) =
      items'.any fun pkt => pkt.type == hfiCmdBuffer :=
    any_sameRead hsame fun v w h => by rw [h.type]
  have hrun := Passes.run_alike (Gen2Instance.sessionPasses rules)
    (hsame.imp fun v w h => h.alike)
  simp only [Gen2Instance.handlePackets, Gen2Instance.prepare, Gen2Instance.dequeue, hchange,
    hbuffer, hrun]

theorem handlePackets_perm {items items' : List ReceivedPacket} (hperm : items'.Perm items)
    (horder : ∀ pass : Gen2Pass, (items'.filter fun pkt => inRange pass.range pkt.type) =
      items.filter fun pkt => inRange pass.range pkt.type) (s : Gen2Instance) :
    s.handlePackets rules items' = s.handlePackets rules items := by
  have hrun : ∀ t : Gen2Instance, (Gen2Instance.sessionPasses rules).run
      [.errors, .infos, .properties, .commands] items' (0, t) =
        (Gen2Instance.sessionPasses rules).run [.errors, .infos, .properties, .commands] items
          (0, t) :=
    fun t => (sessionPasses_final rules).run_perm hperm horder rfl
  simp only [Gen2Instance.handlePackets, Gen2Instance.prepare, Gen2Instance.dequeue,
    hperm.any_eq, hrun]

theorem standing_filter (mem : Memory) (pass : Gen2Pass) :
    ((standing mem).filter fun pkt => inRange pass.range pkt.type) =
      ((blocks mem).filter (inPass pass)).map fun bs => receivedAt (alone bs) 0 := by
  rw [standing, List.filter_map]
  rfl

/-! ### Order -/

/-- `HFI_INFO_UNSUPPORTED` -/
def unsupportedInfo : List (BitVec 8) := wordBytes [32, 0x06000001, 0, 0, 0, 0, 0, 0]

/-- A profile, and a profile whose value is missing. -/
def fullProfile : List (BitVec 8) := wordBytes [36, hfiPropProfile, 0, hfiPayloadU32, 0, 0, 0, 0, 1]
def shortProfile : List (BitVec 8) := wordBytes [32, hfiPropProfile, 0, hfiPayloadNone, 0, 0, 0, 0]

/-- A decoder as `iris_open` leaves it. -/
def openedInstance : Gen2Instance :=
  { inst := openedDecoder .gen2 .h264 false
    formats := smallFormats
    params := changedParams 0 0 0 0 0
    fwCaps := fun _ => 0
    buffers := .empty
    freed := []
    info := .cleared
    noOutput := false
    queueError := false
    completions := 0
    sourceChanges := 0 }

theorem fits_unsupported {bs : List (BitVec 8)} (hsized : Sized bs) (hshort : bs.length ≤ 64) :
    Fits [bs, unsupportedInfo] where
  sized b hb := by
    rcases List.mem_pair.1 hb with rfl | rfl
    · exact hsized
    · exact ⟨by decide, by decide⟩
  total := by
    have hlength : unsupportedInfo.length = 32 := rfl
    have hmax : ifaceqCorePktSize = 4096 := rfl
    have hH : hfiHeaderSize = 32 := rfl
    simp only [List.flatten_cons, List.flatten_nil, List.append_nil, List.length_append]
    omega

/-- **Order independence.** When every packet brings all that the passes read of it, a response
means the same in every order that keeps the order within each range. -/
theorem session_response_order_independent (mem : Memory)
    (hself : ∀ bs ∈ blocks mem, SelfContained bs) : OrderIndependent mem := by
  intro haccepted mem' hreorders rules s
  have hmem : ∀ bs ∈ blocks mem', bs ∈ blocks mem := fun bs => hreorders.perm.mem_iff.1
  have hword : ∀ o, o + 4 ≤ hfiHeaderSize → wordAt mem' o = wordAt mem o := fun o ho =>
    wordAt_congr fun i hi => hreorders.header _ (by omega)
  have hid : hdrSessionId.run mem' = hdrSessionId.run mem := hword 4 (by decide)
  have hmeans : ∀ m : Memory, (∀ bs ∈ blocks m, bs ∈ blocks mem) →
      s.handlePackets rules (receivedPackets m (wordAt m 28).toNat hfiHeaderSize) =
        s.handlePackets rules (standing m) := by
    intro m hsub
    refine handlePackets_sameRead (received_standing (fun bs hbs => ?_) fun bs hbs => ?_) s
    · exact accepted_sized haccepted bs (hsub bs hbs)
    · exact hself bs (hsub bs hbs)
  have hstanding : s.handlePackets rules (standing mem') =
      s.handlePackets rules (standing mem) := by
    have hperm : (standing mem').Perm (standing mem) := hreorders.perm.map _
    refine handlePackets_perm hperm (fun pass => ?_) s
    rw [standing_filter, standing_filter, hreorders.order pass]
  unfold Gen2Instance.irisHfiGen2HandleSessionResponse
  rw [hid]
  split_ifs
  · rfl
  · exact (hmeans mem' hmem).trans (hstanding.trans (hmeans mem fun _ => id).symm)

/-- A profile brings its value, so the packet behind it may come first. -/
theorem session_response_order_independent_profile :
    Accepted (layout 1 [fullProfile, unsupportedInfo] fun _ => 0) ∧
      Reorders (layout 1 [fullProfile, unsupportedInfo] fun _ => 0)
        (layout 1 [unsupportedInfo, fullProfile] fun _ => 0) ∧
      OrderIndependent (layout 1 [fullProfile, unsupportedInfo] fun _ => 0) := by
  have hfits : Fits [fullProfile, unsupportedInfo] :=
    fits_unsupported ⟨by decide, by decide⟩ (by decide)
  refine ⟨hfits.accepted (List.cons_ne_nil _ _), hfits.reorders (List.Perm.swap _ _ _) ?_,
    session_response_order_independent _ ?_⟩
  · intro pass
    cases pass <;> decide
  · intro bs hbs
    rw [hfits.blocks_layout] at hbs
    rcases List.mem_pair.1 hbs with rfl | rfl <;> unfold SelfContained <;> decide

/-- Without its value the profile is the size of the packet behind it, or what lies behind the
message. -/
theorem not_orderIndependent_short_profile :
    ¬OrderIndependent (layout 1 [shortProfile, unsupportedInfo] fun _ => 0) := by
  intro hindependent
  have hfits : Fits [shortProfile, unsupportedInfo] :=
    fits_unsupported ⟨by decide, by decide⟩ (by decide)
  have horder : ∀ pass, [unsupportedInfo, shortProfile].filter (inPass pass) =
      [shortProfile, unsupportedInfo].filter (inPass pass) := by
    intro pass
    cases pass <;> decide
  have hsame := hindependent (hfits.accepted (List.cons_ne_nil _ _)) _
    (hfits.reorders (List.Perm.swap _ _ _) horder) fixedRules openedInstance
  have hprofile := congrArg (Option.map fun r => r.2.params.profile) hsame
  exact absurd hprofile (by decide +kernel)

end Order

end NabuIris.Gen2Message
