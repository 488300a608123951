import NabuIris.Lib.Journal
import NabuIris.Proof.CommandMessages

/-!
# Nothing starts before it is subscribed to

The two flags of the session say which planes have subscribed to the change of their parameters.
Read off the messages alone: a decoder starts a plane only when the firmware has taken that
subscription since the session was opened, and right behind a subscription to the properties of the
plane; and the bitstream port subscribes once.
-/

namespace NabuIris.Gen2Command

open Lib Lib.Reading Gen2Message

/-! ### Reading the log -/

/-- A message of one packet of this kind. -/
def Written.Is (m : Written) (kind : Gen2Message.Gen2Packet → Prop) : Prop :=
  ∃ packet, readMessage.run m.message = [packet] ∧ kind packet

def Opens (m : Written) : Prop := m.Is fun packet => packet.type = hfiCmdOpen

def Starts (plane : Plane) (m : Written) : Prop := m.Is fun packet =>
  packet.type = hfiCmdStart ∧ packet.port = irisHfiGen2GetPort .decoder plane

/-- A subscription of this mode for the plane that the queue has taken. -/
def Subscribes (mode : U32) (plane : Plane) (m : Written) : Prop :=
  m.ret = 0 ∧ m.Is fun packet =>
    packet.type = hfiCmdSubscribeMode ∧ packet.port = irisHfiGen2GetPort .decoder plane ∧
      packet.payload.take 4 = wordPayload [mode]

/-- The change of the parameters of the plane is subscribed to since the session was opened. -/
abbrev ChangeSubscribed (plane : Plane) : List Written → Prop :=
  Since Opens (Subscribes hfiModePortSettingsChange plane)

/-- The properties of the plane were subscribed to just now. -/
def PropertiesSubscribed (plane : Plane) (log : List Written) : Prop :=
  ∃ m ∈ log.getLast?, Subscribes hfiModeProperty plane m

/-- What a start needs. -/
def StartRule (pre : List Written) (m : Written) : Prop :=
  ∀ plane, Starts plane m → ChangeSubscribed plane pre ∧ PropertiesSubscribed plane pre

/-- The bitstream port does not subscribe again. -/
def OnceRule (pre : List Written) (m : Written) : Prop :=
  Subscribes hfiModePortSettingsChange .output m → ¬ChangeSubscribed .output pre

section Packets

variable {m : Written} {packet : Gen2Message.Gen2Packet}
  {kind : Gen2Message.Gen2Packet → Prop} {plane : Plane} {mode : U32}

theorem Written.Carries.is_iff (hcarries : m.Carries packet) : m.Is kind ↔ kind packet := by
  constructor
  · rintro ⟨packet', hread, hkind⟩
    rw [hcarries.read] at hread
    rwa [List.singleton_inj.1 hread]
  · exact fun hkind => ⟨packet, hcarries.read, hkind⟩

theorem Written.Carries.not_opens (hcarries : m.Carries packet)
    (htype : packet.type ≠ hfiCmdOpen) : ¬Opens m :=
  fun h => htype (hcarries.is_iff.1 h)

theorem Written.Carries.not_starts (hcarries : m.Carries packet)
    (htype : packet.type ≠ hfiCmdStart) : ¬Starts plane m :=
  fun h => htype (hcarries.is_iff.1 h).1

theorem Written.Carries.not_subscribes (hcarries : m.Carries packet)
    (htype : packet.type ≠ hfiCmdSubscribeMode) : ¬Subscribes mode plane m :=
  fun h => htype (hcarries.is_iff.1 h.2).1

end Packets

/-! ### The invariant -/

/-- The rules hold of the log, and the flags tell what it says. -/
structure Orderly (s : Session) : Prop where
  starts : EachAfter StartRule s.written
  once : EachAfter OnceRule s.written
  set : ∀ plane, s.propertiesSet plane → ChangeSubscribed plane s.written
  unset : s.packet.isSome → s.ipscPropertiesSet = false → ¬ChangeSubscribed .output s.written

section Steps

variable {s s' : Session} {plane : Plane}

theorem Sends.propertiesSet {kind : Gen2Message.Gen2Packet → Prop} (hsends : Sends kind s s')
    (plane : Plane) : s'.propertiesSet plane = s.propertiesSet plane := by
  cases plane with
  | output => exact hsends.ipsc
  | capture => exact hsends.opsc

/-- A message that the rules say nothing of. -/
structure Quiet (m : Written) : Prop where
  opens : ¬Opens m
  starts : ∀ plane, ¬Starts plane m
  subscribes : ∀ plane, ¬Subscribes hfiModePortSettingsChange plane m

theorem changeSubscribed_append {log new : List Written} (hquiet : ∀ m ∈ new, Quiet m)
    (plane : Plane) : ChangeSubscribed plane (log ++ new) ↔ ChangeSubscribed plane log :=
  since_append_of_none fun m hm => ⟨(hquiet m hm).opens, (hquiet m hm).subscribes plane⟩

theorem Orderly.quiet (horderly : Orderly s) (hpacket : s.packet.isSome) {new : List Written}
    (hnew : s'.written = s.written ++ new) (hquiet : ∀ m ∈ new, Quiet m)
    (hflags : ∀ plane, s'.propertiesSet plane = s.propertiesSet plane) : Orderly s' := by
  refine ⟨?_, ?_, ?_, ?_⟩
  · rw [hnew]
    exact eachAfter_append_of_free horderly.starts fun m hm _ plane hstarts =>
      absurd hstarts ((hquiet m hm).starts plane)
  · rw [hnew]
    exact eachAfter_append_of_free horderly.once fun m hm _ hsubscribes =>
      absurd hsubscribes ((hquiet m hm).subscribes _)
  · intro plane hset
    rw [hflags] at hset
    rw [hnew, changeSubscribed_append hquiet]
    exact horderly.set plane hset
  · intro _ hunset
    have hbefore : s.ipscPropertiesSet = false := (hflags .output).symm.trans hunset
    rw [hnew, changeSubscribed_append hquiet]
    exact horderly.unset hpacket hbefore

/-- Plain messages are quiet. -/
theorem Sends.quiet (hsends : Sends Plain s s') :
    ∃ new, s'.written = s.written ++ new ∧ ∀ m ∈ new, Quiet m := by
  obtain ⟨new, hnew, hplain⟩ := hsends.messages
  refine ⟨new, hnew, fun m hm => ?_⟩
  obtain ⟨packet, hcarries, hopen, hstart, hsubscribe⟩ := hplain m hm
  exact ⟨hcarries.not_opens hopen, fun _ => hcarries.not_starts hstart,
    fun _ => hcarries.not_subscribes hsubscribe⟩

theorem Orderly.plain (horderly : Orderly s) (hpacket : s.packet.isSome)
    (hsends : Sends Plain s s') : Orderly s' := by
  obtain ⟨new, hnew, hquiet⟩ := hsends.quiet
  exact horderly.quiet hpacket hnew hquiet hsends.propertiesSet

end Steps

/-! ### Starting a plane -/

section Start

variable {env : QueueEnv} {tables : ParamTables} {inst : CommandInst} {s s' : Session}
  {plane : Plane} {mode : U32} {list : List U32}

theorem getPort_injective {plane plane' : Plane}
    (hport : irisHfiGen2GetPort .decoder plane = irisHfiGen2GetPort .decoder plane') :
    plane = plane' := by
  cases plane <;> cases plane' <;> first | rfl | exact absurd hport (by decide)

theorem wordPayload_injective {w w' : U32} (hpayload : wordPayload [w] = wordPayload [w']) :
    w = w' := by
  simp only [wordPayload, List.flatMap_cons, List.flatMap_nil, List.append_nil, List.cons.injEq,
    and_true] at hpayload
  obtain ⟨h0, h1, h2, h3⟩ := hpayload
  rw [← word_of_bytes w, ← word_of_bytes w', h0, h1, h2, h3]

theorem take_wordPayload (mode : U32) (list : List U32) :
    (wordPayload (mode :: list)).take 4 = wordPayload [mode] := rfl

/-- The message of a subscription. -/
theorem subscribeMode_eq (env : QueueEnv) (plane : Plane) (mode : U32)
    (hdomain : inst.domain = .decoder) (hlist : list.length ≤ 31) (hpacket : s.packet.isSome) :
    ∃ s' m, irisHfiGen2SessionSubscribeMode env inst hfiCmdSubscribeMode plane (mode :: list) s =
        some (m.ret, s') ∧
      s'.written = s.written ++ [m] ∧ s'.packet.isSome ∧
      (∀ plane', s'.propertiesSet plane' = s.propertiesSet plane') ∧ ¬Opens m ∧
      (∀ plane', ¬Starts plane' m) ∧
      ∀ mode' plane', Subscribes mode' plane' m ↔ m.ret = 0 ∧ mode' = mode ∧ plane' = plane := by
  have hfits : hfiHeaderSize + hfiPacketSize + (wordPayload (mode :: list)).length ≤
      packetAlloc := by
    rw [length_wordPayload, List.length_cons]
    simp only [hfiHeaderSize, hfiPacketSize, packetAlloc]
    omega
  obtain ⟨s', m, hdone, hwritten, hcarries, hpacket', hipsc, hopsc⟩ :=
    sendCommand_eq env hfiCmdSubscribeMode
      (hfiHostFlagsResponseRequired ||| hfiHostFlagsIntrRequired)
      (irisHfiGen2GetPort inst.domain plane) inst.sessionId hfiPayloadU32Array hpacket hfits
      ⟨_, length_wordPayload _⟩
  refine ⟨s', m, hdone, hwritten, hpacket', ?_,
    hcarries.not_opens (show hfiCmdSubscribeMode ≠ hfiCmdOpen by decide),
    fun _ => hcarries.not_starts (show hfiCmdSubscribeMode ≠ hfiCmdStart by decide),
    fun mode' plane' => ?_⟩
  · intro plane'
    cases plane' with
    | output => exact hipsc
    | capture => exact hopsc
  · unfold Subscribes
    rw [hcarries.is_iff, hdomain, take_wordPayload]
    constructor
    · rintro ⟨hret, -, hport, hmode⟩
      exact ⟨hret, wordPayload_injective hmode.symm, getPort_injective hport.symm⟩
    · rintro ⟨hret, rfl, rfl⟩
      exact ⟨hret, rfl, rfl, rfl⟩

/-- A subscription that the queue refuses says nothing, and one that it takes is behind the log. -/
theorem subscribeMode_triple {pre post fail : Session → Prop} (hdomain : inst.domain = .decoder)
    (hlist : list.length ≤ 31)
    (hpost : ∀ s s' m, pre s → s.packet.isSome → s'.written = s.written ++ [m] →
      (∀ plane', s'.propertiesSet plane' = s.propertiesSet plane') → ¬Opens m →
      (∀ plane', ¬Starts plane' m) →
      (∀ mode' plane', Subscribes mode' plane' m ↔ mode' = mode ∧ plane' = plane) → post s')
    (hfail : ∀ s s' m, pre s → s.packet.isSome → s'.written = s.written ++ [m] →
      (∀ plane', s'.propertiesSet plane' = s.propertiesSet plane') → Quiet m → fail s') :
    (irisHfiGen2SessionSubscribeMode env inst hfiCmdSubscribeMode plane (mode :: list)).Triple
      pre post fail := by
  intro s hpre hpacket
  obtain ⟨s', m, hdone, hnew, hpacket', hflags, hopens, hstarts, hsubscribes⟩ :=
    subscribeMode_eq env plane mode hdomain hlist hpacket
  refine ⟨m.ret, s', hdone, hpacket', ?_, ?_⟩
  · intro hret
    exact hpost s s' m hpre hpacket hnew hflags hopens hstarts fun mode' plane' =>
      (hsubscribes mode' plane').trans (and_iff_right hret)
  · intro hret
    exact hfail s s' m hpre hpacket hnew hflags
      ⟨hopens, hstarts, fun plane' hsub => hret ((hsubscribes _ plane').1 hsub).1⟩

/-- The queue has taken the change subscription of the plane, which is not flagged yet. -/
structure Changed (plane : Plane) (s : Session) : Prop where
  starts : EachAfter StartRule s.written
  once : EachAfter OnceRule s.written
  set : ∀ plane', s.propertiesSet plane' → ChangeSubscribed plane' s.written
  subscribed : ChangeSubscribed plane s.written
  unset : plane ≠ .output → s.ipscPropertiesSet = false → ¬ChangeSubscribed .output s.written

theorem Orderly.changed {m : Written} (horderly : Orderly s) (hpacket : s.packet.isSome)
    (hunset : s.propertiesSet plane = false) (hnew : s'.written = s.written ++ [m])
    (hflags : ∀ plane', s'.propertiesSet plane' = s.propertiesSet plane') (hopens : ¬Opens m)
    (hstarts : ∀ plane', ¬Starts plane' m)
    (hsubscribes : ∀ mode plane', Subscribes mode plane' m ↔
      mode = hfiModePortSettingsChange ∧ plane' = plane) : Changed plane s' := by
  refine ⟨?_, ?_, ?_, ?_, ?_⟩ <;> rw [hnew]
  · exact eachAfter_snoc.2 ⟨horderly.starts, fun plane' h => absurd h (hstarts plane')⟩
  · refine eachAfter_snoc.2 ⟨horderly.once, fun hsub => ?_⟩
    obtain rfl := ((hsubscribes _ _).1 hsub).2
    exact horderly.unset hpacket hunset
  · intro plane' hset
    rw [hflags] at hset
    exact since_snoc.2 (.inr ⟨hopens, horderly.set plane' hset⟩)
  · exact since_snoc.2 (.inl ((hsubscribes _ _).2 ⟨rfl, rfl⟩))
  · intro hplane hipsc hsince
    rcases since_snoc.1 hsince with hsub | ⟨-, hbefore⟩
    · exact hplane ((hsubscribes _ _).1 hsub).2.symm
    · exact horderly.unset hpacket ((hflags .output).symm.trans hipsc) hbefore

/-- A change that is subscribed to is in order, and stays so through plain messages. -/
theorem Changed.orderly (hchanged : Changed .capture s) : Orderly s where
  starts := hchanged.starts
  once := hchanged.once
  set := hchanged.set
  unset := fun _ => hchanged.unset (by decide)

theorem Changed.plain (hchanged : Changed .capture s) (hpacket : s.packet.isSome)
    (hsends : Sends Plain s s') : Changed .capture s' := by
  have horderly := hchanged.orderly.plain hpacket hsends
  obtain ⟨new, hnew, hquiet⟩ := hsends.quiet
  refine ⟨horderly.starts, horderly.once, horderly.set, ?_,
    fun _ => horderly.unset hsends.packet⟩
  rw [hnew, changeSubscribed_append hquiet]
  exact hchanged.subscribed

/-- Setting the flag of the BITSTREAM plane. -/
theorem Changed.flagOutput (hchanged : Changed .output s) :
    Orderly { s with ipscPropertiesSet := true } where
  starts := hchanged.starts
  once := hchanged.once
  set := fun plane' hset => by
    cases plane' with
    | output => exact hchanged.subscribed
    | capture => exact hchanged.set .capture hset
  unset := fun _ h => absurd h Bool.true_eq_false.mp

theorem Changed.flagCapture (hchanged : Changed .capture s) :
    Orderly { s with opscPropertiesSet := true } where
  starts := hchanged.starts
  once := hchanged.once
  set := fun plane' hset => by
    cases plane' with
    | output => exact hchanged.set .output hset
    | capture => exact hchanged.subscribed
  unset := fun _ => hchanged.unset (by decide)

/-- Behind the subscription of the CAPTURE plane its parameters are sent, and it is flagged. -/
theorem Changed.sendSubscribed {list : List U32} :
    Call.Triple (Changed .capture) (fun s => Orderly s ∧ s.propertiesSet .capture) Orderly
      fun s => ((Gen2Command.sendSubscribed env inst s.srcSubcrParams list).thenCall
        fun s => some (0, { s with opscPropertiesSet := true }))
          { s with dstSubcrParams := s.srcSubcrParams } := by
  intro s hchanged hpacket
  obtain ⟨ret, s₁, hdone, hsends⟩ := sendSubscribed_sending env inst s.srcSubcrParams list
    { s with dstSubcrParams := s.srcSubcrParams } hpacket
  have hcopied : Changed .capture { s with dstSubcrParams := s.srcSubcrParams } :=
    ⟨hchanged.starts, hchanged.once, hchanged.set, hchanged.subscribed, hchanged.unset⟩
  have hchanged₁ : Changed .capture s₁ := hcopied.plain hpacket hsends
  by_cases hret : ret = 0
  · subst hret
    exact ⟨0, _, Call.thenCall_of_ok hdone, hsends.packet,
      fun _ => ⟨hchanged₁.flagCapture, rfl⟩, fun h => absurd rfl h⟩
  · exact ⟨ret, s₁, Call.thenCall_of_failed hret hdone, hsends.packet, fun h => absurd h hret,
      fun _ => hchanged₁.orderly⟩

/-- **The change subscription** leaves its plane flagged, and subscribed. -/
theorem subscribeChangeParam_orderly (htables : tables.Fit) (hdomain : inst.domain = .decoder) :
    (irisHfiGen2SubscribeChangeParam env tables inst plane).Triple Orderly
      (fun s => Orderly s ∧ s.propertiesSet plane) Orderly := by
  intro s horderly hpacket
  have hlist := htables.decInput inst.codec
  have hencoder : inst.domain ≠ .encoder := by
    rw [hdomain]
    decide
  unfold irisHfiGen2SubscribeChangeParam
  rw [if_neg hencoder]
  cases hset : s.propertiesSet plane with
  | true => exact ⟨0, s, rfl, hpacket, fun _ => ⟨horderly, hset⟩, fun _ => horderly⟩
  | false =>
      dsimp only
      rw [if_neg Bool.false_ne_true, subscription_eq hlist, Option.bind_eq_bind, Option.bind_some]
      have hmode : (irisHfiGen2SessionSubscribeMode env inst hfiCmdSubscribeMode plane
          (hfiModePortSettingsChange :: tables.decInput inst.codec)).Triple
            (fun s => Orderly s ∧ s.propertiesSet plane = false) (Changed plane) Orderly := by
        refine subscribeMode_triple hdomain hlist ?_ ?_
        · rintro s s' m ⟨horderly, hset⟩ hpacket hnew hflags hopens hstarts hsubscribes
          exact horderly.changed hpacket hset hnew hflags hopens hstarts hsubscribes
        · rintro s s' m ⟨horderly, -⟩ hpacket hnew hflags hquiet
          exact horderly.quiet hpacket hnew (by simpa using hquiet) hflags
      refine (hmode.thenCall ?_) s ⟨horderly, hset⟩ hpacket
      cases plane with
      | output => exact .store _ (fun _ => rfl) fun s h => ⟨h.flagOutput, rfl⟩
      | capture => exact Changed.sendSubscribed

/-- **The property subscription** is the message before the start. -/
theorem subscribeProperty_orderly (htables : tables.Fit) (hdomain : inst.domain = .decoder) :
    (irisHfiGen2SubscribeProperty env tables inst plane).Triple
      (fun s => Orderly s ∧ s.propertiesSet plane)
      (fun s => Orderly s ∧ s.propertiesSet plane ∧ PropertiesSubscribed plane s.written)
      Orderly := by
  intro s hpre hpacket
  have hlist := htables.subscribeProp inst.codec plane
  have hencoder : inst.domain ≠ .encoder := by
    rw [hdomain]
    decide
  unfold irisHfiGen2SubscribeProperty
  rw [if_neg hencoder, subscription_eq hlist, Option.bind_eq_bind, Option.bind_some]
  revert s
  refine subscribeMode_triple hdomain hlist ?_ ?_
  · rintro s s' m ⟨horderly, hset⟩ hpacket hnew hflags hopens hstarts hsubscribes
    have hmode : hfiModePortSettingsChange ≠ hfiModeProperty := by decide
    have hquiet : Quiet m :=
      ⟨hopens, hstarts, fun plane' h => hmode ((hsubscribes _ plane').1 h).1⟩
    refine ⟨horderly.quiet hpacket hnew (by simpa using hquiet) hflags, (hflags plane).trans hset,
      m, ?_, (hsubscribes _ _).2 ⟨rfl, rfl⟩⟩
    rw [hnew, List.getLast?_concat]
    rfl
  · rintro s s' m ⟨horderly, -⟩ hpacket hnew hflags hquiet
    exact horderly.quiet hpacket hnew (by simpa using hquiet) hflags

/-- The message that starts the plane. -/
theorem sendStart_orderly (hdomain : inst.domain = .decoder) :
    (sendCommand env hfiCmdStart (hfiHostFlagsResponseRequired ||| hfiHostFlagsIntrRequired)
      (irisHfiGen2GetPort inst.domain plane) inst.sessionId hfiPayloadNone []).Triple
        (fun s => Orderly s ∧ s.propertiesSet plane ∧ PropertiesSubscribed plane s.written)
        Orderly Orderly := by
  rintro s ⟨horderly, hset, hproperties⟩ hpacket
  obtain ⟨s', m, hdone, hnew, hcarries, hpacket', hipsc, hopsc⟩ :=
    sendCommand_eq env hfiCmdStart (hfiHostFlagsResponseRequired ||| hfiHostFlagsIntrRequired)
      (irisHfiGen2GetPort inst.domain plane) inst.sessionId hfiPayloadNone hpacket
      (by decide : hfiHeaderSize + hfiPacketSize + ([] : List (BitVec 8)).length ≤ packetAlloc)
      (by decide)
  have hopens : ¬Opens m := hcarries.not_opens (show hfiCmdStart ≠ hfiCmdOpen by decide)
  have hsubscribes : ∀ mode plane', ¬Subscribes mode plane' m := fun _ _ =>
    hcarries.not_subscribes (show hfiCmdStart ≠ hfiCmdSubscribeMode by decide)
  have hrule : StartRule s.written m := by
    intro plane' hstarts
    have hport := (hcarries.is_iff.1 hstarts).2
    rw [hdomain] at hport
    obtain rfl := getPort_injective hport
    exact ⟨horderly.set _ hset, hproperties⟩
  have hflags : ∀ plane', s'.propertiesSet plane' = s.propertiesSet plane' := by
    intro plane'
    cases plane' with
    | output => exact hipsc
    | capture => exact hopsc
  have hsince : ∀ plane', ChangeSubscribed plane' s'.written ↔
      ChangeSubscribed plane' s.written := by
    intro plane'
    rw [hnew]
    refine since_append_of_none fun y hy => ?_
    rw [List.mem_singleton.1 hy]
    exact ⟨hopens, hsubscribes _ plane'⟩
  have hafter : Orderly s' := by
    refine ⟨?_, ?_, fun plane' h => ?_, fun _ h => ?_⟩
    · rw [hnew]
      exact eachAfter_snoc.2 ⟨horderly.starts, hrule⟩
    · rw [hnew]
      exact eachAfter_snoc.2 ⟨horderly.once, fun h => absurd h (hsubscribes _ _)⟩
    · rw [hflags] at h
      exact (hsince plane').2 (horderly.set plane' h)
    · rw [hsince]
      exact horderly.unset hpacket ((hflags .output).symm.trans h)
  exact ⟨m.ret, s', hdone, hpacket', fun _ => hafter, fun _ => hafter⟩

theorem sessionStart_orderly (htables : tables.Fit) (hdomain : inst.domain = .decoder) :
    (irisHfiGen2SessionStart env tables inst plane).Triple Orderly Orderly Orderly :=
  (subscribeChangeParam_orderly htables hdomain).thenCall
    ((subscribeProperty_orderly htables hdomain).thenCall (sendStart_orderly hdomain))

end Start

/-! ### Every run of a decoder -/

section Runs

variable {env : QueueEnv} {tables : ParamTables} {inst : CommandInst} {s s' : Session}

/-- The message that opens the session forgets what was subscribed to. -/
theorem openCommands_orderly (hstarts : EachAfter StartRule s.written)
    (honce : EachAfter OnceRule s.written) (hunset : ∀ plane, s.propertiesSet plane = false)
    (hpacket : s.packet.isSome) :
    ∃ ret s', openCommands env inst s = some (ret, s') ∧ Orderly s' := by
  obtain ⟨s₁, m, hdone, hnew, hcarries, hpacket₁, hipsc, hopsc⟩ :=
    sendCommand_eq env hfiCmdOpen (hfiHostFlagsResponseRequired ||| hfiHostFlagsIntrRequired)
      hfiPortNone 0 hfiPayloadU32 hpacket
      (by simp [hfiHeaderSize, hfiPacketSize, packetAlloc] :
        hfiHeaderSize + hfiPacketSize + (wordPayload [inst.sessionId]).length ≤ packetAlloc)
      ⟨_, length_wordPayload _⟩
  have hopens : Opens m := hcarries.is_iff.2 rfl
  have hnotStarts : ∀ plane, ¬Starts plane m := fun _ =>
    hcarries.not_starts (show hfiCmdOpen ≠ hfiCmdStart by decide)
  have hnotSubscribes : ∀ plane, ¬Subscribes hfiModePortSettingsChange plane m := fun _ =>
    hcarries.not_subscribes (show hfiCmdOpen ≠ hfiCmdSubscribeMode by decide)
  have hunset₁ : ∀ plane, s₁.propertiesSet plane = false := by
    intro plane
    cases plane with
    | output => exact hipsc.trans (hunset .output)
    | capture => exact hopsc.trans (hunset .capture)
  have horderly : Orderly s₁ := by
    refine ⟨?_, ?_, fun plane hset => ?_, fun _ _ => ?_⟩
    · rw [hnew]
      exact eachAfter_snoc.2 ⟨hstarts, fun plane h => absurd h (hnotStarts plane)⟩
    · rw [hnew]
      exact eachAfter_snoc.2 ⟨honce, fun h => absurd h (hnotSubscribes _)⟩
    · exact absurd ((hunset₁ plane).symm.trans hset) Bool.false_ne_true
    · rw [hnew]
      exact fun hsince => (since_snoc.1 hsince).elim (hnotSubscribes _) fun h => h.1 hopens
  by_cases hret : m.ret = 0
  · rw [hret] at hdone
    obtain ⟨ret, s₂, hdone₂, hsends⟩ := openTail_sending env inst s₁ hpacket₁
    exact ⟨ret, s₂, (Call.thenCall_of_ok hdone).trans hdone₂, horderly.plain hpacket₁ hsends⟩
  · exact ⟨m.ret, s₁, Call.thenCall_of_failed hret hdone, horderly⟩

/-- Without its buffer a session is in order as long as its log is. -/
theorem Orderly.free (horderly : Orderly s) : Orderly { s with packet := none } where
  starts := horderly.starts
  once := horderly.once
  set := horderly.set
  unset := fun h => absurd h Bool.false_ne_true

theorem sessionOpen_orderly (allocated : Bool) (horderly : Orderly s) :
    ∃ ret s', irisHfiGen2SessionOpen env allocated inst s = some (ret, s') ∧ Orderly s' := by
  let opening : Session :=
    { s with
      ipscPropertiesSet := false
      opscPropertiesSet := false
      packet := some fun _ => 0 }
  have hflags : ∀ plane, opening.propertiesSet plane = false := by
    intro plane
    cases plane <;> rfl
  rw [sessionOpen_eq]
  split_ifs with hstate halloc
  · exact ⟨_, _, rfl, horderly⟩
  · refine ⟨_, _, rfl, horderly.starts, horderly.once, fun plane hset => ?_, fun h => ?_⟩
    · cases plane <;> exact absurd hset Bool.false_ne_true
    · exact absurd h Bool.false_ne_true
  · obtain ⟨ret, s', hdone, horderly'⟩ :=
      openCommands_orderly (s := opening) horderly.starts horderly.once hflags rfl
    rw [hdone, Option.map_some]
    by_cases hret : ret = 0
    · exact ⟨0, s', by simp [hret], horderly'⟩
    · exact ⟨ret, { s' with packet := none }, by simp [hret], horderly'.free⟩

theorem sessionClose_orderly (horderly : Orderly s) :
    ∃ ret s', irisHfiGen2SessionClose env inst s = some (ret, s') ∧ Orderly s' := by
  rw [sessionClose_eq]
  split_ifs with hnone
  · exact ⟨_, _, rfl, horderly⟩
  · have hsome : s.packet.isSome := by
      rwa [← Option.not_isNone, Bool.not_eq_true', ← Bool.not_eq_true]
    obtain ⟨ret, s', hdone, hsends⟩ := closeCommand_sending env inst s hsome
    rw [hdone]
    exact ⟨ret, { s' with packet := none }, rfl, (horderly.plain hsome hsends).free⟩

/-- **One operation** keeps the order. -/
theorem sessionStep_orderly (htables : tables.Fit) (hdomain : inst.domain = .decoder)
    {op : SessionOp} (hop : op.OfDriver) (hpacket : op.needsPacket → s.packet.isSome)
    (horderly : Orderly s) :
    ∃ ret s', sessionStep env tables s (inst, op) = some (ret, s') ∧ Orderly s' := by
  cases hplain : op.plainCall env tables inst with
  | some call =>
      have hsome := hpacket (needsPacket_of_plain hplain)
      obtain ⟨ret, s', hdone, hsends⟩ := SessionOp.plainCall_sending hop hplain s hsome
      exact ⟨ret, s', (sessionStep_of_plain hplain).trans hdone, horderly.plain hsome hsends⟩
  | none =>
      cases op with
      | «open» allocated => exact sessionOpen_orderly allocated horderly
      | start plane =>
          obtain ⟨ret, s', hdone, -, hok, hfailed⟩ :=
            sessionStart_orderly htables hdomain s horderly (hpacket rfl)
          exact ⟨ret, s', hdone, (eq_or_ne ret 0).elim hok hfailed⟩
      | close => exact sessionClose_orderly horderly
      | respond params =>
          refine ⟨0, _, rfl, horderly.starts, horderly.once, fun plane hset => ?_, horderly.unset⟩
          cases plane with
          | output => exact horderly.set .output hset
          | capture => exact horderly.set .capture hset
      | _ => exact absurd hplain (by simp [SessionOp.plainCall])

/-- **Subscribed before started.** Whatever the queue answers, a decoder hands over no message that
starts a plane, taken or not, unless the queue has taken a subscription to the changes of that
plane's parameters since the last message that opened the session, and the message just before is a
subscription to the plane's properties that was taken. The changes of the bitstream port are
subscribed to once. -/
theorem starts_follow_subscriptions (env : QueueEnv) (tables : ParamTables)
    (htables : tables.Fit) (s : Session) (ops : List (CommandInst × SessionOp))
    (hstart : s.written = []) (hunset : ∀ plane, s.propertiesSet plane = false)
    (hdecoder : ∀ op ∈ ops, op.1.domain = .decoder)
    (hops : Admits (sessionStep env tables) Ready s ops) :
    ∃ rets s', exec (sessionStep env tables) s ops = some (rets, s') ∧
      EachAfter StartRule s'.written ∧ EachAfter OnceRule s'.written := by
  have hnone : Orderly s := by
    refine ⟨?_, ?_, fun plane hset => ?_, fun _ _ => ?_⟩
    · rw [hstart]
      exact eachAfter_nil
    · rw [hstart]
      exact eachAfter_nil
    · exact absurd ((hunset plane).symm.trans hset) Bool.false_ne_true
    · rw [hstart]
      exact not_since_nil
  obtain ⟨rets, s', hexec, horderly⟩ :=
    exec_of_admits (fun s op hmem horderly hready =>
      sessionStep_orderly htables (hdecoder op hmem) hready.ofDriver hready.packet horderly)
      hnone hops
  exact ⟨rets, s', hexec, horderly.starts, horderly.once⟩

theorem starts_follow_subscriptions_opened :
    ∃ rets s', exec (sessionStep (fun _ => 0) sm8550Tables) freshSession openAndStart =
        some (rets, s') ∧
      EachAfter StartRule s'.written ∧ EachAfter OnceRule s'.written := by
  refine starts_follow_subscriptions (fun _ => 0) sm8550Tables sm8550Tables_fit freshSession
    openAndStart rfl (fun plane => by cases plane <;> rfl) (by decide)
    ⟨⟨trivial, fun h => absurd h (by decide)⟩, fun ret s hopen =>
      ⟨⟨trivial, fun _ => ?_⟩, fun _ _ _ => trivial⟩⟩
  cases hopen
  rfl

end Runs

end NabuIris.Gen2Command
