import NabuIris.Proof.ResponseOrder

/-!
# Properties without their value

What makes a response depend on the order of its packets. A property that is too short for its value
takes it from the packet behind it, and whichever packet of another range comes there may as well
come before.
-/

namespace NabuIris.Gen2Message

open Lib Lib.Reading

variable {mem : Memory} {pkt o : Nat} {bs : List (BitVec 8)} {rules : OutputRules}
  {items : List ReceivedPacket} {u v w : ReceivedPacket}

/-- The instance when a response comes to its properties, if its informations say nothing. -/
def beforeProperties (rules : OutputRules) (items : List ReceivedPacket) (s : Gen2Instance) :
    Int × Gen2Instance :=
  if (Gen2Instance.sessionPasses rules).marksIn .errors items then
    (Gen2Instance.sessionPasses rules).mark (0, s.prepare items)
  else (0, s.prepare items)

theorem pass_single {pass : Gen2Pass} {s t : Gen2Instance}
    (hsettled : (Gen2Instance.sessionPasses rules).Settled items (0, s))
    (hclass : items.filter ((Gen2Instance.sessionPasses rules).within pass) = [v])
    (hhandler : pass.handler rules v s = some (0, t)) :
    (Gen2Instance.sessionPasses rules).pass pass items (0, s) = some (0, t) := by
  have hhandle : (Gen2Instance.sessionPasses rules).handle pass v (0, s) = some (0, t) := by
    simp only [Gen2Instance.sessionPasses, hhandler]
    rfl
  rw [(sessionPasses_final rules).pass_filter hsettled, hclass, List.foldlM_cons, hhandle]
  rfl

theorem handlePackets_property
    (hinfos : items.filter ((Gen2Instance.sessionPasses rules).within .infos) = [u])
    (hproperties : items.filter ((Gen2Instance.sessionPasses rules).within .properties) = [v])
    (hcommands : items.filter ((Gen2Instance.sessionPasses rules).within .commands) = [])
    (hunsupported : u.type = 0x06000001) (s : Gen2Instance) :
    s.handlePackets rules items =
      some (0, ((beforeProperties rules items s).2.irisHfiGen2HandleSessionProperty v).2.dequeue
        items) := by
  have hfinal := sessionPasses_final rules
  have hfirst : (Gen2Instance.sessionPasses rules).pass .errors items (0, s.prepare items) =
      some (beforeProperties rules items s) := hfinal.pass_first rfl
  have hsettled : (Gen2Instance.sessionPasses rules).Settled items
      (beforeProperties rules items s) := hfinal.settled_first
  have hstart : (beforeProperties rules items s).1 = 0 := by
    unfold beforeProperties
    split_ifs <;> rfl
  generalize beforeProperties rules items s = r at *
  obtain ⟨ret, t⟩ := r
  obtain rfl : ret = 0 := hstart
  have hret : (t.irisHfiGen2HandleSessionProperty v).1 = 0 := by
    unfold Gen2Instance.irisHfiGen2HandleSessionProperty
    split_ifs
    · rfl
    · rfl
    · rfl
    · split <;> rfl
  have hinfo : t.irisHfiGen2HandleSessionInfo u = (0, t) := by
    simp only [Gen2Instance.irisHfiGen2HandleSessionInfo, hunsupported]
    rfl
  have hinfoPass := pass_single hsettled hinfos (congrArg some hinfo)
  have hpropertyPass := pass_single hsettled hproperties
    (congrArg some (Prod.ext hret rfl : t.irisHfiGen2HandleSessionProperty v = (0, _)))
  have hcommandPass := hfinal.pass_filter (hfinal.settled_pass hsettled hpropertyPass)
    (k := .commands)
  rw [hcommands, List.foldlM_nil] at hcommandPass
  rw [Gen2Instance.handlePackets, Passes.run_cons, hfirst, Option.bind_some, Passes.run_cons,
    hinfoPass, Option.bind_some, Passes.run_cons, hpropertyPass, Option.bind_some,
    Passes.run_cons, hcommandPass]
  rfl

/-- Where the value of a property goes. -/
def stored (s : Gen2Instance) : SubscriptionParams × PictureBits :=
  (s.params, s.info.pictureType)

theorem set_injective {property : SubscribedProperty} {params : SubscriptionParams}
    {a b c d : U32} (hset : params.set property a b = params.set property c d) :
    a = c ∧ (property = .cropOffsets → b = d) := by
  cases property <;> simp_all [SubscriptionParams.set]

theorem stored_subscribed {property : SubscribedProperty} (htype : v.type = w.type)
    (hflags : v.flags = w.flags) (hinfo : hasFlag w.flags hfiFwFlagsInformation = false)
    (hpicture : w.type ≠ hfiPropPictureType) (hnone : w.type ≠ hfiPropNoOutput)
    (hlookup : Gen2Instance.subscribedProperties.lookup w.type = some property)
    {s : Gen2Instance} (hstored : stored (s.irisHfiGen2HandleSessionProperty v).2 =
      stored (s.irisHfiGen2HandleSessionProperty w).2) :
    v.payload0 = w.payload0 ∧ (property = .cropOffsets → v.payload1 = w.payload1) := by
  refine @set_injective property s.params _ _ _ _ ?_
  simp only [Gen2Instance.irisHfiGen2HandleSessionProperty, htype, hflags, hinfo,
    Bool.false_eq_true, if_false, if_neg hpicture, if_neg hnone, hlookup, stored] at hstored
  exact congrArg Prod.fst hstored

theorem stored_word (htype : v.type = w.type) (hflags : v.flags = w.flags)
    (hinfo : hasFlag w.flags hfiFwFlagsInformation = false) (hword : w.type ∈ wordProperties)
    {s : Gen2Instance} (hstored : stored (s.irisHfiGen2HandleSessionProperty v).2 =
      stored (s.irisHfiGen2HandleSessionProperty w).2) : v.payload0 = w.payload0 := by
  have htable : wordProperties.all (fun type => type != hfiPropNoOutput &&
      (type == hfiPropPictureType ||
        (Gen2Instance.subscribedProperties.lookup type).isSome)) = true := by
    decide
  have hentry := List.all_eq_true.1 htable w.type hword
  simp only [Bool.and_eq_true, bne_iff_ne, Bool.or_eq_true, beq_iff_eq] at hentry
  obtain ⟨hnone, hknown⟩ := hentry
  by_cases hpicture : w.type = hfiPropPictureType
  · simp only [Gen2Instance.irisHfiGen2HandleSessionProperty, htype, hflags, hinfo,
      Bool.false_eq_true, if_false, if_pos hpicture, stored] at hstored
    exact congrArg Prod.snd hstored
  · obtain ⟨property, hlookup⟩ := Option.isSome_iff_exists.1 (hknown.resolve_left hpicture)
    exact (stored_subscribed htype hflags hinfo hpicture hnone hlookup hstored).1

theorem stored_crop (htype : v.type = w.type) (hflags : v.flags = w.flags)
    (hinfo : hasFlag w.flags hfiFwFlagsInformation = false) (hcrop : w.type = hfiPropCropOffsets)
    {s : Gen2Instance} (hstored : stored (s.irisHfiGen2HandleSessionProperty v).2 =
      stored (s.irisHfiGen2HandleSessionProperty w).2) :
    v.payload0 = w.payload0 ∧ v.payload1 = w.payload1 := by
  have hlookup : Gen2Instance.subscribedProperties.lookup w.type = some .cropOffsets := by
    rw [hcrop]
    rfl
  have hsame := stored_subscribed htype hflags hinfo (by rw [hcrop]; decide)
    (by rw [hcrop]; decide) hlookup hstored
  exact ⟨hsame.1, hsame.2 rfl⟩

theorem stored_dequeue (s : Gen2Instance) : stored (s.dequeue items) = stored s := by
  unfold Gen2Instance.dequeue
  split_ifs <;> rfl

/-- In the one order the word runs into the packet behind it, in the other it runs past the end of
the message. -/
theorem cut_word_ne (ho : o ≤ bs.length) (hcut : bs.length < o + 4) :
    wordAt (layout 1 [bs, unsupportedInfo] fun _ => 0) (hfiHeaderSize + o) ≠
      wordAt (layout 1 [unsupportedInfo, bs] fun _ => 0)
        (hfiHeaderSize + unsupportedInfo.length + o) := by
  intro heq
  have hbyte := congrArg (byteOf · (bs.length - o)) heq
  simp only at hbyte
  rw [byteOf_wordAt _ _ (by omega), byteOf_wordAt _ _ (by omega)] at hbyte
  have hnext : layout 1 [bs, unsupportedInfo] (fun _ => 0)
      (hfiHeaderSize + o + (bs.length - o)) = 32 := by
    have hlies := (layout_blocksAt 1 [bs, unsupportedInfo] fun _ => 0).2.1 0 (by decide)
    have hoffset : hfiHeaderSize + o + (bs.length - o) = hfiHeaderSize + bs.length + 0 := by omega
    rw [hoffset, hlies]
    rfl
  have hbehind : layout 1 [unsupportedInfo, bs] (fun _ => 0)
      (hfiHeaderSize + unsupportedInfo.length + o + (bs.length - o)) = 0 := by
    refine layout_behind ?_
    simp only [List.flatten_cons, List.flatten_nil, List.append_nil, List.length_append]
    omega
  rw [hnext, hbehind] at hbyte
  exact absurd hbyte (by decide)

theorem sessionExtent_property (hinfo : hasFlag (wordAt mem 8) hfiFwFlagsInformation = false) :
    (wordAt mem 4 ∈ wordProperties → sessionExtent mem 0 = 36) ∧
      (wordAt mem 4 = hfiPropCropOffsets → sessionExtent mem 0 = 40) := by
  unfold sessionExtent
  simp only [Nat.zero_add, hinfo]
  generalize wordAt mem 4 = type
  refine ⟨fun hword => ?_, fun hcrop => ?_⟩
  · simp only [wordProperties, List.mem_cons, List.not_mem_nil, or_false] at hword
    rcases hword with rfl | rfl | rfl | rfl | rfl | rfl | rfl | rfl | rfl | rfl <;> rfl
  · subst hcrop
    rfl

theorem receivedAt_head (hlies : LiesAt mem pkt bs) (hhead : hfiPacketSize ≤ bs.length) :
    (receivedAt mem pkt).type = wordAt (alone bs) 4 ∧
      (receivedAt mem pkt).flags = wordAt (alone bs) 8 ∧
      (receivedAt mem pkt).port = wordAt (alone bs) 16 := by
  have hP : hfiPacketSize = 32 := rfl
  exact ⟨hlies.wordAt_eq (by omega), hlies.wordAt_eq (by omega), hlies.wordAt_eq (by omega)⟩

theorem receivedPackets_pair {a b : List (BitVec 8)} {rest : Memory} (hfits : Fits [a, b]) :
    receivedPackets (layout 1 [a, b] rest) (wordAt (layout 1 [a, b] rest) 28).toNat hfiHeaderSize =
      [receivedAt (layout 1 [a, b] rest) hfiHeaderSize,
        receivedAt (layout 1 [a, b] rest) (hfiHeaderSize + a.length)] := by
  have hsize := (layout_blocksAt 1 [a, b] rest).1.size_eq (hfits.sized a List.mem_cons_self)
  rw [hfits.count]
  simp only [List.length_cons, List.length_nil, receivedPackets, run_pktSize, hsize]

theorem inRange_property {type : U32} (htype : type ∈ hfiPropCropOffsets :: wordProperties)
    (pass : Gen2Pass) : inRange pass.range type = (pass == .properties) := by
  have htable : (hfiPropCropOffsets :: wordProperties).all (fun type =>
      [Gen2Pass.errors, .infos, .properties, .commands].all fun pass =>
        inRange pass.range type == (pass == .properties)) = true := by
    decide
  have hpass : pass ∈ [Gen2Pass.errors, .infos, .properties, .commands] := by
    cases pass <;> decide
  exact beq_iff_eq.1 (List.all_eq_true.1 (List.all_eq_true.1 htable type htype) pass hpass)

theorem inRange_unsupported (pass : Gen2Pass) :
    inRange pass.range 0x06000001 = (pass == .infos) := by
  cases pass <;> decide

theorem beforeProperties_swap {u' : ReceivedPacket} (hv : v.type = w.type ∧ v.flags = w.flags ∧
    v.port = w.port) (hu : u.type = u'.type ∧ u.flags = u'.flags ∧ u.port = u'.port)
    (s : Gen2Instance) : beforeProperties rules [v, u] s = beforeProperties rules [u', w] s := by
  obtain ⟨hvtype, hvflags, hvport⟩ := hv
  obtain ⟨hutype, huflags, huport⟩ := hu
  have hpair : ∀ test : ReceivedPacket → Bool, test v = test w → test u = test u' →
      [v, u].any test = [u', w].any test := by
    intro test hvw huu
    simp only [List.any_cons, List.any_nil, Bool.or_false, hvw, huu]
    exact Bool.or_comm _ _
  have hmarks : (Gen2Instance.sessionPasses rules).marksIn .errors [v, u] =
      (Gen2Instance.sessionPasses rules).marksIn .errors [u', w] := by
    refine hpair _ ?_ ?_ <;>
      simp only [Gen2Instance.sessionPasses, hvtype, hvflags, hutype, huflags]
  have hchange : [v, u].any ReceivedPacket.changesSource =
      [u', w].any ReceivedPacket.changesSource := by
    refine hpair _ ?_ ?_ <;>
      simp only [ReceivedPacket.changesSource, hvtype, hvport, hutype, huport]
  simp only [beforeProperties, hmarks, Gen2Instance.prepare, hchange]

/-- The response of a property and an information, the one before the other. -/
theorem handlePackets_pair (hv : v.type ∈ hfiPropCropOffsets :: wordProperties)
    (hu : u.type = 0x06000001) (hitems : items = [v, u] ∨ items = [u, v]) (s : Gen2Instance) :
    s.handlePackets rules items =
      some (0, ((beforeProperties rules items s).2.irisHfiGen2HandleSessionProperty v).2.dequeue
        items) := by
  have hfilter : ∀ pass, items.filter ((Gen2Instance.sessionPasses rules).within pass) =
      if pass = .properties then [v] else if pass = .infos then [u] else [] := by
    intro pass
    have hwithin : (Gen2Instance.sessionPasses rules).within pass v = (pass == .properties) :=
      inRange_property hv pass
    have hwithin' : (Gen2Instance.sessionPasses rules).within pass u = (pass == .infos) := by
      simp only [Gen2Instance.sessionPasses, hu, inRange_unsupported]
    rcases hitems with rfl | rfl <;>
      simp only [List.filter_cons, List.filter_nil, hwithin, hwithin'] <;> cases pass <;> rfl
  exact handlePackets_property (hfilter .infos) (hfilter .properties) (hfilter .commands) hu s

theorem layout_response {a b : List (BitVec 8)} {rest : Memory} (hfits : Fits [a, b]) :
    openedInstance.irisHfiGen2HandleSessionResponse rules (layout 1 [a, b] rest) =
      openedInstance.handlePackets rules
        [receivedAt (layout 1 [a, b] rest) hfiHeaderSize,
          receivedAt (layout 1 [a, b] rest) (hfiHeaderSize + a.length)] := by
  have hid : hdrSessionId.run (layout 1 [a, b] rest) = 1 := layout_words.2.1
  have hsession : ¬openedInstance.inst.sessionId ≠ 1 := not_not.2 rfl
  rw [Gen2Instance.irisHfiGen2HandleSessionResponse, hid, if_neg hsession, hdrNumPackets, run_u32,
    receivedPackets_pair hfits]

/-- **Short properties.** A stored property that does not bring its value means something else when
the packet behind it comes first. -/
theorem short_property_order_dependent (hsized : Sized bs)
    (htype : wordAt (alone bs) 4 ∈ hfiPropCropOffsets :: wordProperties)
    (hinfo : hasFlag (wordAt (alone bs) 8) hfiFwFlagsInformation = false)
    (hshort : ¬SelfContained bs) :
    ¬OrderIndependent (layout 1 [bs, unsupportedInfo] fun _ => 0) := by
  obtain ⟨hword, hcrop⟩ := sessionExtent_property hinfo
  have hlength : bs.length < 40 := by
    rcases List.mem_cons.1 htype with hc | hw
    · rw [SelfContained, hcrop hc] at hshort
      omega
    · rw [SelfContained, hword hw] at hshort
      omega
  have hfits : Fits [bs, unsupportedInfo] := fits_unsupported hsized (by omega)
  have hfits' : Fits [unsupportedInfo, bs] :=
    ⟨fun b hb => hfits.sized b ((List.Perm.swap _ _ _).mem_iff.1 hb), by
      have := hfits.total
      simp only [List.flatten_cons, List.flatten_nil, List.length_append] at this ⊢
      omega⟩
  have horder : ∀ pass, [unsupportedInfo, bs].filter (inPass pass) =
      [bs, unsupportedInfo].filter (inPass pass) := by
    intro pass
    have hbs : inPass pass bs = (pass == .properties) := inRange_property htype pass
    have hother : inPass pass unsupportedInfo = (pass == .infos) := inRange_unsupported pass
    simp only [List.filter_cons, hbs, hother, List.filter_nil]
    cases pass <;> rfl
  have hat := layout_blocksAt 1 [bs, unsupportedInfo] fun _ => 0
  have hat' := layout_blocksAt 1 [unsupportedInfo, bs] fun _ => 0
  have hv := receivedAt_head hat.1 hsized.head
  have hw := receivedAt_head hat'.2.1 hsized.head
  have hu := receivedAt_head hat.2.1 (by decide)
  have hu' := receivedAt_head hat'.1 (by decide)
  intro hindependent
  have hsame := hindependent (hfits.accepted (List.cons_ne_nil _ _)) _
    (hfits.reorders (List.Perm.swap _ _ _) horder) fixedRules openedInstance
  rw [layout_response hfits', layout_response hfits,
    handlePackets_pair (by rwa [hw.1]) hu'.1 (.inr rfl),
    handlePackets_pair (by rwa [hv.1]) hu.1 (.inl rfl),
    beforeProperties_swap ⟨hv.1.trans hw.1.symm, hv.2.1.trans hw.2.1.symm, hv.2.2.trans hw.2.2.symm⟩
      ⟨hu.1.trans hu'.1.symm, hu.2.1.trans hu'.2.1.symm, hu.2.2.trans hu'.2.2.symm⟩] at hsame
  have hstored := congrArg (Option.map fun r => stored r.2) hsame
  simp only [Option.map_some, stored_dequeue, Option.some.injEq] at hstored
  have hkind := hw.1.trans hv.1.symm
  have hflags := hw.2.1.trans hv.2.1.symm
  have hplain : hasFlag (receivedAt (layout 1 [bs, unsupportedInfo] fun _ => 0)
      hfiHeaderSize).flags hfiFwFlagsInformation = false := by rwa [hv.2.1]
  have hhead : 32 ≤ bs.length := hsized.head
  rcases List.mem_cons.1 htype with hc | hw'
  · have hvalues := stored_crop hkind hflags hplain (hv.1.trans hc) hstored
    by_cases hfirst : bs.length < 36
    · exact cut_word_ne hhead hfirst hvalues.1.symm
    · exact cut_word_ne (o := 36) (by omega) (by omega) hvalues.2.symm
  · have hvalue := stored_word hkind hflags hplain (by rwa [hv.1]) hstored
    have hcut : bs.length < 36 := by
      rw [SelfContained, hword hw'] at hshort
      omega
    exact cut_word_ne hhead hcut hvalue.symm

end NabuIris.Gen2Message
