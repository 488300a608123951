import NabuIris.Gen2Response
import NabuIris.Lib.Writing
import NabuIris.Proof.MessageBounds

/-!
# Messages as lists of packets

A packet is a block of bytes, as many as its size says. What validation accepts is a header and such
blocks one behind the other, and every list of blocks that fit can be laid out so.
-/

namespace NabuIris.Gen2Message

open Lib Lib.Reading

variable {mem mem' : Memory} {pkt o : Nat} {bs : List (BitVec 8)}
  {bss bss' : List (List (BitVec 8))} {id : U32} {rest : Memory}

/-! ### Packets as blocks of bytes -/

def blockAt (mem : Memory) (pkt n : Nat) : List (BitVec 8) :=
  (List.range n).map fun i => mem (pkt + i)

/-- The packets of a message, each with as many bytes as its size says. -/
def blocks (mem : Memory) : List (List (BitVec 8)) :=
  (packets mem).map fun pkt => blockAt mem pkt (wordAt mem pkt).toNat

/-- A packet by itself, with nothing but zeros behind it. -/
def alone (bs : List (BitVec 8)) : Memory := fun i => bs.getD i 0

def inPass (pass : Gen2Pass) (bs : List (BitVec 8)) : Bool :=
  inRange pass.range (wordAt (alone bs) 4)

/-- The same message with its packets in another order, which is the old one within each range. -/
structure Reorders (mem mem' : Memory) : Prop where
  header : ∀ i < hfiHeaderSize, mem' i = mem i
  perm : (blocks mem').Perm (blocks mem)
  order : ∀ pass, (blocks mem').filter (inPass pass) = (blocks mem).filter (inPass pass)
  behind : ∀ i, hfiHeaderSize + ((blocks mem).map List.length).sum ≤ i → mem' i = mem i

/-! ### Words of a block -/

/-- The block lies at an offset. -/
def LiesAt (mem : Memory) (pkt : Nat) (bs : List (BitVec 8)) : Prop :=
  ∀ i < bs.length, mem (pkt + i) = alone bs i

theorem length_blockAt (mem : Memory) (pkt n : Nat) : (blockAt mem pkt n).length = n := by
  rw [blockAt, List.length_map, List.length_range]

theorem liesAt_blockAt (mem : Memory) (pkt n : Nat) : LiesAt mem pkt (blockAt mem pkt n) := by
  intro i hi
  have hlt : i < n := by rwa [length_blockAt] at hi
  rw [alone, List.getD_eq_getElem _ _ hi]
  simp only [blockAt, List.getElem_map, List.getElem_range]

theorem LiesAt.wordAt_eq (hlies : LiesAt mem pkt bs) (hle : o + 4 ≤ bs.length) :
    wordAt mem (pkt + o) = wordAt (alone bs) o := by
  refine wordAt_congr fun i hi => ?_
  rw [Nat.add_assoc]
  exact hlies (o + i) (by omega)

theorem run_u64 : (u64 o).run mem = wordAt mem (o + 4) ++ wordAt mem o := rfl

theorem LiesAt.run_u64_eq (hlies : LiesAt mem pkt bs) (hle : o + 8 ≤ bs.length) :
    (u64 (pkt + o)).run mem = (u64 o).run (alone bs) := by
  have hlow := hlies.wordAt_eq (o := o) (by omega)
  have hhigh := hlies.wordAt_eq (o := o + 4) (by omega)
  rw [run_u64, run_u64, hlow, Nat.add_assoc, hhigh]

/-- A packet as validation wants it. -/
structure Sized (bs : List (BitVec 8)) : Prop where
  head : hfiPacketSize ≤ bs.length
  size : (wordAt (alone bs) 0).toNat = bs.length

theorem accepted_sized (haccepted : Accepted mem) : ∀ bs ∈ blocks mem, Sized bs := by
  intro bs hbs
  obtain ⟨pkt, hpkt, rfl⟩ := List.mem_map.1 hbs
  have hP : hfiPacketSize = 32 := rfl
  have hlies := liesAt_blockAt mem pkt (wordAt mem pkt).toNat
  have hhead := (validatePackets_iff.1 (accepted_size haccepted).2 pkt hpkt).1
  have hlength := length_blockAt mem pkt (wordAt mem pkt).toNat
  have hword := hlies.wordAt_eq (o := 0) (by omega)
  exact ⟨by rwa [hlength], (congrArg BitVec.toNat hword).symm.trans hlength.symm⟩

/-! ### Laying out packets -/

/-- A response to a session that consists of these packets, and what lies behind it. -/
def layout (id : U32) (bss : List (List (BitVec 8))) (rest : Memory) : Memory :=
  Writing.store (Writing.storeWords [(0, BitVec.ofNat 32 (hfiHeaderSize + bss.flatten.length)),
    (4, id), (28, BitVec.ofNat 32 bss.length)] rest) hfiHeaderSize bss.flatten

def BlocksAt (mem : Memory) : Nat → List (List (BitVec 8)) → Prop
  | _, [] => True
  | pkt, bs :: bss => LiesAt mem pkt bs ∧ BlocksAt mem (pkt + bs.length) bss

theorem LiesAt.blockAt_eq (hlies : LiesAt mem pkt bs) : blockAt mem pkt bs.length = bs := by
  apply List.ext_getElem (length_blockAt mem pkt bs.length)
  intro i hi hi'
  simp only [blockAt, List.getElem_map, List.getElem_range]
  rw [hlies i hi', alone, List.getD_eq_getElem _ _ hi']

theorem LiesAt.size_eq (hlies : LiesAt mem pkt bs) (hsized : Sized bs) :
    (wordAt mem pkt).toNat = bs.length := by
  have hP : hfiPacketSize = 32 := rfl
  have hhead := hsized.head
  have hword := hlies.wordAt_eq (o := 0) (by omega)
  rw [← hsized.size, ← hword]
  rfl

theorem BlocksAt.blocks (hat : BlocksAt mem pkt bss) (hsized : ∀ bs ∈ bss, Sized bs) :
    ((packetOffsets mem bss.length pkt).map fun o => blockAt mem o (wordAt mem o).toNat) = bss := by
  induction bss generalizing pkt with
  | nil => rfl
  | cons bs bss ih =>
      have hsize := hat.1.size_eq (hsized bs List.mem_cons_self)
      have hrest := ih hat.2 fun b hb => hsized b (List.mem_cons_of_mem bs hb)
      rw [List.length_cons, packetOffsets, List.map_cons, hsize, hrest, hat.1.blockAt_eq]

theorem BlocksAt.validate (hat : BlocksAt mem pkt bss) (hsized : ∀ bs ∈ bss, Sized bs)
    (hfits : pkt + bss.flatten.length ≤ ifaceqCorePktSize) :
    (validatePackets bss.length pkt).run mem = 0 := by
  rw [validatePackets_iff]
  induction bss generalizing pkt with
  | nil => exact fun o ho => absurd ho List.not_mem_nil
  | cons bs bss ih =>
      have hbs := hsized bs List.mem_cons_self
      have hsize := hat.1.size_eq hbs
      rw [List.flatten_cons, List.length_append] at hfits
      rw [List.length_cons, packetOffsets, List.forall_mem_cons, hsize]
      exact ⟨⟨hbs.head, by omega⟩,
        ih hat.2 (fun b hb => hsized b (List.mem_cons_of_mem bs hb)) (by omega)⟩

theorem blocksAt_flatten (hbytes : ∀ i < bss.flatten.length, mem (pkt + i) = bss.flatten.getD i 0) :
    BlocksAt mem pkt bss := by
  induction bss generalizing pkt with
  | nil => trivial
  | cons bs bss ih =>
      rw [List.flatten_cons, List.length_append] at hbytes
      refine ⟨fun i hi => ?_, ih fun i hi => ?_⟩
      · rw [hbytes i (by omega), List.getD_append _ _ _ _ hi]
        rfl
      · rw [Nat.add_assoc, hbytes (bs.length + i) (by omega),
          List.getD_append_right _ _ _ _ (Nat.le_add_right _ _), Nat.add_sub_cancel_left]

theorem layout_inside {i : Nat} (hi : i < bss.flatten.length) :
    layout id bss rest (hfiHeaderSize + i) = bss.flatten.getD i 0 := by
  rw [layout, Writing.store_inside hi, List.getD_eq_getElem _ _ hi]

theorem layout_blocksAt (id : U32) (bss : List (List (BitVec 8))) (rest : Memory) :
    BlocksAt (layout id bss rest) hfiHeaderSize bss := blocksAt_flatten fun _ => layout_inside

theorem layout_words :
    wordAt (layout id bss rest) 0 = BitVec.ofNat 32 (hfiHeaderSize + bss.flatten.length) ∧
      wordAt (layout id bss rest) 4 = id ∧
      wordAt (layout id bss rest) 28 = BitVec.ofNat 32 bss.length := by
  have hH : hfiHeaderSize = 32 := rfl
  unfold layout
  simp only [Writing.storeWords, List.foldl_cons, List.foldl_nil]
  refine ⟨?_, ?_, ?_⟩
  · rw [Writing.wordAt_store_outside (by omega), Writing.wordAt_storeWord_outside (by omega),
      Writing.wordAt_storeWord_outside (by omega), Writing.wordAt_storeWord]
  · rw [Writing.wordAt_store_outside (by omega), Writing.wordAt_storeWord_outside (by omega),
      Writing.wordAt_storeWord]
  · rw [Writing.wordAt_store_outside (by omega), Writing.wordAt_storeWord]

theorem layout_behind {i : Nat} (hi : hfiHeaderSize + bss.flatten.length ≤ i) :
    layout id bss rest i = rest i := by
  have hH : hfiHeaderSize = 32 := rfl
  rw [layout, Writing.store_outside (.inr hi)]
  simp only [Writing.storeWords, List.foldl_cons, List.foldl_nil]
  rw [Writing.storeWord_outside (by omega), Writing.storeWord_outside (by omega),
    Writing.storeWord_outside (by omega)]

/-- Packets that fit into the packet buffer. -/
structure Fits (bss : List (List (BitVec 8))) : Prop where
  sized : ∀ bs ∈ bss, Sized bs
  total : hfiHeaderSize + bss.flatten.length ≤ ifaceqCorePktSize

theorem length_le_flatten (hsized : ∀ bs ∈ bss, Sized bs) : bss.length ≤ bss.flatten.length := by
  induction bss with
  | nil => exact Nat.le_refl 0
  | cons bs bss ih =>
      have hP : hfiPacketSize = 32 := rfl
      have hhead := (hsized bs List.mem_cons_self).head
      have hrest := ih fun b hb => hsized b (List.mem_cons_of_mem bs hb)
      rw [List.flatten_cons, List.length_append, List.length_cons]
      omega

theorem Fits.count (hfits : Fits bss) : (wordAt (layout id bss rest) 28).toNat = bss.length := by
  have hmax : ifaceqCorePktSize = 4096 := rfl
  have hlength := length_le_flatten hfits.sized
  have htotal := hfits.total
  rw [layout_words.2.2, BitVec.toNat_ofNat]
  exact Nat.mod_eq_of_lt (by omega)

theorem Fits.blocks_layout (hfits : Fits bss) : blocks (layout id bss rest) = bss := by
  rw [blocks, packets, hfits.count]
  exact (layout_blocksAt id bss rest).blocks hfits.sized

theorem Fits.accepted (hfits : Fits bss) (hne : bss ≠ []) : Accepted (layout id bss rest) := by
  obtain ⟨bs, bss, rfl⟩ := List.exists_cons_of_ne_nil hne
  have hmax : ifaceqCorePktSize = 4096 := rfl
  have hH : hfiHeaderSize = 32 := rfl
  have htotal := hfits.total
  have hhead := (hfits.sized bs List.mem_cons_self).head
  have hsize : (wordAt (layout id (bs :: bss) rest) 0).toNat =
      hfiHeaderSize + (bs :: bss).flatten.length := by
    rw [layout_words.1, BitVec.toNat_ofNat]
    exact Nat.mod_eq_of_lt (by omega)
  have hlong : ¬(wordAt (layout id (bs :: bss) rest) 0).toNat < hfiHeaderSize + hfiPacketSize := by
    rw [hsize, List.flatten_cons, List.length_append]
    omega
  rw [Accepted, irisHfiGen2ValidateHdrPacket, run_bind, hdrSize, run_u32, if_neg hlong, run_bind,
    hdrNumPackets, run_u32, hfits.count]
  exact (layout_blocksAt id _ rest).validate hfits.sized htotal

/-- Laying out the same packets in another order. -/
theorem Fits.reorders (hfits : Fits bss) (hperm : bss'.Perm bss)
    (horder : ∀ pass, bss'.filter (inPass pass) = bss.filter (inPass pass)) :
    Reorders (layout id bss rest) (layout id bss' rest) := by
  have hlength : bss'.flatten.length = bss.flatten.length := hperm.flatten.length_eq
  have hfits' : Fits bss' :=
    ⟨fun bs hbs => hfits.sized bs (hperm.mem_iff.1 hbs), hlength ▸ hfits.total⟩
  refine ⟨fun i hi => ?_, ?_, ?_, fun i hi => ?_⟩
  · rw [layout, layout, Writing.store_outside (.inl hi), Writing.store_outside (.inl hi), hlength,
      hperm.length_eq]
  · rwa [hfits.blocks_layout, hfits'.blocks_layout]
  · intro pass
    rw [hfits.blocks_layout, hfits'.blocks_layout, horder pass]
  · rw [hfits.blocks_layout, ← List.length_flatten] at hi
    rw [layout_behind hi, layout_behind (hlength.symm ▸ hi)]

def wordBytes (words : List U32) : List (BitVec 8) :=
  words.flatMap fun w => [byteOf w 0, byteOf w 1, byteOf w 2, byteOf w 3]

end NabuIris.Gen2Message
