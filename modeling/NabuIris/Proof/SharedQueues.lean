import NabuIris.QueueTable

/-!
# Three queues in one allocation

The calls that go through offsets of the shared table act like the calls on queues of their own, as
long as header and ring lie inside the allocation and apart. The offsets that the table publishes
lead both sides to the same places, and no two of those overlap, so that three interleaved
conversations are three separate lists.
-/

namespace NabuIris.Queue

open Lib Region

/-! ### A queue in the table -/

def headerAt (cells : Nat → UInt8) (off : Nat) : QueueHeader where
  status := wordAt cells (off + Header.status)
  startAddr := wordAt cells (off + Header.startAddr)
  queueType := halfAt cells (off + Header.queueType)
  headerType := halfAt cells (off + Header.headerType)
  qSize := wordAt cells (off + Header.qSize)
  pktSize := wordAt cells (off + Header.pktSize)
  pktDropCnt := wordAt cells (off + Header.pktDropCnt)
  rxWm := wordAt cells (off + Header.rxWm)
  txWm := wordAt cells (off + Header.txWm)
  rxReq := wordAt cells (off + Header.rxReq)
  txReq := wordAt cells (off + Header.txReq)
  rxIrqStatus := wordAt cells (off + Header.rxIrqStatus)
  txIrqStatus := wordAt cells (off + Header.txIrqStatus)
  readIdx := wordAt cells (off + Header.readIdx)
  writeIdx := wordAt cells (off + Header.writeIdx)

namespace IfaceQPtr

/-- The queue as a value; cells past the ring are none of its own. -/
def view (p : IfaceQPtr) (cells : Nat → UInt8) : IfaceQInfo where
  qhdr := headerAt cells p.qhdr
  deviceAddr := p.deviceAddr
  ring := ⟨fun i => if i < ifaceqQueueSize then cells (p.kernelVaddr + i) else 0⟩

def covers (p : IfaceQPtr) (i : Nat) : Prop :=
  (p.qhdr ≤ i ∧ i < p.qhdr + Header.size) ∨
    (p.kernelVaddr ≤ i ∧ i < p.kernelVaddr + ifaceqQueueSize)

structure Fits (p : IfaceQPtr) (size : Nat) : Prop where
  apart : p.qhdr + Header.size ≤ p.kernelVaddr
  inside : p.kernelVaddr + ifaceqQueueSize ≤ size

/-- `table` holds the queue `q` at `p`, and away from it what `cells` holds. -/
structure Tracks {size : Nat} (p : IfaceQPtr) (cells : Nat → UInt8) (table : Region size)
    (q : IfaceQInfo) : Prop where
  fits : p.Fits size
  view : p.view table.byte = q
  frame : ∀ i, ¬p.covers i → table.byte i = cells i

end IfaceQPtr

theorem headerAt_congr {cells cells' : Nat → UInt8} {off : Nat}
    (hcells : ∀ i, off ≤ i → i < off + Header.size → cells i = cells' i) :
    headerAt cells off = headerAt cells' off := by
  simp only [Header.size] at hcells
  have hword : ∀ k, k + 4 ≤ 56 → wordAt cells (off + k) = wordAt cells' (off + k) :=
    fun k hk => wordAt_congr_cells fun i _ _ => hcells i (by omega) (by omega)
  have hhalf : ∀ k, k + 2 ≤ 56 → halfAt cells (off + k) = halfAt cells' (off + k) :=
    fun k hk => halfAt_congr_cells fun i _ _ => hcells i (by omega) (by omega)
  unfold headerAt
  congr 1 <;> first | exact hword _ (by decide) | exact hhalf _ (by decide)

theorem IfaceQPtr.view_congr {p : IfaceQPtr} {cells cells' : Nat → UInt8}
    (hcells : ∀ i, p.covers i → cells i = cells' i) : p.view cells = p.view cells' := by
  have hheader : headerAt cells p.qhdr = headerAt cells' p.qhdr :=
    headerAt_congr fun i hlow hhigh => hcells i (.inl ⟨hlow, hhigh⟩)
  have hring : (fun i => if i < ifaceqQueueSize then cells (p.kernelVaddr + i) else 0) =
      fun i => if i < ifaceqQueueSize then cells' (p.kernelVaddr + i) else 0 := by
    funext i
    split_ifs with hi
    · exact hcells _ (.inr ⟨Nat.le_add_right _ _, Nat.add_lt_add_left hi _⟩)
    · rfl
  rw [view, view, hheader, hring]

theorem IfaceQPtr.view_ring {p : IfaceQPtr} {cells : Nat → UInt8} {i : Nat}
    (hi : i < ifaceqQueueSize) : (p.view cells).ring.byte i = cells (p.kernelVaddr + i) :=
  if_pos hi

section HeaderStores

variable (cells : Nat → UInt8) (off : Nat) {j k : Nat} (w : UInt32) (h : UInt16)

theorem word_store_word (hjk : k + 4 ≤ j ∨ j + 4 ≤ k) :
    wordAt (store cells (off + j) (wordBytes w)) (off + k) = wordAt cells (off + k) :=
  wordAt_store_outside (by rw [length_wordBytes]; omega)

theorem half_store_word (hjk : k + 2 ≤ j ∨ j + 4 ≤ k) :
    halfAt (store cells (off + j) (wordBytes w)) (off + k) = halfAt cells (off + k) :=
  halfAt_store_outside (by rw [length_wordBytes]; omega)

theorem word_store_half (hjk : k + 4 ≤ j ∨ j + 2 ≤ k) :
    wordAt (store cells (off + j) (halfBytes h)) (off + k) = wordAt cells (off + k) :=
  wordAt_store_outside (by rw [length_halfBytes]; omega)

theorem half_store_half (hjk : k + 2 ≤ j ∨ j + 2 ≤ k) :
    halfAt (store cells (off + j) (halfBytes h)) (off + k) = halfAt cells (off + k) :=
  halfAt_store_outside (by rw [length_halfBytes]; omega)

theorem headerAt_store_txReq :
    headerAt (store cells (off + Header.txReq) (wordBytes w)) off =
      { headerAt cells off with txReq := w } := by
  simp (disch := decide) only [headerAt, word_store_word, half_store_word, wordAt_store_wordBytes]

theorem headerAt_store_rxReq :
    headerAt (store cells (off + Header.rxReq) (wordBytes w)) off =
      { headerAt cells off with rxReq := w } := by
  simp (disch := decide) only [headerAt, word_store_word, half_store_word, wordAt_store_wordBytes]

theorem headerAt_store_readIdx :
    headerAt (store cells (off + Header.readIdx) (wordBytes w)) off =
      { headerAt cells off with readIdx := w } := by
  simp (disch := decide) only [headerAt, word_store_word, half_store_word, wordAt_store_wordBytes]

theorem headerAt_store_writeIdx :
    headerAt (store cells (off + Header.writeIdx) (wordBytes w)) off =
      { headerAt cells off with writeIdx := w } := by
  simp (disch := decide) only [headerAt, word_store_word, half_store_word, wordAt_store_wordBytes]

/-- What `iris_hfi_queue_set_header` leaves: every field but `pkt_drop_cnt`. -/
theorem headerAt_setHeader (queueId : IfaceQueue) (deviceAddr : UInt64) :
    headerAt (storeAll off (setHeaderStores queueId deviceAddr) cells) off =
      { status := 0x1
        startAddr := deviceAddr.toUInt32
        queueType := queueId.id
        headerType := ifaceqDfltQhdr
        qSize := .ofNat (ifaceqQueueSize / 4)
        pktSize := 0
        pktDropCnt := wordAt cells (off + Header.pktDropCnt)
        rxWm := 0x1
        txWm := 0x1
        rxReq := if queueId = .dbgq then 0 else 0x1
        txReq := 0x0
        rxIrqStatus := 0x0
        txIrqStatus := 0x0
        readIdx := 0x0
        writeIdx := 0x0 } := by
  cases queueId <;>
  simp (disch := decide) only [headerAt, setHeaderStores, storeAll, List.foldl_cons, List.foldl_nil,
    List.cons_append, List.nil_append, reduceCtorEq, if_true, if_false, word_store_word,
    half_store_word, word_store_half, half_store_half, wordAt_store_wordBytes,
    halfAt_store_halfBytes]

end HeaderStores

/-! ### One access -/

section Access

variable {size n : Nat} {p : IfaceQPtr} {cells : Nat → UInt8} {table : Region size}
  {q : IfaceQInfo} {packet : Region n} {off len packetOff : Nat}

theorem eq_of_memcpy {m : Nat} {dst dst' : Region m} {dstOff srcOff : Nat} {src : Region n}
    (hcopy : dst.memcpy dstOff src srcOff len = some dst') :
    dstOff + len ≤ m ∧ srcOff + len ≤ n ∧
      dst' = ⟨store dst.byte dstOff (load src.byte srcOff len)⟩ := by
  unfold memcpy at hcopy
  split_ifs at hcopy with hbounds
  exact ⟨hbounds.1, hbounds.2, (Option.some.inj hcopy).symm⟩

theorem eq_of_word {off : Nat} {region : Region n} {w : UInt32}
    (hword : region.word off = some w) : off + 4 ≤ n ∧ w = wordAt region.byte off := by
  unfold word at hword
  split_ifs at hword with hbound
  exact ⟨hbound, (Option.some.inj hword).symm⟩

namespace IfaceQPtr.Tracks

theorem start (hfits : p.Fits size) : p.Tracks table.byte table (p.view table.byte) :=
  ⟨hfits, rfl, fun _ _ => rfl⟩

theorem word (htracks : p.Tracks cells table q) {k : Nat} (hk : k + 4 ≤ Header.size) :
    table.word (p.qhdr + k) = some (wordAt table.byte (p.qhdr + k)) := by
  have hapart := htracks.fits.apart
  have hinside := htracks.fits.inside
  exact word_eq (by omega)

/-- A store to a word of the header. -/
theorem setWord (htracks : p.Tracks cells table q) {k : Nat} {w : UInt32}
    (hk : k + 4 ≤ Header.size) {qhdr : QueueHeader}
    (hqhdr : headerAt (store table.byte (p.qhdr + k) (wordBytes w)) p.qhdr = qhdr) :
    ∃ table', table.setWord (p.qhdr + k) w = some table' ∧
      p.Tracks cells table' { q with qhdr } := by
  have hapart := htracks.fits.apart
  have hinside := htracks.fits.inside
  refine ⟨_, setWord_eq (by omega), htracks.fits, ?_, ?_⟩
  · have hring : (fun i => if i < ifaceqQueueSize then
        store table.byte (p.qhdr + k) (wordBytes w) (p.kernelVaddr + i) else 0) =
        fun i => if i < ifaceqQueueSize then table.byte (p.kernelVaddr + i) else 0 := by
      funext i
      rw [store_outside (by rw [length_wordBytes]; omega)]
    rw [← htracks.view, IfaceQPtr.view, IfaceQPtr.view, hqhdr, hring]
  · intro i hi
    have houtside : ¬(p.qhdr ≤ i ∧ i < p.qhdr + Header.size) := fun hheader => hi (.inl hheader)
    change store _ _ _ i = _
    rw [store_outside (by rw [length_wordBytes]; omega)]
    exact htracks.frame i hi

/-- A copy into the ring. -/
theorem memcpy (htracks : p.Tracks cells table q) {ring : Region ifaceqQueueSize}
    (hcopy : q.ring.memcpy off packet packetOff len = some ring) :
    ∃ table', table.memcpy (p.kernelVaddr + off) packet packetOff len = some table' ∧
      p.Tracks cells table' { q with ring } := by
  have hapart := htracks.fits.apart
  have hinside := htracks.fits.inside
  obtain ⟨hdst, hsrc, rfl⟩ := eq_of_memcpy hcopy
  refine ⟨_, memcpy_eq (by omega) hsrc, htracks.fits, ?_, ?_⟩
  · have hheader : headerAt
        (store table.byte (p.kernelVaddr + off) (load packet.byte packetOff len)) p.qhdr =
          headerAt table.byte p.qhdr :=
      headerAt_congr fun i _ _ => store_outside (by omega)
    have hring : (fun i => if i < ifaceqQueueSize then
        store table.byte (p.kernelVaddr + off) (load packet.byte packetOff len)
          (p.kernelVaddr + i) else 0) =
        store (p.view table.byte).ring.byte off (load packet.byte packetOff len) := by
      funext i
      by_cases hi : off ≤ i ∧ i < off + len
      · have hcell : i < ifaceqQueueSize := by omega
        simp [store, hi, hcell, Nat.add_assoc, Nat.add_sub_add_left]
      · have hother : ¬(p.kernelVaddr + off ≤ p.kernelVaddr + i ∧
            p.kernelVaddr + i < p.kernelVaddr + off + len) := by omega
        simp only [store, IfaceQPtr.view, length_load, if_neg hi, if_neg hother]
    rw [← htracks.view, IfaceQPtr.view, hheader, hring]
    rfl
  · intro i hi
    have houtside : ¬(p.kernelVaddr ≤ i ∧ i < p.kernelVaddr + ifaceqQueueSize) :=
      fun hring => hi (.inr hring)
    change store _ _ _ i = _
    rw [store_outside (by rw [length_load]; omega)]
    exact htracks.frame i hi

/-- A copy out of the ring. -/
theorem memcpy_from (htracks : p.Tracks cells table q) {dst dst' : Region n} {dstOff : Nat}
    (hcopy : dst.memcpy dstOff q.ring off len = some dst') :
    dst.memcpy dstOff table (p.kernelVaddr + off) len = some dst' := by
  have hinside := htracks.fits.inside
  obtain ⟨hdst, hsrc, rfl⟩ := eq_of_memcpy hcopy
  have hload : load table.byte (p.kernelVaddr + off) len = load q.ring.byte off len := by
    rw [← htracks.view]
    refine List.map_congr_left fun i hi => ?_
    rw [List.mem_range] at hi
    have hcell : off + i < ifaceqQueueSize := by omega
    rw [IfaceQPtr.view_ring hcell, Nat.add_assoc]
  rw [memcpy_eq hdst (by omega), hload]

theorem ringWord (htracks : p.Tracks cells table q) {w : UInt32}
    (hword : q.ring.word off = some w) : table.word (p.kernelVaddr + off) = some w := by
  have hinside := htracks.fits.inside
  obtain ⟨hbound, rfl⟩ := eq_of_word hword
  rw [word_eq (by omega), ← htracks.view]
  congr 1
  refine wordAt_congr (List.map_congr_left fun i hi => ?_)
  rw [List.mem_range] at hi
  have hcell : off + i < ifaceqQueueSize := by omega
  rw [IfaceQPtr.view_ring hcell, Nat.add_assoc]

variable {w : UInt32}

theorem setTxReq (htracks : p.Tracks cells table q) :
    ∃ table', table.setWord (p.qhdr + Header.txReq) w = some table' ∧
      p.Tracks cells table' { q with qhdr := { q.qhdr with txReq := w } } := by
  obtain rfl := htracks.view
  exact htracks.setWord (by decide) (headerAt_store_txReq _ _ _)

theorem setRxReq (htracks : p.Tracks cells table q) :
    ∃ table', table.setWord (p.qhdr + Header.rxReq) w = some table' ∧
      p.Tracks cells table' { q with qhdr := { q.qhdr with rxReq := w } } := by
  obtain rfl := htracks.view
  exact htracks.setWord (by decide) (headerAt_store_rxReq _ _ _)

theorem setReadIdx (htracks : p.Tracks cells table q) :
    ∃ table', table.setWord (p.qhdr + Header.readIdx) w = some table' ∧
      p.Tracks cells table' { q with qhdr := { q.qhdr with readIdx := w } } := by
  obtain rfl := htracks.view
  exact htracks.setWord (by decide) (headerAt_store_readIdx _ _ _)

theorem setWriteIdx (htracks : p.Tracks cells table q) :
    ∃ table', table.setWord (p.qhdr + Header.writeIdx) w = some table' ∧
      p.Tracks cells table' { q with qhdr := { q.qhdr with writeIdx := w } } := by
  obtain rfl := htracks.view
  exact htracks.setWord (by decide) (headerAt_store_writeIdx _ _ _)

theorem readIdx (htracks : p.Tracks cells table q) :
    table.word (p.qhdr + Header.readIdx) = some q.qhdr.readIdx := by
  rw [htracks.word (by decide), ← htracks.view]
  rfl

theorem writeIdx (htracks : p.Tracks cells table q) :
    table.word (p.qhdr + Header.writeIdx) = some q.qhdr.writeIdx := by
  rw [htracks.word (by decide), ← htracks.view]
  rfl

theorem queueType (htracks : p.Tracks cells table q) :
    halfAt table.byte (p.qhdr + Header.queueType) = q.qhdr.queueType := by
  rw [← htracks.view]
  rfl

end IfaceQPtr.Tracks

variable {packetSize : UInt32} {q' : IfaceQInfo} {ret : Int}

/-- **A write through the pointers** does to its queue what the write on a queue of its own does,
and nothing elsewhere. -/
theorem irisHfiQueueWriteAt_refines (htracks : p.Tracks cells table q)
    (hwrite : irisHfiQueueWrite q packet packetSize = some (ret, q')) :
    ∃ table', irisHfiQueueWriteAt table p packet packetSize = some (ret, table') ∧
      p.Tracks cells table' q' := by
  simp only [irisHfiQueueWrite, QueueHeader.emptySpace, Option.bind_eq_bind] at hwrite
  simp only [irisHfiQueueWriteAt, htracks.writeIdx, htracks.readIdx, Option.bind_eq_bind,
    Option.bind_some]
  by_cases hfull : (if q.qhdr.writeIdx * 4 < q.qhdr.readIdx * 4 then
      q.qhdr.readIdx * 4 - q.qhdr.writeIdx * 4
    else .ofNat ifaceqQueueSize - (q.qhdr.writeIdx * 4 - q.qhdr.readIdx * 4)) < packetSize
  · rw [if_pos hfull] at hwrite ⊢
    obtain ⟨rfl, rfl⟩ := Prod.mk.inj (Option.some.inj hwrite)
    exact ⟨table, rfl, htracks⟩
  rw [if_neg hfull] at hwrite ⊢
  obtain ⟨table₁, hset, htracks₁⟩ := htracks.setTxReq (w := 0)
  rw [hset, Option.bind_some]
  by_cases houtside : UInt32.ofNat ifaceqQueueSize < q.qhdr.writeIdx * 4
  · rw [if_pos houtside] at hwrite ⊢
    obtain ⟨rfl, rfl⟩ := Prod.mk.inj (Option.some.inj hwrite)
    exact ⟨table₁, rfl, htracks₁⟩
  rw [if_neg houtside] at hwrite ⊢
  by_cases hwrap : q.qhdr.writeIdx * 4 + packetSize < .ofNat ifaceqQueueSize
  · rw [if_pos hwrap] at hwrite ⊢
    obtain ⟨ring, hcopy, hrest⟩ := Option.bind_eq_some_iff.1 hwrite
    obtain ⟨rfl, rfl⟩ := Prod.mk.inj (Option.some.inj hrest)
    obtain ⟨table₂, hcopied, htracks₂⟩ := htracks₁.memcpy hcopy
    obtain ⟨table₃, hmoved, htracks₃⟩ := htracks₂.setWriteIdx
    rw [hcopied, Option.bind_some, hmoved]
    exact ⟨table₃, rfl, htracks₃⟩
  · rw [if_neg hwrap] at hwrite ⊢
    obtain ⟨ring₁, hfirst, hrest⟩ := Option.bind_eq_some_iff.1 hwrite
    obtain ⟨ring₂, hsecond, hrest⟩ := Option.bind_eq_some_iff.1 hrest
    obtain ⟨rfl, rfl⟩ := Prod.mk.inj (Option.some.inj hrest)
    obtain ⟨table₂, hcopied, htracks₂⟩ := htracks₁.memcpy hfirst
    obtain ⟨table₃, hcopied', htracks₃⟩ := htracks₂.memcpy hsecond
    obtain ⟨table₄, hmoved, htracks₄⟩ := htracks₃.setWriteIdx
    rw [Nat.add_zero] at hcopied'
    rw [hcopied, Option.bind_some, hcopied', Option.bind_some, hmoved]
    exact ⟨table₄, rfl, htracks₄⟩

variable {buf buf' : PacketBuf}

/-- **A read through the pointers**, likewise. -/
theorem irisHfiQueueReadAt_refines (htracks : p.Tracks cells table q)
    (hread : irisHfiQueueRead q buf = some (ret, q', buf')) :
    ∃ table', irisHfiQueueReadAt table p buf = some (ret, table', buf') ∧
      p.Tracks cells table' q' := by
  have hconsume : ∀ newReadIdx receiveRequest : UInt32, ∃ table',
      ((table.setWord (p.qhdr + Header.rxReq) receiveRequest).bind fun table =>
        table.setWord (p.qhdr + Header.readIdx) (newReadIdx / 4)) = some table' ∧
      p.Tracks cells table'
        { q with qhdr := { q.qhdr with rxReq := receiveRequest, readIdx := newReadIdx / 4 } } := by
    intro newReadIdx receiveRequest
    obtain ⟨table₁, hrequest, htracks₁⟩ := htracks.setRxReq (w := receiveRequest)
    obtain ⟨table₂, hmoved, htracks₂⟩ := htracks₁.setReadIdx (w := newReadIdx / 4)
    rw [hrequest, Option.bind_some]
    exact ⟨table₂, hmoved, htracks₂⟩
  simp only [irisHfiQueueRead, Option.bind_eq_bind] at hread
  simp only [irisHfiQueueReadAt, htracks.writeIdx, htracks.readIdx, htracks.queueType,
    Option.bind_eq_bind, Option.bind_some]
  generalize (if q.qhdr.queueType = IfaceQueue.msgq.id then (1 : UInt32) else 0) =
    receiveRequest at hread ⊢
  by_cases hempty : q.qhdr.readIdx * 4 = q.qhdr.writeIdx * 4
  · rw [if_pos hempty] at hread ⊢
    obtain ⟨rfl, hpair⟩ := Prod.mk.inj (Option.some.inj hread)
    obtain ⟨rfl, rfl⟩ := Prod.mk.inj hpair
    obtain ⟨table₁, hrequest, htracks₁⟩ := htracks.setRxReq (w := receiveRequest)
    rw [hrequest]
    exact ⟨table₁, rfl, htracks₁⟩
  rw [if_neg hempty] at hread ⊢
  by_cases houtside : UInt32.ofNat ifaceqQueueSize - 4 < q.qhdr.readIdx * 4
  · rw [if_pos houtside] at hread ⊢
    obtain ⟨rfl, hpair⟩ := Prod.mk.inj (Option.some.inj hread)
    obtain ⟨rfl, rfl⟩ := Prod.mk.inj hpair
    exact ⟨table, rfl, htracks⟩
  rw [if_neg houtside] at hread ⊢
  obtain ⟨packetSize, hword, hread⟩ := Option.bind_eq_some_iff.1 hread
  rw [htracks.ringWord hword, Option.bind_some]
  by_cases hzero : packetSize = 0
  · rw [if_pos hzero] at hread ⊢
    obtain ⟨rfl, hpair⟩ := Prod.mk.inj (Option.some.inj hread)
    obtain ⟨rfl, rfl⟩ := Prod.mk.inj hpair
    exact ⟨table, rfl, htracks⟩
  rw [if_neg hzero] at hread ⊢
  by_cases hsmall : packetSize ≤ .ofNat ifaceqCorePktSize
  · rw [if_pos hsmall] at hread ⊢
    by_cases hwrap : q.qhdr.readIdx * 4 + packetSize < .ofNat ifaceqQueueSize
    · rw [if_pos hwrap] at hread ⊢
      obtain ⟨buf₁, hcopy, hrest⟩ := Option.bind_eq_some_iff.1 hread
      obtain ⟨rfl, hpair⟩ := Prod.mk.inj (Option.some.inj hrest)
      obtain ⟨rfl, rfl⟩ := Prod.mk.inj hpair
      obtain ⟨table₁, hmoved, htracks₁⟩ :=
        hconsume (q.qhdr.readIdx * 4 + packetSize) receiveRequest
      rw [htracks.memcpy_from hcopy, Option.bind_some, hmoved]
      exact ⟨table₁, rfl, htracks₁⟩
    · rw [if_neg hwrap] at hread ⊢
      obtain ⟨buf₁, hfirst, hrest⟩ := Option.bind_eq_some_iff.1 hread
      obtain ⟨buf₂, hsecond, hrest⟩ := Option.bind_eq_some_iff.1 hrest
      obtain ⟨rfl, hpair⟩ := Prod.mk.inj (Option.some.inj hrest)
      obtain ⟨rfl, rfl⟩ := Prod.mk.inj hpair
      obtain ⟨table₁, hmoved, htracks₁⟩ :=
        hconsume (q.qhdr.readIdx * 4 + packetSize - .ofNat ifaceqQueueSize) receiveRequest
      have hcopied := htracks.memcpy_from hsecond
      rw [Nat.add_zero] at hcopied
      rw [htracks.memcpy_from hfirst, Option.bind_some, hcopied, Option.bind_some, hmoved]
      exact ⟨table₁, rfl, htracks₁⟩
  · rw [if_neg hsmall] at hread ⊢
    obtain ⟨rfl, hpair⟩ := Prod.mk.inj (Option.some.inj hread)
    obtain ⟨rfl, rfl⟩ := Prod.mk.inj hpair
    obtain ⟨table₁, hmoved, htracks₁⟩ := hconsume (q.qhdr.writeIdx * 4) receiveRequest
    rw [hmoved]
    exact ⟨table₁, rfl, htracks₁⟩

end Access

/-! ### What the calls leave of the header -/

/-- The fields that tell the other side what the queue is. -/
def QueueHeader.fixed (h : QueueHeader) : QueueHeader :=
  { h with rxReq := 0, txReq := 0, readIdx := 0, writeIdx := 0 }

theorem fixed_of_write {n : Nat} {q q' : IfaceQInfo} {packet : Region n} {packetSize : UInt32}
    {ret : Int} (hwrite : irisHfiQueueWrite q packet packetSize = some (ret, q')) :
    q'.qhdr.fixed = q.qhdr.fixed := by
  simp only [irisHfiQueueWrite, Option.bind_eq_bind] at hwrite
  split_ifs at hwrite with hfull houtside hwrap
  · obtain ⟨rfl, rfl⟩ := Prod.mk.inj (Option.some.inj hwrite)
    rfl
  · obtain ⟨rfl, rfl⟩ := Prod.mk.inj (Option.some.inj hwrite)
    rfl
  · obtain ⟨ring, _, hrest⟩ := Option.bind_eq_some_iff.1 hwrite
    obtain ⟨rfl, rfl⟩ := Prod.mk.inj (Option.some.inj hrest)
    rfl
  · obtain ⟨ring₁, _, hrest⟩ := Option.bind_eq_some_iff.1 hwrite
    obtain ⟨ring₂, _, hrest⟩ := Option.bind_eq_some_iff.1 hrest
    obtain ⟨rfl, rfl⟩ := Prod.mk.inj (Option.some.inj hrest)
    rfl

theorem fixed_of_read {q q' : IfaceQInfo} {packet packet' : PacketBuf} {ret : Int}
    (hread : irisHfiQueueRead q packet = some (ret, q', packet')) :
    q'.qhdr.fixed = q.qhdr.fixed := by
  rw [irisHfiQueueRead_any] at hread
  split_ifs at hread <;>
  · obtain ⟨_, hpair⟩ := Prod.mk.inj (Option.some.inj hread)
    obtain ⟨rfl, _⟩ := Prod.mk.inj hpair
    rfl

/-! ### The layout -/

section Layout

variable {legacyVpu5 : Bool} {tableDaddr core : UInt64} {i : Nat}

theorem id_lt (k : IfaceQueue) : k.id.toNat < ifaceqNumq := by cases k <;> decide

theorem tableSize_le_allocSize (legacyVpu5 : Bool) :
    irisHfiQueueTableSize legacyVpu5 + ifaceqQueueSize * ifaceqNumq ≤
      irisHfiQueueAllocSize legacyVpu5 := by
  have hused := le_alignUp (show 0 < sz4k by decide)
    (irisHfiQueueTableSize legacyVpu5 + ifaceqQueueSize * ifaceqNumq)
  unfold irisHfiQueueAllocSize
  split_ifs
  · calc
      _ ≤ _ := hused
      _ ≤ sfrSize + _ := Nat.le_add_left _ _
      _ ≤ _ := le_alignUp (by decide) _
  · exact hused

theorem irisHfiQueuePtr_fits (legacyVpu5 : Bool) (tableDaddr : UInt64) (k : IfaceQueue) :
    (irisHfiQueuePtr legacyVpu5 tableDaddr k).Fits (irisHfiQueueAllocSize legacyVpu5) where
  apart := by
    have hid := id_lt k
    simp only [irisHfiQueuePtr, irisHfiQueueTableSize, Header.size, ifaceqNumq] at hid ⊢
    omega
  inside := by
    have hid := id_lt k
    have hsize := tableSize_le_allocSize legacyVpu5
    have hN : ifaceqQueueSize = 819200 := rfl
    simp only [irisHfiQueuePtr, ifaceqNumq, hN] at hid hsize ⊢
    omega

/-- No byte belongs to two queues. -/
theorem eq_of_covers (j k : IfaceQueue) (hj : (irisHfiQueuePtr legacyVpu5 tableDaddr j).covers i)
    (hk : (irisHfiQueuePtr legacyVpu5 tableDaddr k).covers i) : j = k := by
  have hinj : j.id.toNat = k.id.toNat → j = k := by
    cases j <;> cases k <;> decide
  have hN : ifaceqQueueSize = 819200 := rfl
  apply hinj
  have hjlt := id_lt j
  have hklt := id_lt k
  simp only [IfaceQPtr.covers, irisHfiQueuePtr, irisHfiQueueTableSize, Header.size, ifaceqNumq,
    hN] at hj hk hjlt hklt
  omega

/-- The queues are parts of the table memory. -/
def queueParts (legacyVpu5 : Bool) (tableDaddr : UInt64) : Parts IfaceQueue IfaceQInfo UInt8 where
  covers k := (irisHfiQueuePtr legacyVpu5 tableDaddr k).covers
  read k := (irisHfiQueuePtr legacyVpu5 tableDaddr k).view
  read_congr _ _ _ := IfaceQPtr.view_congr
  apart j k _ := eq_of_covers j k

/-- The table header ends where the queue headers begin. -/
theorem qHdrOffset_le_of_covers {k : IfaceQueue}
    (hcovers : (irisHfiQueuePtr legacyVpu5 tableDaddr k).covers i) : qHdrOffset legacyVpu5 ≤ i := by
  simp only [IfaceQPtr.covers, irisHfiQueuePtr, irisHfiQueueTableSize] at hcovers
  omega

end Layout

/-! ### The table after `iris_hfi_queues_init` -/

section Init

variable {legacyVpu5 : Bool} {tableDaddr core : UInt64} {cells : Nat → UInt8} {base i : Nat}
  {stores : List (Nat × List UInt8)}

theorem storeAll_outside (hi : ∀ s ∈ stores, i < base + s.1 ∨ base + s.1 + s.2.length ≤ i) :
    storeAll base stores cells i = cells i := by
  unfold storeAll
  induction stores generalizing cells with
  | nil => rfl
  | cons s rest ih =>
      rw [List.foldl_cons, ih fun s' hs' => hi s' (List.mem_cons_of_mem _ hs'),
        store_outside (hi s List.mem_cons_self)]

theorem setHeaderStores_within {queueId : IfaceQueue} {deviceAddr : UInt64} :
    ∀ s ∈ setHeaderStores queueId deviceAddr, s.1 + s.2.length ≤ Header.size := by
  have hends : (setHeaderStores queueId deviceAddr).map (fun s => s.1 + s.2.length) =
      (setHeaderStores queueId 0).map fun s => s.1 + s.2.length := by
    cases queueId <;> rfl
  have hzero : ∀ x ∈ (setHeaderStores queueId 0).map (fun s => s.1 + s.2.length),
      x ≤ Header.size := by
    cases queueId <;> decide
  intro s hs
  exact hzero _ (hends ▸ List.mem_map_of_mem hs)

theorem tableHeaderStores_within :
    ∀ s ∈ tableHeaderStores legacyVpu5 core, s.1 + s.2.length ≤ qHdrOffset legacyVpu5 := by
  have hends : (tableHeaderStores legacyVpu5 core).map (fun s => s.1 + s.2.length) =
      (tableHeaderStores legacyVpu5 0).map fun s => s.1 + s.2.length := by
    cases legacyVpu5 <;> rfl
  have hzero : ∀ x ∈ (tableHeaderStores legacyVpu5 0).map (fun s => s.1 + s.2.length),
      x ≤ qHdrOffset legacyVpu5 := by
    cases legacyVpu5 <;> decide
  intro s hs
  exact hzero _ (hends ▸ List.mem_map_of_mem hs)

/-- Setting one queue up writes to its own header only. -/
theorem irisHfiQueueInit_outside {k : IfaceQueue}
    (hi : ¬(irisHfiQueuePtr legacyVpu5 tableDaddr k).covers i) :
    irisHfiQueueInit legacyVpu5 tableDaddr k cells i = cells i := by
  refine storeAll_outside fun s hs => ?_
  have hwithin := setHeaderStores_within s hs
  have hheader : ¬((irisHfiQueuePtr legacyVpu5 tableDaddr k).qhdr ≤ i ∧
      i < (irisHfiQueuePtr legacyVpu5 tableDaddr k).qhdr + Header.size) :=
    fun hin => hi (.inl hin)
  omega

theorem view_irisHfiQueueInit_of_ne {j k : IfaceQueue} (hjk : j ≠ k) :
    (irisHfiQueuePtr legacyVpu5 tableDaddr k).view
        (irisHfiQueueInit legacyVpu5 tableDaddr j cells) =
      (irisHfiQueuePtr legacyVpu5 tableDaddr k).view cells :=
  IfaceQPtr.view_congr fun _ hk => irisHfiQueueInit_outside fun hj => hjk (eq_of_covers j k hj hk)

/-- A queue that was set up is one whose header `iris_hfi_queue_set_header` has written. -/
theorem view_irisHfiQueueInit_self (k : IfaceQueue) :
    (irisHfiQueuePtr legacyVpu5 tableDaddr k).view
        (irisHfiQueueInit legacyVpu5 tableDaddr k cells) =
      irisHfiQueueSetHeader k ((irisHfiQueuePtr legacyVpu5 tableDaddr k).view
        (irisHfiQueueInit legacyVpu5 tableDaddr k cells)) := by
  have hheader := headerAt_setHeader cells (irisHfiQueuePtr legacyVpu5 tableDaddr k).qhdr k
    (irisHfiQueuePtr legacyVpu5 tableDaddr k).deviceAddr
  rw [irisHfiQueueSetHeader, IfaceQPtr.view, irisHfiQueueInit, hheader]

variable {table : QueueTable legacyVpu5}

theorem view_irisHfiQueuesInit (k : IfaceQueue) :
    (irisHfiQueuePtr legacyVpu5 tableDaddr k).view
        (irisHfiQueuesInit legacyVpu5 core tableDaddr table).byte =
      irisHfiQueueSetHeader k ((irisHfiQueuePtr legacyVpu5 tableDaddr k).view
        (irisHfiQueuesInit legacyVpu5 core tableDaddr table).byte) := by
  have hheader : ∀ cells, (irisHfiQueuePtr legacyVpu5 tableDaddr k).view
      (storeAll 0 (tableHeaderStores legacyVpu5 core) cells) =
        (irisHfiQueuePtr legacyVpu5 tableDaddr k).view cells := by
    intro cells
    refine IfaceQPtr.view_congr fun i hi => storeAll_outside fun s hs => ?_
    have hwithin := tableHeaderStores_within s hs
    have hbegin := qHdrOffset_le_of_covers hi
    omega
  rw [irisHfiQueuesInit, hheader]
  cases k with
  | cmdq =>
      rw [view_irisHfiQueueInit_of_ne (by decide), view_irisHfiQueueInit_of_ne (by decide)]
      exact view_irisHfiQueueInit_self _
  | msgq =>
      rw [view_irisHfiQueueInit_of_ne (by decide)]
      exact view_irisHfiQueueInit_self _
  | dbgq => exact view_irisHfiQueueInit_self _

/-- The words of the table header that the other side reads. -/
theorem tableHeader_irisHfiQueuesInit :
    wordAt (irisHfiQueuesInit legacyVpu5 core tableDaddr table).byte TableHeader.qhdr0Offset =
        .ofNat (qHdrOffset legacyVpu5) ∧
      wordAt (irisHfiQueuesInit legacyVpu5 core tableDaddr table).byte TableHeader.qhdrSize =
        .ofNat Header.size := by
  have hstore : ∀ cells off other w, other + 4 ≤ off ∨ off + 4 ≤ other →
      wordAt (store cells off (wordBytes w)) other = wordAt cells other :=
    fun _ _ _ _ h => wordAt_store_outside h
  rw [irisHfiQueuesInit, tableHeaderStores, storeAll]
  simp only [List.foldl_append, List.foldl_cons, List.foldl_nil, Nat.zero_add]
  constructor
  · rw [hstore _ _ _ _ (by decide), hstore _ _ _ _ (by decide), hstore _ _ _ _ (by decide),
      wordAt_store_wordBytes]
  · rw [hstore _ _ _ _ (by decide), hstore _ _ _ _ (by decide), wordAt_store_wordBytes]

end Init

/-! ### Interleaved runs -/

section Runs

variable {legacyVpu5 : Bool} {tableDaddr core : UInt64} {table : QueueTable legacyVpu5}

/-- The list that one queue stands for; which side makes a call does not matter to it. -/
def sharedFifo (packets : List (List UInt8)) (c : SharedCall) : Answer × List (List UInt8) :=
  fifoCall packets c.call

def SharedCallOk (packets : List (List UInt8)) (c : SharedCall) : Prop := CallOk packets c.call

/-- What a queue of the table keeps: it holds the packets, and its header says where it is. -/
structure Serves (legacyVpu5 : Bool) (tableDaddr : UInt64) (k : IfaceQueue)
    (packets : List (List UInt8)) (q : IfaceQInfo) : Prop where
  represents : Represents packets q
  startAddr : q.qhdr.startAddr = (irisHfiQueuePtr legacyVpu5 tableDaddr k).deviceAddr.toUInt32

/-- The relation of the run: every queue serves its list, and nothing else has changed. -/
abbrev Conversing (legacyVpu5 : Bool) (core tableDaddr : UInt64) (table : QueueTable legacyVpu5)
    (packets : IfaceQueue → List (List UInt8)) (table' : QueueTable legacyVpu5) : Prop :=
  (queueParts legacyVpu5 tableDaddr).Holds (Serves legacyVpu5 tableDaddr)
    (irisHfiQueuesInit legacyVpu5 core tableDaddr table).byte packets table'.byte

theorem conversing_start : Conversing legacyVpu5 core tableDaddr table (fun _ => [])
    (irisHfiQueuesInit legacyVpu5 core tableDaddr table) where
  each k := by
    change Serves _ _ _ _ ((irisHfiQueuePtr legacyVpu5 tableDaddr k).view _)
    rw [view_irisHfiQueuesInit]
    exact ⟨represents_setHeader k _, rfl⟩
  outside _ _ := rfl

theorem toNat_startAddr (k : IfaceQueue)
    (hdaddr : tableDaddr.toNat + irisHfiQueueAllocSize legacyVpu5 ≤ dmaMask + 1) :
    (irisHfiQueuePtr legacyVpu5 tableDaddr k).deviceAddr.toUInt32.toNat =
      tableDaddr.toNat + (irisHfiQueuePtr legacyVpu5 tableDaddr k).kernelVaddr := by
  have hinside := (irisHfiQueuePtr_fits legacyVpu5 tableDaddr k).inside
  have hmask : dmaMask = 3758096383 := rfl
  change (tableDaddr + .ofNat (irisHfiQueuePtr legacyVpu5 tableDaddr k).kernelVaddr).toUInt32.toNat
    = _
  rw [UInt64.toNat_toUInt32, UInt64.toNat_add, UInt64.toNat_ofNat']
  omega

/-- **The walk.** As long as the run goes on, the table leads to the places that the host uses. -/
theorem walkTable_eq {packets : IfaceQueue → List (List UInt8)} {table' : QueueTable legacyVpu5}
    (hrun : Conversing legacyVpu5 core tableDaddr table packets table') (k : IfaceQueue)
    (hdaddr : tableDaddr.toNat + irisHfiQueueAllocSize legacyVpu5 ≤ dmaMask + 1) :
    walkTable table' tableDaddr k = some (irisHfiQueuePtr legacyVpu5 tableDaddr k) := by
  have hfits := irisHfiQueuePtr_fits legacyVpu5 tableDaddr k
  have hsame : ∀ i, i < qHdrOffset legacyVpu5 →
      table'.byte i = (irisHfiQueuesInit legacyVpu5 core tableDaddr table).byte i := by
    intro i hi
    refine hrun.outside i fun j hj => ?_
    have hbegin := qHdrOffset_le_of_covers hj
    omega
  have hlow : 24 ≤ qHdrOffset legacyVpu5 := by cases legacyVpu5 <;> decide
  have hlarge : 24 ≤ irisHfiQueueAllocSize legacyVpu5 := by
    have hsize := tableSize_le_allocSize legacyVpu5
    simp only [irisHfiQueueTableSize] at hsize
    omega
  have hword : ∀ off, off + 4 ≤ 24 → table'.word off =
      some (wordAt (irisHfiQueuesInit legacyVpu5 core tableDaddr table).byte off) := by
    intro off hoff
    rw [word_eq (by omega)]
    exact congrArg some (wordAt_congr_cells fun i _ hi => hsame i (by omega))
  have hstart := (hrun.each k).startAddr
  have hheader : table'.word ((irisHfiQueuePtr legacyVpu5 tableDaddr k).qhdr + Header.startAddr) =
      some (irisHfiQueuePtr legacyVpu5 tableDaddr k).deviceAddr.toUInt32 := by
    rw [← hstart]
    exact (IfaceQPtr.Tracks.start hfits).word (by decide)
  have hqhdr : (UInt32.ofNat (qHdrOffset legacyVpu5)).toNat +
      k.id.toNat * (UInt32.ofNat Header.size).toNat =
        (irisHfiQueuePtr legacyVpu5 tableDaddr k).qhdr := by
    cases legacyVpu5 <;> rfl
  have hnat := toNat_startAddr k hdaddr
  have hdevice : (irisHfiQueuePtr legacyVpu5 tableDaddr k).deviceAddr.toUInt32.toUInt64 =
      (irisHfiQueuePtr legacyVpu5 tableDaddr k).deviceAddr := by
    have hinside := hfits.inside
    have hmask : dmaMask = 3758096383 := rfl
    rw [← UInt64.toNat_inj, UInt32.toNat_toUInt64, hnat]
    change _ = (tableDaddr +
      .ofNat (irisHfiQueuePtr legacyVpu5 tableDaddr k).kernelVaddr).toNat
    rw [UInt64.toNat_add, UInt64.toNat_ofNat']
    omega
  unfold walkTable
  rw [hword _ (by decide), hword _ (by decide), tableHeader_irisHfiQueuesInit.1,
    tableHeader_irisHfiQueuesInit.2]
  simp only [Option.bind_eq_bind, Option.bind_some, hqhdr, hheader, hnat, hdevice,
    Nat.add_sub_cancel_left]

/-- One call of either side on one of the queues. -/
theorem sharedCall_refines (packets : IfaceQueue → List (List UInt8))
    (table' : QueueTable legacyVpu5) (c : IfaceQueue × SharedCall)
    (hdaddr : tableDaddr.toNat + irisHfiQueueAllocSize legacyVpu5 ≤ dmaMask + 1)
    (hrun : Conversing legacyVpu5 core tableDaddr table packets table')
    (hok : SharedCallOk (packets c.1) c.2) :
    ∃ table'', sharedCall tableDaddr table' c = some ((family sharedFifo packets c).1, table'') ∧
      Conversing legacyVpu5 core tableDaddr table (family sharedFifo packets c).2 table'' := by
  obtain ⟨k, party, call⟩ := c
  have hfound : queueInfo tableDaddr table' party k =
      some (irisHfiQueuePtr legacyVpu5 tableDaddr k) := by
    cases party with
    | host => rfl
    | firmware => exact walkTable_eq hrun k hdaddr
  have hserves := hrun.each k
  have hstart : (irisHfiQueuePtr legacyVpu5 tableDaddr k).Tracks table'.byte table'
      ((irisHfiQueuePtr legacyVpu5 tableDaddr k).view table'.byte) :=
    .start (irisHfiQueuePtr_fits legacyVpu5 tableDaddr k)
  obtain ⟨q', hcall, hrep⟩ := call_refines_fifo (packets k) _ call hserves.represents hok
  have hnext : ∀ table'' : QueueTable legacyVpu5,
      (irisHfiQueuePtr legacyVpu5 tableDaddr k).Tracks table'.byte table'' q' →
      q'.qhdr.fixed = ((irisHfiQueuePtr legacyVpu5 tableDaddr k).view table'.byte).qhdr.fixed →
      Conversing legacyVpu5 core tableDaddr table
        (family sharedFifo packets (k, ⟨party, call⟩)).2 table'' := by
    intro table'' htracks hfixed
    have hsame : q'.qhdr.fixed.startAddr =
        ((irisHfiQueuePtr legacyVpu5 tableDaddr k).view table'.byte).qhdr.fixed.startAddr := by
      rw [hfixed]
    have hnow : Serves legacyVpu5 tableDaddr k (fifoCall (packets k) call).2 q' :=
      ⟨hrep, Eq.trans hsame hserves.startAddr⟩
    rw [← htracks.view] at hnow
    exact hrun.update hnow htracks.frame
  simp only [sharedCall, hfound, Option.bind_eq_bind, Option.bind_some]
  cases call with
  | write packet packetSize =>
      obtain ⟨⟨ret, q⟩, hwrite, hpair⟩ := Option.map_eq_some_iff.1 hcall
      obtain ⟨hanswer, rfl⟩ := Prod.mk.inj hpair
      obtain ⟨table'', hdone, htracks⟩ := irisHfiQueueWriteAt_refines hstart hwrite
      refine ⟨table'', ?_, hnext table'' htracks (fixed_of_write hwrite)⟩
      change (irisHfiQueueWriteAt _ _ _ _).bind _ = _
      rw [hdone]
      exact congrArg (fun a => some ((k, a), table'')) hanswer
  | read buf =>
      obtain ⟨⟨ret, q, buf'⟩, hread, hpair⟩ := Option.map_eq_some_iff.1 hcall
      obtain ⟨hanswer, rfl⟩ := Prod.mk.inj hpair
      obtain ⟨table'', hdone, htracks⟩ := irisHfiQueueReadAt_refines hstart hread
      refine ⟨table'', ?_, hnext table'' htracks (fixed_of_read hread)⟩
      change (irisHfiQueueReadAt _ _ _).bind _ = _
      rw [hdone]
      exact congrArg (fun a => some ((k, a), table'')) hanswer

/-- **Three conversations in one table.** From `iris_hfi_queues_init` on, whatever the allocation
held before, both sides may write and read the three queues in any order, the host through its own
pointers and the firmware through the published table: every queue answers as a list of its own
packets would, the table keeps leading to the same three places, and no byte outside them is
written. -/
theorem shared_queues_refine_fifos (legacyVpu5 : Bool) (core tableDaddr : UInt64)
    (table : QueueTable legacyVpu5) (calls : List (IfaceQueue × SharedCall))
    (hdaddr : tableDaddr.toNat + irisHfiQueueAllocSize legacyVpu5 ≤ dmaMask + 1)
    (hcalls : ∀ k, Throughout sharedFifo SharedCallOk [] (ofPart k calls)) :
    ∃ answers table',
      exec (sharedCall tableDaddr) (irisHfiQueuesInit legacyVpu5 core tableDaddr table) calls =
        some (answers, table') ∧
      (∀ k, ofPart k answers = (runOps sharedFifo [] (ofPart k calls)).1 ∧
        Represents (runOps sharedFifo [] (ofPart k calls)).2
          ((irisHfiQueuePtr legacyVpu5 tableDaddr k).view table'.byte) ∧
        walkTable table' tableDaddr k = some (irisHfiQueuePtr legacyVpu5 tableDaddr k)) ∧
      ∀ i, (∀ k, ¬(irisHfiQueuePtr legacyVpu5 tableDaddr k).covers i) →
        table'.byte i = (irisHfiQueuesInit legacyVpu5 core tableDaddr table).byte i := by
  obtain ⟨table', hexec, hend⟩ :=
    exec_refines (Conversing legacyVpu5 core tableDaddr table)
      (fun packets table' c hrun hok => sharedCall_refines packets table' c hdaddr hrun hok)
      conversing_start (throughout_family hcalls)
  refine ⟨_, table', hexec, fun k => ⟨(runOps_family _ calls k).1, ?_, walkTable_eq hend k hdaddr⟩,
    hend.outside⟩
  rw [← (runOps_family (fun _ => []) calls k).2]
  exact (hend.each k).represents

/-- A command and its response, each written by one side and read by the other. -/
def shortConversation : List (IfaceQueue × SharedCall) :=
  [(.cmdq, ⟨.host, .write shortPacket 8⟩), (.msgq, ⟨.firmware, .write shortPacket 8⟩),
    (.cmdq, ⟨.firmware, .read ⟨fun _ => 0⟩⟩), (.msgq, ⟨.host, .read ⟨fun _ => 0⟩⟩)]

theorem shared_queues_refine_fifos_short :
    ∃ answers table',
      exec (sharedCall 0x100000) (irisHfiQueuesInit true 0 0x100000 ⟨fun _ => 0xff⟩)
        shortConversation = some (answers, table') ∧
      (∀ k, ofPart k answers = (runOps sharedFifo [] (ofPart k shortConversation)).1 ∧
        Represents (runOps sharedFifo [] (ofPart k shortConversation)).2
          ((irisHfiQueuePtr true 0x100000 k).view table'.byte) ∧
        walkTable table' 0x100000 k = some (irisHfiQueuePtr true 0x100000 k)) ∧
      ∀ i, (∀ k, ¬(irisHfiQueuePtr true 0x100000 k).covers i) →
        table'.byte i = (irisHfiQueuesInit true 0 0x100000 ⟨fun _ => 0xff⟩).byte i := by
  have hwrite : CallOk [] (.write shortPacket 8) :=
    ⟨⟨⟨by decide, by decide, by decide, by decide⟩, by decide⟩, by decide⟩
  have hread : CallOk [load shortPacket.byte 0 8] (.read ⟨fun _ => 0⟩) := ⟨trivial, by decide⟩
  refine shared_queues_refine_fifos true 0 0x100000 ⟨fun _ => 0xff⟩ shortConversation (by decide)
    fun k => ?_
  cases k with
  | cmdq => exact ⟨hwrite, hread, trivial⟩
  | msgq => exact ⟨hwrite, hread, trivial⟩
  | dbgq => exact trivial

end Runs

end NabuIris.Queue
