import NabuIris.Proof.StateRuns

/-!
# Last buffers

Each STOP and each source change allows one buffer with `V4L2_BUF_FLAG_LAST`. START and STREAMON of
CAPTURE take the flag `last_buffer_dequeued` back together with the bits that stand for what is
over. STREAMON of OUTPUT takes the flag back alone.
-/

namespace NabuIris

open Lib Relation

/-- Every last buffer has a STOP or a source change of its own. -/
def LastsBounded (s : Session) : Prop :=
  s.tally.lastsDone ≤ s.tally.stopsAccepted + s.tally.changesArmed

/-- The last buffer of what is pending has been given back. -/
def lastPending (inst : Inst) : Bool :=
  inst.lastBufferDequeued && (irisDrcPending inst || irisDrainPending inst)

/-- The same for a pair that `mask` covers. -/
def lastGiven (mask : SubState) (inst : Inst) : Bool :=
  inst.lastBufferDequeued &&
    (irisDrcPending inst && mask.getLsbD 1 || irisDrainPending inst && mask.getLsbD 3)

/-- A first bit that is set stands for a last buffer to come, but for the one that was given. -/
def LastBooks (mask : SubState) (s : Session) : Prop :=
  s.tally.lastsDone + (s.inst.subState.getLsbD 1).toNat + (s.inst.subState.getLsbD 3).toNat ≤
    s.tally.stopsAccepted + s.tally.changesArmed + (lastGiven mask s.inst).toNat

theorem lastGiven_both (inst : Inst) : lastGiven (subDrc ||| subDrain) inst = lastPending inst := by
  have hdrc : (subDrc ||| subDrain).getLsbD 1 = true := by decide
  have hdrain : (subDrc ||| subDrain).getLsbD 3 = true := by decide
  rw [lastGiven, lastPending, hdrc, hdrain, Bool.and_true, Bool.and_true]

theorem irisDrcPending_bits (inst : Inst) :
    irisDrcPending inst = (inst.subState.getLsbD 1 && inst.subState.getLsbD 2) := by
  rw [irisDrcPending, hasFlag_subDrc, hasFlag_subDrcLast]

theorem irisDrainPending_bits (inst : Inst) :
    irisDrainPending inst = (inst.subState.getLsbD 3 && inst.subState.getLsbD 4) := by
  rw [irisDrainPending, hasFlag_subDrain, hasFlag_subDrainLast]

theorem lastGiven_false {mask : SubState} {inst : Inst} (hlast : inst.lastBufferDequeued = false) :
    lastGiven mask inst = false := by
  rw [lastGiven, hlast, Bool.false_and]

/-- What was given is pending. -/
theorem lastGiven_le (mask : SubState) (inst : Inst) :
    (lastGiven mask inst).toNat ≤
      (inst.subState.getLsbD 1).toNat + (inst.subState.getLsbD 3).toNat := by
  rw [lastGiven, irisDrcPending_bits, irisDrainPending_bits]
  cases inst.subState.getLsbD 1
  · cases inst.subState.getLsbD 3
    · simp
    · exact Bool.toNat_le _
  · exact (Bool.toNat_le _).trans (Nat.le_add_right _ _)

theorem cleared {bits : SubState} (subState : SubState) {i : Nat} (hbit : bits.getLsbD i = true) :
    (subState &&& ~~~bits).getLsbD i = false := by
  rw [BitVec.getLsbD_and, BitVec.getLsbD_not, hbit, Bool.not_true, Bool.and_false, Bool.and_false]

theorem cleared_le (subState bits : SubState) (i : Nat) :
    ((subState &&& ~~~bits).getLsbD i).toNat ≤ (subState.getLsbD i).toNat := by
  rw [BitVec.getLsbD_and]
  exact Bool.toNat_le_toNat (Bool.and_le_left _ _)

theorem or_toNat_le (a b : Bool) : (a || b).toNat ≤ a.toNat + b.toNat := by
  cases a <;> cases b <;> decide

namespace LastBooks

variable {mask : SubState} {s t : Session}

theorem bounded (hbooks : LastBooks mask s) : LastsBounded s := by
  have hle := lastGiven_le mask s.inst
  unfold LastBooks at hbooks
  unfold LastsBounded
  omega

theorem same (hbooks : LastBooks mask s)
    (hbits : ∀ i < 5, i ≠ 0 → t.inst.subState.getLsbD i = s.inst.subState.getLsbD i)
    (hlast : s.inst.lastBufferDequeued = true → t.inst.lastBufferDequeued = true)
    (hlasts : t.tally.lastsDone = s.tally.lastsDone)
    (hstops : t.tally.stopsAccepted = s.tally.stopsAccepted)
    (harmed : t.tally.changesArmed = s.tally.changesArmed) : LastBooks mask t := by
  have hgiven : lastGiven mask s.inst ≤ lastGiven mask t.inst := by
    simp only [lastGiven, irisDrcPending_bits, irisDrainPending_bits,
      hbits 1 (by decide) (by decide), hbits 2 (by decide) (by decide),
      hbits 3 (by decide) (by decide), hbits 4 (by decide) (by decide)]
    exact Bool.le_iff_imp.2 fun h => by
      rw [Bool.and_eq_true] at h ⊢
      exact ⟨hlast h.1, h.2⟩
  have hcount := Bool.toNat_le_toNat hgiven
  unfold LastBooks at *
  rw [hbits 1 (by decide) (by decide), hbits 3 (by decide) (by decide), hlasts, hstops, harmed]
  omega

/-- Bits are cleared, with one that stands for what was given. -/
theorem taken (hbooks : LastBooks mask s) {bits : SubState}
    (hgiven : lastGiven mask s.inst = true →
      s.inst.subState.getLsbD 1 = true ∧ bits.getLsbD 1 = true ∨
        s.inst.subState.getLsbD 3 = true ∧ bits.getLsbD 3 = true)
    (hsub : t.inst.subState = s.inst.subState &&& ~~~bits)
    (hlasts : t.tally.lastsDone = s.tally.lastsDone)
    (hstops : t.tally.stopsAccepted = s.tally.stopsAccepted)
    (harmed : t.tally.changesArmed = s.tally.changesArmed) : LastBooks mask t := by
  have hdrc := cleared_le s.inst.subState bits 1
  have hdrain := cleared_le s.inst.subState bits 3
  unfold LastBooks at *
  rw [hsub, hlasts, hstops, harmed]
  cases hlast : lastGiven mask s.inst with
  | false =>
      rw [hlast, Bool.toNat_false] at hbooks
      omega
  | true =>
      rw [hlast, Bool.toNat_true] at hbooks
      obtain ⟨hbit, hclear⟩ | ⟨hbit, hclear⟩ := hgiven hlast
      · rw [hbit, Bool.toNat_true] at hbooks
        rw [cleared _ hclear, Bool.toNat_false]
        omega
      · rw [hbit, Bool.toNat_true] at hbooks
        rw [cleared _ hclear, Bool.toNat_false]
        omega

/-- Bits are set, and counted where they stand for a last buffer. -/
theorem set (hbooks : LastBooks mask s) {bits : SubState}
    (hsub : t.inst.subState = s.inst.subState ||| bits)
    (hlast : t.inst.lastBufferDequeued = s.inst.lastBufferDequeued)
    (hlasts : t.tally.lastsDone = s.tally.lastsDone)
    (hcount : s.tally.stopsAccepted + s.tally.changesArmed + (bits.getLsbD 1).toNat +
        (bits.getLsbD 3).toNat ≤
      t.tally.stopsAccepted + t.tally.changesArmed) : LastBooks mask t := by
  have hgiven : lastGiven mask s.inst ≤ lastGiven mask t.inst := by
    simp only [lastGiven, irisDrcPending_bits, irisDrainPending_bits, hsub, hlast,
      BitVec.getLsbD_or]
    cases s.inst.lastBufferDequeued <;> cases s.inst.subState.getLsbD 1 <;>
      cases s.inst.subState.getLsbD 2 <;> cases s.inst.subState.getLsbD 3 <;>
      cases s.inst.subState.getLsbD 4 <;> cases mask.getLsbD 1 <;> cases mask.getLsbD 3 <;> simp
  have hle := Bool.toNat_le_toNat hgiven
  have hdrc := or_toNat_le (s.inst.subState.getLsbD 1) (bits.getLsbD 1)
  have hdrain := or_toNat_le (s.inst.subState.getLsbD 3) (bits.getLsbD 3)
  unfold LastBooks at *
  rw [hsub, hlasts, BitVec.getLsbD_or, BitVec.getLsbD_or]
  omega

theorem turn {response : Option Bool} {late last : Prop} (hbooks : LastBooks mask s)
    (hturn : Turn response late last s t) (hlate : ¬late)
    (hmask : last → mask.getLsbD 1 = true ∧ mask.getLsbD 3 = true) : LastBooks mask t := by
  cases hturn with
  | keeps hinst htally =>
      exact hbooks.same (fun _ _ _ => by rw [hinst.subState]) hinst.last (by rw [htally])
        (by rw [htally]) (by rw [htally])
  | flush hinst htally =>
      exact hbooks.same (fun _ _ _ => by rw [hinst]) (by rw [hinst]; exact id) (by rw [htally])
        (by rw [htally]) (by rw [htally])
  | answer _ hinst htally =>
      exact hbooks.same (fun _ _ _ => by rw [hinst]) (by rw [hinst]; exact id) (by rw [htally]; rfl)
        (by rw [htally]; rfl) (by rw [htally]; rfl)
  | arm hbits hnone _ hinst htally =>
      refine hbooks.set (by rw [hinst]) (by rw [hinst]) (by rw [htally]) ?_
      rw [htally]
      obtain ⟨rfl, -⟩ | rfl := hbits
      · exact Nat.le_succ _
      · exact Nat.le_refl _
  | lastSeen hpair _ _ hinst htally =>
      refine hbooks.set (by rw [hinst]) (by rw [hinst]) (by rw [htally]) ?_
      rw [htally]
      obtain ⟨-, rfl⟩ | ⟨-, rfl⟩ := hpair
      · exact Nat.le_refl _
      · exact Nat.le_refl _
  | @stop bits hbits hinst htally =>
      refine hbooks.set (by rw [hinst]) (by rw [hinst]) (by rw [htally]) ?_
      have hbit : (bits.getLsbD 1).toNat + (bits.getLsbD 3).toNat ≤ 1 := by
        obtain rfl | ⟨rfl, -⟩ := hbits <;> decide
      have hstops : t.tally.stopsAccepted = s.tally.stopsAccepted + 1 := by rw [htally]
      have harmed : t.tally.changesArmed = s.tally.changesArmed := by rw [htally]
      omega
  | lastBuffer hlast hnone hpending hinst htally =>
      obtain ⟨hdrc, hdrain⟩ := hmask hlast
      have hgiven : lastGiven mask t.inst = true := by
        rw [lastGiven, hinst, hdrc, hdrain, Bool.and_true, Bool.and_true]
        exact hpending
      unfold LastBooks at *
      rw [lastGiven_false hnone] at hbooks
      rw [hgiven, hinst, htally]
      simp only [Bool.toNat_false, Bool.toNat_true] at *
      omega
  | resume hpair hinst htally =>
      refine hbooks.taken (fun _ => ?_) (by rw [hinst]) (by rw [htally]) (by rw [htally])
        (by rw [htally])
      obtain ⟨rfl, hpending⟩ | ⟨rfl, hpending⟩ := hpair
      · rw [irisDrcPending_bits, Bool.and_eq_true] at hpending
        exact .inl ⟨hpending.1, clears_pair _ (by decide)⟩
      · rw [irisDrainPending_bits, Bool.and_eq_true] at hpending
        exact .inr ⟨hpending.1, clears_pair _ (by decide)⟩
  | resumeLate hlast => exact absurd hlast hlate
  | initial hnone hinst htally =>
      -- the bit of a source change was not set, and those of a drain stay
      rw [hasFlag_subDrc] at hnone
      have hdrc : t.inst.subState.getLsbD 1 = false := by
        rw [hinst]
        exact cleared _ (by decide)
      have hdrain : ∀ i, i = 3 ∨ i = 4 → t.inst.subState.getLsbD i = s.inst.subState.getLsbD i := by
        rintro i (rfl | rfl)
        · rw [hinst, BitVec.getLsbD_and]
          exact Bool.and_true _
        · rw [hinst, BitVec.getLsbD_and]
          exact Bool.and_true _
      have hgiven : lastGiven mask t.inst = lastGiven mask s.inst := by
        have hlast : t.inst.lastBufferDequeued = s.inst.lastBufferDequeued := by rw [hinst]
        simp only [lastGiven, irisDrcPending_bits, irisDrainPending_bits, hdrc, hnone,
          hdrain 3 (.inl rfl), hdrain 4 (.inr rfl), hlast, Bool.false_and]
      unfold LastBooks at *
      rwa [hgiven, hdrc, hdrain 3 (.inl rfl), ← hnone, htally]

theorem turns {response : Option Bool} {late last : Prop} (hbooks : LastBooks mask s)
    (hturns : Turns response late last s t) (hlate : ¬late)
    (hmask : last → mask.getLsbD 1 = true ∧ mask.getLsbD 3 = true) : LastBooks mask t := by
  induction hturns with
  | refl => exact hbooks
  | tail _ hturn ih => exact ih.turn hturn hlate hmask

theorem handle (hbooks : LastBooks mask s) (hgen : s.inst.gen = .gen1) {arrival : Arrival}
    (hlate : startsLate arrival.event s.inst = false)
    (hmask : returnsLast arrival.event s.inst = true →
      mask.getLsbD 1 = true ∧ mask.getLsbD 3 = true) : LastBooks mask (s.handle arrival) := by
  obtain ⟨t, hturns, heq⟩ := handle_turns hgen arrival
  rw [heq]
  have hafter : LastBooks mask t := hbooks.turns hturns (Bool.eq_false_iff.1 hlate) hmask
  exact hafter.same (fun _ _ _ => rfl) id rfl rfl rfl

theorem both (hbooks : LastBooks mask s) : LastBooks (subDrc ||| subDrain) s := by
  have hgiven : lastGiven mask s.inst ≤ lastPending s.inst := by
    refine Bool.le_iff_imp.2 fun h => ?_
    simp only [lastGiven, lastPending, Bool.and_eq_true, Bool.or_eq_true] at h ⊢
    exact ⟨h.1, h.2.imp And.left And.left⟩
  have hle := Bool.toNat_le_toNat hgiven
  unfold LastBooks at *
  rw [lastGiven_both]
  omega

theorem pending (hbooks : LastBooks (subDrc ||| subDrain) s) :
    LastBooks (Session.pendingClear s.inst) s := by
  unfold LastBooks at *
  rw [lastGiven_both, lastPending] at hbooks
  unfold Session.pendingClear lastGiven
  cases hdrc : irisDrcPending s.inst with
  | true =>
      rw [hdrc] at hbooks
      exact hbooks.trans
        (Nat.add_le_add_left (Bool.toNat_le_toNat (by simp [subDrc, subDrcLast])) _)
  | false =>
      rw [hdrc] at hbooks
      cases hdrain : irisDrainPending s.inst with
      | true =>
          rw [hdrain] at hbooks
          exact hbooks.trans (Nat.add_le_add_left
            (Bool.toNat_le_toNat (by simp [subDrain, subDrainLast])) _)
      | false =>
          rw [hdrain] at hbooks
          simpa using hbooks

end LastBooks

/-! ### Through the sections -/

theorem irisInstChangeSubState_bits (inst : Inst) {clear set : SubState}
    (hclear : ∀ i < 5, i ≠ 0 → clear.getLsbD i = false)
    (hset : ∀ i < 5, i ≠ 0 → set.getLsbD i = false) :
    ∀ i < 5, i ≠ 0 → (irisInstChangeSubState clear set inst).2.subState.getLsbD i =
      inst.subState.getLsbD i := by
  intro i hlt hpos
  have hbound : i < 8 := by omega
  unfold irisInstChangeSubState
  split_ifs
  · rfl
  · rfl
  · rfl
  · rfl
  · rw [BitVec.getLsbD_and, BitVec.getLsbD_or, BitVec.getLsbD_not, hclear i hlt hpos,
      hset i hlt hpos, decide_eq_true hbound]
    exact (Bool.and_true _).trans (Bool.or_false _)

/-- What the books see is the same, but for a last buffer, and no buffer is queued. -/
structure LeavesLast (s t : Session) : Prop where
  gen : t.inst.gen = s.inst.gen
  domain : t.inst.domain = s.inst.domain
  failed : s.inst.state = .error → t.inst.state = .error
  streaming : t.inst.streaming = s.inst.streaming
  bits : ∀ i < 5, i ≠ 0 → t.inst.subState.getLsbD i = s.inst.subState.getLsbD i
  last : s.inst.lastBufferDequeued = true → t.inst.lastBufferDequeued = true
  lasts : t.tally.lastsDone = s.tally.lastsDone
  stops : t.tally.stopsAccepted = s.tally.stopsAccepted
  armed : t.tally.changesArmed = s.tally.changesArmed
  ready : ∀ plane, t.inst.ready plane ⊆ s.inst.ready plane
  busy : ∀ plane i, (t.inst.buf plane i).Busy → (s.inst.buf plane i).Busy

namespace LeavesLast

theorem unwinds {s : Session} {inst : Inst} (hunwinds : Unwinds s.inst inst) :
    LeavesLast s { s with inst } where
  gen := hunwinds.gen
  domain := hunwinds.domain
  failed herror := hunwinds.state.elim (fun h => h.trans herror) id
  streaming := hunwinds.streaming
  bits _ _ _ := by rw [hunwinds.subState]
  last := hunwinds.last
  lasts := rfl
  stops := rfl
  armed := rfl
  ready := hunwinds.ready
  busy := hunwinds.busy

theorem changeState (s : Session) (state : InstState) :
    LeavesLast s { s with inst := (irisInstChangeState state s.inst).2 } := by
  have hfailed : s.inst.state = .error → (irisInstChangeState state s.inst).2.state = .error := by
    intro herror
    unfold irisInstChangeState
    split_ifs
    exact herror
  obtain ⟨after, heq⟩ := irisInstChangeState_frame state s.inst
  rw [heq] at hfailed ⊢
  exact ⟨rfl, rfl, hfailed, rfl, fun _ _ _ => rfl, id, rfl, rfl, rfl, fun _ _ => id, fun _ _ => id⟩

/-- Bits that are none of a drain or a source change. -/
theorem changeSubState (s : Session) {clear set : SubState}
    (hclear : ∀ i < 5, i ≠ 0 → clear.getLsbD i = false)
    (hset : ∀ i < 5, i ≠ 0 → set.getLsbD i = false) :
    LeavesLast s (s.changeSubState clear set).2 := by
  have hbits := irisInstChangeSubState_bits s.inst hclear hset
  obtain ⟨subState, heq⟩ := irisInstChangeSubState_frame clear set s.inst
  have hinst : (s.changeSubState clear set).2.inst = { s.inst with subState } := heq
  refine ⟨by rw [hinst], by rw [hinst], by rw [hinst]; exact id, by rw [hinst], hbits,
    by rw [hinst]; exact id, rfl, rfl, rfl, by rw [hinst]; exact fun _ _ => id,
    by rw [hinst]; exact fun _ _ => id⟩

end LeavesLast

/-- The session failed before the firmware had a buffer of CAPTURE. -/
structure LastsOver (s : Session) : Prop where
  state : s.inst.state = .error
  free : Unsubmitted .capture s.inst
  bounded : LastsBounded s

/-- What holds all along. -/
structure Booked (s : Session) : Prop where
  gen : s.inst.gen = .gen1
  domain : s.inst.domain = .decoder
  books : LastBooks (subDrc ||| subDrain) s ∨ LastsOver s

/-- A queue of CAPTURE that is not streaming has no buffers, except while it is started. -/
structure Parked (parks : Prop) (s : Session) : Prop extends Booked s where
  empty : parks → s.inst.streaming .capture = false → s.inst.ready .capture = []

/-- CAPTURE while it is started: the firmware has none of its buffers, -/
structure Unfed (mask : SubState) (s : Session) : Prop where
  gen : s.inst.gen = .gen1
  domain : s.inst.domain = .decoder
  free : Unsubmitted .capture s.inst
  books : LastBooks mask s

/-- and up to the change of the state it gets none. -/
structure Starting (mask : SubState) (s : Session) : Prop extends Unfed mask s where
  state : s.inst.state ≠ .streaming

section Sections

variable {parks : Prop} {mask : SubState} {s t : Session}

theorem LeavesLast.books (hleaves : LeavesLast s t) (hbooks : LastBooks mask s) :
    LastBooks mask t :=
  hbooks.same hleaves.bits hleaves.last hleaves.lasts hleaves.stops hleaves.armed

theorem LeavesLast.free (hleaves : LeavesLast s t) (hfree : Unsubmitted .capture s.inst) :
    Unsubmitted .capture t.inst :=
  fun i hi hbusy => hfree i (hleaves.ready .capture hi) (hleaves.busy .capture i hbusy)

theorem Booked.bounded (hbooked : Booked s) : LastsBounded s :=
  hbooked.books.elim LastBooks.bounded LastsOver.bounded

theorem Booked.leaves (hbooked : Booked s) (hleaves : LeavesLast s t) : Booked t where
  gen := hleaves.gen.trans hbooked.gen
  domain := hleaves.domain.trans hbooked.domain
  books := hbooked.books.imp hleaves.books fun hover =>
    ⟨hleaves.failed hover.state, hleaves.free hover.free, by
      have hbounded := hover.bounded
      unfold LastsBounded at *
      rwa [hleaves.lasts, hleaves.stops, hleaves.armed]⟩

theorem Parked.leaves (hparked : Parked parks s) (hleaves : LeavesLast s t) : Parked parks t where
  toBooked := hparked.toBooked.leaves hleaves
  empty hparks hidle := by
    rw [hleaves.streaming] at hidle
    have hready := hleaves.ready .capture
    rw [hparked.empty hparks hidle] at hready
    exact List.subset_nil.1 hready

theorem Unfed.leaves (hunfed : Unfed mask s) (hleaves : LeavesLast s t) : Unfed mask t :=
  ⟨hleaves.gen.trans hunfed.gen, hleaves.domain.trans hunfed.domain, hleaves.free hunfed.free,
    hleaves.books hunfed.books⟩

theorem Unfed.booked (hunfed : Unfed mask s) : Booked s :=
  ⟨hunfed.gen, hunfed.domain, .inl hunfed.books.both⟩

theorem Starting.leaves (hstarting : Starting mask s) (hleaves : LeavesLast s t)
    (hstate : t.inst.state ≠ .streaming) : Starting mask t :=
  ⟨hstarting.toUnfed.leaves hleaves, hstate⟩

/-! ### Events -/

theorem Unsubmitted.handle (hfree : Unsubmitted .capture s.inst)
    (hstate : s.inst.state ≠ .streaming) (arrival : Arrival) :
    Unsubmitted .capture (s.handle arrival).inst ∧ (s.handle arrival).inst.state ≠ .streaming := by
  have hwaits : Waits .capture s.inst s.inst := ⟨⟨.refl _, rfl, hfree, rfl⟩, hstate⟩
  have hafter : Waits .capture s.inst (handleEvent arrival.event s.inst) :=
    hwaits.steps (handleEvent_steps arrival.event s.inst)
  exact ⟨hafter.free, hafter.state⟩

/-- No completion finds a buffer that the firmware does not have. -/
theorem Unsubmitted.returnsLast {inst : Inst} (hfree : Unsubmitted .capture inst) (event : Event) :
    returnsLast event inst = false := by
  unfold NabuIris.returnsLast
  split
  · rename_i env pkt
    unfold ftbReturnsLast
    split_ifs
    · rfl
    · obtain ⟨_, _, heq⟩ := ftbEos_frame env pkt inst
      rw [heq]
      dsimp only
      split
      · rfl
      · rename_i i hfind
        obtain ⟨hlisted, hqueued, -, -⟩ := ftbFind_spec hfind
        exact absurd (Or.inl hqueued) (hfree i hlisted)
  · rfl

theorem Turns.bounded {response : Option Bool} {late last : Prop}
    (hturns : Turns response late last s t) (hnone : ¬last) (hbounded : LastsBounded s) :
    LastsBounded t := by
  induction hturns with
  | refl => exact hbounded
  | tail _ hturn ih =>
      unfold LastsBounded at *
      cases hturn with
      | keeps _ htally | flush _ htally | answer _ _ htally | lastSeen _ _ _ _ htally
        | resume _ _ htally | resumeLate _ _ htally | initial _ _ htally =>
          rw [htally]
          exact ih
      | arm _ _ _ _ htally | stop _ _ htally =>
          rw [htally]
          dsimp only
          omega
      | lastBuffer hlast => exact absurd hlast hnone

theorem Booked.handle (hbooked : Booked s) {arrival : Arrival}
    (hlate : startsLate arrival.event s.inst = false) : Booked (s.handle arrival) := by
  obtain ⟨t, hturns, heq⟩ := handle_turns hbooked.gen arrival
  have hstep : SubStep s.inst (s.handle arrival).inst := by
    rw [heq]
    exact hturns.subStep
  refine ⟨hstep.gen.trans hbooked.gen, hstep.domain.trans hbooked.domain, ?_⟩
  refine hbooked.books.imp (fun hbooks => hbooks.handle hbooked.gen hlate fun _ => by decide)
    fun hover => ⟨?_, (hover.free.handle (by rw [hover.state]; decide) arrival).1, ?_⟩
  · exact hstep.state.elim (fun h => h.trans hover.state) id
  · rw [heq]
    have hafter : LastsBounded t :=
      hturns.bounded (by rw [hover.free.returnsLast]; decide) hover.bounded
    exact hafter

/-- After the wait STREAMON of OUTPUT has nothing more to wait for. -/
def outputRestarts (call : InstCall) (timedOut : Bool) (inst : Inst) : Bool :=
  match call with
  | .setProperties => hasFlag inst.subState subLoadResources
  | .sessionStart => !timedOut
  | _ => false

/-- The runs in which nothing that is pending is given a second last buffer. -/
def onceOnly : Allowed Session InstCall Arrival QueueCall where
  event arrival s := startsLate arrival.event s.inst = false
  call _ s := SessionIdle s
  resume call timedOut s :=
    outputRestarts call timedOut s.inst = true → lastPending s.inst = false

theorem Parked.stable : Lib.Stable sessionMachine onceOnly (Parked parks) := by
  intro arrival s hlate hparked
  refine ⟨hparked.toBooked.handle hlate, fun hparks hidle => ?_⟩
  have hsettles : Settles (fun _ => True) s.inst (handleEvent arrival.event s.inst) :=
    (handleEvent_steps arrival.event s.inst).settles trivial
  have hstreaming : s.inst.streaming .capture = false := by
    rw [← hsettles.streaming]
    exact hidle
  exact hsettles.empty (hparked.empty hparks hstreaming)

theorem Starting.stable : Lib.Stable sessionMachine onceOnly (Starting mask) := by
  intro arrival s hlate hstarting
  obtain ⟨t, hturns, heq⟩ := handle_turns hstarting.gen arrival
  have hstep : SubStep s.inst (s.handle arrival).inst := by
    rw [heq]
    exact hturns.subStep
  obtain ⟨hfree, hstate⟩ := hstarting.free.handle hstarting.state arrival
  have hbooks : LastBooks mask (s.handle arrival) :=
    hstarting.books.handle hstarting.gen hlate fun hlast => by
      rw [hstarting.free.returnsLast] at hlast
      cases hlast
  exact ⟨⟨hstep.gen.trans hstarting.gen, hstep.domain.trans hstarting.domain, hfree, hbooks⟩,
    hstate⟩

/-! ### Commands -/

theorem LeavesLast.completion (s : Session) (completion : Nat) :
    LeavesLast s { s with flushCompletion := completion } :=
  ⟨rfl, rfl, id, rfl, fun _ _ _ => rfl, id, rfl, rfl, rfl, fun _ _ => id, fun _ _ => id⟩

theorem LeavesLast.flush (s : Session) :
    LeavesLast s (s.acceptFlush.onInst fun inst =>
      { inst with flushResponsesPending := inst.flushResponsesPending + 1 }) :=
  ⟨rfl, rfl, id, rfl, fun _ _ _ => rfl, id, rfl, rfl, rfl, fun _ _ => id, fun _ _ => id⟩

theorem LeavesLast.load (s : Session) : LeavesLast s (s.changeSubState 0 subLoadResources).2 :=
  .changeSubState s (by decide) (by decide)

theorem LeavesLast.unload (s : Session) : LeavesLast s (s.changeSubState subLoadResources 0).2 :=
  .changeSubState s (by decide) (by decide)

theorem Booked.afterClose (hbooked : Booked s) : Booked s.afterClose where
  gen := hbooked.gen
  domain := hbooked.domain
  books := by
    refine hbooked.books.imp (fun hbooks => ?_)
      fun hover => ⟨hover.state, hover.free, hover.bounded⟩
    have hbits : ∀ i, s.afterClose.inst.subState.getLsbD i = false := fun _ => BitVec.getLsbD_zero
    unfold LastBooks
    rw [hbits, hbits, lastGiven_false rfl]
    exact hbooks.bounded

theorem Parked.enduring : Enduring onceOnly (fun _ => LastsBounded) (Parked parks) where
  stable := Parked.stable
  inv _ _ hparked := hparked.bounded
  error _ hparked := hparked.leaves (.unwinds (Unwinds.refl _).enterError)
  completion s completion hparked := hparked.leaves (.completion s completion)
  load s hparked := hparked.leaves (.load s)
  unload s hparked := hparked.leaves (.unload s)
  flush s hparked := hparked.leaves (.flush s)
  returned _ hparked := hparked.leaves (.unwinds (Unwinds.refl _).returnAllBuffers)
  unwinds _ _ hunwinds hparked := hparked.leaves (.unwinds hunwinds)
  change s state hparked := hparked.leaves (.changeState s state)
  close _ hparked := ⟨hparked.toBooked.afterClose, hparked.empty⟩

theorem Starting.unwinds (hstarting : Starting mask s) {inst : Inst}
    (hunwinds : Unwinds s.inst inst) : Starting mask { s with inst } := by
  refine hstarting.leaves (.unwinds hunwinds) ?_
  obtain h | h := hunwinds.state <;> rw [h]
  · exact hstarting.state
  · decide

theorem changeSubState_state (s : Session) (clear set : SubState) :
    (s.changeSubState clear set).2.inst.state = s.inst.state :=
  irisInstChangeSubState_state clear set s.inst

theorem Starting.commanded : Commanded onceOnly (fun _ => LastsBounded) (Starting mask) where
  stable := Starting.stable
  inv _ _ hstarting := hstarting.books.bounded
  error _ hstarting := hstarting.unwinds (Unwinds.refl _).enterError
  completion s completion hstarting := hstarting.leaves (.completion s completion) hstarting.state
  load s hstarting := hstarting.leaves (.load s) (by
    rw [changeSubState_state]
    exact hstarting.state)
  unload s hstarting := hstarting.leaves (.unload s) (by
    rw [changeSubState_state]
    exact hstarting.state)
  flush s hstarting := hstarting.leaves (.flush s) hstarting.state
  returned _ hstarting := hstarting.unwinds (Unwinds.refl _).returnAllBuffers

theorem Starting.hfiSessionOpen (hstarting : Starting mask s) (env : InstEnv) :
    Sat sessionMachine onceOnly (fun _ => LastsBounded) (fun _ => Starting mask)
      (Session.irisHfiSessionOpen env s) := by
  refine Starting.commanded.hfiSessionOpen (fun _ s hstarting => ?_) (fun s hstarting => ?_) env
    hstarting
  · exact hstarting.unwinds
      (KeepsControl.unwinds ⟨rfl, rfl, .inl rfl, rfl, rfl, id, rfl, rfl⟩ rfl rfl)
  · refine hstarting.leaves (.changeState s .init) ?_
    unfold irisInstChangeState
    split_ifs <;> first | exact hstarting.state | nofun

/-! ### STREAMON of OUTPUT -/

theorem lastPending_changeSubState {inst : Inst} {clear set : SubState}
    (hclear : ∀ i < 5, i ≠ 0 → clear.getLsbD i = false)
    (hset : ∀ i < 5, i ≠ 0 → set.getLsbD i = false) :
    lastPending (irisInstChangeSubState clear set inst).2 = lastPending inst := by
  have hbits := irisInstChangeSubState_bits inst hclear hset
  have hlast : (irisInstChangeSubState clear set inst).2.lastBufferDequeued =
      inst.lastBufferDequeued := by
    obtain ⟨_, heq⟩ := irisInstChangeSubState_frame clear set inst
    rw [heq]
  simp only [lastPending, irisDrcPending_bits, irisDrainPending_bits, hlast,
    hbits 1 (by decide) (by decide), hbits 2 (by decide) (by decide),
    hbits 3 (by decide) (by decide), hbits 4 (by decide) (by decide)]

/-- Nothing that is pending has been given, so the flag may be taken back. -/
theorem Parked.reset (hparked : Parked parks s) (hclean : lastPending s.inst = false) :
    Parked parks (s.onInst fun inst => { inst with lastBufferDequeued := false }) where
  gen := hparked.gen
  domain := hparked.domain
  books := hparked.books.imp (fun hbooks => by
      have hgiven := (lastGiven_both s.inst).trans hclean
      unfold LastBooks at *
      rw [hgiven] at hbooks
      exact hbooks.trans (Nat.le_add_right _ _)) fun hover =>
    ⟨hover.state, hover.free, hover.bounded⟩
  empty := hparked.empty

/-- Before the last section of STREAMON of OUTPUT. -/
def Clean (parks : Prop) (s : Session) : Prop := Parked parks s ∧ lastPending s.inst = false

theorem Clean.changeSubState (hclean : Clean parks s) {clear set : SubState}
    (hclear : ∀ i < 5, i ≠ 0 → clear.getLsbD i = false)
    (hset : ∀ i < 5, i ≠ 0 → set.getLsbD i = false) :
    Clean parks (s.changeSubState clear set).2 :=
  ⟨hclean.1.leaves (.changeSubState s hclear hset),
    (lastPending_changeSubState hclear hset).trans hclean.2⟩

theorem streamonInputStarted_parked (env : InstEnv) (hclean : Clean parks s) :
    Sat sessionMachine onceOnly (fun _ => LastsBounded) (fun _ => Parked parks)
      (Session.streamonInputStarted env s) := by
  unfold Session.streamonInputStarted
  refine orGoto_keep (Q := Clean parks) ?_ (fun _ _ hclean => hclean.1) fun s hclean => ?_
  · split_ifs
    · exact hclean.changeSubState (by decide) (by decide)
    · exact hclean
  refine orGoto_value_rule (fun _ => hclean.1) fun _ => ?_
  have hmoved : Clean parks { s with inst := (irisInstStateChangeStreamon .output s.inst).2 } := by
    refine ⟨hclean.1.leaves (.changeState s _), ?_⟩
    unfold irisInstStateChangeStreamon
    obtain ⟨state, heq⟩ := irisInstChangeState_frame _ s.inst
    rw [heq]
    exact hclean.2
  refine orGoto_keep (Q := Clean parks) hmoved (fun _ _ hclean => hclean.1) fun s hclean => ?_
  refine (hclean.1.reset hclean.2).leaves (.changeSubState _ (by decide) ?_)
  split_ifs <;> decide

/-- The sections of `session_start`, from what was given before the last one. -/
theorem sessionStart_clean (env : InstEnv) (hparked : Parked parks s)
    (hloaded : hasFlag s.inst.subState subLoadResources = true → lastPending s.inst = false) :
    Sat sessionMachine onceOnly (fun _ => LastsBounded)
      (fun ret s => Parked parks s ∧ (ret = 0 → lastPending s.inst = false))
      (Session.sessionStart env .output s) := by
  unfold Session.sessionStart Session.irisHfiGen1SessionStart
  rw [hparked.gen]
  dsimp only
  split_ifs with hload
  · exact ⟨hparked, fun _ => hloaded hload⟩
  · refine Sat.orGoto (Parked.enduring.sessionCommand env _ hparked)
      (fun _ s hret hparked => ⟨hparked, fun h => absurd h hret⟩) fun s hparked => ?_
    have hstarted : Sat sessionMachine onceOnly (fun _ => LastsBounded)
        (fun ret s => Parked parks s ∧ (ret = 0 → lastPending s.inst = false))
        (Session.sessionCommand env .sessionStart s) := by
      refine orGoto_value_rule (fun hret => ⟨hparked, fun h => absurd h hret⟩) fun _ => ?_
      refine Parked.enduring.wait_end (fun _ hparked => hparked.bounded) hparked
        fun timedOut t completion ht hallowed => ?_
      cases timedOut with
      | true =>
          exact ⟨ht.leaves (.unwinds (Unwinds.refl _).enterError), fun h => absurd h (by decide)⟩
      | false => exact ⟨ht, fun _ => hallowed rfl⟩
    refine Sat.orGoto hstarted (fun _ _ hret hs => ⟨hs.1, fun h => absurd h hret⟩) fun s hs => ?_
    have hclean : Clean parks s := ⟨hs.1, hs.2 rfl⟩
    have hafter : Clean parks (s.changeSubState 0 subLoadResources).2 :=
      hclean.changeSubState (by decide) (by decide)
    exact ⟨hafter.1, fun _ => hafter.2⟩

theorem streamonInput_parked (env : InstEnv) (hparked : Parked parks s) :
    Sat sessionMachine onceOnly (fun _ => LastsBounded) (fun _ => Parked parks)
      (Session.irisStreamonInput env s) := by
  have hbegun : Parked parks (s.onInst fun inst =>
      { inst with streamoffPending := false, corruptOutputDrops := 0, pendingOutput := none }) :=
    hparked.leaves (.unwinds
      (KeepsControl.unwinds ⟨rfl, rfl, .inl rfl, rfl, rfl, id, rfl, rfl⟩ rfl rfl))
  have hset : Sat sessionMachine onceOnly (fun _ => LastsBounded)
      (fun _ s => Parked parks s ∧
        (hasFlag s.inst.subState subLoadResources = true → lastPending s.inst = false))
      (Session.waitingCall env .setProperties (s.onInst fun inst =>
        { inst with streamoffPending := false, corruptOutputDrops := 0, pendingOutput := none })) :=
    Parked.enduring.wait_end (fun _ hparked => hparked.bounded) hbegun
      fun _ _ _ ht hallowed => ⟨ht, hallowed⟩
  unfold Session.irisStreamonInput
  rw [hparked.domain]
  refine Sat.orGoto hset (fun _ _ _ hs => hs.1) fun s hs => ?_
  refine orGoto_value_rule (fun _ => hs.1) fun _ => ?_
  have hcleared : Parked parks (s.onInst fun inst => { inst with streamoffPending := false }) :=
    hs.1.leaves (.unwinds
      (KeepsControl.unwinds ⟨rfl, rfl, .inl rfl, rfl, rfl, id, rfl, rfl⟩ rfl rfl))
  exact Sat.orGoto (sessionStart_clean env hcleared hs.2) (fun _ _ _ hs => hs.1)
    fun s hs => streamonInputStarted_parked env ⟨hs.1, hs.2 rfl⟩

/-! ### STREAMON of CAPTURE -/

/-- The last section: the flag goes with the bits of what it decided was pending. -/
theorem Unfed.restarted (hunfed : Unfed mask s) {bits : SubState}
    (hdrc : mask.getLsbD 1 = true → bits.getLsbD 1 = true)
    (hdrain : mask.getLsbD 3 = true → bits.getLsbD 3 = true) :
    Booked ((s.onInst fun inst => { inst with lastBufferDequeued := false }).changeSubState
      bits 0).2 := by
  have hinst : ((s.onInst fun inst => { inst with lastBufferDequeued := false }).changeSubState
      bits 0).2.inst = if s.inst.state = .error then { s.inst with lastBufferDequeued := false }
        else { s.inst with lastBufferDequeued := false, subState := s.inst.subState &&& ~~~bits } :=
    congrArg Prod.snd (irisInstChangeSubState_clears bits _)
  split_ifs at hinst with herror
  · -- nothing is cleared in the error state, and nothing comes back any more
    refine ⟨by rw [hinst]; exact hunfed.gen, by rw [hinst]; exact hunfed.domain, .inr ⟨?_, ?_, ?_⟩⟩
    · rw [hinst]
      exact herror
    · rw [hinst]
      exact hunfed.free
    · exact hunfed.books.bounded
  · have hsub := congrArg Inst.subState hinst
    refine ⟨by rw [hinst]; exact hunfed.gen, by rw [hinst]; exact hunfed.domain, .inl ?_⟩
    refine (hunfed.books.taken (fun hgiven => ?_) hsub rfl rfl rfl).both
    simp only [lastGiven, irisDrcPending_bits, irisDrainPending_bits, Bool.and_eq_true,
      Bool.or_eq_true] at hgiven
    exact hgiven.2.imp (fun h => ⟨h.1.1, hdrc h.2⟩) fun h => ⟨h.1.1, hdrain h.2⟩

theorem processStreamonOutput_booked (env : InstEnv)
    (hstarting : Starting (subDrc ||| subDrain) s) :
    Sat sessionMachine onceOnly (fun _ => LastsBounded) (fun _ => Booked)
      (Session.irisProcessStreamonOutput env s) := by
  have hstarted : ∀ active clear s, Starting clear s →
      Sat sessionMachine onceOnly (fun _ => LastsBounded) (fun _ => Booked)
        (Session.streamonOutputStarted env active clear s) := by
    intro active clear s hstarting
    unfold Session.streamonOutputStarted
    refine orGoto_value_rule (fun _ => hstarting.booked) fun _ => ?_
    refine Sat.orGoto (Starting.commanded.sessionStart env .capture hstarting)
      (fun _ _ _ hstarting => hstarting.booked) fun s hstarting => ?_
    refine orGoto_keep (Q := Unfed clear) (hstarting.toUnfed.leaves (.changeState s _))
      (fun _ _ hunfed => hunfed.booked) fun s hunfed => ?_
    refine hunfed.restarted (fun hbit => ?_) fun hbit => ?_
    · rw [BitVec.getLsbD_or, BitVec.getLsbD_or, BitVec.getLsbD_or, hbit]
      rfl
    · rw [BitVec.getLsbD_or, BitVec.getLsbD_or, BitVec.getLsbD_or, hbit]
      rfl
  have hpending : Starting (Session.pendingClear s.inst) s :=
    ⟨⟨hstarting.gen, hstarting.domain, hstarting.free, hstarting.books.pending⟩, hstarting.state⟩
  unfold Session.irisProcessStreamonOutput
  dsimp only
  split_ifs
  · exact Sat.orGoto (Starting.commanded.streamonInputInternal env hpending)
      (fun _ _ _ hstarting => hstarting.booked) (hstarted _ _)
  · have hidle : Sat sessionMachine onceOnly (fun _ => LastsBounded)
        (fun _ => Starting (Session.pendingClear s.inst)) (.done (0 : Int) s) := hpending
    exact Sat.orGoto hidle (fun _ _ _ hstarting => hstarting.booked) (hstarted _ _)

theorem Booked.unparked (hbooked : Booked s) : Parked False s := ⟨hbooked, False.elim⟩

theorem LeavesLast.rollback (s : Session) (rollback : Option Plane) :
    LeavesLast s (s.onInst fun inst => { inst with startStreamingRollbackType := rollback }) :=
  ⟨rfl, rfl, id, rfl, fun _ _ _ => rfl, id, rfl, rfl, rfl, fun _ _ => id, fun _ _ => id⟩

theorem streamonRollback_booked (env : InstEnv) (ret : Int) (hbooked : Booked s) :
    Sat sessionMachine onceOnly (fun _ => LastsBounded) (fun _ => Booked)
      (Session.streamonRollback env ret s) :=
  (Parked.enduring.sessionStreamoff env .capture
    (hbooked.leaves (.rollback s (some .capture))).unparked).bind fun _ s hparked =>
      hparked.toBooked.leaves (.rollback s none)

theorem streamonOutput_booked (env : InstEnv) (hstarting : Starting (subDrc ||| subDrain) s) :
    Sat sessionMachine onceOnly (fun _ => LastsBounded) (fun _ => Booked)
      (Session.irisStreamonOutput env s) := by
  have hbegun : Starting (subDrc ||| subDrain)
      (s.onInst fun inst => { inst with streamoffPending := false }) :=
    hstarting.unwinds (KeepsControl.unwinds ⟨rfl, rfl, .inl rfl, rfl, rfl, id, rfl, rfl⟩ rfl rfl)
  unfold Session.irisStreamonOutput
  rw [hstarting.domain]
  refine Sat.orGoto (Starting.commanded.waitingCall env _ hbegun)
    (fun _ _ _ hstarting => hstarting.booked) fun s hstarting => ?_
  refine orGoto_value_rule (fun _ => hstarting.booked) fun _ => ?_
  refine Sat.orGoto (processStreamonOutput_booked env hstarting)
    (fun ret _ _ => streamonRollback_booked env ret) fun s hbooked => ?_
  exact orGoto_value_rule (fun _ => streamonRollback_booked env _ hbooked) fun _ => hbooked

/-! ### Buffers handed over -/

theorem vb2BufQueue_last {plane : Plane} {i : Nat} {inst : Inst}
    (howned : driverOwns inst.log plane i = false) (hlast : queueReturnsLast plane inst = true)
    (ret : Int) (data : QbufData) :
    (vb2BufQueue ret plane i data inst).lastBufferDequeued = true := by
  simp only [queueReturnsLast, Bool.and_eq_true, bne_iff_ne, beq_iff_eq, Bool.not_eq_true'] at hlast
  obtain ⟨⟨⟨hstate, rfl⟩, hnone⟩, hpending⟩ := hlast
  unfold vb2BufQueue irisVb2BufQueue
  split_ifs with howns herror hempty hgiven
  · rw [howned] at howns
    cases howns
  · exact absurd herror hstate
  · cases hempty.2
  · rfl
  · exact absurd ⟨by rw [Bool.not_eq_true']; exact hnone, rfl, hpending⟩ hgiven

theorem vb2BufQueue_error {inst : Inst} (herror : inst.state = .error) (ret : Int) (plane : Plane)
    (i : Nat) (data : QbufData) :
    (vb2BufQueue ret plane i data inst).ready = inst.ready ∧
      (vb2BufQueue ret plane i data inst).buf = inst.buf := by
  have hfailed : ((inst.setVbufFlags plane i data.flags).record (.handed plane i)).state = .error :=
    herror
  unfold vb2BufQueue irisVb2BufQueue
  rw [if_pos hfailed, bufQueueFail, enterError_eq]
  split_ifs
  · exact ⟨rfl, rfl⟩
  · exact ⟨rfl, rfl⟩

theorem Booked.bufQueue (hbooked : Booked s) (ret : Int) (plane : Plane) (i : Nat)
    (data : QbufData) : Booked (s.vb2BufQueue ret plane i data) := by
  have hkeeps := KeepsControl.bufQueue ret plane i data s.inst
  have hover : ∀ change, LastsOver s → (change = id ∨ s.inst.state ≠ .error) →
      LastsOver ((s.count change).onInst (vb2BufQueue ret plane i data)) := by
    intro change hover hchange
    obtain rfl := hchange.resolve_right (not_not.2 hover.state)
    obtain ⟨hready, hbuf⟩ := vb2BufQueue_error hover.state ret plane i data
    refine ⟨hkeeps.state.elim (fun h => h.trans hover.state) id, ?_, hover.bounded⟩
    intro k hk
    change k ∈ (vb2BufQueue ret plane i data s.inst).ready .capture at hk
    change ¬((vb2BufQueue ret plane i data s.inst).buf .capture k).Busy
    rw [hready] at hk
    rw [hbuf]
    exact hover.free k hk
  unfold Session.vb2BufQueue Session.countIf
  split_ifs with hcount
  · simp only [Bool.and_eq_true, Bool.not_eq_true'] at hcount
    obtain ⟨howned, hlast⟩ := hcount
    refine ⟨hkeeps.gen.trans hbooked.gen, hkeeps.domain.trans hbooked.domain, ?_⟩
    have hafter := vb2BufQueue_last howned hlast ret data
    simp only [queueReturnsLast, Bool.and_eq_true, bne_iff_ne, beq_iff_eq,
      Bool.not_eq_true'] at hlast
    obtain ⟨⟨⟨hstate, -⟩, hnone⟩, hpending⟩ := hlast
    refine hbooked.books.imp (fun hbooks => ?_) fun hfailed => absurd hfailed.state hstate
    have hgiven : lastPending (vb2BufQueue ret plane i data s.inst) = true := by
      simp only [lastPending, irisDrcPending, irisDrainPending, hkeeps.subState, hafter]
      exact hpending
    unfold LastBooks at *
    rw [lastGiven_false hnone, Bool.toNat_false] at hbooks
    change s.tally.lastsDone + 1 +
      ((vb2BufQueue ret plane i data s.inst).subState.getLsbD 1).toNat +
      ((vb2BufQueue ret plane i data s.inst).subState.getLsbD 3).toNat ≤
        s.tally.stopsAccepted + s.tally.changesArmed +
          (lastGiven _ (vb2BufQueue ret plane i data s.inst)).toNat
    rw [lastGiven_both, hgiven, hkeeps.subState, Bool.toNat_true]
    omega
  · refine ⟨hkeeps.gen.trans hbooked.gen, hkeeps.domain.trans hbooked.domain, ?_⟩
    refine hbooked.books.imp (fun hbooks => ?_) fun hfailed => hover id hfailed (.inl rfl)
    exact hbooks.same (fun _ _ _ => by
      change (vb2BufQueue ret plane i data s.inst).subState.getLsbD _ = _
      rw [hkeeps.subState]) hkeeps.last rfl rfl rfl

theorem Parked.bufQueue (hparked : Parked parks s) (ret : Int) {plane : Plane} (i : Nat)
    (data : QbufData) (hplane : plane = .capture → s.inst.streaming .capture = true) :
    Parked parks (s.vb2BufQueue ret plane i data) := by
  have hhands := vb2BufQueue_handsOver ret plane i data s.inst
  have hinst : (s.vb2BufQueue ret plane i data).inst = vb2BufQueue ret plane i data s.inst := by
    unfold Session.vb2BufQueue Session.countIf
    split_ifs <;> rfl
  refine ⟨hparked.toBooked.bufQueue ret plane i data, fun hparks hidle => ?_⟩
  rw [hinst] at hidle ⊢
  rw [hhands.streaming] at hidle
  rw [hhands.others .capture fun h => by rw [hplane h.symm] at hidle; cases hidle]
  exact hparked.empty hparks hidle

theorem Parked.handOver (hparked : Parked parks s) (bufs : List (Nat × QbufData)) :
    Parked parks (s.vb2HandOver .output bufs) := by
  unfold Session.vb2HandOver
  induction bufs generalizing s with
  | nil => exact hparked
  | cons buf rest ih => exact ih (hparked.bufQueue _ _ _ nofun)

/-- CAPTURE is given its buffers before it is started. -/
structure Waiting (s : Session) : Prop extends Booked s where
  idle : s.inst.streaming .capture = false
  free : Unsubmitted .capture s.inst
  state : s.inst.state ≠ .streaming

theorem Waiting.bufQueue (hwaiting : Waiting s) (i : Nat) (data : QbufData) :
    Waiting (s.vb2BufQueue 0 .capture i data) := by
  have hhands := vb2BufQueue_handsOver 0 .capture i data s.inst
  have hinst : (s.vb2BufQueue 0 .capture i data).inst = vb2BufQueue 0 .capture i data s.inst := by
    unfold Session.vb2BufQueue Session.countIf
    split_ifs <;> rfl
  refine ⟨hwaiting.toBooked.bufQueue 0 .capture i data, ?_, ?_, ?_⟩
  · rw [hinst, hhands.streaming]
    exact hwaiting.idle
  · rw [hinst]
    exact hwaiting.free.bufQueue hwaiting.idle i data
  · rw [hinst]
    exact hhands.state.elim (fun h => h ▸ hwaiting.state) fun h => by rw [h]; decide

theorem Waiting.handOver (hwaiting : Waiting s) (bufs : List (Nat × QbufData)) :
    Waiting (s.vb2HandOver .capture bufs) := by
  unfold Session.vb2HandOver
  induction bufs generalizing s with
  | nil => exact hwaiting
  | cons buf rest ih => exact ih (hwaiting.bufQueue _ _)

/-! ### Calls -/

theorem SessionIdle.tells (hidle : SessionIdle s) :
    s.inst.state = .error ∨ StateTells s.inst none := by
  obtain ⟨x, hheld, hmatch⟩ := hidle
  exact hheld.tells hmatch

theorem Untouched.queueDeferred {s t : Inst} (huntouched : Untouched .capture s t)
    (ret : Nat → Int) (indices : List Nat) :
    Untouched .capture s (queueDeferred ret .output indices t).2 := by
  induction indices generalizing t with
  | nil => exact huntouched
  | cons i rest ih =>
      rw [queueDeferred_cons]
      split_ifs
      · exact ih (huntouched.queueBuffer _ nofun)
      · exact huntouched
      · exact ih huntouched

/-- A failed session gives no buffer of CAPTURE to the firmware. -/
theorem startDeferred_free {inst : Inst} (hfree : Unsubmitted .capture inst)
    (hdomain : inst.domain = .decoder) (herror : inst.state = .error) (env : InstEnv)
    (plane : Plane) : Unsubmitted .capture (startDeferred env plane inst).2 := by
  have hsame : Untouched .capture inst inst := ⟨.refl _, rfl, hfree, rfl⟩
  have hkeeps : KeepsControl inst inst := .refl inst
  unfold startDeferred
  rw [hdomain]
  let Failed (t : Inst) : Prop := t.state = .error ∧ Unsubmitted .capture t
  refine orGoto_keep (Q := Failed) (P := fun r : Int × Inst => Unsubmitted .capture r.2) ?_
    (fun _ _ hfailed => hfailed.2) fun t hfailed => ?_
  · cases plane with
    | capture => exact ⟨herror, hfree⟩
    | output =>
        have hstate :=
          (hkeeps.queueDeferred (env.queueRet .output) .output (inst.ready .output)).state
        exact ⟨hstate.elim (fun h => h.trans herror) id, (hsame.queueDeferred _ _).free⟩
  · rw [hfailed.1, if_neg (by decide)]
    exact hfailed.2

theorem Booked.startDeferred (hbooked : Booked s) (env : InstEnv) (plane : Plane) :
    Booked { s with inst := (startDeferred env plane s.inst).2 } := by
  have hkeeps := (KeepsControl.refl s.inst).startDeferred env plane
  refine ⟨hkeeps.gen.trans hbooked.gen, hkeeps.domain.trans hbooked.domain, ?_⟩
  refine hbooked.books.imp (fun hbooks => hbooks.same (fun _ _ _ => by rw [hkeeps.subState])
    hkeeps.last rfl rfl rfl) fun hover => ⟨?_, ?_, hover.bounded⟩
  · exact hkeeps.state.elim (fun h => h.trans hover.state) id
  · exact startDeferred_free hover.free hbooked.domain hover.state env plane

theorem Booked.setStreaming (hbooked : Booked s) (plane : Plane) (streaming : Bool) :
    Booked (s.onInst (·.setStreaming plane streaming)) where
  gen := hbooked.gen
  domain := hbooked.domain
  books := hbooked.books.imp (fun hbooks => hbooks.same (fun _ _ _ => rfl) id rfl rfl rfl)
    fun hover => ⟨hover.state, hover.free, hover.bounded⟩

theorem startError_booked (plane : Plane) (ret : Int) (hbooked : Booked s) :
    Sat sessionMachine onceOnly (fun _ => LastsBounded)
      (fun _ t => Booked t ∧ t.inst.ready plane = []) (Session.startError plane ret s) := by
  refine ⟨hbooked.leaves (.unwinds ((Unwinds.refl _).buffersDone plane .queued).enterError), ?_⟩
  change (irisHelperBuffersDone plane .queued s.inst).enterError.ready plane = []
  rw [enterError_eq]
  exact irisHelperBuffersDone_ready plane .queued s.inst

theorem startOutput_parked (env : InstEnv) (hparked : Parked parks s) :
    Sat sessionMachine onceOnly (fun _ => LastsBounded) (fun _ => Parked parks)
      (Session.irisVb2StartStreaming env .output s) := by
  have herror : ∀ ret s, Parked parks s → Sat sessionMachine onceOnly (fun _ => LastsBounded)
      (fun _ => Parked parks) (Session.startError .output ret s) := fun ret s hparked =>
    hparked.leaves (.unwinds ((Unwinds.refl _).buffersDone .output .queued).enterError)
  unfold Session.irisVb2StartStreaming
  split_ifs
  · exact herror _ s hparked
  · refine orGoto_value_rule (fun _ => herror _ s hparked) fun _ => ?_
    refine Sat.orGoto (Parked.enduring.hfiSessionOpen env hparked) (fun ret s _ => herror ret s)
      fun s hparked => ?_
    refine Sat.orGoto (streamonInput_parked env hparked) (fun ret s _ => herror ret s)
      fun s hparked => ?_
    have hdeferred : Parked parks { s with inst := (startDeferred env .output s.inst).2 } := by
      refine ⟨hparked.toBooked.startDeferred env .output, fun hparks hidle => ?_⟩
      rw [((KeepsControl.refl s.inst).startDeferred env .output).streaming] at hidle
      rw [(startDeferred_grows env .capture .output s.inst).2]
      exact hparked.empty hparks hidle
    exact orGoto_keep (Q := Parked parks) hdeferred herror fun _ => id

theorem startCapture_booked (env : InstEnv) (hwaiting : Waiting s) :
    Sat sessionMachine onceOnly (fun _ => LastsBounded)
      (fun ret t => Booked t ∧ (ret ≠ 0 → t.inst.ready .capture = []))
      (Session.irisVb2StartStreaming env .capture s) := by
  have herror : ∀ ret s, Booked s → Sat sessionMachine onceOnly (fun _ => LastsBounded)
      (fun ret t => Booked t ∧ (ret ≠ 0 → t.inst.ready .capture = []))
      (Session.startError .capture ret s) := fun ret s hbooked =>
    (startError_booked .capture ret hbooked).mono fun _ _ h => ⟨h.1, fun _ => h.2⟩
  unfold Session.irisVb2StartStreaming
  split_ifs with hfailed
  · exact herror _ s hwaiting.toBooked
  · have hstarting : Starting (subDrc ||| subDrain) s :=
      ⟨⟨hwaiting.gen, hwaiting.domain, hwaiting.free,
        hwaiting.books.resolve_right fun hover => hfailed hover.state⟩, hwaiting.state⟩
    refine orGoto_value_rule (fun _ => herror _ s hwaiting.toBooked) fun _ => ?_
    refine Sat.orGoto (hstarting.hfiSessionOpen env)
      (fun ret s _ hstarting => herror ret s hstarting.booked) fun s hstarting => ?_
    refine Sat.orGoto (streamonOutput_booked env hstarting) (fun ret s _ => herror ret s)
      fun s hbooked => ?_
    exact orGoto_keep (Q := Booked) (hbooked.startDeferred env .capture) herror
      fun _ hbooked => ⟨hbooked, fun h => absurd rfl h⟩

theorem streamon_parked (env : InstEnv) (plane : Plane) (bufs : List (Nat × QbufData))
    (hidle : SessionIdle s) (hparked : Parked True s) (hstopped : s.inst.streaming plane = false) :
    Sat sessionMachine onceOnly (fun _ => LastsBounded) (fun _ => Parked True)
      (Session.vb2Streamon env plane bufs s) := by
  cases plane with
  | output =>
      refine (startOutput_parked env (hparked.handOver bufs)).bind fun ret s hparked => ?_
      have hstarted : Parked True (s.onInst (·.setStreaming .output true)) :=
        ⟨hparked.toBooked.setStreaming .output true, hparked.empty⟩
      cases hret : decide (ret = 0) with
      | true => exact hstarted
      | false => exact hparked
  | capture =>
      have hstate : s.inst.state ≠ .streaming := by
        intro hstreaming
        obtain herror | htells := hidle.tells
        · rw [hstreaming] at herror
          cases herror
        · have hcapture := htells .capture nofun
          rw [hstopped, hstreaming] at hcapture
          cases hcapture
      have hwaiting : Waiting s := by
        refine ⟨hparked.toBooked, hstopped, fun i hi => ?_, hstate⟩
        rw [hparked.empty trivial hstopped] at hi
        cases hi
      refine (startCapture_booked env (hwaiting.handOver bufs)).bind fun ret s hends => ?_
      obtain ⟨hbooked, hempty⟩ := hends
      by_cases hret : ret = 0
      · rw [decide_eq_true hret]
        exact ⟨hbooked.setStreaming .capture true, fun _ (hidle : true = false) => nomatch hidle⟩
      · rw [decide_eq_false hret]
        exact ⟨hbooked, fun _ _ => hempty hret⟩

theorem streamoff_parked (env : InstEnv) (plane : Plane) (hidle : SessionIdle s)
    (hparked : Parked True s) (hstreaming : s.inst.streaming plane = true) :
    Sat sessionMachine onceOnly (fun _ => LastsBounded) (fun _ => Parked True)
      (Session.vb2Streamoff env plane s) := by
  unfold Session.vb2Streamoff Session.irisVb2StopStreaming
  split_ifs with hinit
  · -- CAPTURE is streaming, so the state is not INIT
    obtain ⟨rfl, hinit⟩ := hinit
    obtain herror | htells := hidle.tells
    · rw [hinit] at herror
      cases herror
    · have hcapture := htells .capture nofun
      rw [hstreaming, hinit] at hcapture
      cases hcapture
  · have hcleared : Parked True (s.onInst fun inst =>
        inst.applyIf (inst.domain == .decoder && plane == .capture) irisVdecClearPendingOutput) :=
      hparked.leaves (.unwinds ((Unwinds.refl _).applyIf _ fun _ =>
        KeepsControl.unwinds ⟨rfl, rfl, .inl rfl, rfl, rfl, id, rfl, rfl⟩ rfl rfl))
    have hstop : Sat sessionMachine onceOnly (fun _ => LastsBounded)
        (fun _ t => Parked True (t.onInst (·.setStreaming plane false)))
        ((Session.irisSessionStreamoff env plane (s.onInst fun inst =>
          inst.applyIf (inst.domain == .decoder && plane == .capture)
            irisVdecClearPendingOutput)).bind fun ret s =>
          .done ret (s.onInst fun inst =>
            (irisHelperBuffersDone plane .error inst).applyIf (ret ≠ 0) Inst.enterError)) := by
      refine (Parked.enduring.sessionStreamoff env plane hcleared).bind fun ret s hparked => ?_
      have hdone : Parked True (s.onInst fun inst =>
          (irisHelperBuffersDone plane .error inst).applyIf (ret ≠ 0) Inst.enterError) :=
        hparked.leaves (.unwinds (((Unwinds.refl _).buffersDone plane .error).applyIf _
          Unwinds.enterError))
      refine ⟨hdone.toBooked.setStreaming plane false, fun hparks hidle => ?_⟩
      cases plane with
      | output => exact hdone.empty hparks hidle
      | capture =>
          have hready := ((Unwinds.refl (irisHelperBuffersDone .capture .error s.inst)).applyIf
            (decide (ret ≠ 0)) Unwinds.enterError).ready .capture
          rw [irisHelperBuffersDone_ready] at hready
          exact List.subset_nil.1 hready
    exact hstop.bind fun _ _ hparked => hparked

theorem body_parked (call : QueueCall) (hidle : SessionIdle s) (hparked : Parked True s) :
    Sat sessionMachine onceOnly (fun _ => LastsBounded) (fun _ => Parked True)
      (Session.body call s) := by
  cases call with
  | reqbufs env =>
      change Sat _ _ _ _ (Session.irisVb2QueueSetup env s)
      unfold Session.irisVb2QueueSetup
      split_ifs
      · exact hparked
      · exact orGoto_value_rule (fun _ => hparked) fun _ =>
          Parked.enduring.hfiSessionOpen env hparked
  | qbuf ret plane i data =>
      change Parked True (if s.inst.streaming plane then s.vb2BufQueue ret plane i data else s)
      split_ifs with hstreaming
      · exact hparked.bufQueue ret i data fun h => h ▸ hstreaming
      · exact hparked
  | streamon env plane bufs =>
      unfold Session.body
      dsimp only
      split_ifs with hstreaming
      · exact hparked
      · exact streamon_parked env plane bufs hidle hparked (Bool.eq_false_iff.2 hstreaming)
  | streamoff env plane =>
      unfold Session.body
      dsimp only
      split_ifs with hstreaming
      · exact streamoff_parked env plane hidle hparked hstreaming
      · exact hparked

end Sections

/-- The move takes the flag back only with what is pending, or when nothing that is pending was
given. -/
def TakesFairly (config : Config Session InstCall Int) : SessionMove → Prop
  | .event arrival => startsLate arrival.event config.state.inst = false
  | .call _ => True
  | .resume timedOut => ∀ waiting ∈ config.thread,
      outputRestarts waiting.1 timedOut config.state.inst = true →
        lastPending config.state.inst = false

instance (config : Config Session InstCall Int) (move : SessionMove) :
    Decidable (TakesFairly config move) :=
  match move with
  | .event _ => inferInstanceAs (Decidable (_ = _))
  | .call _ => inferInstanceAs (Decidable True)
  | .resume _ => inferInstanceAs (Decidable (∀ waiting ∈ config.thread, _))

/-- No START in the error state and no STREAMON of OUTPUT takes the flag of a pending last buffer
back. -/
def LastsKept (s : Session) (moves : List SessionMove) : Prop :=
  ∀ pre move, pre ++ [move] <+: moves → TakesFairly (sessionMachine.runs s pre) move

theorem FreshDecoder.parked {inst : Inst} (hfresh : FreshDecoder inst) :
    Parked True (.opened inst) := by
  have hbits : ∀ i, (Session.opened inst).inst.subState.getLsbD i = false := by
    intro i
    change inst.subState.getLsbD i = false
    rw [hfresh.subState]
    exact BitVec.getLsbD_zero
  refine ⟨⟨hfresh.gen, hfresh.domain, .inl ?_⟩, fun _ _ => ?_⟩
  · unfold LastBooks
    rw [hbits, hbits]
    exact Nat.zero_le _
  · change inst.ready .capture = []
    rw [hfresh.ready]

/-- **A last buffer for each drain and each source change**, in every run that keeps the flag. -/
theorem lasts_bounded {inst : Inst} (hfresh : FreshDecoder inst) {moves : List SessionMove}
    (hkept : LastsKept (.opened inst) moves) :
    ∀ pre, pre <+: moves → LastsBounded (sessionAfter (.opened inst) pre) := by
  intro pre hpre
  have hvalid := @Machine.runs_valid _ _ _ _ _ sessionMachine onceOnly (fun _ => LastsBounded)
    (Parked True) Parked.stable (fun call _ hidle hparked => body_parked call hidle hparked) _
    hfresh.parked pre fun mid move hmid => by
      have hfair := hkept mid move (hmid.trans hpre)
      cases move with
      | event arrival => exact hfair
      | call op => exact fun hnone => hfresh.session_idle mid hnone
      | resume timedOut => exact fun call next hthread => hfair _ hthread
  exact hvalid.elim (R := fun _ => LastsBounded)
    (fun s (hparked : Parked True s) => hparked.bounded) fun _ _ hbounded => hbounded

/-- A drain to its last buffer. -/
def drained : List SessionMove :=
  outputStarted ++ [.call (.streamon undisturbed .capture [(0, frameData)]), .resume false,
    stopMove plainCmd false, endOfStreamMove, flushResponseMove true]

/-- START after a drain, and another drain. -/
def drainedTwice : List SessionMove :=
  drained ++ [.event { event := .cmd plainCmd .start, answers := false },
    .call (.qbuf 0 .capture 0 frameData), stopMove plainCmd false, endOfStreamMove]

theorem drained_twice_bounded :
    LastsBounded (sessionAfter (.opened (openedDecoder .gen1 .h264 true)) drainedTwice) :=
  lasts_bounded (openedDecoder_freshDecoder .h264 true) (snoc_prefixes_iff.2 (by decide))
    drainedTwice List.prefix_rfl

/-- STREAMOFF and STREAMON of OUTPUT after a drain, and a buffer for CAPTURE. -/
def drainedRestarted : List SessionMove :=
  drained ++ [.call (.streamoff undisturbed .output), flushResponseMove true, .resume false,
    .call (.streamon undisturbed .output [(0, frameData)]), .resume false,
    .call (.qbuf 0 .capture 0 frameData)]

/-- One STOP, and two last buffers. -/
theorem second_last_buffer :
    ¬LastsBounded (sessionAfter (.opened (openedDecoder .gen1 .h264 true)) drainedRestarted) := by
  unfold LastsBounded
  decide

end NabuIris
