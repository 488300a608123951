import Mathlib.Data.List.Induction
import Mathlib.Data.List.Nodup
import NabuIris.SurfaceFences

/-!
# The life of a surface fence

Every fence that is made is either pending or let go of, and signalled on the way if it was
attached: `FencesKept` says so in counts of the kernel calls, which every command keeps.
-/

namespace NabuIris

/-- `dma_resv_add_fence` of this fence, on whatever dma-buf. -/
def FenceCall.adds (seqno : Nat) : FenceCall → Bool
  | .addFence _ other => other == seqno
  | _ => false

namespace FenceInst

variable {s : FenceInst} {token : BitVec 64}

def pendingCount (seqno : Nat) (s : FenceInst) : Nat :=
  s.surfaceFences.countP fun fence => fence.seqno == seqno

/-! ### What a command can do -/

/-- What becomes of an instance by an ATTACH. -/
inductive AttachResult (token : BitVec 64) (s : FenceInst) : Int × FenceInst → Prop
  | refused {ret : Int} (hret : ret ≠ 0) : AttachResult token s (ret, s)
  | noMemory (buf : Nat) :
      AttachResult token s
        (-enomem, { s with calls := s.calls ++ [.dmaBufGet buf, .dmaBufPut buf] })
  | noFence (buf : Nat) {ret : Int} (hret : ret ≠ 0) :
      AttachResult token s
        (ret,
          { s with
            surfaceFenceSeqno := s.surfaceFenceSeqno + 1
            calls := s.calls ++ [.dmaBufGet buf, .fenceInit (s.surfaceFenceSeqno + 1),
              .fencePut (s.surfaceFenceSeqno + 1), .dmaBufPut buf] })
  | attached (buf : Nat) (htoken : token ≠ 0)
      (hnew : ∀ fence ∈ s.surfaceFences, fence.token ≠ token) :
      AttachResult token s
        (0,
          { s with
            surfaceFences := s.surfaceFences ++ [{ token, seqno := s.surfaceFenceSeqno + 1 }]
            surfaceFenceSeqno := s.surfaceFenceSeqno + 1
            resv := Function.update s.resv buf (some (s.surfaceFenceSeqno + 1))
            calls := s.calls ++ [.dmaBufGet buf, .fenceInit (s.surfaceFenceSeqno + 1),
              .addFence buf (s.surfaceFenceSeqno + 1), .dmaBufPut buf] })

theorem attachFence_result (env : AttachEnv) (buf : Nat) (htoken : token ≠ 0)
    (hnew : ∀ fence ∈ s.surfaceFences, fence.token ≠ token) :
    AttachResult token s (attachFence env buf token (s.call (.dmaBufGet buf))) := by
  have hfailed : ∀ ret : Int, ret ≠ 0 → AttachResult token s
      (putFence buf (s.surfaceFenceSeqno + 1) ret
        (call (.fenceInit (s.surfaceFenceSeqno + 1))
          { s.call (.dmaBufGet buf) with surfaceFenceSeqno := s.surfaceFenceSeqno + 1 })) := by
    intro ret hret
    have hresult : AttachResult token s _ := .noFence buf hret
    simpa [putFence, putDmabuf, call] using hresult
  have hdone := AttachResult.attached buf htoken hnew
  unfold attachFence
  refine orGoto_value_rule (hfailed env.lockRet) fun _ => ?_
  refine orGoto_value_rule (hfailed env.reserveRet) fun _ => ?_
  simpa [dmaResvAddFence, call] using hdone

theorem irisSurfaceFenceAttach_result (env : AttachEnv) (fd : Int) (token : BitVec 64)
    (s : FenceInst) : AttachResult token s (s.irisSurfaceFenceAttach env fd token) := by
  unfold irisSurfaceFenceAttach
  by_cases hargs : fd < 0 ∨ token = 0
  · rw [if_pos hargs]
    exact .refused (by decide)
  rw [if_neg hargs]
  by_cases hknown : (s.surfaceFences.any fun pending => pending.token == token) = true
  · rw [if_pos hknown]
    exact .refused (by decide)
  · rw [if_neg hknown]
    have htoken : token ≠ 0 := fun h => hargs (.inr h)
    have hnew : ∀ fence ∈ s.surfaceFences, fence.token ≠ token := by
      intro fence hfence heq
      exact hknown (List.any_eq_true.2 ⟨fence, hfence, beq_iff_eq.2 heq⟩)
    cases env.dmaBufGet with
    | error ret => exact .refused (Int.ne_of_lt ret.2)
    | ok buf =>
        simp only
        split_ifs with hmemory
        · have hresult : AttachResult token s _ := .noMemory buf
          simpa [putDmabuf, call] using hresult
        · exact attachFence_result env buf htoken hnew

/-- What becomes of an instance by a SIGNAL. -/
inductive SignalResult (token : BitVec 64) (s : FenceInst) : Int × FenceInst → Prop
  | missing (hnone : ∀ fence ∈ s.surfaceFences, fence.token ≠ token) :
      SignalResult token s (-enoent, s)
  | signalled (before after : List SurfaceFence) (fence : SurfaceFence)
      (hpending : s.surfaceFences = before ++ fence :: after) (htoken : fence.token = token) :
      SignalResult token s
        (0,
          { s with
            surfaceFences := before ++ after
            calls := s.calls ++ [.fenceSignal fence.seqno, .fencePut fence.seqno] })

theorem irisSurfaceFenceSignal_result (token : BitVec 64) (s : FenceInst) :
    SignalResult token s (s.irisSurfaceFenceSignal token) := by
  unfold irisSurfaceFenceSignal
  cases hfind : s.surfaceFences.find? fun fence => fence.token == token with
  | none =>
      refine .missing fun fence hfence heq => ?_
      exact List.find?_eq_none.1 hfind fence hfence (beq_iff_eq.2 heq)
  | some fence =>
      obtain ⟨htoken, before, after, hsplit, hbefore⟩ := List.find?_eq_some_iff_append.1 hfind
      have herase : s.surfaceFences.eraseP (fun fence => fence.token == token) =
          before ++ after := by
        rw [hsplit,
          List.eraseP_append_right _ fun other hother => by simpa using hbefore other hother,
          List.eraseP_cons, htoken]
        rfl
      have hresult := SignalResult.signalled before after fence hsplit (beq_iff_eq.1 htoken)
      simpa [irisSurfaceFenceComplete, call, herase] using hresult

/-! ### The invariant -/

structure FencesKept (s : FenceInst) : Prop where
  tokens : (s.surfaceFences.map SurfaceFence.token).Nodup
  nonZero : ∀ fence ∈ s.surfaceFences, fence.token ≠ 0
  fresh : ∀ n, s.surfaceFenceSeqno < n → s.calls.count (.fenceInit n) = 0
  inits : ∀ n, s.calls.count (.fenceInit n) ≤ 1
  added : ∀ n, s.calls.countP (FenceCall.adds n) ≤ s.calls.count (.fenceInit n)
  puts : ∀ n, s.calls.count (.fencePut n) + s.pendingCount n = s.calls.count (.fenceInit n)
  signals : ∀ n,
    s.calls.count (.fenceSignal n) + s.pendingCount n = s.calls.countP (FenceCall.adds n)
  bufs : ∀ buf, s.calls.count (.dmaBufGet buf) = s.calls.count (.dmaBufPut buf)

section Counts

variable (hkept : FencesKept s)
include hkept

/-- A fence that is not made yet has left no trace. -/
theorem FencesKept.unmade {n : Nat} (hn : s.surfaceFenceSeqno < n) :
    s.calls.count (.fencePut n) = 0 ∧ s.calls.count (.fenceSignal n) = 0 ∧
      s.pendingCount n = 0 ∧ s.calls.countP (FenceCall.adds n) = 0 := by
  have hfresh := hkept.fresh n hn
  have hputs := hkept.puts n
  have hadded := hkept.added n
  have hsignals := hkept.signals n
  omega

theorem FencesKept.attached {buf n : Nat} (hadd : .addFence buf n ∈ s.calls) :
    s.calls.countP (FenceCall.adds n) = 1 := by
  have hpos : 0 < s.calls.countP (FenceCall.adds n) :=
    List.countP_pos_iff.2 ⟨_, hadd, beq_self_eq_true n⟩
  have hadded := hkept.added n
  have hinits := hkept.inits n
  omega

end Counts

/-- What a command adds to the calls settles what it does to the pending fences. -/
structure Settled (s t : FenceInst) (new : List FenceCall) : Prop where
  calls : t.calls = s.calls ++ new
  seqno : s.surfaceFenceSeqno ≤ t.surfaceFenceSeqno
  made : ∀ n, 0 < new.count (.fenceInit n) → s.surfaceFenceSeqno < n ∧ n ≤ t.surfaceFenceSeqno
  once : ∀ n, new.count (.fenceInit n) ≤ 1
  added : ∀ n, new.countP (FenceCall.adds n) ≤ new.count (.fenceInit n)
  puts : ∀ n, new.count (.fencePut n) + t.pendingCount n =
    new.count (.fenceInit n) + s.pendingCount n
  signals : ∀ n, new.count (.fenceSignal n) + t.pendingCount n =
    new.countP (FenceCall.adds n) + s.pendingCount n
  bufs : ∀ buf, new.count (.dmaBufGet buf) = new.count (.dmaBufPut buf)

theorem FencesKept.step (hkept : FencesKept s) {t : FenceInst} {new : List FenceCall}
    (hsettled : Settled s t new) (htokens : (t.surfaceFences.map SurfaceFence.token).Nodup)
    (hnonZero : ∀ fence ∈ t.surfaceFences, fence.token ≠ 0) : FencesKept t := by
  refine ⟨htokens, hnonZero, fun n hn => ?_, fun n => ?_, fun n => ?_, fun n => ?_, fun n => ?_,
    fun buf => ?_⟩ <;>
    simp only [hsettled.calls, List.count_append, List.countP_append]
  · have hold := hkept.fresh n (Nat.lt_of_le_of_lt hsettled.seqno hn)
    have hmade := hsettled.made n
    omega
  · have hold := hkept.inits n
    have hfresh := hkept.fresh n
    have hmade := hsettled.made n
    have honce := hsettled.once n
    omega
  · have hold := hkept.added n
    have hadded := hsettled.added n
    omega
  · have hold := hkept.puts n
    have hputs := hsettled.puts n
    omega
  · have hold := hkept.signals n
    have hsignals := hsettled.signals n
    omega
  · rw [hkept.bufs buf, hsettled.bufs buf]

theorem fencesKept_opened (domain : Domain) : FencesKept (opened domain) where
  tokens := List.nodup_nil
  nonZero := nofun
  fresh _ _ := rfl
  inits _ := Nat.zero_le 1
  added _ := Nat.le_refl 0
  puts _ := rfl
  signals _ := rfl
  bufs _ := rfl

theorem AttachResult.settled {result : Int × FenceInst} (hresult : AttachResult token s result) :
    ∃ new, Settled s result.2 new := by
  cases hresult with
  | refused _ =>
      exact ⟨[], by simp, Nat.le_refl _, by simp, by simp, by simp, by simp, by simp, by simp⟩
  | noMemory buf =>
      refine ⟨_, rfl, Nat.le_refl _, ?_, ?_, ?_, ?_, ?_, ?_⟩ <;>
        simp [List.count_cons, FenceCall.adds, pendingCount]
  | noFence buf _ =>
      refine ⟨_, rfl, Nat.le_succ _, fun n hn => ?_, ?_, ?_, ?_, ?_, ?_⟩
      · have hmade := List.count_pos_iff.1 hn
        simp at hmade
        simp only
        omega
      all_goals intro n; simp [List.count_cons, FenceCall.adds, pendingCount]
      split_ifs <;> simp
  | attached buf htoken hnew =>
      refine ⟨_, rfl, Nat.le_succ _, fun n hn => ?_, ?_, ?_, ?_, ?_, ?_⟩
      · have hmade := List.count_pos_iff.1 hn
        simp at hmade
        simp only
        omega
      all_goals intro n; simp [List.count_cons, FenceCall.adds, pendingCount, List.countP_cons]
      · split_ifs <;> simp
      · omega
      · omega

theorem FencesKept.attach (hkept : FencesKept s) {result : Int × FenceInst}
    (hresult : AttachResult token s result) : FencesKept result.2 := by
  obtain ⟨new, hsettled⟩ := hresult.settled
  cases hresult with
  | refused _ => exact hkept
  | noMemory buf => exact hkept.step hsettled hkept.tokens hkept.nonZero
  | noFence buf _ => exact hkept.step hsettled hkept.tokens hkept.nonZero
  | attached buf htoken hnew =>
      refine hkept.step hsettled ?_ fun fence hfence => ?_
      · rw [List.map_append, List.map_singleton, ← List.concat_eq_append]
        refine hkept.tokens.concat fun hmem => ?_
        obtain ⟨fence, hfence, heq⟩ := List.mem_map.1 hmem
        exact hnew fence hfence heq
      · rcases List.mem_append.1 hfence with hold | hlast
        · exact hkept.nonZero fence hold
        · rw [List.mem_singleton.1 hlast]
          exact htoken

theorem pendingCount_split {before after : List SurfaceFence} {fence : SurfaceFence}
    (hpending : s.surfaceFences = before ++ fence :: after) (n : Nat) :
    s.pendingCount n = (if fence.seqno = n then 1 else 0) +
      (before ++ after).countP fun fence => fence.seqno == n := by
  rw [pendingCount, hpending, List.countP_append, List.countP_append, List.countP_cons]
  simp only [beq_iff_eq]
  omega

/-- A pending fence is signalled, let go of and taken from the list. -/
theorem settled_complete {before after : List SurfaceFence} {fence : SurfaceFence}
    (hpending : s.surfaceFences = before ++ fence :: after) :
    Settled s
      { s with
        surfaceFences := before ++ after
        calls := s.calls ++ [.fenceSignal fence.seqno, .fencePut fence.seqno] }
      [.fenceSignal fence.seqno, .fencePut fence.seqno] := by
  refine ⟨rfl, Nat.le_refl _, ?_, ?_, ?_, fun n => ?_, fun n => ?_, ?_⟩
  · simp
  · simp
  · simp [FenceCall.adds]
  · rw [pendingCount_split hpending]
    simp [List.count_cons, pendingCount]
  · rw [pendingCount_split hpending]
    simp [List.count_cons, FenceCall.adds, pendingCount]
  · simp

theorem FencesKept.complete (hkept : FencesKept s) {before after : List SurfaceFence}
    {fence : SurfaceFence} (hpending : s.surfaceFences = before ++ fence :: after) :
    FencesKept
      { s with
        surfaceFences := before ++ after
        calls := s.calls ++ [.fenceSignal fence.seqno, .fencePut fence.seqno] } := by
  have hsub : (before ++ after).Sublist s.surfaceFences := by
    rw [hpending]
    exact List.Sublist.append_left (List.sublist_cons_self fence after) before
  exact hkept.step (settled_complete hpending) (hkept.tokens.sublist (hsub.map _))
    fun other hother => hkept.nonZero other (hsub.subset hother)

theorem FencesKept.signal (hkept : FencesKept s) {result : Int × FenceInst}
    (hresult : SignalResult token s result) : FencesKept result.2 := by
  cases hresult with
  | missing _ => exact hkept
  | signalled before after fence hpending _ => exact hkept.complete hpending

theorem FencesKept.command (hkept : FencesKept s) (cmd : AttachEnv × FenceCmd) :
    FencesKept (s.command cmd) := by
  unfold FenceInst.command irisVidiocDefault
  split_ifs
  · exact hkept
  · exact hkept
  · exact hkept.attach (irisSurfaceFenceAttach_result _ _ _ s)
  · exact hkept.signal (irisSurfaceFenceSignal_result _ s)
  · exact hkept

theorem fencesAfter_kept (domain : Domain) (cmds : List (AttachEnv × FenceCmd)) :
    FencesKept (fencesAfter domain cmds) := by
  induction cmds using List.reverseRecOn with
  | nil => exact fencesKept_opened domain
  | append_singleton cmds cmd ih =>
      rw [fencesAfter, List.foldl_append]
      exact ih.command cmd

/-! ### Closing -/

theorem FencesKept.signalAll {fences : List SurfaceFence} (hkept : FencesKept s)
    (hpending : s.surfaceFences = fences) :
    FencesKept (signalAll fences s) ∧ (signalAll fences s).surfaceFences = [] ∧
      ∀ n, (FenceInst.signalAll fences s).calls.countP (FenceCall.adds n) =
        s.calls.countP (FenceCall.adds n) := by
  induction fences generalizing s with
  | nil => exact ⟨hkept, hpending, fun _ => rfl⟩
  | cons fence rest ih =>
      have hsplit : s.surfaceFences = [] ++ fence :: rest := hpending
      have hdone := hkept.complete hsplit
      have hstep : ({ s with surfaceFences := rest }.irisSurfaceFenceComplete fence) =
          { s with
            surfaceFences := [] ++ rest
            calls := s.calls ++ [.fenceSignal fence.seqno, .fencePut fence.seqno] } := by
        simp [irisSurfaceFenceComplete, call]
      obtain ⟨hkept', hnone, hadds⟩ := ih hdone rfl
      rw [FenceInst.signalAll, hstep]
      refine ⟨hkept', hnone, fun n => (hadds n).trans ?_⟩
      simp [List.countP_append, FenceCall.adds]

/-! ### What the client relies on -/

/-- Everything that was taken between two states has been given back, and no fence was attached. -/
structure Released (s t : FenceInst) : Prop where
  pending : t.surfaceFences = s.surfaceFences
  resv : t.resv = s.resv
  bufs : ∀ buf, t.calls.count (.dmaBufGet buf) + s.calls.count (.dmaBufPut buf) =
    s.calls.count (.dmaBufGet buf) + t.calls.count (.dmaBufPut buf)
  fences : ∀ n, t.calls.count (.fenceInit n) + s.calls.count (.fencePut n) =
    s.calls.count (.fenceInit n) + t.calls.count (.fencePut n)
  added : ∀ n, t.calls.countP (FenceCall.adds n) = s.calls.countP (FenceCall.adds n)

/-- A fence has been made, added to a dma-buf and put behind the pending ones. -/
structure Attached (s t : FenceInst) (fence : SurfaceFence) (buf : Nat) : Prop where
  made : s.calls.count (.fenceInit fence.seqno) = 0 ∧ t.calls.count (.fenceInit fence.seqno) = 1
  pending : t.surfaceFences = s.surfaceFences ++ [fence]
  added : .addFence buf fence.seqno ∈ t.calls
  resv : t.resv = Function.update s.resv buf (some fence.seqno)

/-- The fence has been signalled, and its creation reference dropped, so many times. -/
structure Completed (s : FenceInst) (seqno times : Nat) : Prop where
  signalled : s.calls.count (.fenceSignal seqno) = times
  put : s.calls.count (.fencePut seqno) = times

structure FencesSound (s : FenceInst) : Prop where
  tokens : (s.surfaceFences.map SurfaceFence.token).Nodup
  nonZero : ∀ fence ∈ s.surfaceFences, fence.token ≠ 0
  failed : ∀ env fd token, (s.irisSurfaceFenceAttach env fd token).1 ≠ 0 →
    Released s (s.irisSurfaceFenceAttach env fd token).2
  attached : ∀ env fd token, (s.irisSurfaceFenceAttach env fd token).1 = 0 →
    ∃ fence buf, fence.token = token ∧
      Attached s (s.irisSurfaceFenceAttach env fd token).2 fence buf
  pending : ∀ fence ∈ s.surfaceFences, s.Completed fence.seqno 0
  settled : ∀ buf seqno, .addFence buf seqno ∈ s.calls →
    (∀ fence ∈ s.surfaceFences, fence.seqno ≠ seqno) → s.Completed seqno 1
  signal : ∀ fence ∈ s.surfaceFences,
    (s.irisSurfaceFenceSignal fence.token).1 = 0 ∧
      (s.irisSurfaceFenceSignal fence.token).2.Completed fence.seqno 1
  closed : ∀ buf seqno, .addFence buf seqno ∈ s.calls → s.close.Completed seqno 1
  bufs : ∀ buf, s.calls.count (.dmaBufGet buf) = s.calls.count (.dmaBufPut buf)

theorem AttachResult.released {result : Int × FenceInst} (hresult : AttachResult token s result)
    (hfailed : result.1 ≠ 0) : Released s result.2 := by
  cases hresult with
  | refused _ => exact ⟨rfl, rfl, fun _ => rfl, fun _ => rfl, fun _ => rfl⟩
  | noMemory buf =>
      refine ⟨rfl, rfl, fun other => ?_, fun n => ?_, fun n => ?_⟩
      · simp [List.count_cons]
        omega
      · simp
      · simp [FenceCall.adds]
  | noFence buf _ =>
      refine ⟨rfl, rfl, fun other => ?_, fun n => ?_, fun n => ?_⟩
      · simp [List.count_cons]
        omega
      · simp [List.count_cons]
        omega
      · simp [FenceCall.adds]
  | attached buf _ _ => exact absurd rfl hfailed

theorem FencesKept.attachedTo (hkept : FencesKept s) {result : Int × FenceInst}
    (hresult : AttachResult token s result) (hret : result.1 = 0) :
    ∃ fence buf, fence.token = token ∧ Attached s result.2 fence buf := by
  cases hresult with
  | refused hne => exact absurd hret hne
  | noMemory buf => exact absurd hret (by decide : -enomem ≠ 0)
  | noFence buf hne => exact absurd hret hne
  | attached buf htoken hnew =>
      have hfresh := hkept.fresh _ (Nat.lt_succ_self s.surfaceFenceSeqno)
      refine ⟨⟨token, s.surfaceFenceSeqno + 1⟩, buf, rfl, ⟨hfresh, ?_⟩, rfl, ?_, rfl⟩
      · simp [List.count_append, hfresh]
      · simp

theorem FencesKept.pending (hkept : FencesKept s) {fence : SurfaceFence}
    (hfence : fence ∈ s.surfaceFences) : s.Completed fence.seqno 0 := by
  have hpos : 0 < s.pendingCount fence.seqno :=
    List.countP_pos_iff.2 ⟨fence, hfence, beq_self_eq_true _⟩
  have hputs := hkept.puts fence.seqno
  have hsignals := hkept.signals fence.seqno
  have hadded := hkept.added fence.seqno
  have honce := hkept.inits fence.seqno
  exact ⟨by omega, by omega⟩

theorem FencesKept.settled (hkept : FencesKept s) {buf seqno : Nat}
    (hadd : .addFence buf seqno ∈ s.calls)
    (hdone : ∀ fence ∈ s.surfaceFences, fence.seqno ≠ seqno) : s.Completed seqno 1 := by
  have hnone : s.pendingCount seqno = 0 :=
    List.countP_eq_zero.2 fun fence hfence heq => hdone fence hfence (beq_iff_eq.1 heq)
  have hattached := hkept.attached hadd
  have hputs := hkept.puts seqno
  have hsignals := hkept.signals seqno
  have hadded := hkept.added seqno
  have honce := hkept.inits seqno
  exact ⟨by omega, by omega⟩

theorem FencesKept.signalled (hkept : FencesKept s) {fence : SurfaceFence}
    (hfence : fence ∈ s.surfaceFences) {result : Int × FenceInst}
    (hresult : SignalResult fence.token s result) :
    result.1 = 0 ∧ result.2.Completed fence.seqno 1 := by
  have hbefore := hkept.pending hfence
  cases hresult with
  | missing hnone => exact absurd rfl (hnone fence hfence)
  | signalled before after other hpending htoken =>
      have hother : other ∈ s.surfaceFences := by
        rw [hpending]
        exact List.mem_append_right _ List.mem_cons_self
      obtain rfl : other = fence := List.inj_on_of_nodup_map hkept.tokens hother hfence htoken
      refine ⟨rfl, ?_, ?_⟩
      · simp [List.count_append, hbefore.signalled]
      · simp [List.count_append, hbefore.put]

theorem FencesKept.closed (hkept : FencesKept s) {buf seqno : Nat}
    (hadd : .addFence buf seqno ∈ s.calls) : s.close.Completed seqno 1 := by
  obtain ⟨hclosed, hnone, hadds⟩ := hkept.signalAll rfl
  have hattached := hkept.attached hadd
  have hpos : 0 < s.close.calls.countP (FenceCall.adds seqno) := by
    have hsame : s.close.calls.countP (FenceCall.adds seqno) = _ := hadds seqno
    omega
  obtain ⟨call, hcall, hadds'⟩ := List.countP_pos_iff.1 hpos
  cases call with
  | addFence other n =>
      obtain rfl : n = seqno := beq_iff_eq.1 hadds'
      refine hclosed.settled hcall fun fence hfence => ?_
      rw [hnone] at hfence
      exact absurd hfence List.not_mem_nil
  | _ => exact absurd hadds' Bool.false_ne_true

/-- **The life of a surface fence.** Whatever commands came, and whatever failed in them. -/
theorem fences_sound (domain : Domain) (cmds : List (AttachEnv × FenceCmd)) :
    FencesSound (fencesAfter domain cmds) := by
  have hkept := fencesAfter_kept domain cmds
  exact
    { tokens := hkept.tokens
      nonZero := hkept.nonZero
      failed := fun env fd token hfailed =>
        (irisSurfaceFenceAttach_result env fd token _).released hfailed
      attached := fun env fd token hret =>
        hkept.attachedTo (irisSurfaceFenceAttach_result env fd token _) hret
      pending := fun _ hfence => hkept.pending hfence
      settled := fun _ _ hadd hdone => hkept.settled hadd hdone
      signal := fun fence hfence =>
        hkept.signalled hfence (irisSurfaceFenceSignal_result fence.token _)
      closed := fun _ _ hadd => hkept.closed hadd
      bufs := hkept.bufs }

end FenceInst

end NabuIris
