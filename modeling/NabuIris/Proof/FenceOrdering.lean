import NabuIris.Lib.Run
import NabuIris.Proof.FenceLifecycle

/-!
# Who waits for a surface

A reservation object keeps one fence of a context. A consumer of a dma-buf waits for the token that
was attached to it last, so that this one has to be signalled last, too.
-/

namespace NabuIris

open Lib

namespace FenceInst

variable {s : FenceInst}

/-- A consumer that waits for the write fences of a dma-buf does not proceed. -/
def Blocked (s : FenceInst) (buf : Nat) : Prop :=
  ∃ seqno, s.resv buf = some seqno ∧ .fenceSignal seqno ∉ s.calls

/-- No consumer gets past a token that is pending on its dma-buf. -/
def Guarded (s : FenceInst) : Prop :=
  ∀ buf, ∀ fence ∈ s.surfaceFences, .addFence buf fence.seqno ∈ s.calls → s.Blocked buf

/-- The command is a SIGNAL that gets as far as the list. -/
def signals (s : FenceInst) (cmd : FenceCmd) : Bool :=
  cmd.request == vidiocIrisSurfaceFence && s.domain == .decoder && cmd.validPrio &&
    cmd.op == irisSurfaceFenceSignalOp

/-- A SIGNAL for the last token of a dma-buf finds no other one pending on it. -/
def LastAlone (s : FenceInst) (cmd : FenceCmd) : Prop :=
  s.signals cmd = true → ∀ fence ∈ s.surfaceFences, fence.token = cmd.token →
    ∀ buf, s.resv buf = some fence.seqno →
      ∀ other ∈ s.surfaceFences, .addFence buf other.seqno ∈ s.calls → other = fence

/-! ### One command -/

/-- Calls that attach and signal nothing leave everybody waiting. -/
theorem Guarded.append (hguarded : s.Guarded) {t : FenceInst} {new : List FenceCall}
    (hpending : t.surfaceFences = s.surfaceFences) (hresv : t.resv = s.resv)
    (hcalls : t.calls = s.calls ++ new) (hadds : ∀ buf seqno, .addFence buf seqno ∉ new)
    (hsignals : ∀ seqno, .fenceSignal seqno ∉ new) : t.Guarded := by
  intro buf fence hfence hadd
  rw [hpending] at hfence
  rw [hcalls] at hadd
  have hold : .addFence buf fence.seqno ∈ s.calls :=
    (List.mem_append.1 hadd).resolve_right (hadds buf fence.seqno)
  obtain ⟨seqno, hlast, hsignal⟩ := hguarded buf fence hfence hold
  refine ⟨seqno, hresv ▸ hlast, fun hmem => ?_⟩
  rw [hcalls] at hmem
  exact (List.mem_append.1 hmem).elim hsignal (hsignals seqno)

theorem Guarded.attach (hguarded : s.Guarded) (hkept : FencesKept s) {token : BitVec 64}
    {result : Int × FenceInst} (hresult : AttachResult token s result) : result.2.Guarded := by
  cases hresult with
  | refused _ => exact hguarded
  | noMemory buf => exact hguarded.append rfl rfl rfl (by simp) (by simp)
  | noFence buf _ => exact hguarded.append rfl rfl rfl (by simp) (by simp)
  | attached buf htoken hnew =>
      have hseqno : s.surfaceFenceSeqno < s.surfaceFenceSeqno + 1 := Nat.lt_succ_self _
      obtain ⟨-, hsignals, -, hadds⟩ := hkept.unmade hseqno
      intro other fence hfence hadd
      by_cases hbuf : other = buf
      · subst hbuf
        refine ⟨s.surfaceFenceSeqno + 1, Function.update_self _ _ _, fun hsignal => ?_⟩
        have hold : .fenceSignal (s.surfaceFenceSeqno + 1) ∈ s.calls := by simpa using hsignal
        exact absurd (List.count_pos_iff.2 hold) (by omega)
      · have hold : .addFence other fence.seqno ∈ s.calls := by
          simpa [hbuf] using hadd
        have hother : fence.seqno ≠ s.surfaceFenceSeqno + 1 := by
          intro heq
          rw [heq] at hold
          have hpos : 0 < s.calls.countP (FenceCall.adds (s.surfaceFenceSeqno + 1)) :=
            List.countP_pos_iff.2 ⟨_, hold, beq_self_eq_true _⟩
          omega
        have holdFence : fence ∈ s.surfaceFences := by
          rcases List.mem_append.1 hfence with h | h
          · exact h
          · exact absurd (congrArg SurfaceFence.seqno (List.mem_singleton.1 h)) hother
        obtain ⟨seqno, hlast, hsignal⟩ := hguarded other fence holdFence hold
        refine ⟨seqno, ?_, by simpa using hsignal⟩
        simpa [Function.update_of_ne hbuf] using hlast

/-- After a SIGNAL everybody still waits exactly if the token was not the last one of a dma-buf on
which others are pending. -/
theorem signal_guarded_iff (hkept : FencesKept s) (hguarded : s.Guarded)
    {before after : List SurfaceFence} {fence : SurfaceFence}
    (hpending : s.surfaceFences = before ++ fence :: after) :
    Guarded
        { s with
          surfaceFences := before ++ after
          calls := s.calls ++ [.fenceSignal fence.seqno, .fencePut fence.seqno] } ↔
      ∀ buf, s.resv buf = some fence.seqno →
        ∀ other ∈ s.surfaceFences, .addFence buf other.seqno ∈ s.calls → other = fence := by
  have hrest : ∀ other ∈ s.surfaceFences, other ≠ fence → other ∈ before ++ after := by
    intro other hother hne
    rw [hpending] at hother
    simpa [hne] using hother
  constructor
  · intro hafter buf hlast other hother hadd
    by_contra hne
    obtain ⟨seqno, hlast', hsignal⟩ := hafter buf other (hrest other hother hne)
      (List.mem_append_left _ hadd)
    have hseqno : seqno = fence.seqno := Option.some.inj (hlast'.symm.trans hlast)
    subst hseqno
    exact hsignal (by simp)
  · intro halone buf other hother hadd
    have hnodup : (before ++ fence :: after).Nodup := hpending ▸ hkept.tokens.of_map _
    have hmem : other ∈ s.surfaceFences := by
      rw [hpending]
      simp only [List.mem_append, List.mem_cons] at hother ⊢
      tauto
    have hold : .addFence buf other.seqno ∈ s.calls := by simpa using hadd
    obtain ⟨seqno, hlast, hsignal⟩ := hguarded buf other hmem hold
    refine ⟨seqno, hlast, fun hnew => ?_⟩
    have hseqno : seqno = fence.seqno := by simpa [hsignal] using hnew
    have heq : other = fence := halone buf (hseqno ▸ hlast) other hmem hold
    exact (List.nodup_middle.1 hnodup).notMem (heq ▸ hother)

theorem command_guarded_iff (hkept : FencesKept s) (hguarded : s.Guarded)
    (cmd : AttachEnv × FenceCmd) : (s.command cmd).Guarded ↔ s.LastAlone cmd.2 := by
  by_cases hsignals : s.signals cmd.2 = true
  · have hcommand : s.command cmd = (s.irisSurfaceFenceSignal cmd.2.token).2 := by
      simp only [FenceInst.signals, Bool.and_eq_true, beq_iff_eq] at hsignals
      obtain ⟨⟨⟨hrequest, hdomain⟩, hprio⟩, hop⟩ := hsignals
      simp [command, irisVidiocDefault, hrequest, hdomain, hprio, hop, irisSurfaceFenceAttachOp,
        irisSurfaceFenceSignalOp]
    rw [hcommand]
    generalize hresult : s.irisSurfaceFenceSignal cmd.2.token = result
    have hshape := irisSurfaceFenceSignal_result cmd.2.token s
    rw [hresult] at hshape
    cases hshape with
    | missing hnone =>
        exact ⟨fun _ _ fence hfence heq => absurd heq (hnone fence hfence), fun _ => hguarded⟩
    | signalled before after fence hpending htoken =>
        have hfence : fence ∈ s.surfaceFences := by
          rw [hpending]
          exact List.mem_append_right _ List.mem_cons_self
        rw [signal_guarded_iff hkept hguarded hpending]
        constructor
        · intro halone _ other hother heq
          obtain rfl : other = fence :=
            List.inj_on_of_nodup_map hkept.tokens hother hfence (heq.trans htoken.symm)
          exact halone
        · exact fun halone => halone hsignals fence hfence htoken
  · refine ⟨fun _ h => absurd h hsignals, fun _ => ?_⟩
    have hother : s.command cmd = s ∨
        s.command cmd = (s.irisSurfaceFenceAttach cmd.1 cmd.2.dmabufFd cmd.2.token).2 := by
      unfold command irisVidiocDefault
      split_ifs with hrequest hprio hattach hop
      · exact .inl rfl
      · exact .inl rfl
      · exact .inr rfl
      · refine absurd ?_ hsignals
        simp_all [FenceInst.signals]
      · exact .inl rfl
    rcases hother with heq | heq
    · rw [heq]
      exact hguarded
    · rw [heq]
      exact hguarded.attach hkept (irisSurfaceFenceAttach_result _ _ _ s)

/-! ### Runs -/

/-- **Surface fence ordering.** Consumers wait for every pending token exactly in the runs that
signal the last token of a dma-buf last. -/
theorem consumers_wait_iff (domain : Domain) (cmds : List (AttachEnv × FenceCmd)) :
    (∀ pre, pre <+: cmds → (fencesAfter domain pre).Guarded) ↔
      ∀ pre cmd, pre ++ [cmd] <+: cmds → (fencesAfter domain pre).LastAlone cmd.2 :=
  @good_prefixes_iff _ _ FenceInst.command (fun s cmd => s.LastAlone cmd.2) cmds FencesKept Guarded
    (fun _ cmd _ hkept => hkept.command cmd)
    (fun _ cmd _ hkept hguarded => command_guarded_iff hkept hguarded cmd) (.opened domain)
    (fencesKept_opened domain) (fun _ _ hfence => absurd hfence List.not_mem_nil)

/-! ### Two tokens on one dma-buf -/

def fenceCmd (op : BitVec 32) (token : BitVec 64) : AttachEnv × FenceCmd :=
  ({ dmaBufGet := .ok 0, allocated := true, lockRet := 0, reserveRet := 0 },
    { request := vidiocIrisSurfaceFence, validPrio := true, op, dmabufFd := 3, token })

/-- The second token is signalled first. -/
def secondFirst : List (AttachEnv × FenceCmd) :=
  [fenceCmd irisSurfaceFenceAttachOp 1, fenceCmd irisSurfaceFenceAttachOp 2,
    fenceCmd irisSurfaceFenceSignalOp 2]

theorem consumer_passes_pending :
    ¬ ∀ cmds pre, pre <+: cmds → (fencesAfter .decoder pre).Guarded := by
  intro hall
  have hguarded := hall secondFirst secondFirst List.prefix_rfl
  obtain ⟨seqno, hlast, hsignal⟩ := hguarded 0 ⟨1, 1⟩ (by decide) (by decide)
  have hseqno : 2 = seqno := Option.some.inj hlast
  subst hseqno
  exact hsignal (by decide)

end FenceInst

end NabuIris
