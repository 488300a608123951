import Mathlib.Data.List.Induction

/-!
# Runs of a system

Two shapes of run. `Run` is the trace of a step relation, for systems whose parties interleave.
`exec` is the output of a deterministic fallible step over a list of calls, for components that
answer each call; `exec_refines` is forward simulation between two of them.
-/

namespace NabuIris.Lib

variable {σ τ α β : Type*}

inductive Run (step : σ → α → σ → Prop) : σ → List α → σ → Prop
  | nil (s : σ) : Run step s [] s
  | cons {s t u : σ} {a : α} {as : List α} :
      step s a t → Run step t as u → Run step s (a :: as) u

namespace Run

variable {step step' : σ → α → σ → Prop}

theorem append {s t u : σ} {as bs : List α} (hfirst : Run step s as t)
    (hsecond : Run step t bs u) : Run step s (as ++ bs) u := by
  induction hfirst with
  | nil _ => exact hsecond
  | cons hstep _ ih => exact .cons hstep (ih hsecond)

theorem snoc {s t u : σ} {as : List α} {a : α} (hrun : Run step s as t) (hstep : step t a u) :
    Run step s (as ++ [a]) u :=
  hrun.append (.cons hstep (.nil u))

theorem mono {s t : σ} {as : List α} (hmono : ∀ s a t, step s a t → step' s a t)
    (hrun : Run step s as t) : Run step' s as t := by
  induction hrun with
  | nil s => exact .nil s
  | cons hstep _ ih => exact .cons (hmono _ _ _ hstep) ih

/-- **The invariant rule.** What every step preserves, every run preserves. -/
theorem invariant {Inv : σ → Prop} (hstep : ∀ s a t, Inv s → step s a t → Inv t)
    {s t : σ} {as : List α} (hrun : Run step s as t) (hinit : Inv s) : Inv t := by
  induction hrun with
  | nil _ => exact hinit
  | cons hfirst _ ih => exact ih (hstep _ _ _ hinit hfirst)

end Run

def guarded (step : σ → α → σ → Prop) (cond : σ → α → Prop) : σ → α → σ → Prop :=
  fun s a t => cond s a ∧ step s a t

section Prefixes

variable {apply : σ → α → σ} {Ok : σ → α → Prop} {as : List α}

/-- What the steps meeting `Ok` preserve holds at the end of a run whose steps all meet it. -/
theorem foldl_invariant {Inv : σ → Prop} (hkeep : ∀ s, ∀ a ∈ as, Inv s → Ok s a → Inv (apply s a))
    {s : σ} (hinit : Inv s)
    (hok : ∀ pre a, pre ++ [a] <+: as → Inv (pre.foldl apply s) → Ok (pre.foldl apply s) a) :
    Inv (as.foldl apply s) := by
  induction as using List.reverseRecOn with
  | nil => exact hinit
  | append_singleton pre a ih =>
      have hbefore : Inv (pre.foldl apply s) :=
        ih (fun t b hb => hkeep t b (List.mem_append_left _ hb)) fun mid b hmid =>
          hok mid b (hmid.trans (List.prefix_append _ _))
      rw [List.foldl_append]
      exact hkeep _ a (by simp) hbefore (hok pre a List.prefix_rfl hbefore)

/-- For a deterministic machine that a step meeting `Ok` keeps in `Strong` and any other step takes
out of `Weak`: a run stays in `Weak` exactly when all its steps meet `Ok`. -/
theorem weak_prefixes_iff {Strong Weak : σ → Prop} (hweak : ∀ s, Strong s → Weak s)
    (hkeep : ∀ s, ∀ a ∈ as, Strong s → Ok s a → Strong (apply s a))
    (hbreak : ∀ s, ∀ a ∈ as, Strong s → Weak (apply s a) → Ok s a) {s : σ} (hinit : Strong s) :
    (∀ pre, pre <+: as → Weak (pre.foldl apply s)) ↔
      ∀ pre a, pre ++ [a] <+: as → Ok (pre.foldl apply s) a := by
  have hreach : ∀ pre, pre <+: as →
      (∀ mid a, mid ++ [a] <+: pre → Strong (mid.foldl apply s) → Ok (mid.foldl apply s) a) →
      Strong (pre.foldl apply s) := fun pre hpre hok =>
    foldl_invariant (fun t b hb => hkeep t b (hpre.subset hb)) hinit hok
  constructor
  · intro hall pre a hpre
    have hok : ∀ mid b, mid ++ [b] <+: as → Strong (mid.foldl apply s) →
        Ok (mid.foldl apply s) b := by
      intro mid b hmid hstrong
      have hafter := hall _ hmid
      rw [List.foldl_append] at hafter
      exact hbreak _ b (hmid.subset (by simp)) hstrong hafter
    have hbefore : pre <+: as := (List.prefix_append _ _).trans hpre
    exact hok pre a hpre (hreach pre hbefore fun mid b hmid => hok mid b (hmid.trans hbefore))
  · intro hok pre hpre
    exact hweak _ (hreach pre hpre fun mid b hmid _ => hok mid b (hmid.trans hpre))

/-- For a deterministic machine whose steps establish `Good` exactly when they meet `Ok`: a run
stays in `Good` exactly when all its steps meet `Ok`. -/
theorem good_prefixes_iff {Inv Good : σ → Prop} (hinv : ∀ s, ∀ a ∈ as, Inv s → Inv (apply s a))
    (hstep : ∀ s, ∀ a ∈ as, Inv s → Good s → (Good (apply s a) ↔ Ok s a)) {s : σ}
    (hinit : Inv s) (hgood : Good s) :
    (∀ pre, pre <+: as → Good (pre.foldl apply s)) ↔
      ∀ pre a, pre ++ [a] <+: as → Ok (pre.foldl apply s) a :=
  @weak_prefixes_iff _ _ _ _ _ (fun s => Inv s ∧ Good s) _ (fun _ h => h.2)
    (fun s a ha h hok => ⟨hinv s a ha h.1, (hstep s a ha h.1 h.2).2 hok⟩)
    (fun s a ha h => (hstep s a ha h.1 h.2).1) _ ⟨hinit, hgood⟩

/-- What is said of each step of a run, step by step. -/
theorem snoc_prefixes_iff {P : List α → α → Prop} :
    (∀ pre a, pre ++ [a] <+: as → P pre a) ↔ ∀ i (hi : i < as.length), P (as.take i) as[i] := by
  constructor
  · intro hall i hi
    refine hall _ _ ?_
    rw [List.take_append_getElem hi]
    exact List.take_prefix _ _
  · rintro hall pre a ⟨rest, rfl⟩
    have hlt : pre.length < (pre ++ [a] ++ rest).length := by simp
    simpa using hall pre.length hlt

end Prefixes

/-- Make the calls in order, collecting the answers; `none` as soon as one call fails. -/
def exec (step : σ → α → Option (β × σ)) : σ → List α → Option (List β × σ)
  | s, [] => some ([], s)
  | s, a :: as => do
      let (b, t) ← step s a
      let (bs, u) ← exec step t as
      some (b :: bs, u)

theorem exec_cons {step : σ → α → Option (β × σ)} {s t u : σ} {a : α} {as : List α} {b : β}
    {bs : List β} (hstep : step s a = some (b, t)) (hrest : exec step t as = some (bs, u)) :
    exec step s (a :: as) = some (b :: bs, u) := by
  simp [exec, hstep, hrest]

/-- Each call of `as` meets `Ok` in the state that the calls before it leave. -/
def Admits (step : σ → α → Option (β × σ)) (Ok : σ → α → Prop) : σ → List α → Prop
  | _, [] => True
  | s, a :: as => Ok s a ∧ ∀ b t, step s a = some (b, t) → Admits step Ok t as

/-- **Calls that do not fail.** If a call that meets `Ok` is answered and keeps the invariant, so is
and does a list of such calls. -/
theorem exec_of_admits {step : σ → α → Option (β × σ)} {Ok : σ → α → Prop} {Inv : σ → Prop} {s : σ}
    {as : List α}
    (hstep : ∀ s, ∀ a ∈ as, Inv s → Ok s a → ∃ b t, step s a = some (b, t) ∧ Inv t)
    (hinit : Inv s) (hadmits : Admits step Ok s as) :
    ∃ bs t, exec step s as = some (bs, t) ∧ Inv t := by
  induction as generalizing s with
  | nil => exact ⟨[], s, rfl, hinit⟩
  | cons a rest ih =>
      obtain ⟨hok, hrest⟩ := hadmits
      obtain ⟨b, s₁, hcall, hinv⟩ := hstep s a List.mem_cons_self hinit hok
      obtain ⟨bs, s₂, hcalls, hend⟩ :=
        ih (fun t c hc => hstep t c (List.mem_cons_of_mem _ hc)) hinv (hrest b s₁ hcall)
      exact ⟨b :: bs, s₂, exec_cons hcall hcalls, hend⟩

/-- The calls of `as` keep `Ok`, judged on the state the total machine `step` is in. -/
def Throughout (step : σ → α → β × σ) (Ok : σ → α → Prop) : σ → List α → Prop
  | _, [] => True
  | s, a :: as => Ok s a ∧ Throughout step Ok (step s a).2 as

theorem Throughout.mono {step : σ → α → β × σ} {Ok Ok' : σ → α → Prop} {s : σ} {as : List α}
    (hmono : ∀ s, ∀ a ∈ as, Ok s a → Ok' s a) (hok : Throughout step Ok s as) :
    Throughout step Ok' s as := by
  induction as generalizing s with
  | nil => trivial
  | cons a rest ih =>
      exact ⟨hmono s a List.mem_cons_self hok.1,
        ih (fun s b hb => hmono s b (List.mem_cons_of_mem _ hb)) hok.2⟩

def runOps (step : σ → α → β × σ) : σ → List α → List β × σ
  | s, [] => ([], s)
  | s, a :: as =>
      let (b, t) := step s a
      let (bs, u) := runOps step t as
      (b :: bs, u)

/-- **Forward simulation.** If each concrete call answers what the abstract machine answers and
keeps the relation, the two machines give the same answers over every list of calls. -/
theorem exec_refines {abs : σ → α → β × σ} {con : τ → α → Option (β × τ)} {Ok : σ → α → Prop}
    (R : σ → τ → Prop)
    (hsim : ∀ s t a, R s t → Ok s a → ∃ t', con t a = some ((abs s a).1, t') ∧ R (abs s a).2 t')
    {s : σ} {t : τ} {as : List α} (hrel : R s t) (hok : Throughout abs Ok s as) :
    ∃ t', exec con t as = some ((runOps abs s as).1, t') ∧ R (runOps abs s as).2 t' := by
  induction as generalizing s t with
  | nil => exact ⟨t, rfl, hrel⟩
  | cons a as ih =>
      obtain ⟨hhead, htail⟩ := hok
      obtain ⟨t₁, hcall, hrel₁⟩ := hsim s t a hrel hhead
      obtain ⟨t₂, hcalls, hrel₂⟩ := ih hrel₁ htail
      exact ⟨t₂, exec_cons hcall hcalls, hrel₂⟩

end NabuIris.Lib
