import Mathlib.Data.List.Forall2
import Mathlib.Data.List.Perm.Basic

/-!
# Handling a list in passes

Every pass walks the whole list and handles the items of one class. A marked item is acted on in
every pass, and what that does is final: it marks the state, and no handler takes the mark away. So
the first pass marks the state once and for all, each later pass sees the items of its class only,
and of the order of the list no more than the order within each class counts.
-/

namespace NabuIris.Lib

/-- `none` is a handler that does not come back. -/
structure Passes (κ α σ : Type) where
  within : κ → α → Bool
  marked : α → Bool
  mark : σ → σ
  handle : κ → α → σ → Option σ

namespace Passes

variable {κ α σ : Type} (p : Passes κ α σ) {first k : κ} {ks : List κ} {items items' : List α}
  {s t : σ}

def step (k : κ) (s : σ) (a : α) : Option σ :=
  let s := if p.marked a then p.mark s else s
  if p.within k a then p.handle k a s else some s

def pass (k : κ) (items : List α) (s : σ) : Option σ := items.foldlM (p.step k) s

def run (ks : List κ) (items : List α) (s : σ) : Option σ :=
  ks.foldlM (fun s k => p.pass k items s) s

/-- Some item is marked, or belongs to the class. -/
def marksIn (k : κ) (items : List α) : Bool := items.any fun a => p.marked a || p.within k a

/-- Two items that no pass tells apart. -/
structure Alike (a b : α) : Prop where
  marked : p.marked a = p.marked b
  within : ∀ k, p.within k a = p.within k b
  handle : ∀ k, p.handle k a = p.handle k b

theorem run_cons : p.run (k :: ks) items s = (p.pass k items s).bind (p.run ks items) :=
  List.foldlM_cons

theorem pass_cons {a : α} :
    p.pass k (a :: items) s = (p.step k s a).bind (p.pass k items) := List.foldlM_cons

theorem Alike.step {a b : α} (halike : p.Alike a b) (k : κ) (s : σ) :
    p.step k s a = p.step k s b := by
  simp only [Passes.step, halike.marked, halike.within, halike.handle]

theorem pass_alike (halike : List.Forall₂ p.Alike items items') (k : κ) (s : σ) :
    p.pass k items s = p.pass k items' s := by
  induction halike generalizing s with
  | nil => rfl
  | cons ha _ ih =>
      rw [pass_cons, pass_cons, ha.step]
      exact congrArg _ (funext ih)

theorem run_alike (halike : List.Forall₂ p.Alike items items') (ks : List κ) (s : σ) :
    p.run ks items s = p.run ks items' s := by
  induction ks generalizing s with
  | nil => rfl
  | cons k ks ih =>
      rw [run_cons, run_cons, pass_alike p halike]
      exact congrArg _ (funext ih)

/-! ### Marks that stay -/

/-- The states in which a run starts are those of `Init`: on them the first class does what a mark
does. -/
structure Final (first : κ) (Init : σ → Prop) : Prop where
  idem : ∀ s, p.mark (p.mark s) = p.mark s
  init : ∀ s, Init s → Init (p.mark s)
  first : ∀ a s, Init s → p.handle first a s = some (p.mark s)
  keeps : ∀ k a s t, p.mark s = s → p.handle k a s = some t → p.mark t = t

/-- Marked items have nothing left to do. -/
def Settled (items : List α) (s : σ) : Prop := p.mark s = s ∨ ∀ a ∈ items, p.marked a = false

variable {p} {Init : σ → Prop}

theorem Final.pass_first (hfinal : p.Final first Init) (hinit : Init s) :
    p.pass first items s = some (if p.marksIn first items then p.mark s else s) := by
  induction items generalizing s with
  | nil => rfl
  | cons a rest ih =>
      have hmark : ∀ b : Bool, (if b then p.mark (p.mark s) else p.mark s) = p.mark s := by
        intro b
        rw [hfinal.idem, ite_self]
      rw [pass_cons, step, marksIn, List.any_cons]
      cases hmarked : p.marked a <;> cases hwithin : p.within first a
      · exact ih hinit
      · simp only [Bool.false_eq_true, if_false, if_true, hfinal.first a s hinit]
        exact (ih (hfinal.init s hinit)).trans (congrArg some (hmark _))
      · exact (ih (hfinal.init s hinit)).trans (congrArg some (hmark _))
      · simp only [if_true, hfinal.first a _ (hfinal.init s hinit), hfinal.idem]
        exact (ih (hfinal.init s hinit)).trans (congrArg some (hmark _))

theorem Final.settled_first (hfinal : p.Final first Init) :
    p.Settled items (if p.marksIn first items then p.mark s else s) := by
  cases hnone : p.marksIn first items with
  | true => exact .inl (hfinal.idem s)
  | false =>
      refine .inr fun a ha => ?_
      have hboth := List.any_eq_false.1 hnone a ha
      rw [Bool.not_eq_true] at hboth
      exact (Bool.or_eq_false_iff.1 hboth).1

theorem Settled.tail {a : α} (hsettled : p.Settled (a :: items) s) : p.Settled items s :=
  hsettled.imp_right fun hnone b hb => hnone b (List.mem_cons_of_mem a hb)

theorem Settled.step {a : α} (hsettled : p.Settled (a :: items) s) (k : κ) :
    p.step k s a = if p.within k a then p.handle k a s else some s := by
  have hstay : (if p.marked a then p.mark s else s) = s := by
    rcases hsettled with hmark | hnone
    · rw [hmark, ite_self]
    · rw [hnone a List.mem_cons_self]
      rfl
  rw [Passes.step, hstay]

theorem Final.settled_step (hfinal : p.Final first Init) {a : α}
    (hsettled : p.Settled items s) (hhandle : p.handle k a s = some t) : p.Settled items t :=
  hsettled.imp_left fun hmark => hfinal.keeps k a s t hmark hhandle

/-- **A later pass sees the items of its class only.** -/
theorem Final.pass_filter (hfinal : p.Final first Init) (hsettled : p.Settled items s) :
    p.pass k items s = (items.filter (p.within k)).foldlM (fun s a => p.handle k a s) s := by
  induction items generalizing s with
  | nil => rfl
  | cons a rest ih =>
      rw [pass_cons, hsettled.step]
      cases hwithin : p.within k a with
      | false =>
          rw [List.filter_cons_of_neg (by simp [hwithin])]
          exact ih hsettled.tail
      | true =>
          rw [List.filter_cons_of_pos hwithin, List.foldlM_cons, if_pos rfl]
          cases hhandle : p.handle k a s with
          | none => rfl
          | some t => exact ih (hfinal.settled_step hsettled.tail hhandle)

/-- Handling some of the items, in any order, settles no less. -/
theorem Final.settled_fold (hfinal : p.Final first Init) {handled : List α}
    (hsettled : p.Settled items s)
    (hfold : handled.foldlM (fun s a => p.handle k a s) s = some t) : p.Settled items t := by
  induction handled generalizing s with
  | nil => exact Option.some.inj hfold ▸ hsettled
  | cons a rest ih =>
      rw [List.foldlM_cons] at hfold
      obtain ⟨u, hhandle, hrest⟩ := Option.bind_eq_some_iff.1 hfold
      exact ih (hfinal.settled_step hsettled hhandle) hrest

theorem Final.settled_pass (hfinal : p.Final first Init) (hsettled : p.Settled items s)
    (hpass : p.pass k items s = some t) : p.Settled items t := by
  rw [hfinal.pass_filter hsettled] at hpass
  exact hfinal.settled_fold hsettled hpass

/-! ### Orders that agree within each class -/

theorem Final.run_settled (hfinal : p.Final first Init)
    (hmarked : ∀ a ∈ items', p.marked a = true → ∃ b ∈ items, p.marked b = true)
    (horder : ∀ k, items'.filter (p.within k) = items.filter (p.within k))
    (hsettled : p.Settled items s) : p.run ks items' s = p.run ks items s := by
  induction ks generalizing s with
  | nil => rfl
  | cons k ks ih =>
      have hsettled' : p.Settled items' s := hsettled.imp_right fun hnone a ha => by
        by_contra hmark
        rw [Bool.not_eq_false] at hmark
        obtain ⟨b, hb, hmark'⟩ := hmarked a ha hmark
        exact Bool.false_ne_true ((hnone b hb).symm.trans hmark')
      rw [run_cons, run_cons, hfinal.pass_filter hsettled', horder k,
        ← hfinal.pass_filter hsettled]
      cases hpass : p.pass k items s with
      | none => rfl
      | some t => exact ih (hfinal.settled_pass hsettled hpass)

/-- **Order independence.** -/
theorem Final.run_perm (hfinal : p.Final first Init) (hperm : items'.Perm items)
    (horder : ∀ k, items'.filter (p.within k) = items.filter (p.within k)) (hinit : Init s) :
    p.run (first :: ks) items' s = p.run (first :: ks) items s := by
  have hmarks : p.marksIn first items' = p.marksIn first items := hperm.any_eq
  rw [run_cons, run_cons, hfinal.pass_first hinit, hfinal.pass_first hinit, hmarks]
  exact hfinal.run_settled (fun a ha hmark => ⟨a, hperm.mem_iff.1 ha, hmark⟩) horder
    hfinal.settled_first

end Passes

end NabuIris.Lib
