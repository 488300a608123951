import Mathlib.Order.Lattice

/-!
# A vote that rises at once and falls with patience

Every window closes with a target. A vote follows a target that is not lower, and leaves the top at
once; otherwise it waits until `patience` windows in a row have asked for less.
-/

namespace NabuIris.Lib.Hysteresis

variable {α : Type*} [LinearOrder α] {top : α} {patience : Nat}

structure Vote (α : Type*) where
  rate : α
  /-- the windows in a row that have asked for less -/
  lower : Nat

def Vote.follow (top : α) (patience : Nat) (vote : Vote α) (target : α) : Vote α :=
  if vote.rate = top ∨ vote.rate ≤ target then { rate := target, lower := 0 }
  else if patience ≤ vote.lower + 1 then { rate := target, lower := 0 }
  else { vote with lower := vote.lower + 1 }

/-- A closed window, with the vote before and after it. -/
structure Window (α : Type*) where
  rate : α
  target : α
  voted : α

/-- The window has asked for less, in vain. -/
def Window.Held (w : Window α) : Prop := w.target < w.rate ∧ w.voted = w.rate

/-- A vote with the windows that led to it, the latest first. -/
structure History (α : Type*) where
  vote : Vote α
  windows : List (Window α)

def History.start (top : α) : History α where
  vote := { rate := top, lower := 0 }
  windows := []

def History.close (top : α) (patience : Nat) (h : History α) (target : α) : History α where
  vote := h.vote.follow top patience target
  windows := ⟨h.vote.rate, target, (h.vote.follow top patience target).rate⟩ :: h.windows

/-! ### The law -/

/-- The vote that the windows leave. -/
def current (top : α) : List (Window α) → α
  | [] => top
  | w :: _ => w.voted

/-- What a window may do behind the windows `before`. -/
structure Window.Lawful (top : α) (patience : Nat) (before : List (Window α)) (w : Window α) :
    Prop where
  rate : w.rate = current top before
  raise : w.rate ≤ w.target → w.voted = w.target
  change : w.voted ≠ w.rate → w.voted = w.target
  fall : w.voted < w.rate → w.rate = top ∨ ∃ lower rest, before = lower ++ rest ∧
    patience ≤ lower.length + 1 ∧ ∀ v ∈ lower, v.Held ∧ v.rate = w.rate

def Lawful (top : α) (patience : Nat) : List (Window α) → Prop
  | [] => True
  | w :: before => w.Lawful top patience before ∧ Lawful top patience before

/-- The counter counts held windows. -/
structure History.Counts (top : α) (h : History α) : Prop where
  rate : h.vote.rate = current top h.windows
  lower : ∃ lower rest, h.windows = lower ++ rest ∧ lower.length = h.vote.lower ∧
    ∀ v ∈ lower, v.Held ∧ v.rate = h.vote.rate

variable {h : History α} {target : α}

theorem History.Counts.start : (History.start top).Counts top where
  rate := rfl
  lower := ⟨[], [], rfl, rfl, List.forall_mem_nil _⟩

theorem Vote.follow_cases (top : α) (patience : Nat) (vote : Vote α) (target : α) :
    (vote.rate = top ∨ vote.rate ≤ target ∨ patience ≤ vote.lower + 1) ∧
        vote.follow top patience target = { rate := target, lower := 0 } ∨
      target < vote.rate ∧
        vote.follow top patience target = { vote with lower := vote.lower + 1 } := by
  unfold Vote.follow
  split_ifs with hfollow hpatience
  · refine .inl ⟨?_, rfl⟩
    rcases hfollow with htop | hraise
    · exact .inl htop
    · exact .inr (.inl hraise)
  · exact .inl ⟨.inr (.inr hpatience), rfl⟩
  · exact .inr ⟨not_le.1 fun hle => hfollow (.inr hle), rfl⟩

theorem Vote.follow_lower (hpatience : 0 < patience) (vote : Vote α) :
    (vote.follow top patience target).lower < patience := by
  unfold Vote.follow
  split_ifs with hfollow hle
  · exact hpatience
  · exact hpatience
  · exact Nat.lt_of_not_le hle

theorem History.Counts.close (hcounts : h.Counts top) :
    (h.close top patience target).Counts top := by
  refine ⟨rfl, ?_⟩
  obtain ⟨lower, rest, hwindows, hlength, hheld⟩ := hcounts.lower
  rcases h.vote.follow_cases top patience target with
    ⟨_, hfollow⟩ | ⟨hlt, hwait⟩
  · exact ⟨[], _, rfl, by rw [History.close, hfollow]; rfl, List.forall_mem_nil _⟩
  · refine ⟨⟨h.vote.rate, target, h.vote.rate⟩ :: lower, rest, ?_, ?_, ?_⟩
    · rw [History.close, hwait, hwindows]
      rfl
    · rw [History.close, hwait, List.length_cons, hlength]
    · rw [History.close, hwait]
      exact List.forall_mem_cons.2 ⟨⟨⟨hlt, rfl⟩, rfl⟩, hheld⟩

/-- The next window keeps the law. -/
theorem History.Counts.lawful (hcounts : h.Counts top) :
    Window.Lawful top patience h.windows
      ⟨h.vote.rate, target, (h.vote.follow top patience target).rate⟩ := by
  obtain ⟨lower, rest, hwindows, hlength, hheld⟩ := hcounts.lower
  rcases h.vote.follow_cases top patience target with
    ⟨hcause, hfollow⟩ | ⟨hlt, hwait⟩
  · rw [hfollow]
    refine ⟨hcounts.rate, fun _ => rfl, fun _ => rfl, fun hfall => ?_⟩
    rcases hcause with htop | hraise | hpatience
    · exact .inl htop
    · exact absurd hraise (not_le.2 hfall)
    · exact .inr ⟨lower, rest, hwindows, by rwa [hlength], hheld⟩
  · rw [hwait]
    exact ⟨hcounts.rate, fun hraise => absurd hraise (not_le.2 hlt), fun hne => absurd rfl hne,
      fun hfall => absurd hfall (lt_irrefl _)⟩

/-- **Hysteresis.** The windows of any targets keep the law, and the last one leaves the vote. -/
theorem lawful_close (top : α) (patience : Nat) (targets : List α) :
    let h := targets.foldl (History.close top patience) (.start top)
    h.Counts top ∧ Lawful top patience h.windows := by
  have hkeep : ∀ h : History α, h.Counts top → Lawful top patience h.windows →
      (targets.foldl (History.close top patience) h).Counts top ∧
        Lawful top patience (targets.foldl (History.close top patience) h).windows := by
    induction targets with
    | nil => exact fun h hcounts hlawful => ⟨hcounts, hlawful⟩
    | cons target rest ih =>
        exact fun h hcounts hlawful => ih _ hcounts.close ⟨hcounts.lawful, hlawful⟩
  exact hkeep _ .start trivial

theorem forall_voted (patience : Nat) {P : α → Prop} {targets : List α} (htop : P top)
    (htargets : ∀ target ∈ targets, P target) :
    P (targets.foldl (History.close top patience) (.start top)).vote.rate ∧
      ∀ w ∈ (targets.foldl (History.close top patience) (.start top)).windows, P w.voted := by
  have hkeep : ∀ h : History α, P h.vote.rate ∧ (∀ w ∈ h.windows, P w.voted) →
      P (targets.foldl (History.close top patience) h).vote.rate ∧
        ∀ w ∈ (targets.foldl (History.close top patience) h).windows, P w.voted := by
    induction targets with
    | nil => exact fun h hP => hP
    | cons target rest ih =>
        obtain ⟨hfirst, hrest⟩ := List.forall_mem_cons.1 htargets
        refine fun h hP => ih hrest _ ?_
        have hnext : P (h.vote.follow top patience target).rate := by
          rcases h.vote.follow_cases top patience target with
            ⟨_, hfollow⟩ | ⟨_, hwait⟩
          · rwa [hfollow]
          · rw [hwait]
            exact hP.1
        exact ⟨hnext, List.forall_mem_cons.2 ⟨hnext, hP.2⟩⟩
  exact hkeep _ ⟨htop, List.forall_mem_nil _⟩

end NabuIris.Lib.Hysteresis
