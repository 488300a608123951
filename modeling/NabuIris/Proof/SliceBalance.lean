import Mathlib.Algebra.Order.Group.Multiset
import NabuIris.SystemCache

/-!
# The system cache slices are balanced

`syscache_set` is tested at the start of the routine and set at its end. As long as no thread gets
past the test, or starts to give the slices back, while another one is at work on them, the routine
leaves the slices either taken once or not taken, at whichever step it fails.
-/

namespace NabuIris

open Lib

namespace LlccSection

/-- A section of a thread that is at work on the slices. -/
def Inside : LlccSection → Prop
  | .enterConfig | .enterPowerOff | .powerOn | .leave => False
  | _ => True

/-- Nobody is at work on the slices when a thread starts to. -/
def Alone : LlccSection → LlccCore → Prop
  | .enterConfig, s => s.llcc.syscacheSet = false → s.busy = 0
  | .enterPowerOff, s => s.vpuPowered = true → s.busy = 0
  | _, _ => True

instance (k : LlccSection) (s : LlccCore) : Decidable (k.Alone s) := by
  cases k <;> unfold Alone <;> infer_instance

theorem Inside.effect_eq {k : LlccSection} (hinside : k.Inside) (s : LlccCore) :
    k.effect s = { s with llcc := k.change s.llcc } := by
  cases k with
  | enterConfig => exact hinside.elim
  | enterPowerOff => exact hinside.elim
  | powerOn => exact hinside.elim
  | leave => exact hinside.elim
  | _ => rfl

end LlccSection

/-- Each slice is activated and referenced once, or not at all. -/
def Llcc.Balanced (s : Llcc) : Prop :=
  ∀ slice, s.refs slice = (if s.llccActive then 1 else 0) ∧
    s.activations slice = if s.llccActive then 1 else 0

def Llcc.Settled (s : Llcc) : Prop := s = .released ∨ s = .taken

theorem Llcc.Settled.balanced {s : Llcc} (hsettled : s.Settled) : s.Balanced := by
  rcases hsettled with rfl | rfl
  · exact fun _ => ⟨rfl, rfl⟩
  · exact fun _ => ⟨rfl, rfl⟩

/-- A thread at work owns the slices as they are; `owned` is what the threads at work own. -/
structure SlicesOwned (owned : Multiset Llcc) (s : LlccCore) : Prop where
  busy : owned.card = s.busy
  slices : (owned = 0 ∧ s.llcc.Settled) ∨ owned = {s.llcc}

namespace SystemCache

variable {α : Type}

/-! ### A thread at work by itself -/

theorem act_inside {k : LlccSection} {f : Llcc → α} (hinside : k.Inside) :
    (Prog.act k f : SliceProg α).All LlccSection.Inside :=
  ⟨hinside, fun _ => trivial⟩

theorem getSlices_inside (env : SyscacheEnv) (slices : List LlccSlice) :
    (getSlices env slices).All LlccSection.Inside := by
  induction slices with
  | nil => trivial
  | cons slice rest ih =>
      refine Prog.All.bind (act_inside trivial) fun ret => ?_
      split_ifs
      · trivial
      · exact ih

theorem activateSlices_inside (env : SyscacheEnv) (slices active : List LlccSlice) :
    (activateSlices env slices active).All LlccSection.Inside := by
  induction slices generalizing active with
  | nil => trivial
  | cons slice rest ih =>
      refine Prog.All.bind (act_inside trivial) fun ret => ?_
      split_ifs
      · trivial
      · exact ih _

theorem each_inside {f : LlccSlice → SliceProg Unit}
    (hf : ∀ slice, (f slice).All LlccSection.Inside) (slices : List LlccSlice) :
    (Prog.each f slices).All LlccSection.Inside := by
  induction slices with
  | nil => trivial
  | cons slice rest ih => exact Prog.All.bind (hf slice) fun _ => ih

theorem errorPut_inside (ret : Int) : (errorPut ret).All LlccSection.Inside := by
  have hputd : ∀ slice, (llccSlicePutd slice).All LlccSection.Inside :=
    fun _ => act_inside trivial
  exact Prog.All.bind (each_inside hputd _) fun _ => trivial

theorem errorDeactivate_inside (active : List LlccSlice) (ret : Int) :
    (errorDeactivate active ret).All LlccSection.Inside := by
  have hdeactivate : ∀ slice, (llccSliceDeactivate slice).All LlccSection.Inside :=
    fun _ => act_inside trivial
  refine Prog.All.bind (each_inside hdeactivate _) fun _ => ?_
  exact Prog.All.bind (act_inside trivial) fun _ => errorPut_inside ret

theorem acquireSlices_inside (env : SyscacheEnv) :
    (acquireSlices env).All LlccSection.Inside := by
  refine Prog.All.bind (getSlices_inside env _) fun ret => ?_
  split
  · exact errorPut_inside ret
  refine Prog.All.bind (activateSlices_inside env _ _) fun activated => ?_
  split
  · exact errorDeactivate_inside _ _
  refine Prog.All.bind (act_inside trivial) fun _ => ?_
  split
  · exact errorDeactivate_inside _ _
  split
  · exact errorDeactivate_inside _ _
  · exact Prog.All.bind (act_inside trivial) fun _ => trivial

theorem releaseSlices_inside : releaseSlices.All LlccSection.Inside := by
  refine Prog.All.bind (act_inside trivial) fun active => ?_
  split
  · refine Prog.All.bind (each_inside ?_ _) fun _ => ?_
    · exact fun _ => Prog.All.bind (act_inside trivial) fun _ => (act_inside trivial)
    · exact Prog.All.bind (act_inside trivial) fun _ => (act_inside trivial)
  · trivial

/-- Each descriptor is held once, and the slices of `active` are activated once. -/
structure Holds (active : List LlccSlice) (s : Llcc) : Prop where
  refs : ∀ slice, s.refs slice = if s.slice slice then 1 else 0
  activations : ∀ slice, s.activations slice = active.count slice
  unset : s.syscacheSet = false

theorem holds_released : Holds [] .released := ⟨fun _ => rfl, fun _ => rfl, rfl⟩

/-- Nothing is held and nothing is activated. -/
theorem Holds.eq_released {s : Llcc} (hholds : Holds [] s) (hactive : s.llccActive = false)
    (hnone : ∀ slice, s.slice slice = false) : s = .released := by
  ext slice
  · rw [hnone slice]
    rfl
  · rw [hactive]
    rfl
  · rw [hholds.unset]
    rfl
  · rw [hholds.refs slice, hnone slice]
    rfl
  · exact hholds.activations slice

theorem Holds.putd {active : List LlccSlice} {s : Llcc} (hholds : Holds active s)
    (slice : LlccSlice) : Holds active (LlccSection.change (.putd slice) s) where
  refs other := by
    have hrefs := hholds.refs other
    by_cases heq : other = slice
    · subst heq
      cases hslice : s.slice other <;> simp_all [LlccSection.change]
    · cases hslice : s.slice slice <;> simp_all [LlccSection.change]
  activations := hholds.activations
  unset := hholds.unset

theorem putd_slice {slice other : LlccSlice} {s : Llcc}
    (hslice : (LlccSection.change (.putd slice) s).slice other = true) :
    s.slice other = true ∧ other ≠ slice := by
  by_cases heq : other = slice
  · subst heq
    simp [LlccSection.change] at hslice
  · exact ⟨by simpa [LlccSection.change, heq] using hslice, heq⟩

theorem putd_each {active : List LlccSlice} {s : Llcc} (hholds : Holds active s)
    (slices : List LlccSlice) :
    ∃ t, ((Prog.each llccSlicePutd slices).exec LlccSection.change s).2 = t ∧ Holds active t ∧
      t.llccActive = s.llccActive ∧
      ∀ other, t.slice other = true → s.slice other = true ∧ other ∉ slices := by
  induction slices generalizing s with
  | nil => exact ⟨s, rfl, hholds, rfl, fun other hslice => ⟨hslice, List.not_mem_nil⟩⟩
  | cons slice rest ih =>
      obtain ⟨t, ht, hholds', hactive, hslices⟩ := ih (hholds.putd slice)
      refine ⟨t, ?_, hholds', hactive, fun other hslice => ?_⟩
      · rw [Prog.exec_each_cons]
        exact ht
      · obtain ⟨hslice', hrest⟩ := hslices other hslice
        obtain ⟨hbefore, hne⟩ := putd_slice hslice'
        exact ⟨hbefore, fun hmem => (List.mem_cons.1 hmem).elim hne hrest⟩

theorem LlccSlice.mem_all (slice : LlccSlice) : slice ∈ LlccSlice.all := by
  cases slice <;> decide

theorem errorPut_releases {s : Llcc} (hholds : Holds [] s) (hactive : s.llccActive = false)
    (ret : Int) : ((errorPut ret).exec LlccSection.change s).2 = .released := by
  obtain ⟨t, ht, hholds', hactive', hslices⟩ := putd_each hholds LlccSlice.all
  have hnone : ∀ slice, t.slice slice = false := by
    intro slice
    rw [← Bool.not_eq_true]
    exact fun hslice => (hslices slice hslice).2 (LlccSlice.mem_all slice)
  rw [errorPut, Prog.exec_bind]
  exact ht.trans (hholds'.eq_released (hactive'.trans hactive) hnone)

theorem deactivate_each {s : Llcc} {active : List LlccSlice} (hholds : Holds active s)
    (hslices : ∀ slice ∈ active, s.slice slice = true) :
    Holds [] ((Prog.each llccSliceDeactivate active).exec LlccSection.change s).2 := by
  induction active generalizing s with
  | nil => exact hholds
  | cons slice rest ih =>
      have hslice : s.slice slice = true := hslices slice List.mem_cons_self
      rw [Prog.exec_each_cons]
      have hchange : LlccSection.change (.deactivate slice) s =
          { s with
            activations := Function.update s.activations slice (s.activations slice - 1) } :=
        if_pos hslice
      refine ih ?_ ?_
      · show Holds rest (LlccSection.change (.deactivate slice) s)
        rw [hchange]
        refine ⟨hholds.refs, fun other => ?_, hholds.unset⟩
        have hcount := hholds.activations other
        by_cases heq : other = slice
        · subst heq
          rw [List.count_cons_self] at hcount
          simp only [Function.update_self]
          push_cast at hcount
          omega
        · rw [List.count_cons_of_ne (Ne.symm heq)] at hcount
          simpa [heq] using hcount
      · intro other hother
        show (LlccSection.change (.deactivate slice) s).slice other = true
        rw [hchange]
        exact hslices other (List.mem_cons_of_mem _ hother)

theorem errorDeactivate_releases {s : Llcc} {active : List LlccSlice} (hholds : Holds active s)
    (hslices : ∀ slice ∈ active, s.slice slice = true) (ret : Int) :
    ((errorDeactivate active ret).exec LlccSection.change s).2 = .released := by
  have hnone := deactivate_each hholds hslices
  rw [errorDeactivate, Prog.exec_bind, Prog.exec_bind]
  have hcleared : Holds [] (LlccSection.change (.setLlccActive false)
      ((Prog.each llccSliceDeactivate active).exec LlccSection.change s).2) :=
    ⟨hnone.refs, hnone.activations, hnone.unset⟩
  exact errorPut_releases hcleared rfl ret

theorem getSlices_holds (env : SyscacheEnv) {slices : List LlccSlice} (hnodup : slices.Nodup)
    {s : Llcc} (hholds : Holds [] s) (hnone : ∀ slice ∈ slices, s.slice slice = false) :
    ∃ ret t, (getSlices env slices).exec LlccSection.change s = (ret, t) ∧ Holds [] t ∧
      t.llccActive = s.llccActive ∧
      (ret = 0 → ∀ slice, slice ∈ slices ∨ s.slice slice = true → t.slice slice = true) := by
  induction slices generalizing s with
  | nil =>
      refine ⟨0, s, rfl, hholds, rfl, fun _ slice hslice => ?_⟩
      exact hslice.resolve_left List.not_mem_nil
  | cons slice rest ih =>
      obtain ⟨hnew, hnodup'⟩ := List.nodup_cons.1 hnodup
      have hslice : s.slice slice = false := hnone slice List.mem_cons_self
      have hexec : (getSlices env (slice :: rest)).exec LlccSection.change s =
          (if env.getd slice ≠ 0 then pure (env.getd slice) else getSlices env rest :
            SliceProg Int).exec LlccSection.change
              (LlccSection.change (.getd slice (env.getd slice)) s) :=
        Prog.exec_bind (llccSliceGetd slice (env.getd slice)) _ s
      rw [hexec]
      by_cases hret : env.getd slice = 0
      · have hchange : LlccSection.change (.getd slice (env.getd slice)) s =
            { s with
              slice := Function.update s.slice slice true
              refs := Function.update s.refs slice (s.refs slice + 1) } :=
          if_neg (not_not.2 hret)
        rw [if_neg (not_not.2 hret), hchange]
        have hholds' : Holds [] { s with
            slice := Function.update s.slice slice true
            refs := Function.update s.refs slice (s.refs slice + 1) } := by
          refine ⟨fun other => ?_, hholds.activations, hholds.unset⟩
          have hrefs := hholds.refs other
          by_cases heq : other = slice
          · subst heq
            simp_all
          · simpa [heq] using hrefs
        obtain ⟨ret, t, ht, hholds'', hactive, hall⟩ := ih hnodup' hholds' (by
          intro other hother
          have hne : other ≠ slice := by
            rintro rfl
            exact hnew hother
          simpa [hne] using hnone other (List.mem_cons_of_mem _ hother))
        refine ⟨ret, t, ht, hholds'', hactive, fun hzero other hother => hall hzero other ?_⟩
        by_cases heq : other = slice
        · subst heq
          exact Or.inr (Function.update_self ..)
        · rcases hother with hmem | hbefore
          · exact Or.inl ((List.mem_cons.1 hmem).resolve_left heq)
          · exact Or.inr (by simpa [heq] using hbefore)
      · have hchange : LlccSection.change (.getd slice (env.getd slice)) s = s := by
          have hsame : Function.update s.slice slice false = s.slice :=
            Function.update_eq_self_iff.2 hslice.symm
          simp [LlccSection.change, hret, hsame]
        rw [if_pos hret, hchange]
        exact ⟨env.getd slice, s, rfl, hholds, rfl, fun hzero => absurd hzero hret⟩

/-- Activating slices that are held: those of `active` are when it fails, and all when not. -/
theorem activateSlices_holds (env : SyscacheEnv) {slices active : List LlccSlice} {s : Llcc}
    (hholds : Holds active s) (hslices : ∀ slice, s.slice slice = true) :
    ∃ ret activated t,
      (activateSlices env slices active).exec LlccSection.change s = ((ret, activated), t) ∧
        Holds activated t ∧ (∀ slice, t.slice slice = true) ∧
        (ret = 0 → activated = slices.reverse ++ active) := by
  induction slices generalizing s active with
  | nil => exact ⟨0, active, s, rfl, hholds, hslices, fun _ => rfl⟩
  | cons slice rest ih =>
      have hexec : (activateSlices env (slice :: rest) active).exec LlccSection.change s =
          (if env.activate slice ≠ 0 then pure (env.activate slice, active)
            else activateSlices env rest (slice :: active) :
            SliceProg (Int × List LlccSlice)).exec LlccSection.change
              (LlccSection.change (.activate slice (env.activate slice)) s) := by
        have hslice := hslices slice
        refine (Prog.exec_bind (llccSliceActivate slice (env.activate slice)) _ s).trans ?_
        simp [llccSliceActivate, Prog.act, Prog.exec, hslice]
      rw [hexec]
      by_cases hret : env.activate slice = 0
      · have hchange : LlccSection.change (.activate slice (env.activate slice)) s =
            { s with
              activations := Function.update s.activations slice (s.activations slice + 1) } :=
          if_pos ⟨hslices slice, hret⟩
        rw [if_neg (not_not.2 hret), hchange]
        have hholds' : Holds (slice :: active) { s with
            activations := Function.update s.activations slice (s.activations slice + 1) } := by
          refine ⟨hholds.refs, fun other => ?_, hholds.unset⟩
          have hcount := hholds.activations other
          by_cases heq : other = slice
          · subst heq
            simp [hcount]
          · rw [List.count_cons_of_ne (Ne.symm heq)]
            simpa [heq] using hcount
        obtain ⟨ret, activated, t, ht, hholds'', hslices', hall⟩ := ih hholds' hslices
        refine ⟨ret, activated, t, ht, hholds'', hslices', fun hzero => ?_⟩
        rw [hall hzero, List.reverse_cons, List.append_assoc]
        rfl
      · have hchange : LlccSection.change (.activate slice (env.activate slice)) s = s :=
          if_neg fun h => hret h.2
        rw [if_pos hret, hchange]
        exact ⟨env.activate slice, active, s, rfl, hholds, hslices, fun hzero => absurd hzero hret⟩

/-- Whichever step fails, what was taken before it is given back. -/
theorem acquireSlices_settles (env : SyscacheEnv) :
    ((acquireSlices env).exec LlccSection.change .released).2.Settled := by
  obtain ⟨ret, s, hget, hholds, hinactive, hslices⟩ :=
    getSlices_holds env (by decide : LlccSlice.all.Nodup) holds_released fun _ _ => rfl
  rw [acquireSlices, Prog.exec_bind, hget]
  by_cases hret : ret = 0
  · have hslices' : ∀ slice, s.slice slice = true := fun slice =>
      hslices hret slice (Or.inl (LlccSlice.mem_all slice))
    obtain ⟨ret', activated, t, hactivate, hholds', hall, hactivated⟩ :=
      @activateSlices_holds env LlccSlice.all [] s hholds hslices'
    rw [if_neg (not_not.2 hret), Prog.exec_bind, hactivate]
    by_cases hret' : ret' = 0
    · rw [if_neg (not_not.2 hret'), Prog.exec_bind]
      have hset : Holds activated (LlccSection.change (.setLlccActive true) t) :=
        ⟨hholds'.refs, hholds'.activations, hholds'.unset⟩
      by_cases hpacket : env.allocPacket = true ∧ env.cmdWrite = 0
      · right
        simp only [hpacket.1, hpacket.2, Bool.not_true, Bool.false_eq_true, if_false, ne_eq,
          not_true_eq_false]
        ext slice
        · exact hall slice
        · rfl
        · rfl
        · exact (hholds'.refs slice).trans (if_pos (hall slice))
        · refine (hholds'.activations slice).trans ?_
          rw [hactivated hret']
          cases slice <;> rfl
      · left
        by_cases halloc : env.allocPacket = true
        · have hwrite : env.cmdWrite ≠ 0 := fun hzero => hpacket ⟨halloc, hzero⟩
          simp only [halloc, Bool.not_true, Bool.false_eq_true, if_false, if_pos hwrite]
          exact errorDeactivate_releases hset (fun slice _ => hall slice) _
        · simp only [Bool.not_eq_true] at halloc
          simp only [halloc, Bool.not_false, if_true]
          exact errorDeactivate_releases hset (fun slice _ => hall slice) _
    · left
      rw [if_pos hret']
      exact errorDeactivate_releases hholds' (fun slice _ => hall slice) _
  · left
    rw [if_pos hret]
    exact errorPut_releases hholds hinactive _

theorem releaseSlices_releases {s : Llcc} (hsettled : s.Settled) :
    (releaseSlices.exec LlccSection.change s).2 = .released := by
  rcases hsettled with rfl | rfl
  · rfl
  · ext slice
    all_goals first | rfl | (cases slice <;> rfl)

/-! ### Threads at work -/

abbrev Settles (owned : Multiset Llcc) (p : LlccProg α) : Prop :=
  Owns LlccSection.effect SlicesOwned LlccSection.Alone (fun _ m => m = 0) owned p

theorem slices_single {x : Llcc} {frame : Multiset Llcc} {s : LlccCore}
    (howned : SlicesOwned ({x} + frame) s) : frame = 0 ∧ s.llcc = x ∧ s.busy = 1 := by
  rcases howned.slices with ⟨hnone, -⟩ | hone
  · simp at hnone
  · have hcard := congrArg Multiset.card hone
    rw [Multiset.card_add, Multiset.card_singleton, Multiset.card_singleton] at hcard
    have hframe : frame = 0 := Multiset.card_eq_zero.1 (by omega)
    subst hframe
    rw [add_zero] at hone
    exact ⟨rfl, (Multiset.singleton_inj.1 hone).symm, howned.busy.symm⟩

theorem slices_own {x : Llcc} {s : LlccCore} (hllcc : s.llcc = x) (hbusy : s.busy = 1) :
    SlicesOwned ({x} + 0) s where
  busy := hbusy.symm
  slices := Or.inr (by rw [add_zero, hllcc])

theorem slices_none {owned : Multiset Llcc} {s : LlccCore} (howned : SlicesOwned owned s)
    (hbusy : s.busy = 0) : owned = 0 ∧ s.llcc.Settled := by
  have hzero : owned = 0 := Multiset.card_eq_zero.1 (howned.busy.trans hbusy)
  rcases howned.slices with ⟨-, hsettled⟩ | hone
  · exact ⟨hzero, hsettled⟩
  · rw [hzero] at hone
    exact absurd hone.symm (Multiset.singleton_ne_zero _)

/-- A thread at work does to the slices what its program does by itself. -/
theorem lift_owns {p : SliceProg α} (hinside : p.All LlccSection.Inside) (x : Llcc) :
    Owns LlccSection.effect SlicesOwned LlccSection.Alone
      (fun a m => a = (p.exec LlccSection.change x).1 ∧ m = {(p.exec LlccSection.change x).2}) {x}
      (p.lift LlccCore.llcc) := by
  refine Owns.alone (fun x frame s howned => (slices_single howned).2.1) ?_ hinside x
  intro k x frame s hk howned
  obtain ⟨rfl, rfl, hbusy⟩ := slices_single howned
  rw [hk.effect_eq]
  exact slices_own rfl hbusy

theorem leave_settles {x : Llcc} (hsettled : x.Settled) (a : α) :
    Settles {x} (.act .leave fun _ => a) := by
  apply Owns.act
  intro frame s howned _
  obtain ⟨rfl, rfl, hbusy⟩ := slices_single howned
  refine ⟨0, ⟨?_, Or.inl ⟨add_zero 0, hsettled⟩⟩, rfl⟩
  show Multiset.card (0 + 0 : Multiset Llcc) = s.busy - 1
  rw [hbusy]
  rfl

theorem irisHfiGen1SyscacheConfig_settles (env : SyscacheEnv) :
    Settles 0 (irisHfiGen1SyscacheConfig env) := by
  have henter : Owns LlccSection.effect SlicesOwned LlccSection.Alone
      (fun set m => m = if set then (0 : Multiset Llcc) else {.released}) 0
      (.act .enterConfig fun s : LlccCore => s.llcc.syscacheSet) := by
    apply Owns.act
    intro frame s howned halone
    refine ⟨_, ?_, rfl⟩
    simp only [LlccSection.effect]
    split_ifs with hset
    · exact howned
    · have hnone : s.busy = 0 := halone (Bool.eq_false_of_not_eq_true hset)
      obtain ⟨hframe, hsettled⟩ := slices_none howned hnone
      rw [zero_add] at hframe
      subst hframe
      refine slices_own (hsettled.resolve_right ?_) (by rw [hnone])
      intro htaken
      exact hset (by rw [htaken]; rfl)
  apply henter.bind
  rintro set _ rfl
  cases set with
  | true => rfl
  | false =>
      apply (lift_owns (acquireSlices_inside env) .released).bind
      rintro ret _ ⟨rfl, rfl⟩
      exact leave_settles (acquireSlices_settles env) _

theorem irisHfiGen1SessionOpen_settles (env : SessionOpenEnv) :
    Settles 0 (irisHfiGen1SessionOpen env) := by
  unfold irisHfiGen1SessionOpen
  split
  · rfl
  split
  · rfl
  apply (irisHfiGen1SyscacheConfig_settles env.syscache).bind
  rintro ret _ rfl
  split
  · rfl
  split <;> rfl

theorem irisVpuPowerOff_settles : Settles 0 irisVpuPowerOff := by
  have henter : Owns LlccSection.effect SlicesOwned LlccSection.Alone
      (fun powered m => if powered then ∃ x : Llcc, x.Settled ∧ m = {x} else m = 0) 0
      (.act .enterPowerOff LlccCore.vpuPowered) := by
    apply Owns.act
    intro frame s howned halone
    simp only [LlccSection.effect]
    cases hpowered : s.vpuPowered with
    | false => exact ⟨0, howned, rfl⟩
    | true =>
        have hnone : s.busy = 0 := halone hpowered
        obtain ⟨hframe, hsettled⟩ := slices_none howned hnone
        rw [zero_add] at hframe
        subst hframe
        exact ⟨{s.llcc}, slices_own rfl (by simp [hnone]), s.llcc, hsettled, rfl⟩
  apply henter.bind
  intro powered m hpost
  cases powered with
  | false => exact hpost
  | true =>
      obtain ⟨x, hsettled, rfl⟩ := hpost
      apply (lift_owns releaseSlices_inside x).bind
      rintro _ _ ⟨-, rfl⟩
      exact leave_settles (Or.inl (releaseSlices_releases hsettled)) _

theorem powerOn_settles : Settles 0 (.act .powerOn fun _ => ()) :=
  Owns.act fun _ _ howned _ => ⟨0, ⟨howned.busy, howned.slices⟩, rfl⟩

theorem LlccOp.body_settles (op : LlccOp) : Settles 0 op.body := by
  cases op with
  | sessionOpen env =>
      exact (irisHfiGen1SessionOpen_settles env).bind fun _ _ hzero => hzero
  | powerOff => exact irisVpuPowerOff_settles
  | powerOn => exact powerOn_settles

theorem irisVpuPowerOff_releases {s : LlccCore} (hsettled : s.llcc.Settled)
    (hpowered : s.vpuPowered = true) :
    (irisVpuPowerOff.exec LlccSection.effect s).2.llcc = .released := by
  let entered : LlccCore := LlccSection.effect .enterPowerOff s
  have hentered : entered.llcc = s.llcc := by
    simp [entered, LlccSection.effect, hpowered]
  have hlift := @Prog.exec_lift _ _ _ _ LlccCore.llcc LlccSection.change LlccSection.effect
    LlccSection.Inside (fun k t hk => by rw [hk.effect_eq]) _ releaseSlices_inside entered
  have hexec : (irisVpuPowerOff.exec LlccSection.effect s).2.llcc =
      ((releaseSlices.lift LlccCore.llcc).exec LlccSection.effect entered).2.llcc := by
    rw [irisVpuPowerOff, Prog.exec_bind]
    show ((if s.vpuPowered = true then _ else _ : LlccProg Unit).exec LlccSection.effect
      entered).2.llcc = _
    rw [if_pos hpowered, Prog.exec_bind]
    rfl
  rw [hexec, hlift.2, hentered]
  exact releaseSlices_releases hsettled

/-! ### The threads at work -/

/-- The section belongs to a thread at work. -/
def atWork : LlccSection → Nat
  | .enterConfig | .enterPowerOff | .powerOn => 0
  | _ => 1

abbrev Tells (rest : Nat) (p : LlccProg α) : Prop :=
  Tallies LlccSection.effect atWork LlccCore.busy rest p

theorem lift_tells {p : SliceProg α} (hinside : p.All LlccSection.Inside) :
    (p.lift LlccCore.llcc).weightOr atWork 1 = 1 ∧ Tells 1 (p.lift LlccCore.llcc) := by
  refine Tallies.lift (fun k hk => ?_) (fun k s hk => by rw [hk.effect_eq]) hinside
  cases k with
  | enterConfig => exact hk.elim
  | enterPowerOff => exact hk.elim
  | powerOn => exact hk.elim
  | _ => rfl

theorem leave_tells (a : α) : Tells 0 (.act .leave fun _ => a) :=
  fun _ => ⟨fun hle => Nat.sub_add_cancel hle, trivial⟩

/-- A program at work, to the end of its thread's work. -/
theorem work_tells {p : SliceProg α} (hinside : p.All LlccSection.Inside) {β : Type} (f : α → β) :
    (p.lift LlccCore.llcc >>= fun a => (.act .leave fun _ => f a : LlccProg β)).weightOr atWork 0 =
        1 ∧
      Tells 0 (p.lift LlccCore.llcc >>= fun a => .act .leave fun _ => f a) := by
  have hlift := lift_tells hinside
  have hleave : ∀ a, (.act .leave fun _ => f a : LlccProg β).weightOr atWork 0 = 1 := fun _ => rfl
  exact ⟨(Prog.weightOr_bind hleave _).trans hlift.1,
    Tallies.bind hlift.2 fun a => ⟨rfl, leave_tells (f a)⟩⟩

theorem irisHfiGen1SyscacheConfig_tells (env : SyscacheEnv) :
    Tells 0 (irisHfiGen1SyscacheConfig env) := by
  have hwork := work_tells (acquireSlices_inside env) id
  refine Tallies.act_bind (fun s _ => ?_) fun set => ?_
  · cases hset : s.llcc.syscacheSet with
    | true => simp [LlccSection.effect, hset, atWork, Prog.weightOr, pure]
    | false =>
        refine Eq.trans ?_ (congrArg (s.busy + ·) hwork.1.symm)
        simp [LlccSection.effect, hset, atWork]
  · cases set with
    | true => trivial
    | false => exact hwork.2

theorem irisHfiGen1SessionOpen_tells (env : SessionOpenEnv) :
    (irisHfiGen1SessionOpen env).weightOr atWork 0 = 0 ∧ Tells 0 (irisHfiGen1SessionOpen env) := by
  unfold irisHfiGen1SessionOpen
  split
  · exact ⟨rfl, trivial⟩
  split
  · exact ⟨rfl, trivial⟩
  refine ⟨rfl, Tallies.bind (irisHfiGen1SyscacheConfig_tells env.syscache) fun ret => ?_⟩
  split
  · exact ⟨rfl, trivial⟩
  split <;> exact ⟨rfl, trivial⟩

theorem irisVpuPowerOff_tells : Tells 0 irisVpuPowerOff := by
  have hwork := work_tells releaseSlices_inside id
  refine Tallies.act_bind (fun s _ => ?_) fun powered => ?_
  · cases hpowered : s.vpuPowered with
    | false => simp [LlccSection.effect, hpowered, atWork, Prog.weightOr, pure]
    | true =>
        refine Eq.trans ?_ (congrArg (s.busy + ·) hwork.1.symm)
        simp [LlccSection.effect, hpowered, atWork]
  · cases powered with
    | false => trivial
    | true => exact hwork.2

theorem LlccOp.body_tells (op : LlccOp) : op.body.weightOr atWork 0 = 0 ∧ Tells 0 op.body := by
  cases op with
  | sessionOpen env =>
      have hopen := irisHfiGen1SessionOpen_tells env
      exact ⟨(Prog.weightOr_bind (fun _ => rfl) _).trans hopen.1,
        Tallies.bind hopen.2 fun _ => ⟨rfl, trivial⟩⟩
  | powerOff => exact ⟨rfl, irisVpuPowerOff_tells⟩
  | powerOn => exact ⟨rfl, fun _ => ⟨fun _ => rfl, trivial⟩⟩

/-- `busy` counts the threads at work. -/
theorem busy_tally (moves : List (PoolMove LlccOp)) :
    (runs moves).state.busy = ((runs moves).threads.map (Prog.weightOr atWork 0)).sum :=
  Pool.runs_tally LlccOp.body_tells rfl moves

theorem busy_of_atRest {moves : List (PoolMove LlccOp)} (hrest : (runs moves).AtRest) :
    (runs moves).state.busy = 0 := (busy_tally moves).trans hrest.sum_weightOr

/-- **Each slice is taken once or not at all, and power-off gives it back.** So it is whenever
nobody is at work, and nobody is between the calls. -/
theorem slices_balanced (moves : List (PoolMove LlccOp))
    (halone : ∀ pre move, pre ++ [move] <+: moves → (runs pre).Allows LlccSection.Alone move) :
    ((runs moves).AtRest → (runs moves).state.busy = 0) ∧
      ((runs moves).state.busy = 0 →
        (runs moves).state.llcc.Balanced ∧
          ((runs moves).state.vpuPowered = true → ∀ slice,
            (irisVpuPowerOff.exec LlccSection.effect (runs moves).state).2.llcc.refs slice = 0 ∧
            (irisVpuPowerOff.exec LlccSection.effect (runs moves).state).2.llcc.activations slice =
              0)) := by
  have hinit : SlicesOwned 0 probed := ⟨rfl, Or.inl ⟨rfl, Or.inl rfl⟩⟩
  obtain ⟨owned, -, howned⟩ := Pool.runs_owned LlccOp.body_settles hinit halone
  refine ⟨busy_of_atRest, fun hidle => ?_⟩
  have hsettled : (runs moves).state.llcc.Settled := (slices_none howned hidle).2
  refine ⟨hsettled.balanced, fun hpowered slice => ?_⟩
  rw [irisVpuPowerOff_releases hsettled hpowered]
  exact ⟨rfl, rfl⟩

/-- The calls of an opener that all succeed. -/
def openEnv : SessionOpenEnv where
  deinit := true
  debugConfig := 0
  syscache := ⟨fun _ => 0, fun _ => 0, true, 0⟩
  powerControl := 0
  sessionInit := 0

/-- One session after the other, and the end of the power. -/
def openTwice : List (PoolMove LlccOp) :=
  [.call .powerOn, .run 0, .call (.sessionOpen openEnv)] ++ List.replicate 8 (.run 1) ++
    [.call (.sessionOpen openEnv), .run 2]

theorem slices_balanced_openTwice :
    (runs openTwice).state.llcc.Balanced ∧
      ((runs openTwice).state.vpuPowered = true → ∀ slice,
        (irisVpuPowerOff.exec LlccSection.effect (runs openTwice).state).2.llcc.refs slice = 0 ∧
        (irisVpuPowerOff.exec LlccSection.effect (runs openTwice).state).2.llcc.activations slice =
          0) := by
  obtain ⟨-, hbalanced⟩ := slices_balanced openTwice (snoc_prefixes_iff.2 (by decide))
  exact hbalanced (by decide)

/-- Two openers pass the test before either of them has taken a slice. -/
def openTogether : List (PoolMove LlccOp) :=
  [.call .powerOn, .run 0, .call (.sessionOpen openEnv), .call (.sessionOpen openEnv), .run 1,
    .run 2] ++ List.replicate 7 (.run 1) ++ List.replicate 7 (.run 2) ++
    .call .powerOff :: List.replicate 9 (.run 3)

theorem slices_kept :
    (runs openTogether).AtRest ∧ (runs openTogether).state.busy = 0 ∧
      (runs openTogether).state.llcc.llccActive = false ∧
      (runs openTogether).state.llcc.refs .vidsc0 = 1 ∧
      (runs openTogether).state.llcc.activations .vidsc0 = 1 := by
  decide

end SystemCache

end NabuIris
