import NabuIris.Clocks
import NabuIris.Lib.Totals

/-!
# The rate and the votes

A call that changes a vote sets the clocks to the sum of all votes at its end, so a rate that is too
low is made good by the last such call. Two sections are not followed by one: an instance's session
is counted again with the vote it left behind, and a core that has booted goes down to the lowest
OPP whatever the votes have become meanwhile.
-/

namespace NabuIris

open Lib

variable {s : ClockCore} {i : Nat}

def ClockInst.vote (inst : ClockInst) : Nat := if inst.votes then inst.minFreq.toNat else 0

namespace ClockCore

/-- The sum of `min_freq` over the instances with a session and input data. -/
def votes (s : ClockCore) : Nat := (s.instances.map fun k => (s.inst k).vote).sum

/-- What instance `i`, which has no session, would add to the votes with one. -/
def leftOver (i : Nat) (s : ClockCore) : Nat :=
  if i ∈ s.instances ∧ (s.inst i).hfiSessionOpened = false ∧ (s.inst i).maxInputDataSize ≠ 0 then
    (s.inst i).minFreq.toNat
  else 0

/-! ### The sum of the votes -/

/-- A vote that goes down takes the sum down. -/
theorem votes_setInst_le {change : ClockInst → ClockInst}
    (hchange : (change (s.inst i)).vote ≤ (s.inst i).vote) :
    (s.setInst i change).votes ≤ s.votes := by
  apply List.sum_le_sum
  intro k _
  by_cases hk : k = i
  · subst hk
    simpa [setInst] using hchange
  · simp [setInst, hk]

theorem votes_addInstance (hnew : i ∉ s.instances) :
    (ClockSection.effect (.addInstance i) s).votes = s.votes := by
  have hsame : s.instances.map (fun k => (Function.update s.inst i ClockInst.new k).vote) =
      s.instances.map fun k => (s.inst k).vote := by
    apply List.map_congr_left
    intro k hk
    rw [Function.update_of_ne]
    rintro rfl
    exact hnew hk
  simp only [ClockSection.effect, hnew, if_false, votes, setInst, List.map_append, List.map_cons,
    List.map_nil, List.sum_append, List.sum_singleton, Function.update_self]
  rw [hsame]
  rfl

theorem votes_removeInstance (i : Nat) (s : ClockCore) :
    (ClockSection.effect (.removeInstance i) s).votes ≤ s.votes := by
  by_cases hmem : i ∈ s.instances
  · have hsum := List.sum_map_erase (fun k => (s.inst k).vote) hmem
    calc ((s.instances.erase i).map fun k => (s.inst k).vote).sum
        ≤ (s.inst i).vote + ((s.instances.erase i).map fun k => (s.inst k).vote).sum :=
          Nat.le_add_left _ _
      _ = s.votes := hsum
  · simp [ClockSection.effect, List.erase_of_not_mem hmem, votes]

/-- A session brings the vote that was left over back into the sum. -/
theorem votes_openSession (hnodup : s.instances.Nodup) :
    (ClockSection.effect (.setSession i true) s).votes = s.votes + s.leftOver i := by
  have hrest : ∀ members : List Nat, i ∉ members →
      members.map (fun k => (Function.update s.inst i
        { s.inst i with hfiSessionOpened := true } k).vote) =
      members.map fun k => (s.inst k).vote := by
    intro members hout
    apply List.map_congr_left
    intro k hk
    rw [Function.update_of_ne]
    rintro rfl
    exact hout hk
  by_cases hmem : i ∈ s.instances
  · have hsum := List.sum_map_erase (fun k => (s.inst k).vote) hmem
    have hsum' := List.sum_map_erase (fun k => (Function.update s.inst i
        { s.inst i with hfiSessionOpened := true } k).vote) hmem
    rw [hrest _ hnodup.not_mem_erase, Function.update_self] at hsum'
    have hvote : ({ s.inst i with hfiSessionOpened := true } : ClockInst).vote =
        (s.inst i).vote + s.leftOver i := by
      cases hopened : (s.inst i).hfiSessionOpened <;>
        by_cases hsize : (s.inst i).maxInputDataSize = 0 <;>
        simp [ClockInst.vote, ClockInst.votes, leftOver, hmem, hopened, hsize]
    show (s.instances.map fun k => (Function.update s.inst i
        { s.inst i with hfiSessionOpened := true } k).vote).sum = s.votes + s.leftOver i
    unfold votes
    omega
  · have hnone : s.leftOver i = 0 := by simp [leftOver, hmem]
    rw [hnone, add_zero]
    exact congrArg List.sum (hrest _ hmem)

/-! ### The clocks -/

theorem votedFreq_toNat (s : ClockCore) : s.votedFreq.toNat = s.votes % 2 ^ 64 := by
  have hloop : ∀ (members : List Nat) (freq : U64),
      (members.foldl (fun freq k =>
          if !(s.inst k).votes then freq else freq + (s.inst k).minFreq) freq).toNat =
        (freq.toNat + (members.map fun k => (s.inst k).vote).sum) % 2 ^ 64 := by
    intro members
    induction members with
    | nil =>
        intro freq
        simpa using (Nat.mod_eq_of_lt freq.isLt).symm
    | cons k rest ih =>
        intro freq
        rw [List.foldl_cons, ih, List.map_cons, List.sum_cons]
        cases hvotes : (s.inst k).votes with
        | false => simp [ClockInst.vote, hvotes]
        | true =>
            simp only [ClockInst.vote, hvotes, Bool.not_true, Bool.false_eq_true, if_false, if_true,
              BitVec.toNat_add]
            omega
  simpa [votedFreq, votes] using hloop s.instances 0

theorem setRate_frame (ret : Int) (freq : U64) (s : ClockCore) :
    (s.setRate ret freq).2 = { s with clkFreq := (s.setRate ret freq).2.clkFreq } := by
  unfold setRate
  split_ifs <;> rfl

theorem irisSetClocks_frame (ret : Int) (s : ClockCore) :
    (s.irisSetClocks ret).2 = { s with clkFreq := (s.irisSetClocks ret).2.clkFreq } := by
  unfold irisSetClocks
  dsimp only
  split_ifs
  · rfl
  · exact setRate_frame ret s.lowestOpp s
  · rfl
  · exact setRate_frame ret s.votedFreq s

theorem irisSetIdleOpp_frame (ret : Int) (s : ClockCore) :
    (s.irisSetIdleOpp ret).2 = { s with clkFreq := (s.irisSetIdleOpp ret).2.clkFreq } := by
  unfold irisSetIdleOpp
  split_ifs
  · rfl
  · rfl
  · exact setRate_frame ret s.lowestOpp s

/-- Votes that fit a word are met. -/
theorem votes_le_irisSetClocks (hfits : s.votes < 2 ^ 64) :
    s.votes ≤ (s.irisSetClocks 0).2.clkFreq.toNat := by
  have hvoted : s.votedFreq.toNat = s.votes := by
    rw [votedFreq_toNat, Nat.mod_eq_of_lt hfits]
  by_cases hnone : s.votedFreq = 0
  · have hzero : s.votes = 0 := by rw [← hvoted, hnone]; rfl
    rw [hzero]
    exact Nat.zero_le _
  · simp only [irisSetClocks, hnone, if_false, false_or]
    split_ifs with hsame
    · rw [← hsame, hvoted]
    · exact hvoted.ge

theorem irisSetIdleOpp_clkFreq (hopp : s.lowestOpp ≠ 0) :
    (s.irisSetIdleOpp 0).2.clkFreq = s.lowestOpp := by
  simp only [irisSetIdleOpp, hopp, if_false]
  split_ifs with hsame
  · exact hsame.symm
  · rfl

/-- The rate is enough unless a call is still going to set it. -/
def VotesMet (s : ClockCore) : Prop := s.scaling = 0 → s.votes ≤ s.clkFreq.toNat

end ClockCore

/-- What the rate needs of a section while no call is going to set the clocks after it. -/
def ClockSection.Covered : ClockSection → ClockCore → Prop
  | .setSession i true, s => s.scaling = 0 → s.votes + s.leftOver i ≤ s.clkFreq.toNat
  | .setClocks ret, s => ret = 0 → s.scaling ≤ 1 → s.votes < 2 ^ 64
  | .setIdleOpp ret, s =>
      ret = 0 → s.scaling = 0 → s.lowestOpp ≠ 0 → s.votes ≤ s.lowestOpp.toNat
  | _, _ => True

/-- The clocks are still to be set when this section comes next. -/
def ClockSection.owed : ClockSection → Nat
  | .setMinFreq _ _ => 1
  | .setClocks _ => 1
  | _ => 0

/-- `due` calls are going to set the clocks. -/
structure Voted (due : Nat) (s : ClockCore) : Prop where
  nodup : s.instances.Nodup
  scaling : s.scaling = due
  met : s.VotesMet

/-- A section that is not covered leaves the rate below the votes. -/
theorem ClockSection.covered_of_votesMet {k : ClockSection} (hnodup : s.instances.Nodup)
    (hmet : (k.effect s).VotesMet) : k.Covered s := by
  cases k with
  | setSession i opened =>
      cases opened with
      | false => trivial
      | true =>
          intro hnone
          rw [← ClockCore.votes_openSession hnodup]
          exact hmet hnone
  | setClocks ret =>
      rintro rfl hlast
      have hnone : (ClockSection.effect (.setClocks 0) s).scaling = 0 := by
        simp only [ClockSection.effect]
        omega
      calc s.votes = (ClockSection.effect (.setClocks 0) s).votes := by
            rw [ClockSection.effect, ClockCore.irisSetClocks_frame]
            rfl
        _ ≤ (ClockSection.effect (.setClocks 0) s).clkFreq.toNat := hmet hnone
        _ < 2 ^ 64 := BitVec.isLt _
  | setIdleOpp ret =>
      rintro rfl hnone hopp
      have hframe := ClockCore.irisSetIdleOpp_frame 0 s
      rw [ClockCore.irisSetIdleOpp_clkFreq hopp] at hframe
      rw [ClockSection.effect, hframe] at hmet
      exact hmet hnone
  | _ => trivial

namespace Clocks

variable {α : Type}

/-- The program begins with `due` calls to the clocks ahead and ends with none. -/
abbrev Settles (due : Nat) (p : ClockProg α) : Prop :=
  Owns ClockSection.effect Voted ClockSection.Covered (fun _ n => n = 0) due p

/-! ### Sections -/

theorem look_settles {f : ClockCore → α} : Settles 0 (.act .look f) :=
  Owns.act fun _ _ hvoted _ => ⟨0, hvoted, rfl⟩

theorem setState_settles {state : CoreState} {f : ClockCore → α} :
    Settles 0 (.act (.setState state) f) :=
  Owns.act fun _ _ hvoted _ => ⟨0, ⟨hvoted.nodup, hvoted.scaling, hvoted.met⟩, rfl⟩

theorem coreInit_settles {boot : Int} {f : ClockCore → α} :
    Settles 0 (.act (.coreInit boot) f) := by
  apply Owns.act
  intro frame s hvoted _
  refine ⟨0, ?_, rfl⟩
  simp only [ClockSection.effect, ClockCore.irisCoreInitSection]
  cases s.state with
  | init => exact hvoted
  | error => exact ⟨hvoted.nodup, hvoted.scaling, hvoted.met⟩
  | deinit => split_ifs <;> exact ⟨hvoted.nodup, hvoted.scaling, hvoted.met⟩

theorem lower_settles {k : ClockSection} {f : ClockCore → α}
    (hnodup : ∀ s : ClockCore, s.instances.Nodup → (k.effect s).instances.Nodup)
    (hscaling : ∀ s, (k.effect s).scaling = s.scaling)
    (hclk : ∀ s, (k.effect s).clkFreq = s.clkFreq) (hvotes : ∀ s, (k.effect s).votes ≤ s.votes) :
    Settles 0 (.act k f) := by
  apply Owns.act
  intro frame s hvoted _
  refine ⟨0, ⟨hnodup s hvoted.nodup, (hscaling s).trans hvoted.scaling, fun hnone => ?_⟩, rfl⟩
  rw [hscaling] at hnone
  rw [hclk]
  exact (hvotes s).trans (hvoted.met hnone)

theorem addInstance_settles {f : ClockCore → α} : Settles 0 (.act (.addInstance i) f) := by
  have hcases : ∀ s : ClockCore, i ∉ s.instances →
      ClockSection.effect (.addInstance i) s =
        { s.setInst i fun _ => .new with instances := s.instances ++ [i] } :=
    fun s hnew => if_neg hnew
  have hsame : ∀ s : ClockCore, i ∈ s.instances → ClockSection.effect (.addInstance i) s = s :=
    fun s hmem => if_pos hmem
  apply lower_settles
  · intro s hnodup
    by_cases hmem : i ∈ s.instances
    · rwa [hsame s hmem]
    · rw [hcases s hmem]
      show (s.instances ++ [i]).Nodup
      rw [← List.concat_eq_append]
      exact hnodup.concat hmem
  · intro s
    by_cases hmem : i ∈ s.instances
    · rw [hsame s hmem]
    · rw [hcases s hmem]
      rfl
  · intro s
    by_cases hmem : i ∈ s.instances
    · rw [hsame s hmem]
    · rw [hcases s hmem]
      rfl
  · intro s
    by_cases hmem : i ∈ s.instances
    · rw [hsame s hmem]
    · exact (ClockCore.votes_addInstance hmem).le

theorem removeInstance_settles {f : ClockCore → α} : Settles 0 (.act (.removeInstance i) f) :=
  lower_settles (fun _ hnodup => hnodup.erase i) (fun _ => rfl) (fun _ => rfl)
    (ClockCore.votes_removeInstance i)

theorem closeSession_settles {f : ClockCore → α} : Settles 0 (.act (.setSession i false) f) :=
  lower_settles (fun _ hnodup => hnodup) (fun _ => rfl) (fun _ => rfl) fun s =>
    @ClockCore.votes_setInst_le s i (fun inst => { inst with hfiSessionOpened := false })
      (by simp [ClockInst.vote, ClockInst.votes])

theorem openSession_settles {f : ClockCore → α} : Settles 0 (.act (.setSession i true) f) := by
  apply Owns.act
  intro frame s hvoted hcovered
  refine ⟨0, ⟨hvoted.nodup, hvoted.scaling, fun hnone => ?_⟩, rfl⟩
  rw [ClockCore.votes_openSession hvoted.nodup]
  exact hcovered hnone

theorem noData_settles {f : ClockCore → α} : Settles 0 (.act (.setDataSize i 0 false) f) :=
  lower_settles (fun _ hnodup => hnodup) (fun _ => rfl) (fun _ => rfl) fun s =>
    @ClockCore.votes_setInst_le s i (fun inst => { inst with maxInputDataSize := 0 })
      (by simp [ClockInst.vote, ClockInst.votes])

theorem setDataSize_owns {size : Nat} :
    Owns ClockSection.effect Voted ClockSection.Covered (fun _ n => n = 1) 0
      (.act (.setDataSize i size true) fun _ => ()) := by
  apply Owns.act
  intro frame s hvoted _
  have hscaling := hvoted.scaling
  refine ⟨1, ⟨hvoted.nodup, ?_, fun hnone => ?_⟩, rfl⟩
  · simp only [ClockSection.effect, if_true]
    omega
  · simp [ClockSection.effect] at hnone

theorem setMinFreq_owns {freq : U64} :
    Owns ClockSection.effect Voted ClockSection.Covered (fun _ n => n = 1) 1
      (.act (.setMinFreq i freq) fun _ => ()) := by
  apply Owns.act
  intro frame s hvoted _
  have hscaling := hvoted.scaling
  refine ⟨1, ⟨hvoted.nodup, hscaling, fun hnone => ?_⟩, rfl⟩
  have hnone' : s.scaling = 0 := hnone
  omega

/-- The clocks are set by the last call that changed a vote, or by a later one. -/
theorem setClocks_settles : Settles 1 (irisSetClocks 0) := by
  apply Owns.act
  intro frame s hvoted hcovered
  have hscaling := hvoted.scaling
  refine ⟨0, ?_, rfl⟩
  rw [ClockSection.effect, ClockCore.irisSetClocks_frame]
  refine ⟨hvoted.nodup, ?_, fun hnone => ?_⟩
  · show s.scaling - 1 = 0 + frame
    omega
  · have hlast : s.scaling ≤ 1 := by
      have hzero : s.scaling - 1 = 0 := hnone
      omega
    exact ClockCore.votes_le_irisSetClocks (hcovered rfl hlast)

theorem setIdleOpp_settles : Settles 0 (irisSetIdleOpp 0) := by
  apply Owns.act
  intro frame s hvoted hcovered
  refine ⟨0, ?_, rfl⟩
  by_cases hopp : s.lowestOpp = 0
  · have hsame : ClockSection.effect (.setIdleOpp 0) s = s := by
      simp [ClockSection.effect, ClockCore.irisSetIdleOpp, hopp]
    rwa [hsame]
  · rw [ClockSection.effect, ClockCore.irisSetIdleOpp_frame, ClockCore.irisSetIdleOpp_clkFreq hopp]
    exact ⟨hvoted.nodup, hvoted.scaling, fun hnone => hcovered rfl hnone hopp⟩

/-! ### Calls -/

theorem irisScalePower_settles (resume : Int) (i dataSize : Nat) (freq : U64) :
    Settles 0 (irisScalePower resume i dataSize freq 0) := by
  unfold irisScalePower
  by_cases hresume : resume < 0
  · rw [if_pos hresume]
    rfl
  rw [if_neg hresume]
  by_cases hsize : dataSize = 0
  · subst hsize
    exact noData_settles.bind fun _ _ hzero => hzero
  · have hsets : (dataSize != 0) = true := by simpa using hsize
    unfold irisScaleClocks
    rw [hsets]
    apply setDataSize_owns.bind
    rintro _ _ rfl
    rw [if_neg hsize]
    apply setMinFreq_owns.bind
    rintro _ _ rfl
    exact setClocks_settles

theorem irisUnvotePower_settles (i : Nat) : Settles 0 (irisUnvotePower i 0) := by
  apply setDataSize_owns.bind
  rintro _ _ rfl
  apply setMinFreq_owns.bind
  rintro _ _ rfl
  exact setClocks_settles

theorem irisHfiSessionOpen_settles (i : Nat) (admitted : Bool) (opened : Int) :
    Settles 0 (irisHfiSessionOpen i admitted opened) := by
  apply look_settles.bind
  rintro already _ rfl
  cases already with
  | true => rfl
  | false =>
      cases admitted with
      | false => exact look_settles
      | true =>
          apply openSession_settles.bind
          rintro _ _ rfl
          split_ifs
          · exact closeSession_settles
          · rfl

theorem irisHfiSessionClose_settles (i : Nat) : Settles 0 (irisHfiSessionClose i 0) := by
  apply look_settles.bind
  rintro opened _ rfl
  split_ifs
  · apply closeSession_settles.bind
    rintro _ _ rfl
    exact (irisUnvotePower_settles i).bind fun _ _ hzero => hzero
  · rfl

theorem irisCoreInit_settles (boot response : Int) : Settles 0 (irisCoreInit boot response 0) := by
  apply coreInit_settles.bind
  rintro returned _ rfl
  cases returned with
  | some ret => rfl
  | none =>
      have hwait : Settles 0 (irisWaitForSystemResponse response) := by
        apply look_settles.bind
        rintro state _ rfl
        split_ifs
        · rfl
        · exact setState_settles.bind fun _ _ hzero => hzero
        · rfl
      apply hwait.bind
      rintro waited _ rfl
      split_ifs
      · rfl
      · exact setIdleOpp_settles.bind fun _ _ hzero => hzero

theorem ClockOp.body_settles (op : ClockOp) : Settles 0 op.body := by
  cases op with
  | scalePower resume i dataSize freq =>
      exact (irisScalePower_settles resume i dataSize freq).bind fun _ _ hzero => hzero
  | unvotePower i => exact (irisUnvotePower_settles i).bind fun _ _ hzero => hzero
  | sessionOpen i admitted opened =>
      exact (irisHfiSessionOpen_settles i admitted opened).bind fun _ _ hzero => hzero
  | sessionClose i => exact irisHfiSessionClose_settles i
  | coreInit boot response =>
      exact (irisCoreInit_settles boot response).bind fun _ _ hzero => hzero
  | coreDeinit => exact setState_settles
  | systemError => exact setState_settles
  | addInstance i => exact addInstance_settles
  | removeInstance i => exact removeInstance_settles

/-! ### The calls that are going to set the clocks -/

abbrev Owes (rest : Nat) (p : ClockProg α) : Prop :=
  Tallies ClockSection.effect ClockSection.owed ClockCore.scaling rest p

/-- A section after which as many clocks are to be set as before. -/
theorem act_owes {k : ClockSection} {f : ClockCore → α} {rest : Nat} (howed : k.owed = 0)
    (hscaling : ∀ s, (k.effect s).scaling = s.scaling + rest) : Owes rest (.act k f) := by
  intro s
  refine ⟨fun _ => ?_, trivial⟩
  rw [howed, hscaling]
  rfl

theorem look_owes {f : ClockCore → α} : Owes 0 (.act .look f) := act_owes rfl fun _ => rfl

theorem setMinFreq_owes {freq : U64} : Owes 1 (.act (.setMinFreq i freq) fun _ => ()) :=
  fun _ => ⟨fun _ => rfl, trivial⟩

theorem setClocks_owes : Owes 0 (irisSetClocks 0) := by
  intro s
  refine ⟨fun hle => ?_, trivial⟩
  have hsome : 1 ≤ s.scaling := hle
  exact Nat.sub_add_cancel hsome

theorem irisScalePower_owes (resume : Int) (i dataSize : Nat) (freq : U64) :
    (irisScalePower resume i dataSize freq 0).weightOr ClockSection.owed 0 = 0 ∧
      Owes 0 (irisScalePower resume i dataSize freq 0) := by
  unfold irisScalePower
  by_cases hresume : resume < 0
  · rw [if_pos hresume]
    exact ⟨rfl, trivial⟩
  rw [if_neg hresume]
  refine ⟨rfl, ?_⟩
  by_cases hsize : dataSize = 0
  · subst hsize
    exact Tallies.bind (act_owes rfl fun _ => rfl) fun _ => ⟨rfl, trivial⟩
  · have hsets : (dataSize != 0) = true := by simpa using hsize
    unfold irisScaleClocks
    rw [hsets, if_neg hsize]
    refine Tallies.bind (act_owes rfl fun _ => rfl) fun _ => ⟨rfl, ?_⟩
    exact Tallies.bind setMinFreq_owes fun _ => ⟨rfl, setClocks_owes⟩

theorem irisUnvotePower_owes (i : Nat) : Owes 0 (irisUnvotePower i 0) := by
  refine Tallies.bind (act_owes rfl fun _ => rfl) fun _ => ⟨rfl, ?_⟩
  exact Tallies.bind setMinFreq_owes fun _ => ⟨rfl, setClocks_owes⟩

theorem irisHfiSessionOpen_owes (i : Nat) (admitted : Bool) (opened : Int) :
    Owes 0 (irisHfiSessionOpen i admitted opened) := by
  have hset : ∀ value, Owes 0 (.act (.setSession i value) fun _ => ()) :=
    fun value => act_owes rfl fun _ => rfl
  refine Tallies.bind look_owes fun already => ?_
  cases already with
  | true => exact ⟨rfl, trivial⟩
  | false =>
      cases admitted with
      | false => exact ⟨rfl, look_owes⟩
      | true =>
          refine ⟨rfl, Tallies.bind (hset true) fun _ => ?_⟩
          split_ifs
          · exact ⟨rfl, act_owes rfl fun _ => rfl⟩
          · exact ⟨rfl, trivial⟩

theorem irisHfiSessionClose_owes (i : Nat) : Owes 0 (irisHfiSessionClose i 0) := by
  refine Tallies.bind look_owes fun opened => ?_
  cases opened with
  | false => exact ⟨rfl, trivial⟩
  | true =>
      refine ⟨rfl, Tallies.bind (act_owes rfl fun _ => rfl) fun _ => ⟨rfl, ?_⟩⟩
      exact Tallies.bind (irisUnvotePower_owes i) fun _ => ⟨rfl, trivial⟩

theorem irisCoreInit_owes (boot response : Int) : Owes 0 (irisCoreInit boot response 0) := by
  have hidle : Owes 0 (irisSetIdleOpp 0) := by
    refine act_owes rfl fun s => ?_
    rw [ClockSection.effect, ClockCore.irisSetIdleOpp_frame]
    rfl
  have hwait : Owes 0 (irisWaitForSystemResponse response) := by
    refine Tallies.bind look_owes fun state => ?_
    split_ifs
    · exact ⟨rfl, trivial⟩
    · exact ⟨rfl, Tallies.bind (act_owes rfl fun _ => rfl) fun _ => ⟨rfl, trivial⟩⟩
    · exact ⟨rfl, trivial⟩
  have hsection : Owes 0 (.act (.coreInit boot) fun s => (s.irisCoreInitSection boot).1) := by
    refine act_owes rfl fun s => ?_
    simp only [ClockSection.effect, ClockCore.irisCoreInitSection]
    cases s.state with
    | init => rfl
    | error => rfl
    | deinit => split_ifs <;> rfl
  refine Tallies.bind hsection fun returned => ?_
  cases returned with
  | some ret => exact ⟨rfl, trivial⟩
  | none =>
      refine ⟨rfl, Tallies.bind hwait fun waited => ?_⟩
      split_ifs
      · exact ⟨rfl, trivial⟩
      · exact ⟨rfl, Tallies.bind hidle fun _ => ⟨rfl, trivial⟩⟩

theorem ClockOp.body_owes (op : ClockOp) :
    op.body.weightOr ClockSection.owed 0 = 0 ∧ Owes 0 op.body := by
  cases op with
  | scalePower resume i dataSize freq =>
      have howes := irisScalePower_owes resume i dataSize freq
      refine ⟨?_, Tallies.bind howes.2 fun _ => ⟨rfl, trivial⟩⟩
      exact (Prog.weightOr_bind (fun _ => rfl) _).trans howes.1
  | unvotePower i => exact ⟨rfl, Tallies.bind (irisUnvotePower_owes i) fun _ => ⟨rfl, trivial⟩⟩
  | sessionOpen i admitted opened =>
      exact ⟨rfl, Tallies.bind (irisHfiSessionOpen_owes i admitted opened) fun _ =>
        ⟨rfl, trivial⟩⟩
  | sessionClose i => exact ⟨rfl, irisHfiSessionClose_owes i⟩
  | coreInit boot response =>
      exact ⟨rfl, Tallies.bind (irisCoreInit_owes boot response) fun _ => ⟨rfl, trivial⟩⟩
  | coreDeinit => exact ⟨rfl, act_owes rfl fun _ => rfl⟩
  | systemError => exact ⟨rfl, act_owes rfl fun _ => rfl⟩
  | addInstance i =>
      refine ⟨rfl, act_owes rfl fun s => ?_⟩
      simp only [ClockSection.effect]
      split_ifs <;> rfl
  | removeInstance i => exact ⟨rfl, act_owes rfl fun _ => rfl⟩

/-- `scaling` counts the threads whose clocks are still to be set. -/
theorem scaling_tally (lowestOpp : U64) (moves : List (PoolMove ClockOp)) :
    (runs lowestOpp moves).state.scaling =
      ((runs lowestOpp moves).threads.map (Prog.weightOr ClockSection.owed 0)).sum :=
  Pool.runs_tally ClockOp.body_owes rfl moves

theorem scaling_of_atRest {lowestOpp : U64} {moves : List (PoolMove ClockOp)}
    (hrest : (runs lowestOpp moves).AtRest) : (runs lowestOpp moves).state.scaling = 0 :=
  (scaling_tally lowestOpp moves).trans hrest.sum_weightOr

/-- **The rate meets the votes exactly when every section is covered**, as long as no call that
changed a vote is still to set the clocks; between the calls there is none. -/
theorem votes_met_iff (lowestOpp : U64) (moves : List (PoolMove ClockOp)) :
    ((∀ pre, pre <+: moves → (runs lowestOpp pre).state.scaling = 0 →
        (runs lowestOpp pre).state.votes ≤ (runs lowestOpp pre).state.clkFreq.toNat) ↔
      ∀ pre move, pre ++ [move] <+: moves →
        (runs lowestOpp pre).Allows ClockSection.Covered move) ∧
    ((runs lowestOpp moves).AtRest → (runs lowestOpp moves).state.scaling = 0) := by
  refine ⟨?_, scaling_of_atRest⟩
  refine @Pool.runs_good_iff _ _ _ _ _ ClockSection.effect Voted ClockSection.Covered
    ClockOp.body ClockCore.VotesMet ClockOp.body_settles (fun _ _ hvoted => hvoted.met)
    (fun _ _ _ hvoted hmet => ClockSection.covered_of_votesMet hvoted.nodup hmet)
    (.probed lowestOpp) ⟨List.nodup_nil, rfl, fun _ => Nat.zero_le _⟩ moves

/-- A session starts between the answer to `SYS_INIT` and the idle OPP of the thread that booted
the core. -/
def idleAfterScaling : List (PoolMove ClockOp) :=
  [.call (.addInstance 0), .run 0, .call (.coreInit 0 0), .run 1, .run 1,
    .call (.sessionOpen 0 true 0), .run 2, .run 2,
    .call (.scalePower 0 0 4096 533000000), .run 3, .run 3, .run 3, .run 1]

theorem votes_unmet :
    (runs 240000000 idleAfterScaling).AtRest ∧
      (runs 240000000 idleAfterScaling).state.scaling = 0 ∧
      (runs 240000000 idleAfterScaling).state.votes = 533000000 ∧
      (runs 240000000 idleAfterScaling).state.clkFreq = 240000000 := by
  decide

end Clocks

end NabuIris
