import Mathlib.Data.List.Nodup
import NabuIris.Proof.ControlValues

/-!
# The controls of an instance

The handler is given room for the controls that a first loop counts, and a second loop creates them.
The count is right, no control is created twice, and each one that is created finds its capability
again when it is set.
-/

namespace NabuIris.Controls

open Lib

/-! ### Creating -/

/-- The control of an entry, if it has one. -/
def ctrlOf (fwCaps : CapId → Cap) (idx : CapId) : Option NewCtrl :=
  ((fwCaps idx).capId.bind irisGetV4l2Id).map (fwCaps idx).newCtrl

/-- All controls of an instance. -/
def allCtrls (inst : CtrlInst) : List NewCtrl :=
  CapId.all.filterMap (ctrlOf inst.fwCaps) ++ lastCtrls inst

section Creating

variable {created : NewCtrl → Bool} {fwCaps : CapId → Cap} {inst : CtrlInst}

theorem length_filterMap_ctrlOf (fwCaps : CapId → Cap) (ids : List CapId) :
    (ids.filterMap (ctrlOf fwCaps)).length =
      (ids.filter fun idx => ((fwCaps idx).capId.bind irisGetV4l2Id).isSome).length := by
  induction ids with
  | nil => rfl
  | cons idx rest ih =>
      rw [List.filterMap_cons, List.filter_cons]
      cases hid : (fwCaps idx).capId.bind irisGetV4l2Id with
      | none => simpa [ctrlOf, hid] using ih
      | some id => simpa [ctrlOf, hid] using ih

/-- **The second loop** never meets the bound that the first one has counted. -/
theorem newCtrls_eq (created : NewCtrl → Bool) {num : Nat} (ids : List CapId) (ctrls : List NewCtrl)
    (hroom : ctrls.length + (ids.filterMap (ctrlOf fwCaps)).length ≤ num) :
    ((newCtrls created fwCaps num ids ctrls).2 =
        (ids.filterMap (ctrlOf fwCaps)).all created) ∧
      ((ids.filterMap (ctrlOf fwCaps)).all created →
        (newCtrls created fwCaps num ids ctrls).1 = ctrls ++ ids.filterMap (ctrlOf fwCaps)) := by
  induction ids generalizing ctrls with
  | nil => exact ⟨rfl, fun _ => (List.append_nil ctrls).symm⟩
  | cons idx rest ih =>
      unfold newCtrls
      rw [List.filterMap_cons] at hroom ⊢
      cases hid : (fwCaps idx).capId.bind irisGetV4l2Id with
      | none =>
          have hnone : ctrlOf fwCaps idx = none := by rw [ctrlOf, hid, Option.map_none]
          rw [hnone] at hroom ⊢
          exact ih ctrls hroom
      | some id =>
          have hsome : ctrlOf fwCaps idx = some ((fwCaps idx).newCtrl id) := by
            rw [ctrlOf, hid, Option.map_some]
          rw [hsome] at hroom ⊢
          rw [List.length_cons] at hroom
          dsimp only
          rw [if_neg (by omega), List.all_cons]
          cases hcreated : created ((fwCaps idx).newCtrl id) with
          | false => exact ⟨rfl, fun h => absurd h Bool.false_ne_true⟩
          | true =>
              have hrest := ih (ctrls ++ [(fwCaps idx).newCtrl id])
                (by rw [List.length_append, List.length_singleton]; omega)
              rw [List.append_assoc, List.singleton_append] at hrest
              exact hrest

theorem length_allCtrls (inst : CtrlInst) : (allCtrls inst).length = handlerCtrls inst := by
  rw [allCtrls, List.length_append, length_filterMap_ctrlOf, handlerCtrls, numCtrls]
  unfold lastCtrls
  cases inst.domain with
  | decoder =>
      by_cases hlegacy : inst.legacyVpu5
      · simp [hlegacy, Nat.add_assoc]
      · simp [hlegacy]
  | encoder => simp

/-- The framework answers for the controls: all are there, or none. -/
theorem irisCtrlsInit_eq (handlerInit error : Int) (inst : CtrlInst) :
    irisCtrlsInit handlerInit created error inst =
      if handlerInit ≠ 0 then (handlerInit, [])
      else if (allCtrls inst).all created then (0, allCtrls inst)
      else if (CapId.all.filterMap (ctrlOf inst.fwCaps)).all created then (error, [])
      else (-einval, []) := by
  by_cases hinit : handlerInit ≠ 0
  · rw [if_pos hinit, irisCtrlsInit, if_pos hinit]
  have hroom : ([] : List NewCtrl).length +
      (CapId.all.filterMap (ctrlOf inst.fwCaps)).length ≤ numCtrls inst.fwCaps := by
    rw [length_filterMap_ctrlOf, List.length_nil, Nat.zero_add, numCtrls]
  obtain ⟨hdone, hctrls⟩ := newCtrls_eq created _ _ hroom
  unfold irisCtrlsInit
  rw [if_neg hinit, if_neg hinit, allCtrls, List.all_append]
  generalize newCtrls created inst.fwCaps (numCtrls inst.fwCaps) CapId.all [] = result
    at hdone hctrls
  obtain ⟨ctrls, done⟩ := result
  dsimp only at hdone hctrls
  cases done with
  | false =>
      rw [← hdone]
      rfl
  | true =>
      rw [← hdone] at hctrls ⊢
      rw [hctrls rfl, List.nil_append, Bool.true_and]
      dsimp only
      rw [List.any_eq_not_all_not]
      simp only [Bool.not_not]
      cases (lastCtrls inst).all created <;> rfl

/-- An error of the framework is not 0, and `-EINVAL` is not. -/
theorem irisCtrlsInit_eq_zero_iff {handlerInit error : Int} (herror : error ≠ 0) :
    (irisCtrlsInit handlerInit created error inst).1 = 0 ↔
      handlerInit = 0 ∧ ∀ ctrl ∈ allCtrls inst, created ctrl := by
  rw [irisCtrlsInit_eq, ← List.all_eq_true]
  by_cases hinit : handlerInit = 0
  · rw [if_neg (not_not.2 hinit)]
    by_cases hall : (allCtrls inst).all created
    · rw [if_pos hall]
      exact ⟨fun _ => ⟨hinit, hall⟩, fun _ => rfl⟩
    · rw [if_neg hall]
      refine ⟨fun h => ?_, fun h => absurd h.2 hall⟩
      split_ifs at h
      · exact absurd h herror
      · exact absurd h (by decide)
  · rw [if_pos hinit]
    exact ⟨fun h => absurd h hinit, fun h => absurd h.1 hinit⟩

end Creating

/-! ### Setting -/

def NewCtrl.id : NewCtrl → CtrlId
  | .menu id _ _ _ => id
  | .std id _ _ _ _ _ => id

/-- The control has `iris_ctrl_ops`. -/
def NewCtrl.handled : NewCtrl → Bool
  | .menu _ _ _ _ => true
  | .std _ sCtrl _ _ _ _ => sCtrl

/-- Every entry is where its `cap_id` says. -/
def Indexed (caps : CapId → Cap) : Prop := ∀ id, (caps id).capId = none ∨ (caps id).capId = some id

theorem Indexed.storeCap {caps : CapId → Cap} (hcaps : Indexed caps) (cap : Cap) :
    Indexed (storeCap caps cap) := by
  unfold Controls.storeCap
  cases hid : cap.capId with
  | none => exact hcaps
  | some id =>
      intro other
      change (Function.update caps id cap other).capId = none ∨
        (Function.update caps id cap other).capId = some other
      by_cases heq : other = id
      · subst heq
        rw [Function.update_self]
        exact .inr hid
      · rw [Function.update_of_ne heq]
        exact hcaps other

theorem indexed_irisSessionInitCaps (table : List Cap) : Indexed (irisSessionInitCaps table) := by
  have hstored : ∀ caps, Indexed caps → Indexed (table.foldl storeCap caps) := by
    induction table with
    | nil => exact fun _ h => h
    | cons cap rest ih => exact fun caps hcaps => ih _ (hcaps.storeCap cap)
  exact hstored _ fun _ => .inl rfl

section Setting

variable {caps : CapId → Cap} {idx : CapId} {ctrl : NewCtrl}

theorem id_newCtrl (cap : Cap) (id : CtrlId) : (cap.newCtrl id).id = id := by
  unfold Cap.newCtrl
  split_ifs <;> rfl

/-- The control of an entry leads back to the entry. -/
theorem ctrlOf_eq_some (hindexed : Indexed caps) (hctrl : ctrlOf caps idx = some ctrl) :
    irisGetCapId ctrl.id = some idx := by
  obtain ⟨id, hid, rfl⟩ := Option.map_eq_some_iff.1 hctrl
  obtain ⟨capId, hcap, hv4l2⟩ := Option.bind_eq_some_iff.1 hid
  rcases hindexed idx with hnone | hsome
  · exact absurd (hnone.symm.trans hcap) (by simp)
  · obtain rfl : idx = capId := Option.some.inj (hsome.symm.trans hcap)
    rw [id_newCtrl]
    exact irisGetCapId_eq_some_iff.2 hv4l2

theorem nodup_ids_filterMap (hindexed : Indexed caps) :
    ((CapId.all.filterMap (ctrlOf caps)).map NewCtrl.id).Nodup := by
  have hall : CapId.all.Nodup := by decide +kernel
  have hinj : ∀ (a b : CapId) (id : CtrlId), id ∈ (ctrlOf caps a).map NewCtrl.id →
      id ∈ (ctrlOf caps b).map NewCtrl.id → a = b := by
    intro a b id ha hb
    obtain ⟨ctrl, hctrl, rfl⟩ := Option.map_eq_some_iff.1 ha
    obtain ⟨ctrl', hctrl', hid⟩ := Option.map_eq_some_iff.1 hb
    have hback := ctrlOf_eq_some hindexed hctrl
    rw [← hid] at hback
    exact Option.some.inj (hback.symm.trans (ctrlOf_eq_some hindexed hctrl'))
  rw [List.map_filterMap]
  exact hall.filterMap hinj

/-- No capability stands behind the last controls. -/
theorem irisGetCapId_lastCtrls {inst : CtrlInst} (hctrl : ctrl ∈ lastCtrls inst) :
    irisGetCapId ctrl.id = none := by
  unfold lastCtrls at hctrl
  cases hdomain : inst.domain with
  | decoder =>
      rw [hdomain] at hctrl
      by_cases hlegacy : inst.legacyVpu5
      · simp only [hlegacy, if_true, List.mem_cons, List.not_mem_nil, or_false] at hctrl
        rcases hctrl with rfl | rfl | rfl <;> rfl
      · simp only [hlegacy, if_false, List.mem_singleton, Bool.false_eq_true] at hctrl
        rw [hctrl]
        rfl
  | encoder =>
      rw [hdomain] at hctrl
      rw [List.mem_singleton.1 hctrl]
      rfl

theorem nodup_ids_lastCtrls (inst : CtrlInst) : ((lastCtrls inst).map NewCtrl.id).Nodup := by
  unfold lastCtrls
  cases inst.domain with
  | decoder => split_ifs <;> simp [NewCtrl.id]
  | encoder => simp

theorem nodup_ids_allCtrls {inst : CtrlInst} (hindexed : Indexed inst.fwCaps) :
    ((allCtrls inst).map NewCtrl.id).Nodup := by
  rw [allCtrls, List.map_append]
  refine List.nodup_append.2 ⟨nodup_ids_filterMap hindexed, nodup_ids_lastCtrls inst, ?_⟩
  intro id hfirst id' hlast heq
  subst heq
  obtain ⟨ctrl, hctrl, rfl⟩ := List.mem_map.1 hfirst
  obtain ⟨ctrl', hctrl', hid⟩ := List.mem_map.1 hlast
  obtain ⟨idx, -, hidx⟩ := List.mem_filterMap.1 hctrl
  have hback := ctrlOf_eq_some hindexed hidx
  rw [← hid, irisGetCapId_lastCtrls hctrl'] at hback
  exact absurd hback (by simp)

/-- Where a new value of a control is found. -/
def Landed (val : Int) (inst : CtrlInst) : CtrlId → Prop
  | .decDisplayDelay => inst.displayDelay = BitVec.ofInt 32 val
  | .decDisplayDelayEnable => inst.displayDelayEnable = decide (val ≠ 0)
  | id => ∃ capId, irisGetCapId id = some capId ∧ inst.value capId = val

theorem irisOpSCtrl_of_cap {now : CtrlInst} {id : CtrlId} (hid : irisGetCapId id = some idx)
    (hidle : now.srcStreaming = false) (val : Int) :
    irisOpSCtrl id val now = (0, { now with
      fwCaps := Function.update now.fwCaps idx
        { now.fwCaps idx with
          value := val
          flags := { (now.fwCaps idx).flags with clientSet := true } } }) := by
  unfold irisOpSCtrl
  split
  · exact absurd hid (by simp [irisGetCapId])
  · exact absurd hid (by simp [irisGetCapId])
  · rw [hid]
    simp [hidle]

theorem landed_of_cap {now : CtrlInst} {id : CtrlId} (hid : irisGetCapId id = some idx)
    {val : Int} (hvalue : now.value idx = val) : Landed val now id := by
  unfold Landed
  split
  · exact absurd hid (by simp [irisGetCapId])
  · exact absurd hid (by simp [irisGetCapId])
  · exact ⟨idx, hid, hvalue⟩

/-- A control that is handled is taken by an instance that does not stream, and its value lands. -/
theorem irisOpSCtrl_created {inst now : CtrlInst} (hindexed : Indexed inst.fwCaps)
    (hctrl : ctrl ∈ allCtrls inst) (hhandled : ctrl.handled) (hdomain : now.domain = inst.domain)
    (hidle : now.srcStreaming = false) (val : Int) :
    (irisOpSCtrl ctrl.id val now).1 = 0 ∧ Landed val (irisOpSCtrl ctrl.id val now).2 ctrl.id := by
  rcases List.mem_append.1 hctrl with hfirst | hlast
  · obtain ⟨idx, -, hidx⟩ := List.mem_filterMap.1 hfirst
    have hback := ctrlOf_eq_some hindexed hidx
    rw [irisOpSCtrl_of_cap hback hidle]
    refine ⟨rfl, landed_of_cap hback ?_⟩
    change (Function.update now.fwCaps idx _ idx).value = val
    rw [Function.update_self]
  · unfold lastCtrls at hlast
    cases hd : inst.domain with
    | decoder =>
        rw [hd] at hlast hdomain
        by_cases hlegacy : inst.legacyVpu5
        · simp only [hlegacy, if_true, List.mem_cons, List.not_mem_nil, or_false] at hlast
          rcases hlast with rfl | rfl | rfl
          · exact absurd hhandled Bool.false_ne_true
          · simp [irisOpSCtrl, NewCtrl.id, Landed, hdomain, hidle]
          · simp [irisOpSCtrl, NewCtrl.id, Landed, hdomain, hidle]
        · simp only [hlegacy, if_false, List.mem_singleton, Bool.false_eq_true] at hlast
          rw [hlast] at hhandled
          exact absurd hhandled Bool.false_ne_true
    | encoder =>
        rw [hd] at hlast
        rw [List.mem_singleton.1 hlast] at hhandled
        exact absurd hhandled Bool.false_ne_true

/-- **The controls of an instance**, whatever table its capabilities come from. The loop that
creates controls never meets the bound that was counted before: the result is success exactly when
the handler is set up and the framework creates every control, and then the handler has as many as
it was given room for, each with an identifier of its own. Every control that the driver handles is
taken as long as the instance does not stream, whatever has happened to it before, and its value
lands in its capability or in the display delay. -/
theorem created_controls_are_settable (table : List Cap) (inst : CtrlInst) (handlerInit error : Int)
    (created : NewCtrl → Bool) (hcaps : inst.fwCaps = irisSessionInitCaps table)
    (herror : error ≠ 0) :
    (irisCtrlsInit handlerInit created error inst =
        if handlerInit ≠ 0 then (handlerInit, [])
        else if (allCtrls inst).all created then (0, allCtrls inst)
        else if (CapId.all.filterMap (ctrlOf inst.fwCaps)).all created then (error, [])
        else (-einval, [])) ∧
      ((irisCtrlsInit handlerInit created error inst).1 = 0 ↔
        handlerInit = 0 ∧ ∀ ctrl ∈ allCtrls inst, created ctrl) ∧
      (allCtrls inst).length = handlerCtrls inst ∧ ((allCtrls inst).map NewCtrl.id).Nodup ∧
      ∀ ctrl ∈ allCtrls inst, ctrl.handled → ∀ (now : CtrlInst) (val : Int),
        now.domain = inst.domain → now.srcStreaming = false →
          (irisOpSCtrl ctrl.id val now).1 = 0 ∧
            Landed val (irisOpSCtrl ctrl.id val now).2 ctrl.id := by
  have hindexed : Indexed inst.fwCaps := hcaps ▸ indexed_irisSessionInitCaps table
  exact ⟨irisCtrlsInit_eq handlerInit error inst, irisCtrlsInit_eq_zero_iff herror,
    length_allCtrls inst, nodup_ids_allCtrls hindexed,
    fun ctrl hctrl hhandled now val hdomain hidle =>
      irisOpSCtrl_created hindexed hctrl hhandled hdomain hidle val⟩

/-- A decoder of SM8150, whose controls all stand outside its table. -/
def sm8150Decoder : CtrlInst :=
  { instInit .qcs8300 .decoder with
    legacyVpu5 := true
    fwCaps := irisSessionInitCaps (instFwCapGen1Dec 2) }

/-- The framework has no memory for the last of the three. -/
theorem created_controls_are_settable_legacy :
    irisCtrlsInit 0 (fun ctrl => ctrl.id ≠ .decDisplayDelayEnable) (-enomem) sm8150Decoder =
        (-enomem, []) ∧
      (irisOpSCtrl .decDisplayDelay 3 sm8150Decoder).2.displayDelay = 3 := by
  obtain ⟨heq, -, -, -, hset⟩ := created_controls_are_settable (instFwCapGen1Dec 2) sm8150Decoder 0
    (-enomem) (fun ctrl => ctrl.id ≠ .decDisplayDelayEnable) rfl (by decide)
  refine ⟨heq.trans (by decide +kernel), ?_⟩
  exact (hset (.std .decDisplayDelay true 0 16383 1 0) (by decide +kernel) rfl sm8150Decoder 3 rfl
    rfl).2

end Setting

end NabuIris.Controls
