import NabuIris.Proof.FrameCrops
import NabuIris.Proof.Queues

/-!
# Which rectangle G_SELECTION reports

The rectangle that is due is that of the frame dequeued last, or the one of the instance when none
was dequeued since a restart. What `iris_g_selection` reports is the due one exactly while no call
leaves `dqbuf_crop_valid`, or the rectangle of an old frame, behind.
-/

namespace NabuIris

open Lib Lib.Reading Gen1Message

variable {rules : OutputRules} {limits : AdmissionLimits}

/-! ### What is due -/

/-- An instance with what happened to its frames. -/
structure Viewing where
  s : CropInst
  /-- the rectangle in force when a CAPTURE buffer was filled, for those that hold a frame -/
  frame : Nat → Option Rect
  /-- that of the frame that was dequeued last since the CAPTURE queue was restarted -/
  dequeued : Option Rect
  /-- a source change or S_FMT since the last restart -/
  changed : Bool

namespace Viewing

def crop (t : Viewing) : Rect := t.s.base.formats.crop

def due (t : Viewing) : Rect := t.dequeued.getD t.crop

end Viewing

/-- The sequence change that an event brings, unless another one is under way. -/
def sequenceChange (mem : Memory) (s : Gen1Inst) : Bool :=
  wordAt mem 12 = hfiEventSessionSequenceChanged ∧ hasFlag s.inst.subState subDrc = false ∧
    (wordAt mem 16 = hfiEventDataSequenceChangedSufficientBufResources ∨
      wordAt mem 16 = hfiEventDataSequenceChangedInsufficientBufResources) ∧ wordAt mem 20 ≠ 0

def view (rules : OutputRules) (limits : AdmissionLimits) (t : Viewing) (call : SelectionCall) :
    Viewing :=
  let s := applySelection rules limits t.s call
  let crop := s.base.formats.crop
  match call with
  | .driver _ => { t with s }
  | .restart _ =>
      if t.changed then { t with s, dequeued := none, changed := false } else { t with s }
  | .reqbufs _ => { t with s, frame := fun _ => none }
  | .qbuf i _ => { t with s, frame := Function.update t.frame i none }
  | .dqbuf i => { t with s, dequeued := (t.frame i).or t.dequeued }
  | .cancel _ => { t with s }
  | .sFmt _ => { t with s, changed := true }
  | .ftbDone _ mem =>
      match (if t.s.base.inst.gen = .gen1 then completed mem t.s.base else none) with
      | none => { t with s }
      | some (i, filled) =>
          { t with s, frame := Function.update t.frame i (if filled then some crop else none) }
  | .eventNotify _ mem =>
      { t with
        s
        changed := t.changed || (t.s.base.inst.gen == .gen1 && sequenceChange mem t.s.base) }
  | .fillDone i filled _ =>
      if t.s.base.inst.gen = .gen2 then
        { t with s, frame := Function.update t.frame i (if filled then some crop else none) }
      else { t with s }
  | .srcChange _ _ => { t with s, changed := t.changed || t.s.base.inst.gen == .gen2 }

def Viewing.start (s : CropInst) : Viewing where
  s := s
  frame := fun _ => none
  dequeued := none
  changed := false

def viewAfter (rules : OutputRules) (limits : AdmissionLimits) (s : CropInst)
    (calls : List SelectionCall) : Viewing :=
  calls.foldl (view rules limits) (.start s)

/-- A decoder that has filled no buffer yet, as it is opened. -/
structure Unpublished (s : CropInst) : Prop where
  domain : s.base.inst.domain = .decoder
  bufCrop : ∀ i, s.base.bufCrop i = .zero
  dqbufCropValid : s.dqbufCropValid = false

/-- G_SELECTION reports what is due, for each of the rectangles that it knows. -/
def SelectsDue (t : Viewing) : Prop :=
  ∀ target, target ≠ .nativeSize → irisGSelection .capture target t.s = .ok t.due

/-- A call after which what is reported is still due. The rectangle published last stays valid over
a restart, and a buffer keeps the rectangle of an old frame. -/
def KeepsDue (rules : OutputRules) (limits : AdmissionLimits) (t : Viewing) (call : SelectionCall) :
    Prop :=
  match call with
  | .driver _ | .reqbufs _ | .qbuf _ _ | .fillDone _ _ _ => True
  | .restart _ => t.changed = true → t.s.dqbufCropValid = true → t.s.dqbufCrop = t.crop
  | .dqbuf i =>
      match t.frame i with
      | some rect => (t.s.base.inst.gen = .gen1 ∧ rect.empty = false) ∨ rect = t.due
      | none => (t.s.base.bufCrop i).empty = true ∨ t.s.base.bufCrop i = t.due
  | .cancel i => (t.s.base.bufCrop i).empty = true ∨ t.s.base.bufCrop i = t.due
  | .sFmt _ | .ftbDone _ _ | .eventNotify _ _ | .srcChange _ _ =>
      t.s.dqbufCropValid = t.dequeued.isSome ∨
        (applySelection rules limits t.s call).base.formats.crop = t.due

/-! ### What is reported -/

def CropInst.reported (s : CropInst) : Rect :=
  if s.dqbufCropValid then s.dqbufCrop else s.base.formats.crop

theorem selectsDue_iff {t : Viewing} (hdecoder : t.s.base.inst.domain = .decoder) :
    SelectsDue t ↔ t.s.reported = t.due := by
  have hreports : ∀ target, target ≠ .nativeSize →
      irisGSelection .capture target t.s = .ok t.s.reported := by
    intro target htarget
    cases target with
    | nativeSize => exact absurd rfl htarget
    | _ => simp only [irisGSelection, hdecoder, CropInst.reported]
  constructor
  · intro hselects
    exact Except.ok.inj ((hreports .crop (by decide)).symm.trans (hselects .crop (by decide)))
  · intro hdue target htarget
    rw [hreports target htarget, hdue]

theorem reported_finish {s : CropInst} (i : Nat) (hdecoder : s.base.inst.domain = .decoder) :
    (irisVb2BufFinish .capture i s).reported =
      if (s.base.bufCrop i).empty then s.reported else s.base.bufCrop i := by
  unfold irisVb2BufFinish
  rw [if_neg (by decide), if_neg (by simp [hdecoder])]
  dsimp only
  split_ifs <;> rfl

/-- While the flag tells whether a frame was dequeued, the rectangle of the instance may change. -/
theorem reported_crop_iff {t t' : Viewing} (hdue : t.s.reported = t.due)
    (hvalid : t'.s.dqbufCropValid = t.s.dqbufCropValid) (hcrop : t'.s.dqbufCrop = t.s.dqbufCrop)
    (hdequeued : t'.dequeued = t.dequeued) :
    t'.s.reported = t'.due ↔ t.s.dqbufCropValid = t.dequeued.isSome ∨ t'.crop = t.due := by
  simp only [CropInst.reported, Viewing.due, Viewing.crop, hvalid, hcrop, hdequeued] at hdue ⊢
  cases hflag : t.s.dqbufCropValid with
  | true =>
      rw [hflag, if_pos rfl] at hdue
      cases hframe : t.dequeued with
      | none =>
          rw [hframe] at hdue
          have hold : t.s.dqbufCrop = t.s.base.formats.crop := hdue
          simp [hold, eq_comm]
      | some rect =>
          rw [hframe] at hdue
          exact iff_of_true hdue (Or.inl rfl)
  | false =>
      cases hframe : t.dequeued with
      | none => exact iff_of_true rfl (Or.inl rfl)
      | some rect => simp

/-! ### The rectangles of the frames -/

/-- In the first generation a buffer records the rectangle of its frame, in the second one none. -/
structure FramesRecorded (t : Viewing) : Prop where
  domain : t.s.base.inst.domain = .decoder
  gen1 : t.s.base.inst.gen = .gen1 → ∀ i rect, t.frame i = some rect → t.s.base.bufCrop i = rect
  gen2 : t.s.base.inst.gen = .gen2 → ∀ i, (t.s.base.bufCrop i).empty = true

namespace FramesRecorded

variable {t t' : Viewing}

/-- No new frame comes in. -/
theorem same (hrecorded : FramesRecorded t) (hgen : t'.s.base.inst.gen = t.s.base.inst.gen)
    (hdomain : t'.s.base.inst.domain = t.s.base.inst.domain)
    (hbufCrop : t'.s.base.bufCrop = t.s.base.bufCrop)
    (hframe : ∀ i rect, t'.frame i = some rect →
      t.s.base.inst.gen = .gen1 → t.frame i = some rect) : FramesRecorded t' := by
  refine ⟨hdomain.trans hrecorded.domain, fun hgen1 i rect hi => ?_, fun hgen2 i => ?_⟩
  · rw [hgen] at hgen1
    rw [hbufCrop]
    exact hrecorded.gen1 hgen1 i rect (hframe i rect hi hgen1)
  · rw [hbufCrop]
    exact hrecorded.gen2 (hgen ▸ hgen2) i

end FramesRecorded

theorem applySequence_bufCrop (env : Gen1Env) (event : HfiEventData) (s : Gen1Inst) :
    (applySequence env event s).bufCrop = s.bufCrop := by
  simp only [applySequence]
  split_ifs <;> rfl

theorem applySequence_same (env : Gen1Env) (event : HfiEventData) (s : Gen1Inst) :
    SameInst s.inst (applySequence env event s).inst := by
  obtain ⟨-, fits, hinst⟩ := applySequence_frame env event s
  rw [hinst]
  exact SameInst.steps (EventSteps.seqChanged (.refl : EventSteps (fun _ => True) _ _) _)

theorem eventNotify_bufCrop (mem : Memory) (env : Gen1Env) (s : Gen1Inst) :
    ((irisHfiGen1SessionEventNotify env s).run mem).2.bufCrop = s.bufCrop ∧
      SameInst s.inst ((irisHfiGen1SessionEventNotify env s).run mem).2.inst := by
  by_cases hevent : wordAt mem 12 = hfiEventSessionSequenceChanged
  · have herror : SameInst s.inst s.inst.enterError := by
      rw [enterError_eq]
      exact ⟨rfl, rfl, rfl, rfl⟩
    have hrun : (irisHfiGen1SessionEventNotify env s).run mem =
        (Gen1Message.irisHfiGen1EventSeqChanged env s).run mem := by
      have hother : hfiEventSessionSequenceChanged ≠ hfiEventSessionError := by decide
      rw [irisHfiGen1SessionEventNotify, run_bind, run_word, hevent, if_neg hother, if_pos rfl]
    rw [hrun]
    unfold Gen1Message.irisHfiGen1EventSeqChanged
    split_ifs with hdrc
    · exact ⟨rfl, rfl, rfl, rfl, rfl⟩
    · rw [run_bind, run_ite]
      split_ifs
      · exact ⟨rfl, herror⟩
      · rw [run_bind, run_ite]
        split_ifs
        · exact ⟨rfl, herror⟩
        · rw [run_bind, run_pure]
          exact ⟨applySequence_bufCrop _ _ _, applySequence_same _ _ _⟩
  · obtain ⟨-, hbufCrop, hsame⟩ := eventNotify_other mem env s hevent
    exact ⟨hbufCrop, hsame⟩

/-! ### One call -/

theorem view_s (t : Viewing) (call : SelectionCall) :
    (view rules limits t call).s = applySelection rules limits t.s call := by
  cases call with
  | restart body =>
      rw [view]
      split_ifs <;> rfl
  | ftbDone env mem =>
      simp only [view]
      split <;> rfl
  | fillDone i filled body =>
      simp only [view]
      split_ifs <;> rfl
  | _ => rfl

theorem applySelection_kind (s : CropInst) (call : SelectionCall) :
    (applySelection rules limits s call).base.inst.gen = s.base.inst.gen ∧
      (applySelection rules limits s call).base.inst.domain = s.base.inst.domain := by
  cases call with
  | dqbuf i | cancel i =>
      rw [applySelection, irisVb2BufFinish_base]
      exact ⟨rfl, rfl⟩
  | ftbDone env mem =>
      rw [applySelection]
      split_ifs
      · exact ⟨(ftbDone_same mem env s.base).gen, (ftbDone_same mem env s.base).domain⟩
      · exact ⟨rfl, rfl⟩
  | eventNotify env mem =>
      rw [applySelection]
      split_ifs
      · obtain ⟨-, hsame⟩ := eventNotify_bufCrop mem env s.base
        exact ⟨hsame.gen, hsame.domain⟩
      · exact ⟨rfl, rfl⟩
  | fillDone i filled body =>
      rw [applySelection]
      split_ifs <;> exact ⟨rfl, rfl⟩
  | srcChange params body =>
      rw [applySelection]
      split_ifs <;> exact ⟨rfl, rfl⟩
  | _ => exact ⟨rfl, rfl⟩

/-- Only a completion of the first generation and new buffers touch what is recorded. -/
theorem applySelection_bufCrop (s : CropInst) {call : SelectionCall}
    (hreqbufs : ∀ body, call ≠ .reqbufs body) (hframe : ∀ env mem, call ≠ .ftbDone env mem) :
    (applySelection rules limits s call).base.bufCrop = s.base.bufCrop := by
  cases call with
  | reqbufs body => exact absurd rfl (hreqbufs body)
  | ftbDone env mem => exact absurd rfl (hframe env mem)
  | dqbuf i | cancel i => rw [applySelection, irisVb2BufFinish_base]
  | eventNotify env mem =>
      rw [applySelection]
      split_ifs
      · exact (eventNotify_bufCrop mem env s.base).1
      · rfl
  | fillDone i filled body =>
      rw [applySelection]
      split_ifs <;> rfl
  | srcChange params body =>
      rw [applySelection]
      split_ifs <;> rfl
  | _ => rfl

/-- A completion records the rectangle with the frame, if there is one. -/
theorem ftbDone_recorded {t : Viewing} (hrecorded : FramesRecorded t) (env : Gen1Env)
    (mem : Memory) (hgen : t.s.base.inst.gen = .gen1) :
    FramesRecorded (view rules limits t (.ftbDone env mem)) := by
  obtain ⟨hformats, hbufCrop⟩ := ftbDone_crops mem env hrecorded.domain
  have hsame := ftbDone_same mem env t.s.base
  have hbase : (applySelection rules limits t.s (.ftbDone env mem)).base =
      ((Gen1Message.irisHfiGen1SessionFtbDone env t.s.base).run mem).2 := by
    rw [applySelection, if_pos hgen]
  rw [← hbase] at hformats hbufCrop hsame
  cases hfound : completed mem t.s.base with
  | none =>
      have hview : view rules limits t (.ftbDone env mem) =
          { t with s := applySelection rules limits t.s (.ftbDone env mem) } := by
        simp only [view, hgen, if_true, hfound]
      rw [hfound] at hbufCrop
      rw [hview]
      exact hrecorded.same hsame.gen hsame.domain hbufCrop fun _ _ h _ => h
  | some found =>
      obtain ⟨i, filled⟩ := found
      have hview : view rules limits t (.ftbDone env mem) =
          { t with
            s := applySelection rules limits t.s (.ftbDone env mem)
            frame := Function.update t.frame i (if filled then
              some (applySelection rules limits t.s (.ftbDone env mem)).base.formats.crop
              else none) } := by
        simp only [view, hgen, if_true, hfound]
      rw [hfound] at hformats hbufCrop
      rw [hview]
      refine ⟨hsame.domain.trans hrecorded.domain, fun _ k rect hk => ?_, fun hgen2 => ?_⟩
      · dsimp only at hk ⊢
        by_cases hki : k = i
        · subst hki
          rw [Function.update_self] at hk
          cases filled with
          | true =>
              have hcrop : (applySelection rules limits t.s (.ftbDone env mem)).base.formats.crop =
                  frameCrop mem t.s.base := by rw [hformats]; rfl
              rw [if_pos rfl, hcrop] at hk
              rw [hbufCrop, storeCrop, Function.update_self]
              exact Option.some.inj hk
          | false => cases hk
        · rw [Function.update_of_ne hki] at hk
          have hold := hrecorded.gen1 hgen k rect hk
          rw [hbufCrop]
          cases filled with
          | true => rwa [storeCrop, Function.update_of_ne hki]
          | false => exact hold
      · rw [hsame.gen, hgen] at hgen2
        cases hgen2

/-- Only a dequeued buffer publishes a rectangle. -/
theorem applySelection_published (s : CropInst) {call : SelectionCall}
    (hdqbuf : ∀ i, call ≠ .dqbuf i) (hcancel : ∀ i, call ≠ .cancel i) :
    (applySelection rules limits s call).dqbufCropValid = s.dqbufCropValid ∧
      (applySelection rules limits s call).dqbufCrop = s.dqbufCrop := by
  cases call with
  | dqbuf i => exact absurd rfl (hdqbuf i)
  | cancel i => exact absurd rfl (hcancel i)
  | ftbDone _ _ | eventNotify _ _ | fillDone _ _ _ | srcChange _ _ =>
      rw [applySelection]
      split_ifs <;> exact ⟨rfl, rfl⟩
  | _ => exact ⟨rfl, rfl⟩

theorem view_recorded {t : Viewing} (hrecorded : FramesRecorded t) (call : SelectionCall) :
    FramesRecorded (view rules limits t call) := by
  obtain ⟨hgen, hdomain⟩ := @applySelection_kind rules limits t.s call
  rw [← view_s] at hgen hdomain
  have hkept : (∀ body, call ≠ .reqbufs body) → (∀ env mem, call ≠ .ftbDone env mem) →
      (view rules limits t call).s.base.bufCrop = t.s.base.bufCrop := by
    intro hreqbufs hframe
    rw [view_s]
    exact applySelection_bufCrop t.s hreqbufs hframe
  cases call with
  | restart body =>
      refine hrecorded.same hgen hdomain ?_ fun _ _ h _ => ?_
      · exact hkept (by rintro _ ⟨⟩) (by rintro _ _ ⟨⟩)
      · rw [view] at h
        split_ifs at h <;> exact h
  | reqbufs body => exact ⟨hrecorded.domain, fun _ i rect h => (by cases h), fun _ i => rfl⟩
  | qbuf i body =>
      refine hrecorded.same hgen hdomain ?_ fun k rect hk _ => ?_
      · exact hkept (by rintro _ ⟨⟩) (by rintro _ _ ⟨⟩)
      · by_cases hki : k = i
        · subst hki
          simp [view] at hk
        · simpa [view, hki] using hk
  | ftbDone env mem =>
      cases hgeneration : t.s.base.inst.gen with
      | gen1 => exact ftbDone_recorded hrecorded env mem hgeneration
      | gen2 =>
          have hview : view rules limits t (.ftbDone env mem) = t := by
            simp [view, applySelection, hgeneration]
          rwa [hview]
  | fillDone i filled body =>
      refine hrecorded.same hgen hdomain ?_ fun k rect hk hgen1 => ?_
      · exact hkept (by rintro _ ⟨⟩) (by rintro _ _ ⟨⟩)
      · simpa [view, hgen1] using hk
  | driver _ | dqbuf _ | cancel _ | sFmt _ | eventNotify _ _ | srcChange _ _ =>
      refine hrecorded.same hgen hdomain ?_ fun _ _ h _ => h
      exact hkept (by rintro _ ⟨⟩) (by rintro _ _ ⟨⟩)

theorem view_dequeued (t : Viewing) {call : SelectionCall} (hrestart : ∀ body, call ≠ .restart body)
    (hdqbuf : ∀ i, call ≠ .dqbuf i) : (view rules limits t call).dequeued = t.dequeued := by
  cases call with
  | restart body => exact absurd rfl (hrestart body)
  | dqbuf i => exact absurd rfl (hdqbuf i)
  | ftbDone env mem =>
      simp only [view]
      split <;> rfl
  | fillDone i filled body =>
      simp only [view]
      split_ifs <;> rfl
  | _ => rfl

theorem finish_due_iff {t t' : Viewing} {i : Nat} (hdomain : t.s.base.inst.domain = .decoder)
    (hdue : t.s.reported = t.due) (hs : t'.s = irisVb2BufFinish .capture i t.s)
    (hdequeued : t'.dequeued = t.dequeued) :
    t'.s.reported = t'.due ↔
      (t.s.base.bufCrop i).empty = true ∨ t.s.base.bufCrop i = t.due := by
  have hdue' : t'.due = t.due := by
    rw [Viewing.due, Viewing.crop, hs, irisVb2BufFinish_base, hdequeued]
    rfl
  rw [hdue', hs, reported_finish i hdomain]
  split_ifs with hempty
  · exact iff_of_true hdue (Or.inl hempty)
  · exact ⟨Or.inr, fun h => h.resolve_left hempty⟩

theorem finish_frame_iff {t t' : Viewing} {i : Nat} {rect : Rect} (hrecorded : FramesRecorded t)
    (hdue : t.s.reported = t.due) (hs : t'.s = irisVb2BufFinish .capture i t.s)
    (hframe : t.frame i = some rect) (hdequeued : t'.dequeued = some rect) :
    t'.s.reported = t'.due ↔
      (t.s.base.inst.gen = .gen1 ∧ rect.empty = false) ∨ rect = t.due := by
  have hdue' : t'.due = rect := by rw [Viewing.due, hdequeued, Option.getD_some]
  rw [hdue', hs, reported_finish i hrecorded.domain, hdue]
  cases hgen : t.s.base.inst.gen with
  | gen1 =>
      rw [hrecorded.gen1 hgen i rect hframe]
      cases hempty : rect.empty with
      | true =>
          rw [if_pos rfl]
          exact ⟨fun h => Or.inr h.symm, fun h => h.elim (fun h => by cases h.2) Eq.symm⟩
      | false => exact iff_of_true (if_neg (by decide)) (Or.inl ⟨rfl, rfl⟩)
  | gen2 =>
      rw [if_pos (hrecorded.gen2 hgen i)]
      exact ⟨fun h => Or.inr h.symm, fun h => h.elim (fun h => by cases h.1) Eq.symm⟩

/-- A call keeps the selection due exactly under its condition. -/
theorem view_due_iff {t : Viewing} (hrecorded : FramesRecorded t) (hselects : SelectsDue t)
    (call : SelectionCall) :
    SelectsDue (view rules limits t call) ↔ KeepsDue rules limits t call := by
  have hdue : t.s.reported = t.due := (selectsDue_iff hrecorded.domain).1 hselects
  have hafter := @view_recorded rules limits t hrecorded call
  rw [selectsDue_iff hafter.domain]
  have hs := @view_s rules limits t call
  have hcropCall : (∀ body, call ≠ .restart body) → (∀ i, call ≠ .dqbuf i) →
      (∀ i, call ≠ .cancel i) →
      ((view rules limits t call).s.reported = (view rules limits t call).due ↔
        t.s.dqbufCropValid = t.dequeued.isSome ∨
          (applySelection rules limits t.s call).base.formats.crop = t.due) := by
    intro hrestart hdqbuf hcancel
    obtain ⟨hvalid, hcrop⟩ := @applySelection_published rules limits t.s call hdqbuf hcancel
    rw [← hs] at hvalid hcrop ⊢
    exact reported_crop_iff hdue hvalid hcrop (view_dequeued t hrestart hdqbuf)
  cases call with
  | driver body => exact iff_of_true hdue trivial
  | reqbufs body => exact iff_of_true hdue trivial
  | qbuf i body => exact iff_of_true hdue trivial
  | fillDone i filled body =>
      refine iff_of_true ?_ trivial
      by_cases hgen : t.s.base.inst.gen = .gen2
      · simp only [view, applySelection, if_pos hgen]
        exact hdue
      · simp only [view, applySelection, if_neg hgen]
        exact hdue
  | restart body =>
      by_cases hchanged : t.changed = true
      · have hview : view rules limits t (.restart body) =
            { t with s := t.s.onInst body, dequeued := none, changed := false } := if_pos hchanged
        rw [hview, KeepsDue]
        constructor
        · intro hnew _ hvalid
          have hold : (if t.s.dqbufCropValid then t.s.dqbufCrop else t.crop) = t.crop := hnew
          rwa [if_pos hvalid] at hold
        · intro hkeeps
          change (if t.s.dqbufCropValid then t.s.dqbufCrop else t.crop) = t.crop
          split_ifs with hvalid
          · exact hkeeps hchanged hvalid
          · rfl
      · have hview : view rules limits t (.restart body) = { t with s := t.s.onInst body } :=
          if_neg hchanged
        rw [hview]
        exact iff_of_true hdue fun h => absurd h hchanged
  | dqbuf i =>
      rw [KeepsDue]
      cases hframe : t.frame i with
      | none =>
          refine finish_due_iff hrecorded.domain hdue hs ?_
          rw [view, hframe, Option.none_or]
      | some rect =>
          refine finish_frame_iff hrecorded hdue hs hframe ?_
          rw [view, hframe, Option.some_or]
  | cancel i => exact finish_due_iff hrecorded.domain hdue hs rfl
  | sFmt _ | ftbDone _ _ | eventNotify _ _ | srcChange _ _ =>
      apply hcropCall <;> rintro _ ⟨⟩

/-- **Selection freshness.** In a run of a decoder G_SELECTION reports what is due all along exactly
when no call leaves an old rectangle valid. -/
theorem selection_due_iff (s : CropInst) (calls : List SelectionCall) (hopened : Unpublished s) :
    (∀ pre, pre <+: calls → SelectsDue (viewAfter rules limits s pre)) ↔
      ∀ pre call, pre ++ [call] <+: calls →
        KeepsDue rules limits (viewAfter rules limits s pre) call := by
  have hrecorded : FramesRecorded (.start s) :=
    ⟨hopened.domain, fun _ _ _ h => (by cases h), fun _ i => hopened.bufCrop i ▸ rfl⟩
  have hselects : SelectsDue (.start s) := by
    refine (selectsDue_iff hopened.domain).2 ?_
    change (if s.dqbufCropValid then s.dqbufCrop else s.base.formats.crop) = s.base.formats.crop
    rw [if_neg (by simp [hopened.dqbufCropValid])]
  exact @good_prefixes_iff _ _ (view rules limits) (KeepsDue rules limits) calls FramesRecorded
    SelectsDue (fun t call _ hinv => view_recorded hinv call)
    (fun t call _ hinv hgood => view_due_iff hinv hgood call) _ hrecorded hselects

/-! ### Old rectangles -/

/-- What a call of videobuf2 makes of the instance. -/
def calling (op : Op) (inst : Inst) : Inst := applyOp inst op

/-- A decoder of H.264 with three CAPTURE buffers at the firmware. -/
def playing : CropInst where
  base :=
    { resizing.base with
      inst :=
        { resizing.base.inst with
          codec := .h264
          ready := fun plane => if plane = .capture then [0, 1, 2] else [] } }
  dqbufCrop := .zero
  dqbufCropValid := false

/-- The buffer `i` comes back without a frame. -/
def emptyFrame (i : U32) : SelectionCall := .ftbDone probeEnv (wordMemory [(12, 1), (84, i)])

/-- A sequence of 640x480. -/
def largerSequence : SelectionCall :=
  .eventNotify probeEnv (wordMemory
    [(12, hfiEventSessionSequenceChanged),
      (16, hfiEventDataSequenceChangedSufficientBufResources), (20, 1), (24, 0x1001), (32, 640),
      (36, 480)])

def sourceChanged : List SelectionCall :=
  [sizedFrame 0 320 184, .dqbuf 0, largerSequence, emptyFrame 1, .dqbuf 1,
    .driver (calling (.streamoff undisturbed .capture)), .cancel 2, .reqbufs id,
    .restart (calling (.streamon undisturbed .capture [(0, frameData), (1, frameData)]))]

/-- Two sizes, and then a buffer of the first one that comes back empty. -/
def emptied : List SelectionCall :=
  [sizedFrame 0 320 184, sizedFrame 1 160 96, .dqbuf 0, sizedFrame 2 160 96, .dqbuf 1,
    .qbuf 0 (calling (.qbuf 0 .capture 0 frameData)), emptyFrame 0, .dqbuf 2, .dqbuf 0]

theorem playing_unpublished : Unpublished playing := ⟨rfl, fun _ => rfl, rfl⟩

theorem resizing_unpublished : Unpublished resizing := ⟨rfl, fun _ => rfl, rfl⟩

/-- Of the old format after a restart, and of an old frame after an empty buffer. -/
theorem old_rectangle_selected :
    Unpublished playing ∧
      irisGSelection .capture .crop (selectionAfter probeRules sm8150Limits playing sourceChanged) =
        .ok ⟨0, 0, 320, 184⟩ ∧
      (viewAfter probeRules sm8150Limits playing sourceChanged).due = ⟨0, 0, 640, 480⟩ ∧
      ¬SelectsDue (viewAfter probeRules sm8150Limits playing sourceChanged) ∧
    Unpublished resizing ∧
      irisGSelection .capture .crop (selectionAfter probeRules sm8150Limits resizing emptied) =
        .ok ⟨0, 0, 320, 184⟩ ∧
      (viewAfter probeRules sm8150Limits resizing emptied).due = ⟨0, 0, 160, 96⟩ ∧
      ¬SelectsDue (viewAfter probeRules sm8150Limits resizing emptied) := by
  refine ⟨playing_unpublished, rfl, by decide, ?_, resizing_unpublished, rfl, by decide, ?_⟩
  · rw [selectsDue_iff rfl]
    decide
  · rw [selectsDue_iff rfl]
    decide

/-- The first frame is dequeued. -/
theorem selection_due_played :
    SelectsDue (viewAfter probeRules sm8150Limits playing [sizedFrame 0 320 184, .dqbuf 0]) := by
  refine (selection_due_iff playing [sizedFrame 0 320 184, .dqbuf 0] playing_unpublished).2
    (snoc_prefixes_iff.2 fun i hi => ?_) _ List.prefix_rfl
  match i, hi with
  | 0, _ => exact Or.inl rfl
  | 1, _ => exact Or.inl ⟨rfl, rfl⟩

end NabuIris
