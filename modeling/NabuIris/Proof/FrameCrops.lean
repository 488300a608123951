import NabuIris.Lib.Run
import NabuIris.Proof.Interference
import NabuIris.Proof.Vp9Buffers
import NabuIris.Selection

/-!
# The visible rectangle of each frame

A legacy VP9 decoder records with every frame the rectangle in force. A frame puts its own in force
only when it is narrower or lower, since the firmware rounds heights up.
-/

namespace NabuIris

open Lib Lib.Reading Gen1Message

variable {rules : OutputRules} {limits : AdmissionLimits} (mem : Memory)

/-! ### Reports -/

/-- `start_x_coord`, `start_y_coord`, `frame_width` and `frame_height` -/
def reportedCrop (mem : Memory) : Rect :=
  { left := wordAt mem 68, top := wordAt mem 72, width := wordAt mem 60, height := wordAt mem 64 }

/-- A rectangle that is narrower or lower than another one. -/
def Rect.Shrinks (rect crop : Rect) : Prop :=
  rect.empty = false ∧ (rect.width < crop.width ∨ rect.height < crop.height)

instance (rect crop : Rect) : Decidable (rect.Shrinks crop) := inferInstanceAs (Decidable (_ ∧ _))

/-- The CAPTURE buffer that a completion finds, and whether it holds a frame. -/
def FtbDone.completed (pkt : FtbDone) (s : Gen1Inst) : Option (Nat × Bool) :=
  if s.inst.splitMode ∧ s.inst.domain = .decoder ∧ pkt.streamId = 0 then none
  else (ftbFind pkt s.inst).map fun i => (i, pkt.filled)

def completed (mem : Memory) (s : Gen1Inst) : Option (Nat × Bool) :=
  ((readFtbDone s.inst.domain).run mem).completed s

structure Report where
  buffer : Nat
  rect : Rect
  /-- a source change is under way -/
  drc : Bool
deriving DecidableEq, Repr

namespace Report

def Accepted (crop : Rect) (report : Report) : Prop :=
  report.drc = false ∧ report.rect.Shrinks crop

instance (crop : Rect) (report : Report) : Decidable (report.Accepted crop) :=
  inferInstanceAs (Decidable (_ ∧ _))

/-- The rectangle in force after a report. -/
def next (crop : Rect) (report : Report) : Rect :=
  if report.Accepted crop then report.rect else crop

end Report

def inForce (crop : Rect) (reports : List Report) : Rect := reports.foldl Report.next crop

/-- What the firmware reports of the frame that a call hands in. -/
def report (s : CropInst) : SelectionCall → Option Report
  | .ftbDone _ mem =>
      if s.base.inst.gen = .gen1 then
        match completed mem s.base with
        | some (i, true) =>
            some
              { buffer := i, rect := reportedCrop mem, drc := hasFlag s.base.inst.subState subDrc }
        | _ => none
      else none
  | _ => none

/-- An instance and the reports of the frames so far. -/
abbrev Reported := CropInst × List Report

def watch (rules : OutputRules) (limits : AdmissionLimits) (t : Reported) (call : SelectionCall) :
    Reported :=
  (applySelection rules limits t.1 call, t.2 ++ (report t.1 call).toList)

def watchAfter (rules : OutputRules) (limits : AdmissionLimits) (s : CropInst)
    (calls : List SelectionCall) : Reported :=
  calls.foldl (watch rules limits) (s, [])

def reportsAfter (rules : OutputRules) (limits : AdmissionLimits) (s : CropInst)
    (calls : List SelectionCall) : List Report :=
  (watchAfter rules limits s calls).2

/-- Neither a sequence change nor a new format nor new buffers. -/
def SelectionCall.InPlace : SelectionCall → Prop
  | .driver _ | .restart _ | .qbuf _ _ | .dqbuf _ | .cancel _ | .ftbDone _ _ => True
  | .eventNotify _ mem => wordAt mem 12 ≠ hfiEventSessionSequenceChanged
  | .reqbufs _ | .sFmt _ | .fillDone _ _ _ | .srcChange _ _ => False

/-- No later frame is in the buffer of the report `r`. -/
def Latest (r : Report) (post : List Report) : Prop := ∀ later ∈ post, later.buffer ≠ r.buffer

instance (r : Report) (post : List Report) : Decidable (Latest r post) :=
  inferInstanceAs (Decidable (∀ later ∈ post, _))

/-- The buffer of each frame records what the firmware reported of it. -/
def CropsReported (rules : OutputRules) (limits : AdmissionLimits) (s : CropInst)
    (calls : List SelectionCall) : Prop :=
  ∀ pre r post, reportsAfter rules limits s calls = pre ++ r :: post → Latest r post →
    (selectionAfter rules limits s calls).base.bufCrop r.buffer = r.rect

/-! ### One completion -/

/-- The rectangle in force once a frame is in. -/
def frameCrop (mem : Memory) (s : Gen1Inst) : Rect :=
  if s.inst.codec = .vp9 ∧ s.inst.legacyVpu5 = true ∧ s.formats.fwMinCount ≠ 0 ∧
      hasFlag s.inst.subState subDrc = false ∧ (reportedCrop mem).Shrinks s.formats.crop then
    reportedCrop mem
  else s.formats.crop

theorem ftbFind_eos (env : FtbEnv) (pkt : FtbDone) (inst : Inst) :
    ftbFind pkt (ftbEos env pkt inst) = ftbFind pkt inst := by
  obtain ⟨subState, pending, heq⟩ := ftbEos_frame env pkt inst
  rw [heq]
  rfl

theorem eventVp9Resize_run {pkt : FtbDone} {s : Gen1Inst} (hdecoder : s.inst.domain = .decoder)
    (hfilled : pkt.filled = true) :
    ((irisHfiGen1EventVp9Resize pkt s).run mem).formats =
        { s.formats with crop := frameCrop mem s } ∧
      ((irisHfiGen1EventVp9Resize pkt s).run mem).bufCrop = s.bufCrop ∧
      ((irisHfiGen1EventVp9Resize pkt s).run mem).inst = s.inst := by
  have hresizable : ftbResizable pkt s = true ↔
      s.inst.codec = .vp9 ∧ s.inst.legacyVpu5 = true ∧ s.formats.fwMinCount ≠ 0 ∧
        hasFlag s.inst.subState subDrc = false := by
    simp [ftbResizable, hdecoder, hfilled, and_assoc]
  have hsize : (reportedCrop mem).Shrinks s.formats.crop ↔
      wordAt mem 60 ≠ 0 ∧ wordAt mem 64 ≠ 0 ∧
        (wordAt mem 60 < s.formats.crop.width ∨ wordAt mem 64 < s.formats.crop.height) := by
    simp only [Rect.Shrinks, Rect.empty, reportedCrop, Bool.or_eq_false_iff, beq_eq_false_iff_ne,
      and_assoc]
  have hcrop : frameCrop mem s =
      if ftbResizable pkt s = true ∧ wordAt mem 60 ≠ 0 ∧ wordAt mem 64 ≠ 0 ∧
          (wordAt mem 60 < s.formats.crop.width ∨ wordAt mem 64 < s.formats.crop.height) then
        reportedCrop mem
      else s.formats.crop :=
    if_congr (by rw [hresizable, ← hsize]; tauto) rfl rfl
  unfold irisHfiGen1EventVp9Resize
  by_cases hcond : ftbResizable pkt s = true
  · rw [if_pos hcond, run_bind, run_word, run_bind, run_word, run_ite]
    by_cases hshrinks : wordAt mem (4 * 15) ≠ 0 ∧ wordAt mem (4 * 16) ≠ 0 ∧
        (wordAt mem (4 * 15) < s.formats.crop.width ∨ wordAt mem (4 * 16) < s.formats.crop.height)
    · rw [if_pos hshrinks, hcrop, if_pos ⟨hcond, hshrinks⟩]
      exact ⟨rfl, rfl, rfl⟩
    · rw [if_neg hshrinks, hcrop, if_neg fun h => hshrinks h.2]
      exact ⟨rfl, rfl, rfl⟩
  · rw [if_neg hcond, hcrop, if_neg fun h => hcond h.1]
    exact ⟨rfl, rfl, rfl⟩

/-- Only a frame leaves its rectangle in its buffer. -/
def storeCrop (crop : Rect) (bufCrop : Nat → Rect) : Option (Nat × Bool) → Nat → Rect
  | some (i, true) => Function.update bufCrop i crop
  | _ => bufCrop

/-- The rectangles that a completion leaves. -/
structure Recorded (crop : Rect) (found : Option (Nat × Bool)) (s t : Gen1Inst) : Prop where
  formats : t.formats =
    { s.formats with crop := if found.any Prod.snd then crop else s.formats.crop }
  bufCrop : t.bufCrop = storeCrop crop s.bufCrop found

theorem ftbCrop_filled {pkt : FtbDone} (i : Nat) {s : Gen1Inst}
    (hdecoder : s.inst.domain = .decoder) (hfilled : pkt.filled = true) :
    Recorded (frameCrop mem s) (some (i, true)) s ((ftbCrop pkt i s).run mem) := by
  obtain ⟨hformats, hbufCrop, hinst⟩ := eventVp9Resize_run mem hdecoder hfilled
  rw [ftbCrop, run_bind, if_pos ⟨hinst ▸ hdecoder, hfilled⟩]
  refine ⟨hformats, ?_⟩
  rw [run_pure, hformats, hbufCrop]
  rfl

theorem ftbCrop_empty {pkt : FtbDone} (i : Nat) (s : Gen1Inst) (hempty : pkt.filled = false) :
    ftbCrop pkt i s = pure s := by
  have hresize : irisHfiGen1EventVp9Resize pkt s = pure s :=
    if_neg (by simp [ftbResizable, hempty])
  rw [ftbCrop, hresize]
  exact if_neg fun h => by simp [hempty] at h

theorem ftbHandle_crops (env : Gen1Env) (pkt : FtbDone) {s : Gen1Inst}
    (hdecoder : s.inst.domain = .decoder) :
    Recorded (frameCrop mem s) (pkt.completed s) s ((ftbHandle env pkt s).run mem).2 := by
  unfold ftbHandle FtbDone.completed
  simp only [ftbFind_eos]
  by_cases hdpb : s.inst.splitMode = true ∧ s.inst.domain = .decoder ∧ pkt.streamId = 0
  · rw [if_pos hdpb, if_pos hdpb]
    exact ⟨rfl, rfl⟩
  · rw [if_neg hdpb, if_neg hdpb]
    cases hfind : ftbFind pkt s.inst with
    | none => exact ⟨rfl, rfl⟩
    | some i =>
        simp only [Option.map_some, run_bind, run_pure]
        generalize (if (pkt.eos && !pkt.filled) = true then 0 else s.flushCompletion) = flushes
        cases hfilled : pkt.filled with
        | true =>
            obtain ⟨hformats, hbufCrop⟩ := @ftbCrop_filled mem pkt i
              { s with flushCompletion := flushes } hdecoder hfilled
            exact ⟨hformats, hbufCrop⟩
        | false =>
            simp only [ftbCrop_empty i _ hfilled, run_pure]
            exact ⟨rfl, rfl⟩

/-- A completion of a decoder's frame records the rectangle in force, and no other one any. -/
theorem ftbDone_crops (env : Gen1Env) {s : Gen1Inst} (hdecoder : s.inst.domain = .decoder) :
    Recorded (frameCrop mem s) (completed mem s) s
      ((Gen1Message.irisHfiGen1SessionFtbDone env s).run mem).2 := by
  rw [Gen1Message.irisHfiGen1SessionFtbDone, run_bind]
  exact ftbHandle_crops mem env _ hdecoder

/-! ### What an instance is -/

/-- The fields that say what an instance is. -/
structure SameInst (inst t : Inst) : Prop where
  gen : t.gen = inst.gen
  domain : t.domain = inst.domain
  codec : t.codec = inst.codec
  legacyVpu5 : t.legacyVpu5 = inst.legacyVpu5

namespace SameInst

variable {inst t u : Inst}

theorem trans (hfirst : SameInst inst t) (hsecond : SameInst t u) : SameInst inst u :=
  ⟨hsecond.gen.trans hfirst.gen, hsecond.domain.trans hfirst.domain,
    hsecond.codec.trans hfirst.codec, hsecond.legacyVpu5.trans hfirst.legacyVpu5⟩

theorem bufferDone (plane : Plane) (i : Nat) (inst : Inst) :
    SameInst inst (irisVb2BufferDone plane i inst).2 := by
  by_cases hlisted : i ∈ inst.ready plane
  · obtain ⟨state, payload, vbufFlags, stopped, last, -, heq⟩ := irisVb2BufferDone_listed hlisted
    rw [heq]
    exact ⟨rfl, rfl, rfl, rfl⟩
  · rw [irisVb2BufferDone_absent hlisted]
    exact ⟨rfl, rfl, rfl, rfl⟩

theorem queueBuffer (ret : Int) (plane : Plane) (i : Nat) (inst : Inst) :
    SameInst inst (irisQueueBuffer ret plane i inst).2 := by
  unfold irisQueueBuffer
  split_ifs <;> exact ⟨rfl, rfl, rfl, rfl⟩

theorem step {touches : Plane → Prop} (hstep : EventStep touches inst t) : SameInst inst t := by
  cases hstep with
  | fields | error | touch | free => exact ⟨rfl, rfl, rfl, rfl⟩
  | complete =>
      obtain ⟨hgen, hdomain, hcodec, hlegacy⟩ := bufferDone _ _ (inst.setBuf _ _ _)
      exact ⟨hgen, hdomain, hcodec, hlegacy⟩
  | submit => exact queueBuffer _ _ _ _
  | requeue =>
      obtain ⟨hgen, hdomain, hcodec, hlegacy⟩ := queueBuffer _ _ _ (inst.setBuf _ _ _)
      exact ⟨hgen, hdomain, hcodec, hlegacy⟩
  | recyclePending ret =>
      unfold irisVdecRecyclePendingOutput
      cases inst.pendingOutput with
      | none => exact ⟨rfl, rfl, rfl, rfl⟩
      | some k =>
          obtain ⟨hgen, hdomain, hcodec, hlegacy⟩ := queueBuffer ret .capture k
            ({ inst with pendingOutput := none }.setBuf .capture k (inst.buf .capture k).recycled)
          exact ⟨hgen, hdomain, hcodec, hlegacy⟩
  | completePending =>
      unfold irisVdecCompletePendingOutput
      cases inst.pendingOutput with
      | none => exact ⟨rfl, rfl, rfl, rfl⟩
      | some k =>
          obtain ⟨hgen, hdomain, hcodec, hlegacy⟩ :=
            bufferDone .capture k { inst with pendingOutput := none }
          exact ⟨hgen, hdomain, hcodec, hlegacy⟩
  | hold =>
      unfold irisVdecHoldOutput
      split_ifs <;> exact ⟨rfl, rfl, rfl, rfl⟩

theorem steps {touches : Plane → Prop} (hsteps : EventSteps touches inst t) : SameInst inst t := by
  induction hsteps with
  | refl => exact ⟨rfl, rfl, rfl, rfl⟩
  | tail _ hstep ih => exact ih.trans (step hstep)

theorem vp9 (hsame : SameInst inst t) (hvp9 : Vp9Legacy inst) : Vp9Legacy t :=
  ⟨hsame.gen.trans hvp9.gen, hsame.domain.trans hvp9.domain, hsame.legacyVpu5.trans hvp9.legacy,
    hsame.codec.trans hvp9.codec⟩

end SameInst

theorem eventNotify_other (env : Gen1Env) (s : Gen1Inst)
    (hevent : wordAt mem 12 ≠ hfiEventSessionSequenceChanged) :
    ((irisHfiGen1SessionEventNotify env s).run mem).2.formats = s.formats ∧
      ((irisHfiGen1SessionEventNotify env s).run mem).2.bufCrop = s.bufCrop ∧
      SameInst s.inst ((irisHfiGen1SessionEventNotify env s).run mem).2.inst := by
  have herror : SameInst s.inst s.inst.enterError := by
    rw [enterError_eq]
    exact ⟨rfl, rfl, rfl, rfl⟩
  rw [irisHfiGen1SessionEventNotify, run_bind, run_word]
  by_cases hfailed : wordAt mem (4 * 3) = hfiEventSessionError
  · rw [if_pos hfailed, irisHfiGen1EventSessionError, run_bind, run_ite]
    split_ifs
    · exact ⟨rfl, rfl, rfl, rfl, rfl, rfl⟩
    · exact ⟨rfl, rfl, herror⟩
  · rw [if_neg hfailed, if_neg hevent]
    exact ⟨rfl, rfl, rfl, rfl, rfl, rfl⟩

theorem ftbDone_same (env : Gen1Env) (s : Gen1Inst) :
    SameInst s.inst ((Gen1Message.irisHfiGen1SessionFtbDone env s).run mem).2.inst := by
  rw [Gen1Message.irisHfiGen1SessionFtbDone, run_bind]
  obtain ⟨ftbEnv, heq⟩ := @ftbHandle_inst mem env ((readFtbDone s.inst.domain).run mem) s
  rw [heq]
  have hsteps : EventSteps (fun _ => True) s.inst _ :=
    EventSteps.ftbDone trivial .refl ftbEnv ((readFtbDone s.inst.domain).run mem)
  exact SameInst.steps hsteps

/-! ### Runs -/

/-- What holds in place of a decoder that started with the rectangle `start`. -/
structure Watched (start : Rect) (t : Reported) : Prop where
  vp9 : Vp9Legacy t.1.base.inst
  sequence : t.1.base.formats.fwMinCount ≠ 0
  crop : t.1.base.formats.crop = inForce start t.2
  recorded : ∀ pre r post, t.2 = pre ++ r :: post → Latest r post →
    t.1.base.bufCrop r.buffer = inForce start (pre ++ [r])

theorem irisVb2BufFinish_base (plane : Plane) (i : Nat) (s : CropInst) :
    (irisVb2BufFinish plane i s).base = s.base := by
  unfold irisVb2BufFinish
  split_ifs
  · rfl
  · rfl
  · dsimp only
    split_ifs <;> rfl

theorem inForce_snoc (start : Rect) (reports : List Report) (r : Report) :
    inForce start (reports ++ [r]) = r.next (inForce start reports) := by
  rw [inForce, List.foldl_append]
  rfl

namespace Watched

variable {start : Rect} {t t' : Reported}

theorem same (hwatched : Watched start t) (hvp9 : Vp9Legacy t'.1.base.inst)
    (hformats : t'.1.base.formats = t.1.base.formats)
    (hbufCrop : t'.1.base.bufCrop = t.1.base.bufCrop) (hreports : t'.2 = t.2) :
    Watched start t' := by
  refine ⟨hvp9, ?_, ?_, ?_⟩
  · rw [hformats]
    exact hwatched.sequence
  · rw [hformats, hreports]
    exact hwatched.crop
  · rw [hreports, hbufCrop]
    exact hwatched.recorded

/-- The frame with the report `r` is in. -/
theorem frame (hwatched : Watched start t) (r : Report) (hvp9 : Vp9Legacy t'.1.base.inst)
    (hformats : t'.1.base.formats =
      { t.1.base.formats with crop := r.next t.1.base.formats.crop })
    (hbufCrop : t'.1.base.bufCrop =
      Function.update t.1.base.bufCrop r.buffer (r.next t.1.base.formats.crop))
    (hreports : t'.2 = t.2 ++ [r]) : Watched start t' := by
  have hcrop : t'.1.base.formats.crop = inForce start t'.2 := by
    rw [hformats, hreports, inForce_snoc, ← hwatched.crop]
  refine ⟨hvp9, ?_, hcrop, fun pre r' post hsplit hlatest => ?_⟩
  · rw [hformats]
    exact hwatched.sequence
  · rw [hreports] at hsplit
    rcases List.eq_nil_or_concat post with rfl | ⟨mid, last, rfl⟩
    · obtain ⟨rfl, hr⟩ := List.append_inj' hsplit rfl
      cases hr
      rw [hbufCrop, Function.update_self, inForce_snoc, hwatched.crop]
    · have hsplit' : t.2 ++ [r] = (pre ++ r' :: mid) ++ [last] := by simpa using hsplit
      obtain ⟨hmid, hr⟩ := List.append_inj' hsplit' rfl
      cases hr
      have hother : r'.buffer ≠ r.buffer := (hlatest r (by simp)).symm
      rw [hbufCrop, Function.update_of_ne hother]
      exact hwatched.recorded pre r' mid hmid fun later hlater => hlatest later (by simp [hlater])

end Watched

theorem watch_step {start : Rect} {t : Reported} {call : SelectionCall} (hcall : call.InPlace)
    (hwatched : Watched start t) : Watched start (watch rules limits t call) := by
  obtain ⟨hgen, hdomain, hlegacy, hcodec⟩ := hwatched.vp9
  cases call with
  | driver body => exact hwatched.same ⟨hgen, hdomain, hlegacy, hcodec⟩ rfl rfl (List.append_nil _)
  | restart body => exact hwatched.same ⟨hgen, hdomain, hlegacy, hcodec⟩ rfl rfl (List.append_nil _)
  | qbuf i body => exact hwatched.same ⟨hgen, hdomain, hlegacy, hcodec⟩ rfl rfl (List.append_nil _)
  | dqbuf i =>
      have hbase := irisVb2BufFinish_base .capture i t.1
      exact hwatched.same (hbase ▸ hwatched.vp9) (by rw [watch, applySelection, hbase])
        (by rw [watch, applySelection, hbase]) (List.append_nil _)
  | cancel i =>
      have hbase := irisVb2BufFinish_base .capture i t.1
      exact hwatched.same (hbase ▸ hwatched.vp9) (by rw [watch, applySelection, hbase])
        (by rw [watch, applySelection, hbase]) (List.append_nil _)
  | eventNotify env mem =>
      obtain ⟨hformats, hbufCrop, hsame⟩ := eventNotify_other mem env t.1.base hcall
      have hbase : (applySelection rules limits t.1 (.eventNotify env mem)).base =
          ((irisHfiGen1SessionEventNotify env t.1.base).run mem).2 := by
        rw [applySelection, if_pos hgen]
      refine hwatched.same ?_ ?_ ?_ (List.append_nil _)
      · rw [watch, hbase]
        exact hsame.vp9 hwatched.vp9
      · rw [watch, hbase, hformats]
      · rw [watch, hbase, hbufCrop]
  | ftbDone env mem =>
      obtain ⟨hformats, hbufCrop⟩ := ftbDone_crops mem env hdomain
      have hbase : (applySelection rules limits t.1 (.ftbDone env mem)).base =
          ((Gen1Message.irisHfiGen1SessionFtbDone env t.1.base).run mem).2 := by
        rw [applySelection, if_pos hgen]
      have hvp9 : Vp9Legacy (watch rules limits t (.ftbDone env mem)).1.base.inst := by
        rw [watch, hbase]
        exact (ftbDone_same mem env t.1.base).vp9 hwatched.vp9
      rw [← hbase] at hformats hbufCrop
      cases hfound : completed mem t.1.base with
      | none =>
          rw [hfound] at hformats hbufCrop
          have hreport : report t.1 (.ftbDone env mem) = none := by simp [report, hgen, hfound]
          refine hwatched.same hvp9 hformats hbufCrop ?_
          rw [watch, hreport]
          exact List.append_nil _
      | some found =>
          obtain ⟨i, filled⟩ := found
          rw [hfound] at hformats hbufCrop
          cases filled with
          | false =>
              have hreport : report t.1 (.ftbDone env mem) = none := by simp [report, hgen, hfound]
              refine hwatched.same hvp9 hformats hbufCrop ?_
              rw [watch, hreport]
              exact List.append_nil _
          | true =>
              have hreport : report t.1 (.ftbDone env mem) =
                  some ⟨i, reportedCrop mem, hasFlag t.1.base.inst.subState subDrc⟩ := by
                simp [report, hgen, hfound]
              have hnext : frameCrop mem t.1.base = Report.next t.1.base.formats.crop
                  ⟨i, reportedCrop mem, hasFlag t.1.base.inst.subState subDrc⟩ :=
                if_congr ⟨fun h => h.2.2.2, fun h => ⟨hcodec, hlegacy, hwatched.sequence, h⟩⟩
                  rfl rfl
              rw [hnext] at hformats hbufCrop
              refine hwatched.frame _ hvp9 hformats hbufCrop ?_
              rw [watch, hreport]
              rfl
  | reqbufs | sFmt | fillDone | srcChange => exact hcall.elim

theorem watchAfter_fst (s : CropInst) (calls : List SelectionCall) :
    (watchAfter rules limits s calls).1 = selectionAfter rules limits s calls := by
  induction calls using List.reverseRecOn with
  | nil => rfl
  | append_singleton calls call ih =>
      simp only [watchAfter, selectionAfter, List.foldl_append, List.foldl_cons,
        List.foldl_nil] at ih ⊢
      rw [watch, ih]

/-- **Each frame with the rectangle in force.** The buffer of a frame records what the firmware
reported of it exactly when that is the rectangle in force, or one that is put in force. -/
theorem frame_recorded_iff {s : CropInst} {calls : List SelectionCall} {r : Report}
    {pre post : List Report} (hvp9 : Vp9Legacy s.base.inst)
    (hsequence : s.base.formats.fwMinCount ≠ 0) (hcalls : ∀ call ∈ calls, call.InPlace)
    (hreports : reportsAfter rules limits s calls = pre ++ r :: post) (hlatest : Latest r post) :
    let crop := inForce s.base.formats.crop pre
    let recorded := (selectionAfter rules limits s calls).base.bufCrop r.buffer
    recorded = r.next crop ∧ (recorded = r.rect ↔ r.rect = crop ∨ r.Accepted crop) := by
  have hstart : Watched s.base.formats.crop (s, []) :=
    ⟨hvp9, hsequence, rfl, fun pre r post h => by simp at h⟩
  have hwatched : Watched s.base.formats.crop (watchAfter rules limits s calls) :=
    @foldl_invariant _ _ _ (fun _ _ => True) _ _
      (fun t call hcall ht _ => watch_step (hcalls call hcall) ht) _ hstart fun _ _ _ _ => trivial
  have hrecorded := hwatched.recorded pre r post hreports hlatest
  rw [watchAfter_fst, inForce_snoc] at hrecorded
  refine ⟨hrecorded, ?_⟩
  rw [hrecorded, Report.next]
  split_ifs with haccepted
  · exact iff_of_true rfl (Or.inr haccepted)
  · exact ⟨fun h => Or.inl h.symm, fun h => h.elim Eq.symm fun h => absurd h haccepted⟩

/-! ### A frame that grows back -/

/-- A decoder in split mode with four CAPTURE buffers at the firmware. -/
def resizing : CropInst where
  base :=
    { probe .decoder false 1 0 0 with
      inst :=
        { (probe .decoder false 1 0 0).inst with
          codec := .vp9
          legacyVpu5 := true
          splitMode := true
          ready := fun _ => [0, 1, 2, 3] }
      formats :=
        { probeFormats with
          dst := { probePixFormat with width := 384, height := 192 }
          crop := { left := 0, top := 0, width := 320, height := 184 }
          fwMinCount := 4 }
      bufCrop := fun _ => .zero }
  dqbufCrop := .zero
  dqbufCropValid := false

/-- The frame `i` of 1000 bytes. -/
def sizedFrame (i width height : U32) : SelectionCall :=
  .ftbDone probeEnv (wordMemory
    [(12, 1), (28, i + 1), (52, 1000), (60, width), (64, height), (84, i)])

def grownBack : List SelectionCall :=
  [sizedFrame 0 320 184, sizedFrame 1 160 96, sizedFrame 2 320 184, sizedFrame 3 320 184]

/-- Sizes in multiples of 8 that lie within a surface. -/
def Report.Fits (surface : PixFormat) (r : Report) : Prop :=
  r.rect.width % 8 = 0 ∧ r.rect.height % 8 = 0 ∧ r.rect.left.toNat + r.rect.width.toNat ≤
    surface.width.toNat ∧ r.rect.top.toNat + r.rect.height.toNat ≤ surface.height.toNat

instance (surface : PixFormat) (r : Report) : Decidable (r.Fits surface) :=
  inferInstanceAs (Decidable (_ ∧ _))

theorem grownBack_reports : reportsAfter probeRules sm8150Limits resizing grownBack =
    [⟨0, ⟨0, 0, 320, 184⟩, false⟩, ⟨1, ⟨0, 0, 160, 96⟩, false⟩, ⟨2, ⟨0, 0, 320, 184⟩, false⟩,
      ⟨3, ⟨0, 0, 320, 184⟩, false⟩] := by
  decide

theorem grownBack_inPlace : ∀ call ∈ grownBack, call.InPlace := by
  simp [grownBack, sizedFrame, SelectionCall.InPlace]

/-- The frame that grows back goes to userspace with the rectangle of the smaller one before. -/
theorem grown_frame_cropped :
    Vp9Legacy resizing.base.inst ∧ resizing.base.formats.fwMinCount ≠ 0 ∧
      (∀ call ∈ grownBack, call.InPlace) ∧
      (∀ r ∈ reportsAfter probeRules sm8150Limits resizing grownBack,
        r.Fits resizing.base.formats.dst) ∧
      (selectionAfter probeRules sm8150Limits resizing grownBack).base.inst.log[2]? =
        some (.done .capture 2 .done
          (some { bytesused := some 1000, flags := 0, timestamp := 3 })) ∧
      ¬CropsReported probeRules sm8150Limits resizing grownBack := by
  refine ⟨⟨rfl, rfl, rfl, rfl⟩, by decide, grownBack_inPlace, ?_, rfl, fun hreported => ?_⟩
  · rw [grownBack_reports]
    decide
  · have hthird := hreported [⟨0, ⟨0, 0, 320, 184⟩, false⟩, ⟨1, ⟨0, 0, 160, 96⟩, false⟩] _ _
      grownBack_reports (by decide)
    exact absurd hthird (by decide)

/-- The smaller frame is recorded as the firmware reported it. -/
theorem frame_recorded_shrunk :
    (selectionAfter probeRules sm8150Limits resizing grownBack).base.bufCrop 1 =
      ⟨0, 0, 160, 96⟩ :=
  (@frame_recorded_iff _ _ _ _ ⟨1, ⟨0, 0, 160, 96⟩, false⟩ [⟨0, ⟨0, 0, 320, 184⟩, false⟩] _
    ⟨rfl, rfl, rfl, rfl⟩ (by decide) grownBack_inPlace grownBack_reports (by decide)).2.2
    (Or.inr (by decide))

end NabuIris
