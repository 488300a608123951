import Mathlib.Algebra.Order.Floor.Div
import Mathlib.Order.MinMax
import NabuIris.Proof.RateHysteresis

/-!
# Where the measured rate is exact

Two narrowings spoil a rate. The quotient of a timestamp rate is narrowed before it is clamped, so
the span must leave at most `2 ^ 32 - 1` frames a second; and the rate for the admission control
narrows its divisor as well.
-/

namespace NabuIris

variable {a b n d k : Nat}

/-! ### Rates -/

/-- A rate within its bounds. -/
def clampRate (rate : Nat) : Nat := max 1 (min rate maximumFps.toNat)

theorem clampRate_mono (hle : a ≤ b) : clampRate a ≤ clampRate b :=
  max_le_max_left 1 (min_le_min_right _ hle)

theorem clampRate_max (a b : Nat) : clampRate (max a b) = max (clampRate a) (clampRate b) :=
  Monotone.map_max (f := clampRate) fun _ _ => clampRate_mono

theorem clampRate_eq_one_iff : clampRate a = clampRate 1 ↔ a ≤ 1 := by
  have hmax : maximumFps.toNat = 480 := rfl
  unfold clampRate
  omega

/-- Different rates differ behind the clamp, unless both are at the same bound. -/
theorem clampRate_eq_iff (hlt : a < b) :
    clampRate a = clampRate b ↔ b ≤ 1 ∨ maximumFps.toNat ≤ a := by
  have hmax : maximumFps.toNat = 480 := rfl
  unfold clampRate
  omega

theorem clampU32_toNat (val : U32) : (clampU32 val 1 maximumFps).toNat = clampRate val.toNat := by
  have hmax : maximumFps.toNat = 480 := rfl
  have hone : (1 : U32).toNat = 1 := rfl
  unfold clampU32 clampRate
  simp only [BitVec.lt_def]
  split_ifs <;> omega

theorem ceilDiv_lt_iff (hd : 0 < d) (hk : 0 < k) : n ⌈/⌉ d < k ↔ n ≤ d * (k - 1) := by
  rw [← ceilDiv_le_iff_le_mul hd]
  omega

/-! ### Quotients of 64 bits -/

section Quotients

variable {x y : U64}

theorem toNat_divisor_pos (hy : y ≠ 0) : 0 < y.toNat :=
  Nat.pos_of_ne_zero fun hzero => hy (BitVec.toNat_inj.1 hzero)

theorem roundUp_toNat (x : U64) (hy : y ≠ 0) :
    (x + y - 1).toNat = (x.toNat + y.toNat - 1) % 2 ^ 64 := by
  have hpos : 0 < y.toNat := toNat_divisor_pos hy
  have hone : (1 : U64).toNat = 1 := rfl
  rw [BitVec.toNat_sub, BitVec.toNat_add, hone]
  omega

/-- Where the dividend wraps around, the divisor exceeds it. -/
theorem roundUp_div_toNat (hx : x.toNat < 2 ^ 63) (hy : y ≠ 0) :
    ((x + y - 1) / y).toNat = x.toNat ⌈/⌉ y.toNat ∨
      ((x + y - 1) / y).toNat = 0 ∧ x.toNat ⌈/⌉ y.toNat ≤ 1 := by
  have hpos : 0 < y.toNat := toNat_divisor_pos hy
  have hlt := y.isLt
  rw [BitVec.toNat_udiv, roundUp_toNat x hy]
  by_cases hfits : x.toNat + y.toNat - 1 < 2 ^ 64
  · left
    rw [Nat.mod_eq_of_lt hfits, Nat.ceilDiv_eq_add_pred_div]
  · right
    refine ⟨?_, (ceilDiv_le_iff_le_mul hpos).2 (by omega)⟩
    exact Nat.div_eq_of_lt (by omega)

theorem clampRate_roundUp (hx : x.toNat < 2 ^ 63) (hy : y ≠ 0) :
    clampRate ((x + y - 1) / y).toNat = clampRate (x.toNat ⌈/⌉ y.toNat) := by
  rcases roundUp_div_toNat hx hy with hexact | ⟨hzero, hone⟩
  · rw [hexact]
  · rw [hzero]
    exact (clampRate_eq_one_iff.2 (Nat.zero_le 1)).trans (clampRate_eq_one_iff.2 hone).symm

theorem roundUp_lt_iff (hx : x.toNat < 2 ^ 63) (hy : y ≠ 0) :
    ((x + y - 1) / y).toNat < 2 ^ 32 ↔ x.toNat ≤ y.toNat * (2 ^ 32 - 1) := by
  rw [← ceilDiv_lt_iff (toNat_divisor_pos hy) (by decide : 0 < 2 ^ 32)]
  rcases roundUp_div_toNat hx hy with hexact | ⟨hzero, hone⟩
  · rw [hexact]
  · rw [hzero]
    omega

end Quotients

/-! ### Windows -/

namespace InputRate

variable {frames : List MeasuredFrame} {inst : InputRate} {legacyVpu5 : Bool} {deltaNs : U64}

/-- The wall-clock time from the first frame to the last. -/
def elapsed : List MeasuredFrame → Nat
  | [] => 0
  | last :: before => (last.curBufNs - (before.getLastD last).curBufNs).toNat

def timestamps (frames : List MeasuredFrame) : List Nat := frames.map (·.timestamp.toNat)

def timestampSpan (frames : List MeasuredFrame) : Nat :=
  (timestamps frames).max?.getD 0 - (timestamps frames).min?.getD 0

/-- `n` frames contain `n - 1` intervals. -/
def intervalNs (frames : List MeasuredFrame) : Nat := (frames.length - 1) * nsecPerSec.toNat

def arrivalRate (frames : List MeasuredFrame) : Nat := intervalNs frames ⌈/⌉ elapsed frames

def timestampRate (frames : List MeasuredFrame) : Nat :=
  intervalNs frames ⌈/⌉ timestampSpan frames

/-- The larger of the exact rates. -/
def exactRate (legacyVpu5 : Bool) (frames : List MeasuredFrame) : Nat :=
  if legacyVpu5 ∧ timestampSpan frames ≠ 0 then max (arrivalRate frames) (timestampRate frames)
  else arrivalRate frames

/-- What the fields of an instance say about the frames of its window. -/
structure Tallies (frames : List MeasuredFrame) (inst : InputRate) : Prop where
  count : inst.frameCounter = BitVec.ofNat 32 frames.length
  few : frames.length ≤ 2 ^ 32
  first : some inst.lastBufNs = frames.getLast?.map (·.curBufNs)
  earliest : some inst.rateMinTimestamp.toNat = (timestamps frames).min?
  latest : some inst.rateMaxTimestamp.toNat = (timestamps frames).max?

theorem Tallies.length_pos (htallies : Tallies frames inst) : 0 < frames.length := by
  have hfirst := htallies.first
  cases frames with
  | nil => cases hfirst
  | cons _ _ => exact Nat.succ_pos _

theorem Tallies.intervals_toNat (htallies : Tallies frames inst) :
    inst.intervals.toNat = intervalNs frames := by
  have hpos := htallies.length_pos
  have hfew := htallies.few
  have hcount : (inst.frameCounter - 1).toNat = frames.length - 1 := by
    have hone : (1 : U32).toNat = 1 := rfl
    rw [BitVec.toNat_sub, htallies.count, BitVec.toNat_ofNat, hone]
    omega
  have hsec : nsecPerSec.toNat = 1000000000 := rfl
  rw [intervals, BitVec.toNat_mul, BitVec.toNat_setWidth, hcount, hsec, intervalNs, hsec,
    Nat.mod_eq_of_lt (by omega : frames.length - 1 < 2 ^ 64)]
  omega

theorem Tallies.intervals_lt (htallies : Tallies frames inst) :
    inst.intervals.toNat < 2 ^ 63 := by
  have hfew := htallies.few
  have hsec : nsecPerSec.toNat = 1000000000 := rfl
  rw [htallies.intervals_toNat, intervalNs, hsec]
  omega

theorem Tallies.timestampSpan_eq (htallies : Tallies frames inst) :
    timestampSpan frames = inst.rateMaxTimestamp.toNat - inst.rateMinTimestamp.toNat := by
  rw [timestampSpan, ← htallies.earliest, ← htallies.latest]
  rfl

theorem Tallies.timestampDeltaNs_toNat (htallies : Tallies frames inst) :
    inst.timestampDeltaNs.toNat = timestampSpan frames := by
  obtain ⟨hmem, _⟩ := List.max?_eq_some_iff.1 htallies.latest.symm
  obtain ⟨_, hleast⟩ := List.min?_eq_some_iff.1 htallies.earliest.symm
  rw [htallies.timestampSpan_eq, timestampDeltaNs,
    BitVec.toNat_sub_of_le (BitVec.le_def.2 (hleast _ hmem))]

/-! ### Frames -/

/-- A jump of the timestamps empties the window, anything else leaves it as it is. -/
theorem track_cases (legacyVpu5 : Bool) (timestamp : U64) (inst : InputRate) :
    (inst.irisVdecTrackInputTimestamp legacyVpu5 timestamp).frameCounter = 0 ∨
      ∃ last valid, inst.irisVdecTrackInputTimestamp legacyVpu5 timestamp =
        { inst with lastInputTimestamp := last, inputTimestampValid := valid } := by
  have hcases : ∀ {jump : Bool},
      (if jump then inst.irisVdecResetRateWindow else inst).frameCounter = 0 ∨
        (if jump then inst.irisVdecResetRateWindow else inst) = inst := by
    intro jump
    cases jump
    · exact .inr rfl
    · exact .inl rfl
  unfold irisVdecTrackInputTimestamp
  split
  · exact .inr ⟨_, _, rfl⟩
  · refine hcases.imp id fun hkept => ⟨timestamp, true, ?_⟩
    dsimp only
    rw [hkept]

theorem Tallies.track (htallies : Tallies frames inst) (timestamp : U64)
    (hopen : (inst.irisVdecTrackInputTimestamp legacyVpu5 timestamp).frameCounter ≠ 0) :
    Tallies frames (inst.irisVdecTrackInputTimestamp legacyVpu5 timestamp) := by
  rcases track_cases legacyVpu5 timestamp inst with hempty | ⟨last, valid, hkept⟩
  · exact absurd hempty hopen
  · rw [hkept]
    exact ⟨htallies.count, htallies.few, htallies.first, htallies.earliest, htallies.latest⟩

theorem track_frameCounter (timestamp : U64) (hempty : inst.frameCounter = 0) :
    (inst.irisVdecTrackInputTimestamp legacyVpu5 timestamp).frameCounter = 0 := by
  rcases track_cases legacyVpu5 timestamp inst with hreset | ⟨last, valid, hkept⟩
  · exact hreset
  · rw [hkept]
    exact hempty

theorem tallies_first (curBufNs timestamp : U64) (hempty : inst.frameCounter = 0) :
    Tallies [⟨curBufNs, timestamp⟩] (inst.countFrame curBufNs timestamp) := by
  unfold countFrame
  rw [if_pos hempty]
  refine ⟨?_, Nat.one_le_two_pow, rfl, rfl, rfl⟩
  dsimp only
  rw [hempty]
  rfl

theorem Tallies.next (htallies : Tallies frames inst) (curBufNs timestamp : U64)
    (hopen : inst.frameCounter ≠ 0) :
    Tallies (⟨curBufNs, timestamp⟩ :: frames) (inst.countFrame curBufNs timestamp) := by
  have hfew := htallies.few
  unfold countFrame
  rw [if_neg hopen]
  refine ⟨?_, ?_, ?_, ?_, ?_⟩
  · dsimp only
    rw [htallies.count, List.length_cons, BitVec.ofNat_add]
    rfl
  · have hne : frames.length ≠ 2 ^ 32 := by
      intro hlength
      exact hopen (by rw [htallies.count, hlength]; rfl)
    rw [List.length_cons]
    omega
  · dsimp only
    rw [htallies.first]
    cases frames with
    | nil => exact absurd htallies.length_pos (Nat.lt_irrefl 0)
    | cons frame rest => rw [List.getLast?_cons_cons]
  · rw [timestamps, List.map_cons, List.min?_cons, ← timestamps, ← htallies.earliest]
    dsimp only [Option.elim]
    rw [min_comm]
    simp only [BitVec.lt_def, Nat.min_def]
    split_ifs <;> grind
  · rw [timestamps, List.map_cons, List.max?_cons, ← timestamps, ← htallies.latest]
    dsimp only [Option.elim]
    simp only [BitVec.lt_def, Nat.max_def]
    split_ifs <;> grind

/-! ### Exactness -/

/-- Neither a division by zero nor a quotient that loses bits. -/
def Divides (x y : U64) : Prop := y ≠ 0 ∧ ((x + y - 1) / y).toNat < 2 ^ 32

/-- QBUF measures the exact rate of the window. -/
structure ExactlyMeasured (legacyVpu5 : Bool) (w : ClosedWindow) : Prop where
  fps : (w.inst.measuredFps legacyVpu5 w.deltaNs).toNat = clampRate (exactRate legacyVpu5 w.frames)
  arrivals : Divides w.inst.intervals w.deltaNs
  timestamps : w.inst.takesTimestamps legacyVpu5 → Divides w.inst.intervals w.inst.timestampDeltaNs

/-- The span leaves at most `2 ^ 32 - 1` frames a second; or the counter has wrapped around and
the timestamps, which are then left out, do not matter. -/
def Measurable (legacyVpu5 : Bool) (frames : List MeasuredFrame) : Prop :=
  legacyVpu5 = true → timestampSpan frames ≠ 0 →
    if frames.length = 2 ^ 32 then
      timestampRate frames ≤ arrivalRate frames ∨ maximumFps.toNat ≤ arrivalRate frames
    else intervalNs frames ≤ timestampSpan frames * (2 ^ 32 - 1)

theorem Tallies.divides_iff (htallies : Tallies frames inst) {y : U64} (hy : y ≠ 0) :
    Divides inst.intervals y ↔ intervalNs frames ≤ y.toNat * (2 ^ 32 - 1) := by
  rw [Divides, roundUp_lt_iff htallies.intervals_lt hy, htallies.intervals_toNat]
  exact and_iff_right hy

theorem Tallies.clampRate_divRoundUp64 (htallies : Tallies frames inst) {y : U64}
    (hdivides : Divides inst.intervals y) :
    clampRate (divRoundUp64 inst.intervals y).toNat =
      clampRate (intervalNs frames ⌈/⌉ y.toNat) := by
  rw [divRoundUp64, BitVec.toNat_setWidth, Nat.mod_eq_of_lt hdivides.2,
    clampRate_roundUp htallies.intervals_lt hdivides.1, htallies.intervals_toNat]

/-- A window that closes has lasted for a second. -/
theorem Tallies.divides_arrivals (htallies : Tallies frames inst) (hlong : nsecPerSec ≤ deltaNs) :
    Divides inst.intervals deltaNs := by
  have hfew := htallies.few
  have hsec : nsecPerSec.toNat = 1000000000 := rfl
  rw [BitVec.le_def, hsec] at hlong
  have hne : deltaNs ≠ 0 := by
    intro hzero
    rw [hzero] at hlong
    exact absurd hlong (by decide)
  rw [htallies.divides_iff hne, intervalNs, hsec]
  calc (frames.length - 1) * 1000000000 ≤ (2 ^ 32 - 1) * deltaNs.toNat :=
        Nat.mul_le_mul (by omega) hlong
    _ = deltaNs.toNat * (2 ^ 32 - 1) := Nat.mul_comm _ _

theorem measuredFps_toNat (legacyVpu5 : Bool) (deltaNs : U64) (inst : InputRate) :
    (inst.measuredFps legacyVpu5 deltaNs).toNat =
      max (clampRate (divRoundUp64 inst.intervals deltaNs).toNat)
        (clampRate (if inst.takesTimestamps legacyVpu5 then
          (divRoundUp64 inst.intervals inst.timestampDeltaNs).toNat else 0)) := by
  rw [← clampRate_max, measuredFps, clampU32_toNat]
  simp only [BitVec.lt_def, apply_ite BitVec.toNat]
  congr 1
  rw [Nat.max_def]
  simp only [show (0 : U32).toNat = 0 from rfl]
  split_ifs <;> omega

theorem one_lt_length (hspan : timestampSpan frames ≠ 0) : 1 < frames.length := by
  match frames with
  | [] => exact absurd rfl hspan
  | [frame] => exact absurd (Nat.sub_self frame.timestamp.toNat) hspan
  | _ :: _ :: _ => exact Nat.succ_lt_succ (Nat.succ_pos _)

theorem Tallies.one_lt_frameCounter_iff (htallies : Tallies frames inst) :
    1 < inst.frameCounter ↔ 1 < frames.length ∧ frames.length ≠ 2 ^ 32 := by
  have hfew := htallies.few
  rw [BitVec.lt_def, htallies.count, BitVec.toNat_ofNat]
  change 1 < frames.length % 2 ^ 32 ↔ _
  omega

theorem Tallies.timestampDeltaNs_ne_zero_iff (htallies : Tallies frames inst) :
    inst.timestampDeltaNs ≠ 0 ↔ timestampSpan frames ≠ 0 := by
  rw [← htallies.timestampDeltaNs_toNat, ne_eq, ne_eq, ← BitVec.toNat_inj]
  rfl

theorem Tallies.takesTimestamps_iff (htallies : Tallies frames inst) :
    inst.takesTimestamps legacyVpu5 = true ↔
      legacyVpu5 = true ∧ timestampSpan frames ≠ 0 ∧ frames.length ≠ 2 ^ 32 := by
  rw [takesTimestamps, Bool.and_eq_true, Bool.and_eq_true, bne_iff_ne, decide_eq_true_iff,
    htallies.timestampDeltaNs_ne_zero_iff, htallies.one_lt_frameCounter_iff, and_assoc]
  exact and_congr_right fun _ => and_congr_right fun hspan => and_iff_right (one_lt_length hspan)

/-- The counter of a window of `2 ^ 32` frames is 0. -/
theorem clampRate_arrivalRate_iff (hfull : frames.length = 2 ^ 32) (hlong : 0 < elapsed frames) :
    clampRate (arrivalRate frames) = clampRate (max (arrivalRate frames) (timestampRate frames)) ↔
      timestampRate frames ≤ arrivalRate frames ∨ maximumFps.toNat ≤ arrivalRate frames := by
  have hpos : 1 ≤ arrivalRate frames := by
    by_contra hzero
    have hle := (ceilDiv_le_iff_le_mul hlong).1 (Nat.le_of_lt_succ (Nat.lt_of_not_le hzero))
    rw [intervalNs, hfull] at hle
    exact absurd hle (by rw [Nat.mul_zero]; decide)
  rcases le_or_gt (timestampRate frames) (arrivalRate frames) with hle | hlt
  · rw [max_eq_left hle]
    exact iff_of_true rfl (.inl hle)
  · rw [max_eq_right hlt.le, clampRate_eq_iff hlt]
    omega

theorem exactlyMeasured_iff {w : ClosedWindow} (htallies : Tallies w.frames w.inst)
    (helapsed : w.deltaNs.toNat = elapsed w.frames) (hlong : nsecPerSec ≤ w.deltaNs) :
    ExactlyMeasured legacyVpu5 w ↔ Measurable legacyVpu5 w.frames := by
  have harrivals := htallies.divides_arrivals hlong
  have hpos : 0 < elapsed w.frames := helapsed ▸ toNat_divisor_pos harrivals.1
  have harrivalFps : clampRate (divRoundUp64 w.inst.intervals w.deltaNs).toNat =
      clampRate (arrivalRate w.frames) := by
    rw [htallies.clampRate_divRoundUp64 harrivals, helapsed, arrivalRate]
  by_cases htakes : w.inst.takesTimestamps legacyVpu5 = true
  · obtain ⟨hlegacy, hspan, hfew⟩ := htallies.takesTimestamps_iff.1 htakes
    have hdivides := htallies.divides_iff (htallies.timestampDeltaNs_ne_zero_iff.2 hspan)
    rw [htallies.timestampDeltaNs_toNat] at hdivides
    rw [Measurable, if_neg hfew, ← hdivides]
    refine ⟨fun hexact _ _ => hexact.timestamps htakes, fun hmeasurable => ?_⟩
    refine ⟨?_, harrivals, fun _ => hmeasurable hlegacy hspan⟩
    rw [measuredFps_toNat, if_pos htakes, harrivalFps,
      htallies.clampRate_divRoundUp64 (hmeasurable hlegacy hspan), htallies.timestampDeltaNs_toNat,
      exactRate, if_pos ⟨hlegacy, hspan⟩, clampRate_max, timestampRate]
  · have hfps : (w.inst.measuredFps legacyVpu5 w.deltaNs).toNat =
        clampRate (arrivalRate w.frames) := by
      rw [measuredFps_toNat, if_neg htakes, harrivalFps]
      exact max_eq_left (clampRate_mono (Nat.zero_le _))
    have hexact : ExactlyMeasured legacyVpu5 w ↔
        clampRate (arrivalRate w.frames) = clampRate (exactRate legacyVpu5 w.frames) := by
      rw [← hfps]
      exact ⟨ExactlyMeasured.fps,
        fun hfps => ⟨hfps, harrivals, fun htakes' => absurd htakes' htakes⟩⟩
    rw [hexact, exactRate]
    by_cases htimestamps : legacyVpu5 = true ∧ timestampSpan w.frames ≠ 0
    · have hfull : w.frames.length = 2 ^ 32 := by
        by_contra hfew
        exact htakes (htallies.takesTimestamps_iff.2 ⟨htimestamps.1, htimestamps.2, hfew⟩)
      rw [if_pos htimestamps, clampRate_arrivalRate_iff hfull hpos, Measurable, if_pos hfull]
      exact ⟨fun h _ _ => h, fun h => h htimestamps.1 htimestamps.2⟩
    · rw [if_neg htimestamps]
      exact iff_of_true rfl fun hlegacy hspan => absurd ⟨hlegacy, hspan⟩ htimestamps

/-! ### Admission -/

/-- The quotient of 64 bits, the divisor of 32 bits and the rate of the admission control. -/
structure ExactlyAdmitted (load : LoadInst) (frames : List MeasuredFrame) (inst : InputRate) :
    Prop where
  divisor : inst.timestampDeltaNs.setWidth 32 ≠ (0 : U32)
  quotient : (divRoundUpUll inst.intervals inst.timestampDeltaNs).toNat < 2 ^ 32
  fps : (inst.irisVdecGetAdmissionFps load).toNat = clampRate (timestampRate frames)

/-- The span fits in the divisor and leaves at most `2 ^ 32 - 1` frames a second. A span that does
not fit is divided by its low word `low`: that is harmless where both rates are at the upper bound,
or, behind a dividend that wraps around, at the lower one. -/
def Admissible (frames : List MeasuredFrame) : Prop :=
  let total := intervalNs frames
  let span := timestampSpan frames
  let low := span % 2 ^ 32
  span < 2 ^ 32 ∧ total ≤ span * (2 ^ 32 - 1) ∨
    2 ^ 32 ≤ span ∧ span * (maximumFps.toNat - 1) < total ∧ total + span ≤ low * 2 ^ 32 ∨
    2 ^ 64 < total + span ∧ total + span ≤ 2 ^ 64 + 2 * low

/-- The quotient of a span that does not fit is too large. -/
theorem ceilDiv_lt_low {span : Nat} (hn : 0 < n) (hspan : 2 ^ 32 ≤ span)
    (hlow : 0 < span % 2 ^ 32) : n ⌈/⌉ span < (n + span - 1) / (span % 2 ^ 32) := by
  have hdouble : span % 2 ^ 32 * 2 ≤ span := by omega
  rw [Nat.ceilDiv_eq_add_pred_div, Nat.lt_iff_add_one_le, Nat.le_div_iff_mul_le hlow]
  have hpos : 1 ≤ (n + span - 1) / span := (Nat.one_le_div_iff (by omega)).2 (by omega)
  calc ((n + span - 1) / span + 1) * (span % 2 ^ 32)
      ≤ (n + span - 1) / span * 2 * (span % 2 ^ 32) := Nat.mul_le_mul_right _ (by omega)
    _ = (n + span - 1) / span * (span % 2 ^ 32 * 2) := by rw [Nat.mul_assoc, Nat.mul_comm 2]
    _ ≤ (n + span - 1) / span * span := Nat.mul_le_mul_left _ hdouble
    _ ≤ n + span - 1 := Nat.div_mul_le_self _ _

/-- What becomes of the quotient by a low word. -/
theorem clampRate_low_iff {total span : Nat} (htotal : 0 < total) (hfew : total < 2 ^ 63)
    (hspan : 0 < span) (hword : span < 2 ^ 64) :
    (span % 2 ^ 32 ≠ 0 ∧ (total + span - 1) % 2 ^ 64 / (span % 2 ^ 32) < 2 ^ 32 ∧
        clampRate ((total + span - 1) % 2 ^ 64 / (span % 2 ^ 32)) = clampRate (total ⌈/⌉ span)) ↔
      span < 2 ^ 32 ∧ total ≤ span * (2 ^ 32 - 1) ∨
        2 ^ 32 ≤ span ∧ span * (maximumFps.toNat - 1) < total ∧
          total + span ≤ span % 2 ^ 32 * 2 ^ 32 ∨
        2 ^ 64 < total + span ∧ total + span ≤ 2 ^ 64 + 2 * (span % 2 ^ 32) := by
  have hmax : maximumFps.toNat = 480 := rfl
  rw [hmax]
  rcases Nat.lt_or_ge span (2 ^ 32) with hfits | hlarge
  · have hlow : span % 2 ^ 32 = span := Nat.mod_eq_of_lt hfits
    rw [hlow, Nat.mod_eq_of_lt (by omega : total + span - 1 < 2 ^ 64),
      ← Nat.ceilDiv_eq_add_pred_div, ceilDiv_lt_iff hspan (by decide)]
    omega
  rcases Nat.eq_zero_or_pos (span % 2 ^ 32) with hlow | hlow
  · omega
  rcases Nat.lt_or_ge (2 ^ 64) (total + span) with hwraps | hwhole
  · have hone : clampRate (total ⌈/⌉ span) = clampRate 1 :=
      clampRate_eq_one_iff.2 ((ceilDiv_le_iff_le_mul hspan).2 (by omega))
    have hsmall : (total + span - 1) % 2 ^ 64 = total + span - 1 - 2 ^ 64 := by omega
    have hquotient : (total + span - 1 - 2 ^ 64) / (span % 2 ^ 32) < 2 ↔
        total + span - 1 - 2 ^ 64 < 2 * (span % 2 ^ 32) := Nat.div_lt_iff_lt_mul hlow
    rw [hone, hsmall, clampRate_eq_one_iff]
    generalize (total + span - 1 - 2 ^ 64) / (span % 2 ^ 32) = quotient at hquotient ⊢
    generalize span % 2 ^ 32 = low at *
    omega
  · have hlt := ceilDiv_lt_low htotal hlarge hlow
    have hquotient : (total + span - 1) / (span % 2 ^ 32) < 2 ^ 32 ↔
        total + span - 1 < 2 ^ 32 * (span % 2 ^ 32) := Nat.div_lt_iff_lt_mul hlow
    have hbound : total ⌈/⌉ span < 480 ↔ total ≤ span * 479 := ceilDiv_lt_iff hspan (by decide)
    have hpos : ¬ total ⌈/⌉ span < 1 := by
      rw [ceilDiv_lt_iff hspan (by decide)]
      omega
    rw [Nat.mod_eq_of_lt (by omega : total + span - 1 < 2 ^ 64), eq_comm (a := clampRate _),
      clampRate_eq_iff hlt]
    omega

theorem Tallies.exactlyAdmitted_iff (htallies : Tallies frames inst)
    (hopen : inst.frameCounter ≠ 0) (load : LoadInst) (hspan : timestampSpan frames ≠ 0) :
    ExactlyAdmitted load frames inst ↔ Admissible frames := by
  have hfull : frames.length ≠ 2 ^ 32 := by
    intro hlength
    exact hopen (by rw [htallies.count, hlength]; rfl)
  have hcount : 1 < inst.frameCounter :=
    htallies.one_lt_frameCounter_iff.2 ⟨one_lt_length hspan, hfull⟩
  have hdelta := htallies.timestampDeltaNs_ne_zero_iff.2 hspan
  have hword : timestampSpan frames < 2 ^ 64 := htallies.timestampDeltaNs_toNat ▸ BitVec.isLt _
  have hspread : inst.rateMinTimestamp < inst.rateMaxTimestamp := by
    rw [BitVec.lt_def, ← Nat.sub_pos_iff_lt, ← htallies.timestampSpan_eq]
    exact Nat.pos_of_ne_zero hspan
  have hquotient : (divRoundUpUll inst.intervals inst.timestampDeltaNs).toNat =
      (intervalNs frames + timestampSpan frames - 1) % 2 ^ 64 /
        (timestampSpan frames % 2 ^ 32) := by
    rw [divRoundUpUll, doDiv, BitVec.toNat_udiv, roundUp_toNat _ hdelta, htallies.intervals_toNat,
      htallies.timestampDeltaNs_toNat, BitVec.toNat_setWidth, BitVec.toNat_setWidth,
      htallies.timestampDeltaNs_toNat]
    rw [Nat.mod_eq_of_lt (by omega : timestampSpan frames % 2 ^ 32 < 2 ^ 64)]
  have hdivisor : inst.timestampDeltaNs.setWidth 32 ≠ (0 : U32) ↔
      timestampSpan frames % 2 ^ 32 ≠ 0 := by
    rw [← htallies.timestampDeltaNs_toNat, ne_eq, ← BitVec.toNat_inj, BitVec.toNat_setWidth]
    rfl
  have htotal : 0 < intervalNs frames := by
    have hlength := one_lt_length hspan
    have hsec : nsecPerSec.toNat = 1000000000 := rfl
    rw [intervalNs, hsec]
    omega
  have hfew : intervalNs frames < 2 ^ 63 := htallies.intervals_toNat ▸ htallies.intervals_lt
  rw [Admissible, ← clampRate_low_iff htotal hfew (Nat.pos_of_ne_zero hspan) hword, ← hdivisor,
    ← hquotient]
  have hfps : (divRoundUpUll inst.intervals inst.timestampDeltaNs).toNat < 2 ^ 32 →
      (inst.irisVdecGetAdmissionFps load).toNat =
        clampRate (divRoundUpUll inst.intervals inst.timestampDeltaNs).toNat := by
    intro hlt
    rw [irisVdecGetAdmissionFps, if_pos ⟨hcount, hspread⟩, clampU32_toNat, BitVec.toNat_setWidth,
      Nat.mod_eq_of_lt hlt]
  constructor
  · intro hexact
    exact ⟨hexact.divisor, hexact.quotient, (hfps hexact.quotient).symm.trans hexact.fps⟩
  · rintro ⟨hne, hlt, hclamp⟩
    exact ⟨hne, hlt, (hfps hlt).trans hclamp⟩

end InputRate

/-! ### Runs -/

namespace MeasureRun

open InputRate

variable {s : MeasureRun} {legacyVpu5 : Bool}

/-- The open window and the closed ones tally. -/
structure Consistent (s : MeasureRun) : Prop where
  empty : s.inst.frameCounter = 0 → s.frames = []
  counted : s.inst.frameCounter ≠ 0 → Tallies s.frames s.inst
  closed : ∀ w ∈ s.closed, Tallies w.frames w.inst ∧
    w.deltaNs.toNat = elapsed w.frames ∧ nsecPerSec ≤ w.deltaNs

theorem Consistent.opened : opened.Consistent where
  empty := fun _ => rfl
  counted := fun hopen => absurd rfl hopen
  closed := List.forall_mem_nil _

theorem Consistent.tallies (hconsistent : s.Consistent) (legacyVpu5 : Bool)
    (curBufNs timestamp : U64) :
    Tallies (s.framesWith legacyVpu5 curBufNs timestamp)
      ((s.inst.irisVdecTrackInputTimestamp legacyVpu5 timestamp).countFrame
        curBufNs timestamp) := by
  unfold framesWith
  by_cases hempty : (s.inst.irisVdecTrackInputTimestamp legacyVpu5 timestamp).frameCounter = 0
  · rw [if_pos hempty]
    exact tallies_first curBufNs timestamp hempty
  · have hopen : s.inst.frameCounter ≠ 0 := fun hzero => hempty (track_frameCounter timestamp hzero)
    rw [if_neg hempty]
    exact ((hconsistent.counted hopen).track timestamp hempty).next curBufNs timestamp hempty

theorem elapsed_framesWith {curBufNs timestamp : U64} {inst : InputRate}
    (htallies : Tallies (s.framesWith legacyVpu5 curBufNs timestamp) inst) :
    (curBufNs - inst.lastBufNs).toNat = elapsed (s.framesWith legacyVpu5 curBufNs timestamp) := by
  have hfirst := htallies.first
  unfold framesWith at hfirst ⊢
  rw [List.getLast?_cons, Option.map_some, Option.some.injEq] at hfirst
  rw [hfirst, elapsed, List.getLastD_eq_getLast?]

section Apply

variable {curBufNs timestamp : U64}

theorem apply_short (hshort : curBufNs - ((s.inst.irisVdecTrackInputTimestamp legacyVpu5
      timestamp).countFrame curBufNs timestamp).lastBufNs < nsecPerSec) :
    s.apply legacyVpu5 (.qbuf true curBufNs timestamp) =
      let counted := (s.inst.irisVdecTrackInputTimestamp legacyVpu5 timestamp).countFrame
        curBufNs timestamp
      { s with
        inst := counted
        frames :=
          if counted.frameCounter = 0 then []
          else s.framesWith legacyVpu5 curBufNs timestamp } := by
  simp only [MeasureRun.apply, irisVdecQbuf, Bool.not_true, Bool.false_eq_true, if_false,
    if_pos hshort]

theorem apply_long (hlong : ¬ curBufNs - ((s.inst.irisVdecTrackInputTimestamp legacyVpu5
      timestamp).countFrame curBufNs timestamp).lastBufNs < nsecPerSec) :
    ∃ inst : InputRate, inst.frameCounter = 0 ∧
      s.apply legacyVpu5 (.qbuf true curBufNs timestamp) =
        let counted := (s.inst.irisVdecTrackInputTimestamp legacyVpu5 timestamp).countFrame
          curBufNs timestamp
        { inst
          frames := []
          closed := ⟨s.framesWith legacyVpu5 curBufNs timestamp, counted,
            curBufNs - counted.lastBufNs⟩ :: s.closed } := by
  simp only [MeasureRun.apply, irisVdecQbuf, Bool.not_true, Bool.false_eq_true, if_false,
    if_neg hlong]
  exact ⟨_, rfl, rfl⟩

end Apply

theorem Consistent.apply (hconsistent : s.Consistent) (op : RateOp) :
    (s.apply legacyVpu5 op).Consistent := by
  cases op with
  | streamonInput prepared =>
      cases prepared with
      | true => exact ⟨fun _ => rfl, fun hopen => absurd rfl hopen, hconsistent.closed⟩
      | false =>
          exact ⟨hconsistent.empty,
            fun hopen => ⟨(hconsistent.counted hopen).count, (hconsistent.counted hopen).few,
              (hconsistent.counted hopen).first, (hconsistent.counted hopen).earliest,
              (hconsistent.counted hopen).latest⟩,
            hconsistent.closed⟩
  | qbuf streaming curBufNs timestamp =>
      have htallies := hconsistent.tallies legacyVpu5 curBufNs timestamp
      cases streaming
      · exact hconsistent
      by_cases hshort : curBufNs - ((s.inst.irisVdecTrackInputTimestamp legacyVpu5
          timestamp).countFrame curBufNs timestamp).lastBufNs < nsecPerSec
      · rw [apply_short hshort]
        refine ⟨fun hempty => if_pos hempty, fun hopen => ?_, hconsistent.closed⟩
        dsimp only at hopen ⊢
        rw [if_neg hopen]
        exact htallies
      · obtain ⟨inst', hempty, happly⟩ := apply_long hshort
        rw [happly]
        refine ⟨fun _ => rfl, fun hopen => absurd hempty hopen, ?_⟩
        exact List.forall_mem_cons.2 ⟨⟨htallies, elapsed_framesWith htallies,
          BitVec.not_lt.1 hshort⟩, hconsistent.closed⟩

theorem Consistent.run (legacyVpu5 : Bool) (ops : List RateOp) :
    (ops.foldl (MeasureRun.apply legacyVpu5) .opened).Consistent :=
  List.foldlRecOn ops _ .opened fun _ hconsistent op _ => hconsistent.apply op

end MeasureRun

open InputRate FormatSizes

/-- **Measured rates.** Every window of every run is measured exactly where its timestamps leave at
most `2 ^ 32 - 1` frames a second; the admission control needs a span below `2 ^ 32` as well. -/
theorem measured_rate_exact_iff (legacyVpu5 : Bool) (load : LoadInst) (ops : List RateOp) :
    let s := ops.foldl (MeasureRun.apply legacyVpu5) .opened
    (∀ w ∈ s.closed, ExactlyMeasured legacyVpu5 w ↔ Measurable legacyVpu5 w.frames) ∧
      (timestampSpan s.frames ≠ 0 →
        (ExactlyAdmitted load s.frames s.inst ↔ Admissible s.frames)) := by
  intro s
  have hconsistent : s.Consistent := .run legacyVpu5 ops
  refine ⟨fun w hw => ?_, fun hspan => ?_⟩
  · obtain ⟨htallies, helapsed, hlong⟩ := hconsistent.closed w hw
    exact exactlyMeasured_iff htallies helapsed hlong
  · have hopen : s.inst.frameCounter ≠ 0 :=
      fun hempty => hspan (by rw [hconsistent.empty hempty]; rfl)
    exact (hconsistent.counted hopen).exactlyAdmitted_iff hopen load hspan

/-- Six frames that come at once, one second of the stream apart. -/
def secondsApart : List RateOp :=
  (List.range 6).map fun k => .qbuf true (BitVec.ofNat 64 k) (BitVec.ofNat 64 (1000000000 * k))

/-- Five seconds do not fit in the divisor: one frame a second is taken for 14. -/
theorem admission_fps_truncates :
    let s := secondsApart.foldl (MeasureRun.apply true) .opened
    timestampSpan s.frames ≠ 0 ∧ clampRate (timestampRate s.frames) = 1 ∧
      s.inst.irisVdecGetAdmissionFps (FormatInst.allocated .decoder).toLoadInst = 14 ∧
      ¬ ExactlyAdmitted (FormatInst.allocated .decoder).toLoadInst s.frames s.inst := by
  refine ⟨by decide, by decide, by decide, fun hexact => absurd hexact.fps (by decide)⟩

end NabuIris
