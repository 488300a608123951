import NabuIris.StreamParms

/-!
# The rates that S_PARM leaves

A refused request puts the rate of its queue back to the default. An accepted one sets a rate of at
most `max_rate`, which is not zero for frames of up to a second, the longest that
ENUM_FRAMEINTERVALS offers.
-/

namespace NabuIris.VideoCores

open FormatSizes (Platform)

variable {core : StreamCore} {i : Nat} {s : StreamParm} {streaming : Plane → Bool}

/-- The answers of S_PARM, with what they leave. -/
inductive SParmAnswer (i : Nat) (s : StreamParm) (core : StreamCore) : Int × StreamCore → Prop
  | invalid : SParmAnswer i s core (-einval, core)
  | reset : SParmAnswer i s core
      (-enomem, core.setInst i ((core.inst i).setRate s.type defaultFps))
  | set (rate : U32) (hmax : rate ≤ core.platform.maxRate s.type)
      (hmin : s.usPerFrame ≤ usecPerSec → 1 ≤ rate) :
      SParmAnswer i s core (0, core.setInst i ((core.inst i).setRate s.type rate))

/-! ### One request -/

theorem maxRate_toNat (platform : Platform) (type : Plane) :
    (platform.maxRate type).toNat = 480 := by
  cases type <;> rfl

/-- A rate that has not been refused fits in 32 bits. -/
theorem rate_le {platform : Platform} {type : Plane} {fps : U64}
    (hfits : ¬(platform.maxRate type).setWidth 64 < fps) :
    fps.toNat ≤ 480 ∧ (fps.setWidth 32).toNat = fps.toNat := by
  have hle : fps.toNat ≤ 480 := by
    have hnot := BitVec.le_def.1 (BitVec.not_lt.1 hfits)
    rwa [BitVec.toNat_setWidth_of_le (by decide), maxRate_toNat] at hnot
  refine ⟨hle, ?_⟩
  rw [BitVec.toNat_setWidth]
  omega

/-- A second holds at least one frame of up to a second. -/
theorem one_le_fps {usPerFrame : U64} (hpos : usPerFrame ≠ 0) (hsecond : usPerFrame ≤ usecPerSec) :
    1 ≤ (doDiv usecPerSec (usPerFrame.setWidth 32)).toNat := by
  have hle : usPerFrame.toNat ≤ 1000000 := BitVec.le_def.1 hsecond
  have hne : usPerFrame.toNat ≠ 0 := fun hzero => hpos (BitVec.eq_of_toNat_eq hzero)
  have hwidth : ((usPerFrame.setWidth 32).setWidth 64).toNat = usPerFrame.toNat := by
    rw [BitVec.toNat_setWidth, BitVec.toNat_setWidth]
    omega
  have husec : usecPerSec.toNat = 1000000 := rfl
  rw [doDiv, BitVec.toNat_udiv, hwidth, husec]
  exact (Nat.one_le_div_iff (Nat.pos_of_ne_zero hne)).2 hle

theorem checkStreaming_cases (streaming : Bool) (i : Nat) (core : StreamCore) :
    checkStreaming streaming i core = 0 ∨ checkStreaming streaming i core = -enomem := by
  unfold checkStreaming irisCheckCoreMbpf irisCheckCoreMbps
  split_ifs <;> simp

theorem irisVencSParam_answer (streaming : Plane → Bool) (i : Nat) (s : StreamParm)
    (core : StreamCore) : SParmAnswer i s core (irisVencSParam streaming i s core) := by
  unfold irisVencSParam
  dsimp only
  by_cases hzero : s.usPerFrame = 0
  · rw [if_pos hzero]
    exact .invalid
  · rw [if_neg hzero]
    by_cases hlarge : (core.platform.maxRate s.type).setWidth 64 <
        doDiv usecPerSec (s.usPerFrame.setWidth 32)
    · rw [if_pos hlarge]
      exact .reset
    · rw [if_neg hlarge]
      obtain ⟨hle, hwidth⟩ := rate_le hlarge
      obtain hret | hret := checkStreaming_cases (streaming s.type) i
        (core.setInst i ((core.inst i).setRate s.type
          ((doDiv usecPerSec (s.usPerFrame.setWidth 32)).setWidth 32)))
      · rw [if_neg (not_not.2 hret)]
        refine .set _ ?_ fun hsecond => ?_
        · rw [BitVec.le_def, hwidth, maxRate_toNat]
          exact hle
        · rw [BitVec.le_def, hwidth]
          exact one_le_fps hzero hsecond
      · rw [hret, if_pos (by decide)]
        exact .reset

/-! ### Runs -/

def InRange (platform : Platform) (inst : StreamInst) : Prop :=
  ∀ type, 1 ≤ inst.rate type ∧ inst.rate type ≤ platform.maxRate type

/-- What later calls make of the rates of an instance: G_PARM, the power votes, the admission of
the load and the property of the firmware. -/
structure Rated (platform : Platform) (inst : StreamInst) : Prop where
  inRange : InRange platform inst
  reported : ∀ type, (irisVencGParam inst type).timeperframe.denominator ≠ 0
  voted : irisGetOperatingFps inst.toRateInst = inst.frameRate
  load : inst.fps ≠ 0
  sent : inst.frameRate <<< 16 ≠ 0

theorem ne_zero_of_one_le {rate : U32} (hmin : 1 ≤ rate) : rate ≠ 0 := by
  rintro rfl
  exact absurd hmin (by decide)

theorem InRange.rated {platform : Platform} {inst : StreamInst} (hrange : InRange platform inst) :
    Rated platform inst where
  inRange := hrange
  reported type := ne_zero_of_one_le (hrange type).1
  voted := if_neg (ne_zero_of_one_le (hrange .capture).1)
  load := by
    unfold StreamInst.fps
    split_ifs
    · exact ne_zero_of_one_le (hrange .output).1
    · exact ne_zero_of_one_le (hrange .capture).1
  sent := by
    have hmin : 1 ≤ inst.frameRate.toNat := BitVec.le_def.1 (hrange .capture).1
    have hmax : inst.frameRate.toNat ≤ 480 := BitVec.le_def.1 (hrange .capture).2
    intro hzero
    have hshift : (inst.frameRate <<< 16).toNat = 0 := congrArg BitVec.toNat hzero
    rw [BitVec.toNat_shiftLeft, Nat.shiftLeft_eq] at hshift
    omega

theorem rate_setRate (inst : StreamInst) (type type' : Plane) (rate : U32) :
    (inst.setRate type rate).rate type' = if type' = type then rate else inst.rate type' := by
  cases type <;> cases type' <;> rfl

theorem InRange.setRate {platform : Platform} {inst : StreamInst} (hrange : InRange platform inst)
    {type : Plane} {rate : U32} (hmin : 1 ≤ rate) (hmax : rate ≤ platform.maxRate type) :
    InRange platform (inst.setRate type rate) := by
  intro type'
  rw [rate_setRate]
  split_ifs with hsame
  · rw [hsame]
    exact ⟨hmin, hmax⟩
  · exact hrange type'

theorem default_inRange (platform : Platform) (type : Plane) :
    1 ≤ defaultFps ∧ defaultFps ≤ platform.maxRate type := by
  rw [BitVec.le_def, BitVec.le_def, maxRate_toNat]
  decide

theorem encoder_inRange (platform : Platform) (load : LoadInst) :
    InRange platform (.encoder load) := by
  intro type
  have hrate : (StreamInst.encoder load).rate type = defaultFps := by cases type <;> rfl
  rw [hrate]
  exact default_inRange platform type

/-- The rates of the encoders of a core. -/
def EncodersInRange (core : StreamCore) : Prop :=
  ∀ k ∈ core.instances, (core.inst k).domain = .encoder → InRange core.platform (core.inst k)

theorem EncodersInRange.setInst (hrange : EncodersInRange core) {inst : StreamInst}
    (hinst : i ∈ core.instances → inst.domain = .encoder → InRange core.platform inst) :
    EncodersInRange (core.setInst i inst) :=
  StreamCore.setInst_rule (P := fun k inst => k ∈ core.instances →
    inst.domain = .encoder → InRange core.platform inst) hinst fun k _ => hrange k

theorem EncodersInRange.sParm (hrange : EncodersInRange core) (hmem : i ∈ core.instances)
    (hsecond : s.usPerFrame ≤ usecPerSec) :
    EncodersInRange (irisSParm streaming i s core).2 := by
  unfold irisSParm
  split_ifs with hencoder
  · have hbefore := hrange i hmem hencoder
    generalize hanswer : irisVencSParam streaming i s core = answer
    have hcase := irisVencSParam_answer streaming i s core
    rw [hanswer] at hcase
    cases hcase with
    | invalid => exact hrange
    | reset =>
        obtain ⟨hmin, hmax⟩ := default_inRange core.platform s.type
        exact hrange.setInst fun _ _ => hbefore.setRate hmin hmax
    | set rate hmax hmin => exact hrange.setInst fun _ _ => hbefore.setRate (hmin hsecond) hmax
  · exact hrange

/-- An operation whose request, if it is one, asks for frames of up to a second. -/
def ParmOp.UpToSecond : ParmOp → Prop
  | .sParm _ _ s => s.usPerFrame ≤ usecPerSec
  | _ => True

theorem EncodersInRange.apply (hrange : EncodersInRange core) {op : ParmOp} (hop : op.UpToSecond) :
    EncodersInRange (applyParm core op) := by
  cases op with
  | openEncoder i load =>
      simp only [applyParm]
      split_ifs with hmem
      · exact hrange
      · have hafter : EncodersInRange (core.setInst i (.encoder load)) :=
          hrange.setInst fun hin => absurd hin hmem
        intro k hk hencoder
        rcases List.mem_append.1 hk with hold | hnew
        · exact hafter k hold hencoder
        · have hself : (core.setInst i (.encoder load)).inst k = .encoder load := by
            rw [List.mem_singleton.1 hnew]
            exact StreamCore.inst_setInst_self
          show InRange core.platform ((core.setInst i (.encoder load)).inst k)
          rw [hself]
          exact encoder_inRange core.platform load
  | sParm streaming i s =>
      simp only [applyParm]
      split_ifs with hmem
      · exact hrange.sParm hmem hop
      · exact hrange
  | change i load => exact hrange.setInst fun hmem hencoder => hrange i hmem hencoder
  | close i => exact fun k hk => hrange k (List.mem_of_mem_erase hk)

theorem EncodersInRange.run (hrange : EncodersInRange core) {ops : List ParmOp}
    (hops : ∀ op ∈ ops, op.UpToSecond) : EncodersInRange (parmsAfter core ops) :=
  List.foldlRecOn ops applyParm hrange fun _ hbefore op hop => hbefore.apply (hops op hop)

/-- **S_PARM.** A request is refused without a trace, refused with the default rate, or sets a rate
of at most `max_rate`. While no frame is to take more than a second, every encoder has rates that
are at least 1, and so is everything made of them. -/
theorem s_parm_rates :
    (∀ streaming i s core, SParmAnswer i s core (irisVencSParam streaming i s core)) ∧
      ∀ platform inst ops, (∀ op ∈ ops, ParmOp.UpToSecond op) →
        let after := parmsAfter (.empty platform inst) ops
        ∀ k ∈ after.instances, (after.inst k).domain = .encoder →
          Rated after.platform (after.inst k) := by
  refine ⟨irisVencSParam_answer, fun platform inst ops hops => ?_⟩
  intro after k hk hencoder
  have hempty : EncodersInRange (.empty platform inst) := fun k hk => absurd hk List.not_mem_nil
  exact (hempty.run hops k hk hencoder).rated

/-- The load of an encoder of default size. -/
def openedLoad : LoadInst := .opened { size := fun _ => 245760, count := fun _ => 4 } .encoder

/-- A request of a CAPTURE rate. -/
def captureParm (numerator denominator : U32) : StreamParm where
  type := .capture
  timeperframe := { numerator, denominator }
  capability := false

theorem s_parm_rates_25 :
    let after := parmsAfter (.empty .sm8250 fun _ => .encoder openedLoad)
      [.openEncoder 0 openedLoad, .sParm (fun _ => true) 0 (captureParm 1 25)]
    (after.inst 0).frameRate = 25 ∧ Rated after.platform (after.inst 0) := by
  refine ⟨by decide +kernel, ?_⟩
  refine s_parm_rates.2 .sm8250 _ _ ?_ 0 ?_ ?_
  · intro op hop
    rcases List.mem_pair.1 hop with rfl | rfl
    · trivial
    · show (captureParm 1 25).usPerFrame ≤ usecPerSec
      decide +kernel
  · decide +kernel
  · decide +kernel

/-- A request for 1000 frames a second is refused, and the rate is no longer 60. -/
theorem s_parm_resets :
    ¬∀ (streaming : Plane → Bool) (i : Nat) (s : StreamParm) (core : StreamCore),
      let answer := irisVencSParam streaming i s core
      (answer.1 ≠ 0 ∧ ∀ type, (answer.2.inst i).rate type = (core.inst i).rate type) ∨
        (answer.1 = 0 ∧ 1 ≤ (answer.2.inst i).rate s.type ∧
          (answer.2.inst i).rate s.type ≤ core.platform.maxRate s.type) := by
  intro hall
  let core : StreamCore :=
    .empty .sm8250 fun _ => (StreamInst.encoder openedLoad).setRate .capture 60
  obtain ⟨-, hsame⟩ | ⟨hret, -⟩ := hall (fun _ => false) 0 (captureParm 1 1000) core
  · have hreset := hsame .capture
    revert hreset
    decide +kernel
  · revert hret
    decide +kernel

end NabuIris.VideoCores
