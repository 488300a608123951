import Mathlib.Logic.Function.Basic
import NabuIris.Basic
import NabuIris.Lib.Threads

/-!
# Clock votes (`iris_power.c`)

The instances' votes for a clock rate and the functions that set it, as programs of any number of
threads: one section for each stretch that holds `core->lock` and for each access to a shared field
outside it. The rate that `calc_freq` returns is a parameter. `scaling` is not in the driver: it
counts the calls that have changed a vote and are going to set the clocks.
-/

namespace NabuIris

open Lib

abbrev U64 := BitVec 64

structure ClockInst where
  hfiSessionOpened : Bool
  maxInputDataSize : Nat
  /-- `power.min_freq` -/
  minFreq : U64
deriving DecidableEq

structure ClockCore where
  state : CoreState
  /-- the list `instances` -/
  instances : List Nat
  inst : Nat → ClockInst
  /-- `power.clk_freq` -/
  clkFreq : U64
  /-- the rate of the lowest OPP, zero when there is none -/
  lowestOpp : U64
  scaling : Nat

def ClockInst.new : ClockInst where
  hfiSessionOpened := false
  maxInputDataSize := 0
  minFreq := 0

/-- The vote is counted. -/
def ClockInst.votes (inst : ClockInst) : Bool :=
  inst.hfiSessionOpened && inst.maxInputDataSize != 0

namespace ClockCore

def probed (lowestOpp : U64) : ClockCore where
  state := .deinit
  instances := []
  inst := fun _ => .new
  clkFreq := 0
  lowestOpp := lowestOpp
  scaling := 0

def setInst (i : Nat) (change : ClockInst → ClockInst) (s : ClockCore) : ClockCore :=
  { s with inst := Function.update s.inst i (change (s.inst i)) }

/-! ### Sections of `iris_power.c` -/

/-- `dev_pm_opp_set_rate` returns `ret`. -/
def setRate (ret : Int) (freq : U64) (s : ClockCore) : Int × ClockCore :=
  if ret = 0 then (0, { s with clkFreq := freq }) else (ret, s)

/-- The loop of `iris_set_clocks`. -/
def votedFreq (s : ClockCore) : U64 :=
  s.instances.foldl
    (fun freq k => if !(s.inst k).votes then freq else freq + (s.inst k).minFreq) 0

def irisSetClocks (ret : Int) (s : ClockCore) : Int × ClockCore :=
  let freq := if s.votedFreq = 0 then s.lowestOpp else s.votedFreq
  if freq = 0 ∨ freq = s.clkFreq then (0, s) else s.setRate ret freq

def irisSetIdleOpp (ret : Int) (s : ClockCore) : Int × ClockCore :=
  if s.lowestOpp = 0 then (0, s)
  else if s.lowestOpp = s.clkFreq then (0, s)
  else s.setRate ret s.lowestOpp

/-! ### Sections of `iris_core.c` -/

/-- The locked section of `iris_core_init`: `some ret` when the function returns `ret` from it;
`boot` is what the calls that boot the firmware return. -/
def irisCoreInitSection (boot : Int) (s : ClockCore) : Option Int × ClockCore :=
  match s.state with
  | .init => (some 0, s)
  | .error => (some (-einval), { s with state := .deinit })
  | .deinit =>
      if boot ≠ 0 then (some boot, { s with state := .deinit })
      else (none, { s with state := .init })

end ClockCore

inductive ClockSection
  /-- an access that changes nothing -/
  | look
  | setState (state : CoreState)
  | coreInit (boot : Int)
  | addInstance (i : Nat)
  | removeInstance (i : Nat)
  | setSession (i : Nat) (opened : Bool)
  /-- the new `max_input_data_size`; `sets` when the call goes on to set the clocks -/
  | setDataSize (i size : Nat) (sets : Bool)
  | setMinFreq (i : Nat) (freq : U64)
  | setClocks (ret : Int)
  | setIdleOpp (ret : Int)

def ClockSection.effect : ClockSection → ClockCore → ClockCore
  | .look, s => s
  | .setState state, s => { s with state := state }
  | .coreInit boot, s => (s.irisCoreInitSection boot).2
  | .addInstance i, s =>
      if i ∈ s.instances then s
      else { s.setInst i fun _ => .new with instances := s.instances ++ [i] }
  | .removeInstance i, s => { s with instances := s.instances.erase i }
  | .setSession i opened, s => s.setInst i fun inst => { inst with hfiSessionOpened := opened }
  | .setDataSize i size sets, s =>
      { s.setInst i fun inst => { inst with maxInputDataSize := size } with
        scaling := if sets then s.scaling + 1 else s.scaling }
  | .setMinFreq i freq, s => s.setInst i fun inst => { inst with minFreq := freq }
  | .setClocks ret, s => { (s.irisSetClocks ret).2 with scaling := s.scaling - 1 }
  | .setIdleOpp ret, s => (s.irisSetIdleOpp ret).2

abbrev ClockProg := Prog ClockCore ClockSection

namespace Clocks

/-! ### `iris_power.c` -/

def irisSetClocks (ret : Int) : ClockProg Int :=
  .act (.setClocks ret) fun s => (s.irisSetClocks ret).1

/-- `dataSize` is the largest `data_size` of the queued source buffers, `freq` what `calc_freq`
returns. -/
def irisScaleClocks (i dataSize : Nat) (freq : U64) (ret : Int) : ClockProg Int := do
  .act (.setDataSize i dataSize (dataSize != 0)) fun _ => ()
  if dataSize = 0 then
    pure 0
  else
    .act (.setMinFreq i freq) fun _ => ()
    irisSetClocks ret

/-- `resume` is what resuming a suspended device returns; the vote for the interconnects comes
last and is left out. -/
def irisScalePower (resume : Int) (i dataSize : Nat) (freq : U64) (ret : Int) : ClockProg Int :=
  if resume < 0 then pure resume else irisScaleClocks i dataSize freq ret

def irisUnvotePower (i : Nat) (ret : Int) : ClockProg Int := do
  .act (.setDataSize i 0 true) fun _ => ()
  .act (.setMinFreq i 0) fun _ => ()
  irisSetClocks ret

def irisSetIdleOpp (ret : Int) : ClockProg Int :=
  .act (.setIdleOpp ret) fun s => (s.irisSetIdleOpp ret).1

/-! ### `iris_core.c` -/

def irisWaitForSystemResponse (response : Int) : ClockProg Int := do
  let state ← .act .look ClockCore.state
  if state = .error then
    pure (-eio)
  else if response ≠ 0 then
    .act (.setState .error) fun _ => ()
    pure (-etimedout)
  else
    pure 0

def irisCoreInit (boot response ret : Int) : ClockProg Int := do
  let returned ← .act (.coreInit boot) fun s => (s.irisCoreInitSection boot).1
  match returned with
  | some ret => pure ret
  | none => do
      let waited ← irisWaitForSystemResponse response
      if waited ≠ 0 then
        pure waited
      else
        let _ ← irisSetIdleOpp ret
        pure 0

/-! ### `iris_common.c` -/

/-- `iris_hfi_session_open` from its own locked section on: `admitted` is whether the core has
room for the session, and `opened` what the SESSION_INIT and its response make of it. -/
def irisHfiSessionOpen (i : Nat) (admitted : Bool) (opened : Int) : ClockProg Int := do
  let already ← .act .look fun s => (s.inst i).hfiSessionOpened
  if already then
    pure 0
  else if !admitted then
    .act .look fun _ => -ebusy
  else
    .act (.setSession i true) fun _ => ()
    if opened ≠ 0 then
      .act (.setSession i false) fun _ => opened
    else
      pure 0

def irisHfiSessionClose (i : Nat) (ret : Int) : ClockProg Unit := do
  let opened ← .act .look fun s => (s.inst i).hfiSessionOpened
  if opened then
    .act (.setSession i false) fun _ => ()
    let _ ← irisUnvotePower i ret
    pure ()
  else
    pure ()

/-! ### Runs -/

/-- The calls, and what the system does beside them. Every OPP call succeeds. -/
inductive ClockOp
  | scalePower (resume : Int) (i dataSize : Nat) (freq : U64)
  | unvotePower (i : Nat)
  | sessionOpen (i : Nat) (admitted : Bool) (opened : Int)
  | sessionClose (i : Nat)
  | coreInit (boot response : Int)
  | coreDeinit
  | systemError
  | addInstance (i : Nat)
  | removeInstance (i : Nat)
deriving DecidableEq, Repr

def ClockOp.body : ClockOp → ClockProg Unit
  | .scalePower resume i dataSize freq => do
      let _ ← irisScalePower resume i dataSize freq 0
      pure ()
  | .unvotePower i => do let _ ← irisUnvotePower i 0; pure ()
  | .sessionOpen i admitted opened => do let _ ← irisHfiSessionOpen i admitted opened; pure ()
  | .sessionClose i => irisHfiSessionClose i 0
  | .coreInit boot response => do let _ ← irisCoreInit boot response 0; pure ()
  | .coreDeinit => .act (.setState .deinit) fun _ => ()
  | .systemError => .act (.setState .error) fun _ => ()
  | .addInstance i => .act (.addInstance i) fun _ => ()
  | .removeInstance i => .act (.removeInstance i) fun _ => ()

def runs (lowestOpp : U64) (moves : List (PoolMove ClockOp)) : Pool ClockCore ClockSection :=
  Pool.runs ClockSection.effect ClockOp.body (.probed lowestOpp) moves

end Clocks

end NabuIris
