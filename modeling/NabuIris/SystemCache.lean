import Mathlib.Logic.Function.Basic
import NabuIris.Basic
import NabuIris.Lib.Threads

/-!
# System cache slices (`iris_hfi_gen1_command.c`, `iris_vpu_common.c`)

The system cache of the legacy VPU5 as any number of threads take it and power-off gives it back,
one section for each call of the LLCC driver and each access to a shared field. `refs` and
`activations` are what the LLCC driver counts; its calls do nothing with a null descriptor. `busy`
is not in the driver: it counts the threads that are taking the slices or giving them back.
-/

namespace NabuIris

open Lib

/-- `usecase_ids` -/
inductive LlccSlice
  | vidsc0
  | vidsc1
deriving DecidableEq, Repr

namespace LlccSlice

def all : List LlccSlice := [.vidsc0, .vidsc1]

end LlccSlice

@[ext]
structure Llcc where
  /-- the descriptor in `llcc_slices` is not null -/
  slice : LlccSlice → Bool
  llccActive : Bool
  syscacheSet : Bool
  /-- descriptors got and not put -/
  refs : LlccSlice → Int
  activations : LlccSlice → Int

/-- Nothing is taken. -/
def Llcc.released : Llcc where
  slice := fun _ => false
  llccActive := false
  syscacheSet := false
  refs := fun _ => 0
  activations := fun _ => 0

/-- Each slice is taken once. -/
def Llcc.taken : Llcc where
  slice := fun _ => true
  llccActive := true
  syscacheSet := true
  refs := fun _ => 1
  activations := fun _ => 1

structure LlccCore where
  llcc : Llcc
  vpuPowered : Bool
  busy : Nat

inductive LlccSection
  /-- the test of `syscache_set` -/
  | enterConfig
  /-- the test of `vpu_powered` -/
  | enterPowerOff
  | powerOn
  | leave
  | look
  | getd (slice : LlccSlice) (ret : Int)
  | putd (slice : LlccSlice)
  | activate (slice : LlccSlice) (ret : Int)
  | deactivate (slice : LlccSlice)
  | setLlccActive (active : Bool)
  | setSyscacheSet (set : Bool)
deriving DecidableEq, Repr

namespace LlccSection

/-- What a section does to the slices. -/
def change : LlccSection → Llcc → Llcc
  | .getd slice ret, s =>
      if ret ≠ 0 then { s with slice := Function.update s.slice slice false }
      else
        { s with
          slice := Function.update s.slice slice true
          refs := Function.update s.refs slice (s.refs slice + 1) }
  | .putd slice, s =>
      { s with
        slice := Function.update s.slice slice false
        refs := if s.slice slice then Function.update s.refs slice (s.refs slice - 1) else s.refs }
  | .activate slice ret, s =>
      if s.slice slice ∧ ret = 0 then
        { s with activations := Function.update s.activations slice (s.activations slice + 1) }
      else s
  | .deactivate slice, s =>
      if s.slice slice then
        { s with activations := Function.update s.activations slice (s.activations slice - 1) }
      else s
  | .setLlccActive active, s => { s with llccActive := active }
  | .setSyscacheSet set, s => { s with syscacheSet := set }
  | _, s => s

def effect : LlccSection → LlccCore → LlccCore
  | .enterConfig, s => if s.llcc.syscacheSet then s else { s with busy := s.busy + 1 }
  | .enterPowerOff, s =>
      if !s.vpuPowered then s else { s with vpuPowered := false, busy := s.busy + 1 }
  | .powerOn, s => { s with vpuPowered := true }
  | .leave, s => { s with busy := s.busy - 1 }
  | k, s => { s with llcc := k.change s.llcc }

end LlccSection

abbrev LlccProg := Prog LlccCore LlccSection

/-- A program of a thread that is `busy`. -/
abbrev SliceProg := Prog Llcc LlccSection

namespace SystemCache

/-! ### The LLCC driver -/

def llccSliceGetd (slice : LlccSlice) (ret : Int) : SliceProg Int :=
  .act (.getd slice ret) fun _ => ret

def llccSlicePutd (slice : LlccSlice) : SliceProg Unit := .act (.putd slice) fun _ => ()

def llccSliceActivate (slice : LlccSlice) (ret : Int) : SliceProg Int :=
  .act (.activate slice ret) fun s => if s.slice slice then ret else -einval

def llccSliceDeactivate (slice : LlccSlice) : SliceProg Unit := .act (.deactivate slice) fun _ => ()

def setLlccActive (active : Bool) : SliceProg Unit := .act (.setLlccActive active) fun _ => ()

def setSyscacheSet (set : Bool) : SliceProg Unit := .act (.setSyscacheSet set) fun _ => ()

/-! ### `iris_hfi_gen1_syscache_config` -/

/-- What the calls of `iris_hfi_gen1_syscache_config` return. -/
structure SyscacheEnv where
  getd : LlccSlice → Int
  activate : LlccSlice → Int
  allocPacket : Bool
  cmdWrite : Int

def getSlices (env : SyscacheEnv) : List LlccSlice → SliceProg Int
  | [] => pure 0
  | slice :: rest => do
      let ret ← llccSliceGetd slice (env.getd slice)
      if ret ≠ 0 then pure ret else getSlices env rest

/-- The slices that are active come back with the result, the last one first. -/
def activateSlices (env : SyscacheEnv) :
    List LlccSlice → List LlccSlice → SliceProg (Int × List LlccSlice)
  | [], active => pure (0, active)
  | slice :: rest, active => do
      let ret ← llccSliceActivate slice (env.activate slice)
      if ret ≠ 0 then pure (ret, active) else activateSlices env rest (slice :: active)

/-- The label `error_put`. -/
def errorPut (ret : Int) : SliceProg Int := do
  .each llccSlicePutd LlccSlice.all
  pure ret

/-- The label `error_deactivate`. -/
def errorDeactivate (active : List LlccSlice) (ret : Int) : SliceProg Int := do
  .each llccSliceDeactivate active
  setLlccActive false
  errorPut ret

/-- What follows the test of `syscache_set`. -/
def acquireSlices (env : SyscacheEnv) : SliceProg Int := do
  let ret ← getSlices env LlccSlice.all
  if ret ≠ 0 then errorPut ret
  else
    let activated ← activateSlices env LlccSlice.all []
    if activated.1 ≠ 0 then errorDeactivate activated.2 activated.1
    else
      setLlccActive true
      if !env.allocPacket then errorDeactivate activated.2 (-enomem)
      else if env.cmdWrite ≠ 0 then errorDeactivate activated.2 env.cmdWrite
      else
        setSyscacheSet true
        pure 0

def irisHfiGen1SyscacheConfig (env : SyscacheEnv) : LlccProg Int := do
  let set ← .act .enterConfig fun s => s.llcc.syscacheSet
  if set then pure 0
  else
    let ret ← (acquireSlices env).lift LlccCore.llcc
    .act .leave fun _ => ret

structure SessionOpenEnv where
  /-- the instance is in `DEINIT` -/
  deinit : Bool
  debugConfig : Int
  syscache : SyscacheEnv
  powerControl : Int
  sessionInit : Int

/-- `iris_hfi_gen1_session_open` on a legacy VPU5; `sessionInit` is what the SESSION_INIT and its
response make of it. -/
def irisHfiGen1SessionOpen (env : SessionOpenEnv) : LlccProg Int :=
  if !env.deinit then pure (-ealready)
  else if env.debugConfig ≠ 0 then pure env.debugConfig
  else do
    let ret ← irisHfiGen1SyscacheConfig env.syscache
    if ret ≠ 0 then pure ret
    else if env.powerControl ≠ 0 then pure env.powerControl
    else pure env.sessionInit

/-! ### `iris_vpu_power_off` -/

def releaseSlices : SliceProg Unit := do
  let active ← .act .look Llcc.llccActive
  if active then
    .each (fun slice => do
      llccSliceDeactivate slice
      llccSlicePutd slice) LlccSlice.all.reverse
    setLlccActive false
    setSyscacheSet false
  else
    pure ()

/-- The part of `iris_vpu_power_off` that is about the slices. -/
def irisVpuPowerOff : LlccProg Unit := do
  let powered ← .act .enterPowerOff LlccCore.vpuPowered
  if powered then
    releaseSlices.lift LlccCore.llcc
    .act .leave fun _ => ()
  else
    pure ()

/-! ### Runs -/

inductive LlccOp
  | sessionOpen (env : SessionOpenEnv)
  | powerOff
  | powerOn

def LlccOp.body : LlccOp → LlccProg Unit
  | .sessionOpen env => do let _ ← irisHfiGen1SessionOpen env; pure ()
  | .powerOff => irisVpuPowerOff
  | .powerOn => .act .powerOn fun _ => ()

def probed : LlccCore where
  llcc := .released
  vpuPowered := false
  busy := 0

def runs (moves : List (PoolMove LlccOp)) : Pool LlccCore LlccSection :=
  Pool.runs LlccSection.effect LlccOp.body probed moves

end SystemCache

end NabuIris
