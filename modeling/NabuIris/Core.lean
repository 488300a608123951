import NabuIris.Basic
import NabuIris.Lib.Counters

/-!
# The core and its platforms

The platform tables that power control reads, and the fields of `struct iris_core` that bring-up,
teardown and power collapse change. Two fields are not in the driver: `fwLoaded` records what the
secure world was last told about the firmware image, and `counters` what the clock, power-domain
and interrupt frameworks count.
-/

namespace NabuIris

open Lib

/-- `enum platform_clk_type` -/
inductive ClkType
  | axi
  | bus
  | ctrl
  | hwAxi
  | hw
  | auxHwAxi
  | auxHw
deriving DecidableEq, Repr

/-- The clock names of the platform tables. -/
inductive Clk
  | iface
  | bus
  | core
  | vcodec0Bus
  | vcodec0Core
  | vcodec1Bus
  | vcodec1Core
deriving DecidableEq, Repr

/-- `enum platform_pm_domain_type` -/
inductive PowerDomain
  | ctrl
  | hw
  | auxHw
deriving DecidableEq, Repr

inductive Resource
  | clk (clk : Clk)
  | domain (domain : PowerDomain)
  | irq
deriving DecidableEq, Repr

inductive VpuOps
  | vpu2
  | vpu3
  | vpu33
deriving DecidableEq, Repr

structure PlatformData where
  vpuOps : VpuOps
  clkRstTblSize : Nat
  pmdomainTblSize : Nat
  clkTbl : List (ClkType × Clk)
  useVcodecHwControl : Bool
  deferVcodecPower : Bool
  legacyVpu5 : Bool

def sm8250ClkTable : List (ClkType × Clk) :=
  [(.axi, .iface), (.ctrl, .core), (.hw, .vcodec0Core)]

def sm8150ClkTable : List (ClkType × Clk) :=
  [(.axi, .iface), (.bus, .bus), (.ctrl, .core), (.hwAxi, .vcodec0Bus), (.hw, .vcodec0Core),
    (.auxHwAxi, .vcodec1Bus), (.auxHw, .vcodec1Core)]

def sm8550ClkTable : List (ClkType × Clk) :=
  [(.axi, .iface), (.ctrl, .core), (.hw, .vcodec0Core)]

def sm8250Data : PlatformData where
  vpuOps := .vpu2
  clkRstTblSize := 2
  pmdomainTblSize := 2
  clkTbl := sm8250ClkTable
  useVcodecHwControl := false
  deferVcodecPower := false
  legacyVpu5 := false

def sm8150Data : PlatformData where
  vpuOps := .vpu2
  clkRstTblSize := 4
  pmdomainTblSize := 3
  clkTbl := sm8150ClkTable
  useVcodecHwControl := true
  deferVcodecPower := true
  legacyVpu5 := true

def sm8550Data : PlatformData where
  vpuOps := .vpu3
  clkRstTblSize := 1
  pmdomainTblSize := 2
  clkTbl := sm8550ClkTable
  useVcodecHwControl := false
  deferVcodecPower := false
  legacyVpu5 := false

def sm8650Data : PlatformData where
  vpuOps := .vpu33
  clkRstTblSize := 2
  pmdomainTblSize := 2
  clkTbl := sm8550ClkTable
  useVcodecHwControl := false
  deferVcodecPower := false
  legacyVpu5 := false

def qcs8300Data : PlatformData := sm8550Data

/-- The entries of `iris_dt_match`. -/
def irisDtMatch : List PlatformData :=
  [qcs8300Data, sm8250Data, sm8150Data, sm8550Data, sm8650Data]

structure Core where
  platformData : PlatformData
  /-- names in `clock_tbl` -/
  clockTbl : List Clk
  state : CoreState
  /-- `iface_q_table_vaddr` is not `NULL` -/
  ifaceQTable : Bool
  fwLoaded : Bool
  vpuPowered : Bool
  vpuSuspended : Bool
  llccActive : Bool
  syscacheSet : Bool
  intrStatus : UInt32
  recoveryPending : Bool
  /-- number of entries of `instances` -/
  instances : Nat
  counters : Counters Resource

namespace Core

def acquire (core : Core) (r : Resource) : Core :=
  { core with counters := core.counters.acquire r }

def release (core : Core) (r : Resource) : Core :=
  { core with counters := core.counters.release r }

/-- The core as probed: nothing initialised, counters at `base`. -/
def probed (platformData : PlatformData) (clockTbl : List Clk) (base : Resource → Int) : Core where
  platformData := platformData
  clockTbl := clockTbl
  state := .deinit
  ifaceQTable := false
  fwLoaded := false
  vpuPowered := false
  vpuSuspended := false
  llccActive := false
  syscacheSet := false
  intrStatus := 0
  recoveryPending := false
  instances := 0
  counters := .start base

end Core

/-- The clocks that the SM8150 device tree names. -/
def sm8150Clocks : List Clk := sm8150ClkTable.map Prod.snd

def sm8150Core : Core := Core.probed sm8150Data sm8150Clocks fun _ => 0

end NabuIris
