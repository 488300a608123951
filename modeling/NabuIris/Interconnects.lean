import NabuIris.Basic

/-!
# Interconnect votes (`iris_resources.c`, `iris_probe.c`)

`icc_bulk_set_bw` applies the whole table of votes; its result is a parameter. A path is a row of
the platform's table with the vote that is recorded for it.
-/

namespace NabuIris

def bwThreshold : Nat := 50000

/-- `struct icc_info` -/
structure IccInfo where
  name : String
  bwMinKbps : Nat
  bwMaxKbps : Nat
  ordered : bwMinKbps ≤ bwMaxKbps

/-- `struct icc_bulk_data` -/
structure IccPath where
  info : IccInfo
  avgBw : Nat
  peakBw : Nat

structure IccCore where
  iccTbl : List IccPath
  /-- `core->power.icc_bw` -/
  iccBw : Nat

/-- `clamp_t` -/
def clampBw (bw : Nat) (info : IccInfo) : Nat :=
  if info.bwMaxKbps ≤ bw then info.bwMaxKbps
  else if bw ≤ info.bwMinKbps then info.bwMinKbps
  else bw

def distance (a b : Nat) : Nat := if b < a then a - b else b - a

namespace IccPath

def videoMem (path : IccPath) : Bool := path.info.name == "video-mem"

def vote (bw : Nat) (path : IccPath) : IccPath := { path with avgBw := bw }

def unvote (path : IccPath) : IccPath := { path with avgBw := 0, peakBw := 0 }

end IccPath

/-- The vote of the first path named `video-mem`. -/
def voteVideoMem (bw : Nat) : List IccPath → List IccPath
  | [] => []
  | path :: rest => if path.videoMem then path.vote bw :: rest else path :: voteVideoMem bw rest

namespace IccCore

def videoPath (core : IccCore) : Option IccPath := core.iccTbl.find? IccPath.videoMem

def irisInitIcc (table : List IccInfo) : IccCore where
  iccTbl := table.map fun info => { info, avgBw := info.bwMinKbps, peakBw := 0 }
  iccBw := 0

def irisSetIccBw (ret : Int) (iccBw : Nat) (core : IccCore) : Int × IccCore :=
  match core.videoPath with
  | none => (ret, core)
  | some path =>
      let bwKbps := clampBw iccBw path.info
      let bwPrev := core.iccBw
      if bwPrev ≠ 0 ∧ distance bwKbps bwPrev < bwThreshold then (0, core)
      else if ret = 0 then
        (0, { iccTbl := voteVideoMem bwKbps core.iccTbl, iccBw := bwKbps })
      else
        (ret, { core with iccTbl := voteVideoMem bwPrev (voteVideoMem bwKbps core.iccTbl) })

def irisUnsetIccBw (ret : Int) (core : IccCore) : Int × IccCore :=
  (ret, { iccTbl := core.iccTbl.map IccPath.unvote, iccBw := 0 })

end IccCore

inductive IccOp
  | set (ret : Int) (iccBw : Nat)
  | unset (ret : Int)
deriving DecidableEq, Repr

namespace IccCore

def apply (core : IccCore) : IccOp → IccCore
  | .set ret iccBw => (core.irisSetIccBw ret iccBw).2
  | .unset ret => (core.irisUnsetIccBw ret).2

end IccCore

def votesAfter (table : List IccInfo) (ops : List IccOp) : IccCore :=
  ops.foldl IccCore.apply (.irisInitIcc table)

end NabuIris
