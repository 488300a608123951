import NabuIris.Instance

/-!
# Surface fences (`iris_vidc.c`)

A decoder's client attaches fences to the dma-bufs that it writes with the CPU, and signals them by
token. `calls` is what the kernel was asked for, in order. A fence goes by its sequence number.
-/

namespace NabuIris

def enoent : Int := 2
def eexist : Int := 17
def enotty : Int := 25

def vidiocIrisSurfaceFence : BitVec 32 := 0x401056c0

def irisSurfaceFenceAttachOp : BitVec 32 := 1
def irisSurfaceFenceSignalOp : BitVec 32 := 2

inductive FenceCall
  | dmaBufGet (buf : Nat)
  | dmaBufPut (buf : Nat)
  /-- `kzalloc` and `dma_fence_init`: the creation reference -/
  | fenceInit (seqno : Nat)
  /-- `dma_resv_add_fence`, which takes a reference of its own -/
  | addFence (buf seqno : Nat)
  | fenceSignal (seqno : Nat)
  /-- `dma_fence_put` of the creation reference -/
  | fencePut (seqno : Nat)
deriving DecidableEq, Repr

/-- `struct iris_surface_fence` -/
structure SurfaceFence where
  token : BitVec 64
  seqno : Nat
deriving DecidableEq, Repr

structure FenceInst where
  domain : Domain
  surfaceFences : List SurfaceFence
  surfaceFenceSeqno : Nat
  /-- the write fence of this fence context in the reservation object of a dma-buf -/
  resv : Nat → Option Nat
  calls : List FenceCall

/-- What the kernel answers to an ATTACH. `PTR_ERR` is negative. -/
structure AttachEnv where
  dmaBufGet : Except { ret : Int // ret < 0 } Nat
  allocated : Bool
  lockRet : Int
  reserveRet : Int

/-- `struct iris_surface_fence_cmd`, with the request that it came with. -/
structure FenceCmd where
  request : BitVec 32
  validPrio : Bool
  op : BitVec 32
  dmabufFd : Int
  token : BitVec 64

namespace FenceInst

def opened (domain : Domain) : FenceInst where
  domain := domain
  surfaceFences := []
  surfaceFenceSeqno := 0
  resv := fun _ => none
  calls := []

def call (call : FenceCall) (s : FenceInst) : FenceInst := { s with calls := s.calls ++ [call] }

/-- An earlier fence of the same context gives way to the new one. -/
def dmaResvAddFence (buf seqno : Nat) (s : FenceInst) : FenceInst :=
  { s with resv := Function.update s.resv buf (some seqno) }.call (.addFence buf seqno)

def irisSurfaceFenceComplete (fence : SurfaceFence) (s : FenceInst) : FenceInst :=
  (s.call (.fenceSignal fence.seqno)).call (.fencePut fence.seqno)

/-- The label `put_dmabuf`. -/
def putDmabuf (buf : Nat) (ret : Int) (s : FenceInst) : Int × FenceInst :=
  (ret, s.call (.dmaBufPut buf))

/-- The label `put_fence`. -/
def putFence (buf seqno : Nat) (ret : Int) (s : FenceInst) : Int × FenceInst :=
  putDmabuf buf ret (s.call (.fencePut seqno))

/-- `iris_surface_fence_attach` once the dma-buf and the memory are there. -/
def attachFence (env : AttachEnv) (buf : Nat) (token : BitVec 64) (s : FenceInst) :
    Int × FenceInst :=
  let seqno := s.surfaceFenceSeqno + 1
  let s := { s with surfaceFenceSeqno := seqno }.call (.fenceInit seqno)
  orGoto (env.lockRet, s) (putFence buf seqno) fun s =>
  orGoto (env.reserveRet, s) (putFence buf seqno) fun s =>
  let s := s.dmaResvAddFence buf seqno
  let fence : SurfaceFence := { token, seqno }
  (0, { s with surfaceFences := s.surfaceFences ++ [fence] }.call (.dmaBufPut buf))

def irisSurfaceFenceAttach (env : AttachEnv) (fd : Int) (token : BitVec 64) (s : FenceInst) :
    Int × FenceInst :=
  if fd < 0 ∨ token = 0 then (-einval, s)
  else if s.surfaceFences.any fun pending => pending.token == token then (-eexist, s)
  else
    match env.dmaBufGet with
    | .error ret => (ret, s)
    | .ok buf =>
        let s := s.call (.dmaBufGet buf)
        if !env.allocated then putDmabuf buf (-enomem) s else attachFence env buf token s

def irisSurfaceFenceSignal (token : BitVec 64) (s : FenceInst) : Int × FenceInst :=
  match s.surfaceFences.find? fun fence => fence.token == token with
  | none => (-enoent, s)
  | some fence =>
      (0,
        { s with surfaceFences := s.surfaceFences.eraseP fun fence => fence.token == token
          }.irisSurfaceFenceComplete fence)

/-- The loop of `iris_surface_fence_signal_all` over the rest of the list. -/
def signalAll : List SurfaceFence → FenceInst → FenceInst
  | [], s => s
  | fence :: rest, s =>
      signalAll rest ({ s with surfaceFences := rest }.irisSurfaceFenceComplete fence)

def irisSurfaceFenceSignalAll (s : FenceInst) : FenceInst := signalAll s.surfaceFences s

def irisVidiocDefault (env : AttachEnv) (cmd : FenceCmd) (s : FenceInst) : Int × FenceInst :=
  if cmd.request ≠ vidiocIrisSurfaceFence ∨ s.domain ≠ .decoder then (-enotty, s)
  else if !cmd.validPrio then (-ebusy, s)
  else if cmd.op = irisSurfaceFenceAttachOp then
    s.irisSurfaceFenceAttach env cmd.dmabufFd cmd.token
  else if cmd.op = irisSurfaceFenceSignalOp then s.irisSurfaceFenceSignal cmd.token
  else (-einval, s)

/-- The fences of `iris_close`. -/
def close (s : FenceInst) : FenceInst := s.irisSurfaceFenceSignalAll

def command (s : FenceInst) (cmd : AttachEnv × FenceCmd) : FenceInst :=
  (s.irisVidiocDefault cmd.1 cmd.2).2

end FenceInst

def fencesAfter (domain : Domain) (cmds : List (AttachEnv × FenceCmd)) : FenceInst :=
  cmds.foldl FenceInst.command (.opened domain)

end NabuIris
