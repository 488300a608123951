import NabuIris.Gen1Message

/-!
# Open instances (`iris_vidc.c`, `iris_utils.c`)

The firmware knows an instance by the 32 bits to which its address is folded. An `OpenCore` is a
core with the instances that are open, each at an address of its own.
-/

namespace NabuIris

open Gen1Message

/-- `val ^= val >> 32; return (u32)val;` -/
def hash32Ptr (ptr : BitVec 64) : U32 := (ptr ^^^ (ptr >>> 32)).setWidth 32

structure OpenCore where
  core : Gen1Core
  address : Nat → BitVec 64
  nodup : core.instances.Nodup
  nonNull : ∀ i ∈ core.instances, address i ≠ 0
  apart : ∀ i ∈ core.instances, ∀ j ∈ core.instances, address i = address j → i = j
  hashed : ∀ i ∈ core.instances, (core.inst i).inst.sessionId = hash32Ptr (address i)

namespace Gen1Message

def irisAddSession (i : Nat) (inst : Gen1Inst) (core : Gen1Core) : Gen1Core :=
  { core with
    instances := core.instances ++ [i]
    inst := Function.update core.inst i inst }

def irisRemoveSession (i : Nat) (core : Gen1Core) : Gen1Core :=
  { core with instances := core.instances.erase i }

theorem irisAddSession_instances (i : Nat) (inst : Gen1Inst) (core : Gen1Core) :
    (irisAddSession i inst core).instances = core.instances ++ [i] := rfl

theorem irisAddSession_inst (i : Nat) (inst : Gen1Inst) (core : Gen1Core) :
    (irisAddSession i inst core).inst = Function.update core.inst i inst := rfl

end Gen1Message

def sessionAt (ptr : BitVec 64) (inst : Gen1Inst) : Gen1Inst :=
  { inst with inst := { inst.inst with sessionId := hash32Ptr ptr } }

namespace OpenCore

/-- No instance is open. -/
def empty (core : Gen1Core) : OpenCore where
  core := { core with instances := [] }
  address := fun _ => 0
  nodup := List.nodup_nil
  nonNull := nofun
  apart := nofun
  hashed := nofun

/-- `iris_open` gets the memory of an instance at `ptr`. -/
def irisOpen (i : Nat) (ptr : BitVec 64) (inst : Gen1Inst) (s : OpenCore)
    (hnew : i ∉ s.core.instances) (hnull : ptr ≠ 0)
    (hapart : ∀ j ∈ s.core.instances, s.address j ≠ ptr) : OpenCore where
  core := Gen1Message.irisAddSession i (sessionAt ptr inst) s.core
  address := Function.update s.address i ptr
  nodup := by
    rw [irisAddSession_instances, ← List.concat_eq_append]
    exact s.nodup.concat hnew
  nonNull := by
    intro j hj
    rcases List.mem_append.1 hj with hold | hlast
    · rw [Function.update_of_ne (ne_of_mem_of_not_mem hold hnew)]
      exact s.nonNull j hold
    · rw [List.mem_singleton.1 hlast, Function.update_self]
      exact hnull
  apart := by
    have hother : ∀ j ∈ s.core.instances, Function.update s.address i ptr j = s.address j :=
      fun j hj => Function.update_of_ne (ne_of_mem_of_not_mem hj hnew) _ _
    intro j hj k hk heq
    rcases List.mem_append.1 hj with hjold | hjlast <;>
      rcases List.mem_append.1 hk with hkold | hklast
    · rw [hother j hjold, hother k hkold] at heq
      exact s.apart j hjold k hkold heq
    · rw [hother j hjold, List.mem_singleton.1 hklast, Function.update_self] at heq
      exact absurd heq (hapart j hjold)
    · rw [hother k hkold, List.mem_singleton.1 hjlast, Function.update_self] at heq
      exact absurd heq.symm (hapart k hkold)
    · rw [List.mem_singleton.1 hjlast, List.mem_singleton.1 hklast]
  hashed := by
    intro j hj
    rcases List.mem_append.1 hj with hold | hlast
    · have hne : j ≠ i := ne_of_mem_of_not_mem hold hnew
      rw [irisAddSession_inst, Function.update_of_ne hne, Function.update_of_ne hne]
      exact s.hashed j hold
    · rw [List.mem_singleton.1 hlast, irisAddSession_inst, Function.update_self,
        Function.update_self]
      rfl

/-- `iris_close` takes an instance out of the list. -/
def irisClose (i : Nat) (s : OpenCore) : OpenCore where
  core := Gen1Message.irisRemoveSession i s.core
  address := s.address
  nodup := s.nodup.erase i
  nonNull j hj := s.nonNull j (List.mem_of_mem_erase hj)
  apart j hj k hk := s.apart j (List.mem_of_mem_erase hj) k (List.mem_of_mem_erase hk)
  hashed j hj := s.hashed j (List.mem_of_mem_erase hj)

end OpenCore

end NabuIris
