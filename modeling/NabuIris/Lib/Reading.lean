import Mathlib.Data.List.Basic

/-!
# Programs that read a memory

A `Reading` is a program whose only effect is to read bytes at offsets that it computes from what it
has read before. `touched` is the list of the offsets that a run reads; a run depends on nothing
else of the memory.
-/

namespace NabuIris.Lib

abbrev Memory := Nat → BitVec 8

inductive Reading (α : Type) : Type
  | done (a : α)
  | byte (offset : Nat) (next : BitVec 8 → Reading α)

namespace Reading

variable {α β : Type} {mem mem' : Memory} {limit : Nat}

def bind : Reading α → (α → Reading β) → Reading β
  | done a, f => f a
  | byte offset next, f => byte offset fun b => (next b).bind f

instance : Monad Reading where
  pure := done
  bind := bind

def run (mem : Memory) : Reading α → α
  | done a => a
  | byte offset next => (next (mem offset)).run mem

def touched (mem : Memory) : Reading α → List Nat
  | done _ => []
  | byte offset next => offset :: (next (mem offset)).touched mem

@[simp]
theorem run_pure (a : α) : (pure a : Reading α).run mem = a := rfl

@[simp]
theorem run_bind (x : Reading α) (f : α → Reading β) :
    (x >>= f).run mem = (f (x.run mem)).run mem := by
  induction x with
  | done _ => rfl
  | byte offset next ih => exact ih (mem offset)

@[simp]
theorem touched_bind (x : Reading α) (f : α → Reading β) :
    (x >>= f).touched mem = x.touched mem ++ (f (x.run mem)).touched mem := by
  induction x with
  | done _ => rfl
  | byte offset next ih => exact congrArg (offset :: ·) (ih (mem offset))

@[simp]
theorem run_ite {cond : Prop} [Decidable cond] (x y : Reading α) :
    (if cond then x else y).run mem = if cond then x.run mem else y.run mem :=
  apply_ite (run mem) cond x y

/-- **Noninterference.** Two memories that agree on what a run reads give the same run. -/
theorem run_congr (x : Reading α) (hagree : ∀ offset ∈ x.touched mem, mem offset = mem' offset) :
    x.run mem = x.run mem' := by
  induction x with
  | done _ => rfl
  | byte offset next ih =>
      have hfirst : mem offset = mem' offset := hagree offset List.mem_cons_self
      have hrest := ih (mem offset) fun o ho => hagree o (List.mem_cons_of_mem _ ho)
      rw [run, run, ← hfirst]
      exact hrest

/-! ### Reading below a limit -/

def Within (limit : Nat) (mem : Memory) (x : Reading α) : Prop :=
  ∀ offset ∈ x.touched mem, offset < limit

@[simp]
theorem within_pure (a : α) : Within limit mem (pure a : Reading α) := nofun

@[simp]
theorem within_bind (x : Reading α) (f : α → Reading β) :
    Within limit mem (x >>= f) ↔ Within limit mem x ∧ Within limit mem (f (x.run mem)) := by
  unfold Within
  rw [touched_bind, List.forall_mem_append]

@[simp]
theorem within_ite {cond : Prop} [Decidable cond] (x y : Reading α) :
    Within limit mem (if cond then x else y) ↔
      (cond → Within limit mem x) ∧ (¬cond → Within limit mem y) := by
  split_ifs with h
  · exact ⟨fun hx => ⟨fun _ => hx, fun hn => absurd h hn⟩, fun hboth => hboth.1 h⟩
  · exact ⟨fun hy => ⟨fun hc => absurd hc h, fun _ => hy⟩, fun hboth => hboth.2 h⟩

/-! ### Words -/

/-- A byte. -/
def u8 (offset : Nat) : Reading (BitVec 8) := byte offset done

/-- A little-endian word of 32 bits. -/
def u32 (offset : Nat) : Reading (BitVec 32) := do
  let b0 ← u8 offset
  let b1 ← u8 (offset + 1)
  let b2 ← u8 (offset + 2)
  let b3 ← u8 (offset + 3)
  pure (b3 ++ b2 ++ b1 ++ b0)

def u64 (offset : Nat) : Reading (BitVec 64) := do
  let low ← u32 offset
  let high ← u32 (offset + 4)
  pure (high ++ low)

@[simp]
theorem within_u8 (offset : Nat) : Within limit mem (u8 offset) ↔ offset < limit :=
  List.forall_mem_singleton

@[simp]
theorem within_u32 (offset : Nat) : Within limit mem (u32 offset) ↔ offset + 4 ≤ limit := by
  simp only [u32, within_bind, within_u8, within_pure, and_true]
  omega

@[simp]
theorem within_u64 (offset : Nat) : Within limit mem (u64 offset) ↔ offset + 8 ≤ limit := by
  simp only [u64, within_bind, within_u32, within_pure, and_true]
  omega

/-- The word that a memory holds at an offset. -/
def wordAt (mem : Memory) (offset : Nat) : BitVec 32 := (u32 offset).run mem

theorem run_u32 (offset : Nat) : (u32 offset).run mem = wordAt mem offset := rfl

/-- The memory with the words listed by their offsets, and zero elsewhere. -/
def wordMemory (words : List (Nat × BitVec 32)) : Memory := fun offset =>
  (((words.lookup (offset / 4 * 4)).getD 0) >>> (8 * (offset % 4))).setWidth 8

/-- A run of bytes. -/
def bytes : Nat → Nat → Reading (List (BitVec 8))
  | 0, _ => pure []
  | n + 1, offset => do
      let b ← u8 offset
      let rest ← bytes n (offset + 1)
      pure (b :: rest)

theorem within_bytes (n offset : Nat) :
    Within limit mem (bytes n offset) ↔ n = 0 ∨ offset + n ≤ limit := by
  induction n generalizing offset with
  | zero => simp [bytes]
  | succ n ih =>
      simp only [bytes, within_bind, within_u8, ih, within_pure, and_true]
      omega

end Reading

end NabuIris.Lib
