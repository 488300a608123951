import Mathlib.Data.List.GetD
import Mathlib.Logic.Function.Basic
import NabuIris.Lib.Region
import NabuIris.Lib.Run

/-!
# Parts of one memory

Stores of words and what they leave alone, then values that lie in parts of one memory which do not
overlap. Calls on the parts, interleaved in any order, give each part the answers of its own calls,
as if it had a memory of its own.
-/

namespace NabuIris.Lib

namespace Region

variable {cells cells' : Nat → UInt8} {off other i : Nat} {bs : List UInt8}

/-- The bytes of a 32-bit word, the low one first. -/
def wordBytes (w : UInt32) : List UInt8 :=
  [.ofNat w.toNat, .ofNat (w.toNat / 256), .ofNat (w.toNat / 65536), .ofNat (w.toNat / 16777216)]

def halfAt (cells : Nat → UInt8) (off : Nat) : UInt16 :=
  UInt16.ofNat ((cells off).toNat + 256 * (cells (off + 1)).toNat)

def halfBytes (h : UInt16) : List UInt8 := [.ofNat h.toNat, .ofNat (h.toNat / 256)]

/-- `*(u32 *)(region + off) = w`; `none` when the word is not inside. -/
def setWord {n : Nat} (region : Region n) (off : Nat) (w : UInt32) : Option (Region n) :=
  if off + 4 ≤ n then some ⟨store region.byte off (wordBytes w)⟩ else none

theorem setWord_eq {n : Nat} {region : Region n} {w : UInt32} (hoff : off + 4 ≤ n) :
    setWord region off w = some ⟨store region.byte off (wordBytes w)⟩ := by
  simp [setWord, hoff]

@[simp]
theorem length_wordBytes (w : UInt32) : (wordBytes w).length = 4 := rfl

@[simp]
theorem length_halfBytes (h : UInt16) : (halfBytes h).length = 2 := rfl

theorem store_outside (hi : i < off ∨ off + bs.length ≤ i) : store cells off bs i = cells i := by
  rw [store, if_neg (by omega)]

theorem store_inside (hi : i < bs.length) : store cells off bs (off + i) = bs[i] := by
  rw [store, if_pos (by omega), Nat.add_sub_cancel_left, List.getD_eq_getElem _ _ hi]

theorem wordAt_congr_cells (hcells : ∀ i, off ≤ i → i < off + 4 → cells i = cells' i) :
    wordAt cells off = wordAt cells' off := by
  apply wordAt_congr
  refine List.map_congr_left fun i hi => hcells _ (Nat.le_add_right _ _) ?_
  rw [List.mem_range] at hi
  exact Nat.add_lt_add_left hi off

theorem halfAt_congr_cells (hcells : ∀ i, off ≤ i → i < off + 2 → cells i = cells' i) :
    halfAt cells off = halfAt cells' off := by
  rw [halfAt, halfAt, hcells off (by omega) (by omega), hcells (off + 1) (by omega) (by omega)]

theorem wordAt_store_outside (hother : other + 4 ≤ off ∨ off + bs.length ≤ other) :
    wordAt (store cells off bs) other = wordAt cells other :=
  wordAt_congr_cells fun _ _ _ => store_outside (by omega)

theorem halfAt_store_outside (hother : other + 2 ≤ off ∨ off + bs.length ≤ other) :
    halfAt (store cells off bs) other = halfAt cells other :=
  halfAt_congr_cells fun _ _ _ => store_outside (by omega)

@[simp]
theorem wordAt_store_wordBytes (cells : Nat → UInt8) (off : Nat) (w : UInt32) :
    wordAt (store cells off (wordBytes w)) off = w := by
  have hbyte : ∀ i (hi : i < 4), store cells off (wordBytes w) (off + i) = (wordBytes w)[i] :=
    fun i hi => store_inside hi
  have h0 := hbyte 0 (by omega)
  have h1 := hbyte 1 (by omega)
  have h2 := hbyte 2 (by omega)
  have h3 := hbyte 3 (by omega)
  have hw := w.toNat_lt
  simp only [wordBytes, List.getElem_cons_zero, List.getElem_cons_succ, Nat.add_zero] at h0 h1 h2 h3
  rw [wordAt, wordBytes, h0, h1, h2, h3, ← UInt32.toNat_inj]
  simp only [UInt8.toNat_ofNat', UInt32.toNat_ofNat']
  omega

@[simp]
theorem halfAt_store_halfBytes (cells : Nat → UInt8) (off : Nat) (h : UInt16) :
    halfAt (store cells off (halfBytes h)) off = h := by
  have hbyte : ∀ i (hi : i < 2), store cells off (halfBytes h) (off + i) = (halfBytes h)[i] :=
    fun i hi => store_inside hi
  have h0 := hbyte 0 (by omega)
  have h1 := hbyte 1 (by omega)
  have hh := h.toNat_lt
  simp only [halfBytes, List.getElem_cons_zero, List.getElem_cons_succ, Nat.add_zero] at h0 h1
  rw [halfAt, halfBytes, h0, h1, ← UInt16.toNat_inj]
  simp only [UInt8.toNat_ofNat', UInt16.toNat_ofNat']
  omega

end Region

/-! ### A family of machines, one call at a time -/

section Family

variable {ι σ τ α β : Type*} [DecidableEq ι] {abs : σ → α → β × σ} {Ok : σ → α → Prop}

/-- What belongs to `k` in an interleaved list. -/
def ofPart (k : ι) (tagged : List (ι × α)) : List α :=
  tagged.filterMap fun c => if c.1 = k then some c.2 else none

@[simp]
theorem ofPart_nil (k : ι) : ofPart k ([] : List (ι × α)) = [] := rfl

theorem ofPart_cons_self (k : ι) (a : α) (tagged : List (ι × α)) :
    ofPart k ((k, a) :: tagged) = a :: ofPart k tagged := by
  simp [ofPart]

theorem ofPart_cons_of_ne {j k : ι} (hne : j ≠ k) (a : α) (tagged : List (ι × α)) :
    ofPart k ((j, a) :: tagged) = ofPart k tagged := by
  simp [ofPart, hne]

/-- Each call goes to the machine that its tag names, and the answer carries the tag. -/
def family (abs : σ → α → β × σ) (s : ι → σ) (call : ι × α) : (ι × β) × (ι → σ) :=
  ((call.1, (abs (s call.1) call.2).1),
    Function.update s call.1 (abs (s call.1) call.2).2)

/-- **Interleaving does not show.** Whatever the order of the calls, each machine goes through its
own calls and gives its own answers. -/
theorem runOps_family (s : ι → σ) (calls : List (ι × α)) (k : ι) :
    ofPart k (runOps (family abs) s calls).1 = (runOps abs (s k) (ofPart k calls)).1 ∧
      (runOps (family abs) s calls).2 k = (runOps abs (s k) (ofPart k calls)).2 := by
  induction calls generalizing s with
  | nil => exact ⟨rfl, rfl⟩
  | cons call rest ih =>
      obtain ⟨j, a⟩ := call
      have hrest := ih (Function.update s j (abs (s j) a).2)
      by_cases hjk : j = k
      · subst hjk
        rw [Function.update_self] at hrest
        rw [ofPart_cons_self, runOps, runOps]
        refine ⟨?_, hrest.2⟩
        change ofPart j ((j, _) :: _) = _ :: _
        rw [ofPart_cons_self]
        exact congrArg _ hrest.1
      · rw [Function.update_of_ne (Ne.symm hjk)] at hrest
        rw [ofPart_cons_of_ne hjk, runOps]
        refine ⟨?_, hrest.2⟩
        change ofPart k ((j, _) :: _) = _
        rw [ofPart_cons_of_ne hjk]
        exact hrest.1

theorem throughout_family {s : ι → σ} {calls : List (ι × α)}
    (hok : ∀ k, Throughout abs Ok (s k) (ofPart k calls)) :
    Throughout (family abs) (fun s call => Ok (s call.1) call.2) s calls := by
  induction calls generalizing s with
  | nil => trivial
  | cons call rest ih =>
      obtain ⟨j, a⟩ := call
      have hj := hok j
      rw [ofPart_cons_self] at hj
      refine ⟨hj.1, ih fun k => ?_⟩
      by_cases hjk : j = k
      · subst hjk
        change Throughout abs Ok (Function.update s j _ j) _
        rw [Function.update_self]
        exact hj.2
      · have hk := hok k
        rw [ofPart_cons_of_ne hjk] at hk
        change Throughout abs Ok (Function.update s j _ k) _
        rw [Function.update_of_ne (Ne.symm hjk)]
        exact hk

end Family

/-! ### Parts that do not overlap -/

section Parts

variable {ι κ σ γ : Type*} [DecidableEq ι]

/-- Values of type `κ` in the parts of a memory with cells of type `γ`. -/
structure Parts (ι κ γ : Type*) where
  covers : ι → Nat → Prop
  read : ι → (Nat → γ) → κ
  read_congr : ∀ k (m m' : Nat → γ), (∀ i, covers k i → m i = m' i) → read k m = read k m'
  apart : ∀ j k i, covers j i → covers k i → j = k

/-- The parts hold what the abstract states stand for, and all other cells are those of `m₀`. -/
structure Parts.Holds (parts : Parts ι κ γ) (R : ι → σ → κ → Prop) (m₀ : Nat → γ) (s : ι → σ)
    (m : Nat → γ) : Prop where
  each : ∀ k, R k (s k) (parts.read k m)
  outside : ∀ i, (∀ k, ¬parts.covers k i) → m i = m₀ i

/-- **One part at a time.** A call that works inside its part keeps what all parts hold. -/
theorem Parts.Holds.update {parts : Parts ι κ γ} {R : ι → σ → κ → Prop} {m₀ m m' : Nat → γ}
    {s : ι → σ} {k : ι} {t : σ} (hholds : parts.Holds R m₀ s m) (hpart : R k t (parts.read k m'))
    (hframe : ∀ i, ¬parts.covers k i → m' i = m i) :
    parts.Holds R m₀ (Function.update s k t) m' where
  each := by
    intro j
    by_cases hjk : j = k
    · subst hjk
      rw [Function.update_self]
      exact hpart
    · have hsame : parts.read j m' = parts.read j m :=
        parts.read_congr j m' m fun i hj => hframe i fun hk => hjk (parts.apart j k i hj hk)
      rw [Function.update_of_ne hjk, hsame]
      exact hholds.each j
  outside := by
    intro i hi
    rw [hframe i (hi k), hholds.outside i hi]

end Parts

end NabuIris.Lib
