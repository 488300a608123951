import Mathlib.Data.List.Basic
import Mathlib.Tactic.Ring

/-!
# Byte regions and rings

A region is an object of known size whose bytes are reached through bounds-checked copies. A ring
is a region read and written clockwise, modulo its capacity. The lemmas at the end say that a copy
split at the end of the region is one clockwise copy of the ring.
-/

namespace NabuIris.Lib

/-- An object of `size` bytes. The cells past `size` are not part of it: no access below reaches
them. -/
structure Region (size : Nat) where
  byte : Nat → UInt8

namespace Region

def load (cells : Nat → UInt8) (off len : Nat) : List UInt8 :=
  (List.range len).map fun i => cells (off + i)

def store (cells : Nat → UInt8) (off : Nat) (bs : List UInt8) : Nat → UInt8 :=
  fun i => if off ≤ i ∧ i < off + bs.length then bs.getD (i - off) 0 else cells i

/-- `memcpy` between two objects; `none` when either side would be accessed out of bounds. -/
def memcpy {m n : Nat} (dst : Region m) (dstOff : Nat) (src : Region n) (srcOff len : Nat) :
    Option (Region m) :=
  if dstOff + len ≤ m ∧ srcOff + len ≤ n then
    some ⟨store dst.byte dstOff (load src.byte srcOff len)⟩
  else
    none

/-- The little-endian 32-bit word at `off`. -/
def wordAt (cells : Nat → UInt8) (off : Nat) : UInt32 :=
  UInt32.ofNat ((cells off).toNat + 256 * (cells (off + 1)).toNat
    + 65536 * (cells (off + 2)).toNat + 16777216 * (cells (off + 3)).toNat)

def word {n : Nat} (region : Region n) (off : Nat) : Option UInt32 :=
  if off + 4 ≤ n then some (wordAt region.byte off) else none

theorem memcpy_eq {m n : Nat} {dst : Region m} {dstOff : Nat} {src : Region n} {srcOff len : Nat}
    (hdst : dstOff + len ≤ m) (hsrc : srcOff + len ≤ n) :
    memcpy dst dstOff src srcOff len =
      some ⟨store dst.byte dstOff (load src.byte srcOff len)⟩ := by
  simp [memcpy, hdst, hsrc]

theorem word_eq {n : Nat} {region : Region n} {off : Nat} (hoff : off + 4 ≤ n) :
    word region off = some (wordAt region.byte off) := by
  simp [word, hoff]

@[simp]
theorem length_load (cells : Nat → UInt8) (off len : Nat) : (load cells off len).length = len := by
  simp [load]

theorem getD_load (cells : Nat → UInt8) (off : Nat) {len i : Nat} (hi : i < len) :
    (load cells off len).getD i 0 = cells (off + i) := by
  simp [load, hi]

theorem wordAt_congr {cells cells' : Nat → UInt8} {off off' : Nat}
    (hload : load cells off 4 = load cells' off' 4) : wordAt cells off = wordAt cells' off' := by
  have hbyte : ∀ i < 4, cells (off + i) = cells' (off' + i) := by
    intro i hi
    rw [← getD_load cells off hi, hload, getD_load cells' off' hi]
  have h0 := hbyte 0 (by omega)
  rw [wordAt, wordAt, ← Nat.add_zero off, ← Nat.add_zero off', h0]
  simp only [Nat.add_zero, hbyte 1 (by omega), hbyte 2 (by omega), hbyte 3 (by omega)]

theorem store_append (cells : Nat → UInt8) (off : Nat) (as bs : List UInt8) :
    store (store cells off as) (off + as.length) bs = store cells off (as ++ bs) := by
  funext i
  simp only [store, List.length_append, List.getD_eq_getElem?_getD]
  by_cases hlow : i < off
  · have h₁ : ¬ off + as.length ≤ i := by omega
    have h₂ : ¬ off ≤ i := by omega
    simp [h₁, h₂]
  by_cases has : i < off + as.length
  · have h₁ : ¬ off + as.length ≤ i := by omega
    have h₂ : i < off + (as.length + bs.length) := by omega
    have h₃ : off ≤ i := by omega
    have h₄ : i - off < as.length := by omega
    simp [h₁, h₂, h₃, has, List.getElem?_append_left h₄]
  · have h₁ : off + as.length ≤ i := by omega
    have h₂ : off ≤ i := by omega
    have h₃ : as.length ≤ i - off := by omega
    have hshift : i - (off + as.length) = i - off - as.length := by omega
    have hiff : i < off + as.length + bs.length ↔ i < off + (as.length + bs.length) := by omega
    simp [h₁, h₂, has, List.getElem?_append_right h₃, hshift, hiff]

theorem load_append (cells : Nat → UInt8) (off a b : Nat) :
    load cells off (a + b) = load cells off a ++ load cells (off + a) b := by
  simp [load, List.range_add, Nat.add_assoc]

end Region

/-! ### Rings -/

namespace Ring

open Region

/-- The `len` bytes met clockwise from `pos`. -/
def view (cells : Nat → UInt8) (cap pos len : Nat) : List UInt8 :=
  (List.range len).map fun i => cells ((pos + i) % cap)

def put (cells : Nat → UInt8) (cap pos : Nat) (bs : List UInt8) : Nat → UInt8 :=
  fun i => if i < cap ∧ (i + cap - pos) % cap < bs.length then
    bs.getD ((i + cap - pos) % cap) 0 else cells i

@[simp]
theorem length_view (cells : Nat → UInt8) (cap pos len : Nat) :
    (view cells cap pos len).length = len := by
  simp [view]

theorem view_add (cells : Nat → UInt8) (cap pos a b : Nat) :
    view cells cap pos (a + b) = view cells cap pos a ++ view cells cap (pos + a) b := by
  simp [view, List.range_add, Nat.add_assoc]

theorem view_mod (cells : Nat → UInt8) (cap pos len : Nat) :
    view cells cap (pos % cap) len = view cells cap pos len := by
  simp [view]

theorem view_prefix {cells : Nat → UInt8} {cap pos : Nat} {as bs : List UInt8}
    (hview : view cells cap pos (as.length + bs.length) = as ++ bs) :
    view cells cap pos as.length = as ∧ view cells cap (pos + as.length) bs.length = bs := by
  rw [view_add] at hview
  exact List.append_inj hview (by simp)

theorem distance_mod {cap pos k : Nat} (hpos : pos < cap) (hk : k < cap) :
    ((pos + k) % cap + cap - pos) % cap = k := by
  by_cases hwrap : pos + k < cap
  · rw [Nat.mod_eq_of_lt hwrap]
    have : pos + k + cap - pos = k + cap := by omega
    rw [this, Nat.add_mod_right, Nat.mod_eq_of_lt hk]
  · have hmod : (pos + k) % cap = pos + k - cap := by
      rw [Nat.mod_eq_sub_mod (by omega), Nat.mod_eq_of_lt (by omega)]
    have : pos + k - cap + cap - pos = k := by omega
    rw [hmod, this, Nat.mod_eq_of_lt hk]

theorem view_put_self {cells : Nat → UInt8} {cap pos : Nat} {bs : List UInt8} (hpos : pos < cap)
    (hlen : bs.length ≤ cap) : view (put cells cap pos bs) cap pos bs.length = bs := by
  refine List.ext_getElem (by simp) fun i h₁ h₂ => ?_
  have hdist := distance_mod hpos (show i < cap by omega)
  have hcell : (pos + i) % cap < cap := Nat.mod_lt _ (by omega)
  simp [view, put, hdist, hcell, h₂]

/-- Bytes that the put does not reach: the stretch of `len` bytes that ends where it starts. -/
theorem view_put_before {cells : Nat → UInt8} {cap pos len : Nat} {bs : List UInt8}
    (hpos : pos < cap) (hfit : len + bs.length ≤ cap) :
    view (put cells cap ((pos + len) % cap) bs) cap pos len = view cells cap pos len := by
  refine List.map_congr_left fun i hi => ?_
  rw [List.mem_range] at hi
  have hcap : 0 < cap := by omega
  have hdist : ((pos + i) % cap + cap - (pos + len) % cap) % cap = cap - len + i := by
    have hend : (pos + len) % cap < cap := Nat.mod_lt _ hcap
    have hmove : ((pos + len) % cap + (cap - len + i)) % cap = (pos + i) % cap := by
      rw [Nat.mod_add_mod]
      have : pos + len + (cap - len + i) = pos + i + cap := by omega
      rw [this, Nat.add_mod_right]
    rw [← hmove]
    exact distance_mod hend (by omega)
  have hfar : ¬ cap - len + i < bs.length := by omega
  simp [put, hdist, hfar]

theorem load_eq_view (cells : Nat → UInt8) {cap pos len : Nat} (hfit : pos + len ≤ cap) :
    load cells pos len = view cells cap pos len := by
  refine List.map_congr_left fun i hi => ?_
  rw [List.mem_range] at hi
  rw [Nat.mod_eq_of_lt (by omega)]

theorem load_split_eq_view (cells : Nat → UInt8) {cap pos len : Nat} (hpos : pos ≤ cap)
    (hwrap : cap ≤ pos + len) (hlen : len ≤ cap) :
    load cells pos (cap - pos) ++ load cells 0 (pos + len - cap) = view cells cap pos len := by
  have hsum : len = (cap - pos) + (pos + len - cap) := by omega
  conv_rhs => rw [hsum, view_add]
  have hend : pos + (cap - pos) = cap := by omega
  have hlow : load cells pos (cap - pos) = view cells cap pos (cap - pos) :=
    load_eq_view cells (by omega)
  have hhigh : load cells 0 (pos + len - cap) = view cells cap 0 (pos + len - cap) :=
    load_eq_view cells (by omega)
  rw [hlow, hhigh, hend, ← view_mod cells cap cap, Nat.mod_self]

theorem store_eq_put {cells : Nat → UInt8} {cap pos : Nat} {bs : List UInt8}
    (hfit : pos + bs.length ≤ cap) : store cells pos bs = put cells cap pos bs := by
  funext i
  by_cases hin : pos ≤ i ∧ i < pos + bs.length
  · have hdist : (i + cap - pos) % cap = i - pos := by
      have : i + cap - pos = i - pos + cap := by omega
      rw [this, Nat.add_mod_right, Nat.mod_eq_of_lt (by omega)]
    have hcell : i < cap := by omega
    have hoff : i - pos < bs.length := by omega
    simp [store, put, hin, hdist, hcell, hoff]
  · have hout : ¬ (i < cap ∧ (i + cap - pos) % cap < bs.length) := by
      rintro ⟨hcell, hdist⟩
      by_cases hlow : i < pos
      · rw [Nat.mod_eq_of_lt (by omega)] at hdist
        omega
      · have : i + cap - pos = i - pos + cap := by omega
        rw [this, Nat.add_mod_right, Nat.mod_eq_of_lt (by omega)] at hdist
        omega
    simp only [store, put, if_neg hin, if_neg hout]

theorem store_split_eq_put {cells : Nat → UInt8} {cap pos : Nat} {as bs : List UInt8}
    (hpos : pos + as.length = cap) (hfit : bs.length ≤ pos) :
    store (store cells pos as) 0 bs = put cells cap pos (as ++ bs) := by
  funext i
  by_cases hcell : i < cap
  · by_cases hlow : i < pos
    · have hdist : (i + cap - pos) % cap = as.length + i := by
        rw [Nat.mod_eq_of_lt (by omega)]
        omega
      have hnot : ¬ pos ≤ i := by omega
      by_cases hin : i < bs.length
      · simp [store, put, hcell, hdist, hin]
      · simp [store, put, hcell, hdist, hin, hnot]
    · have hdist : (i + cap - pos) % cap = i - pos := by
        have : i + cap - pos = i - pos + cap := by omega
        rw [this, Nat.add_mod_right, Nat.mod_eq_of_lt (by omega)]
      have h₁ : ¬ i < bs.length := by omega
      have h₂ : pos ≤ i ∧ i < pos + as.length := by omega
      have h₃ : i - pos < as.length := by omega
      have h₄ : i - pos < as.length + bs.length := by omega
      simp [store, put, hcell, hdist, h₁, h₂, h₃, h₄]
  · have h₁ : ¬ i < bs.length := by omega
    have h₂ : ¬ (pos ≤ i ∧ i < pos + as.length) := by omega
    simp only [store, put, hcell, false_and, if_false, Nat.zero_le, true_and, Nat.zero_add, h₁, h₂]

end Ring

end NabuIris.Lib
