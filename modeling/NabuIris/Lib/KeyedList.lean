import Mathlib.Data.List.Nodup
import Mathlib.Tactic.Common

/-!
# Lists whose entries have distinct keys

What a lookup by key finds in such a list is the entry with that key, and removing it takes exactly
that entry out.
-/

namespace NabuIris.Lib

structure KeyedList {α κ : Type} (key : α → κ) where
  items : List α
  distinct : (items.map key).Nodup

namespace KeyedList

variable {α κ : Type} {key : α → κ} {list : KeyedList key} {a b : α}

def empty : KeyedList key := { items := [], distinct := List.nodup_nil }

/-- The entry goes to the end. -/
def append (list : KeyedList key) (a : α) (hfresh : key a ∉ list.items.map key) :
    KeyedList key where
  items := list.items ++ [a]
  distinct := by
    rw [List.map_append, List.nodup_append]
    refine ⟨list.distinct, List.nodup_singleton _, ?_⟩
    intro k hk l hl heq
    obtain rfl := List.mem_singleton.1 hl
    exact hfresh (heq ▸ hk)

theorem mem_append {hfresh : key a ∉ list.items.map key} :
    b ∈ (list.append a hfresh).items ↔ b ∈ list.items ∨ b = a := by
  simp [append]

theorem eq_of_key_eq (ha : a ∈ list.items) (hb : b ∈ list.items) (hkey : key a = key b) : a = b :=
  List.inj_on_of_nodup_map list.distinct ha hb hkey

variable [DecidableEq κ]

def find (list : KeyedList key) (k : κ) : Option α := list.items.find? fun a => key a = k

def remove (list : KeyedList key) (k : κ) : KeyedList key where
  items := list.items.eraseP fun a => key a = k
  distinct := list.distinct.sublist (List.eraseP_sublist.map key)

theorem find_of_mem (ha : a ∈ list.items) : list.find (key a) = some a := by
  have hsome : (list.find (key a)).isSome := by
    rw [find, List.find?_isSome]
    exact ⟨a, ha, decide_eq_true rfl⟩
  obtain ⟨b, hb⟩ := Option.isSome_iff_exists.1 hsome
  have hkey : key b = key a := by simpa using List.find?_some hb
  rw [hb, eq_of_key_eq (List.mem_of_find?_eq_some hb) ha hkey]

/-- Exactly the entry with the key is taken out. -/
theorem remove_split (ha : a ∈ list.items) :
    ∃ before after, list.items = before ++ a :: after ∧
      (list.remove (key a)).items = before ++ after := by
  obtain ⟨b, before, after, -, hkey, hitems, hremove⟩ :=
    List.exists_of_eraseP (p := fun b => key b = key a) ha (decide_eq_true rfl)
  have hb : b ∈ list.items := by
    rw [hitems]
    exact List.mem_append_right _ List.mem_cons_self
  obtain rfl : b = a := eq_of_key_eq hb ha (of_decide_eq_true hkey)
  exact ⟨before, after, hitems, hremove⟩

theorem mem_remove {k : κ} (hb : b ∈ (list.remove k).items) : b ∈ list.items :=
  List.mem_of_mem_eraseP hb

theorem find_remove (ha : a ∈ list.items) : (list.remove (key a)).find (key a) = none := by
  obtain ⟨before, after, hitems, hremove⟩ := remove_split ha
  have hdistinct := list.distinct
  rw [hitems, List.map_append, List.map_cons, List.nodup_middle] at hdistinct
  have hnot : key a ∉ (before ++ after).map key := by
    rw [List.map_append]
    exact (List.nodup_cons.1 hdistinct).1
  rw [find, hremove, List.find?_eq_none]
  intro b hb hkey
  exact hnot (List.mem_map.2 ⟨b, hb, of_decide_eq_true hkey⟩)

end KeyedList

end NabuIris.Lib
