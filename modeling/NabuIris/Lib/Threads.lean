import Mathlib.Algebra.BigOperators.Group.List.Basic
import Mathlib.Algebra.GroupWithZero.Nat
import NabuIris.Lib.Run

/-!
# Threads that share a state

A program is a sequence of atomic sections, each with its effect on the state and told the state it
found. Any number of threads run programs over one state, a section at a time, in any order. `Owns`
is the proof rule: a thread owns an element of a commutative monoid, the invariant speaks of what
all threads own together, and a section may turn what its own thread has into something else. `ok`
restricts the sections that a proof is about.
-/

namespace NabuIris.Lib

inductive Prog (σ κ α : Type) : Type
  | done (a : α)
  /-- what follows the section is told the state that it found -/
  | sect (k : κ) (next : σ → Prog σ κ α)

variable {σ κ ω α β M : Type}

namespace Prog

def bind : Prog σ κ α → (α → Prog σ κ β) → Prog σ κ β
  | done a, f => f a
  | sect k next, f => sect k fun s => (next s).bind f

instance : Monad (Prog σ κ) where
  pure := done
  bind := bind

/-- A section that looks at the state it finds. -/
def act (k : κ) (f : σ → α) : Prog σ κ α := sect k fun s => done (f s)

/-- One program after the other. -/
def each (f : β → Prog σ κ Unit) : List β → Prog σ κ Unit
  | [] => done ()
  | b :: bs => (f b).bind fun _ => each f bs

/-- A program over a part of the state. -/
def lift {τ : Type} (view : τ → σ) : Prog σ κ α → Prog τ κ α
  | done a => done a
  | sect k next => sect k fun t => (next (view t)).lift view

/-- The program run by itself. -/
def exec (effect : κ → σ → σ) : Prog σ κ α → σ → α × σ
  | done a, s => (a, s)
  | sect k next, s => (next s).exec effect (effect k s)

/-- All its sections are in `P`. -/
def All (P : κ → Prop) : Prog σ κ α → Prop
  | done _ => True
  | sect k next => P k ∧ ∀ s, (next s).All P

theorem exec_bind {effect : κ → σ → σ} (x : Prog σ κ α) (f : α → Prog σ κ β) (s : σ) :
    (x >>= f).exec effect s = (f (x.exec effect s).1).exec effect (x.exec effect s).2 := by
  induction x generalizing s with
  | done a => rfl
  | sect k next ih => exact ih s (effect k s)

theorem exec_each_cons {effect : κ → σ → σ} (f : β → Prog σ κ Unit) (b : β) (bs : List β) (s : σ) :
    (each f (b :: bs)).exec effect s = (each f bs).exec effect ((f b).exec effect s).2 :=
  exec_bind (f b) (fun _ => each f bs) s

theorem All.bind {P : κ → Prop} {x : Prog σ κ α} {f : α → Prog σ κ β} (hx : x.All P)
    (hf : ∀ a, (f a).All P) : (x >>= f).All P := by
  induction x with
  | done a => exact hf a
  | sect k next ih => exact ⟨hx.1, fun s => ih s (hx.2 s)⟩

theorem exec_lift {τ : Type} {view : τ → σ} {change : κ → σ → σ} {effect : κ → τ → τ}
    {P : κ → Prop} (hview : ∀ k t, P k → view (effect k t) = change k (view t)) {p : Prog σ κ α}
    (hall : p.All P) (t : τ) :
    ((p.lift view).exec effect t).1 = (p.exec change (view t)).1 ∧
      view ((p.lift view).exec effect t).2 = (p.exec change (view t)).2 := by
  induction p generalizing t with
  | done a => exact ⟨rfl, rfl⟩
  | sect k next ih =>
      have hnext := ih (view t) (hall.2 _) (effect k t)
      rw [hview k t hall.1] at hnext
      exact hnext

/-- The section that comes next. -/
def next? : Prog σ κ α → Option κ
  | done _ => none
  | sect k _ => some k

end Prog

/-- The threads and what they share. A thread that is done stays. -/
structure Pool (σ κ : Type) where
  state : σ
  threads : List (Prog σ κ Unit)

inductive PoolMove (ω : Type)
  | call (op : ω)
  | run (i : Nat)
deriving DecidableEq, Repr

namespace Pool

/-- A thread that is not there, or is done, does nothing. -/
def step (effect : κ → σ → σ) (body : ω → Prog σ κ Unit) (c : Pool σ κ) : PoolMove ω → Pool σ κ
  | .call op => { c with threads := c.threads ++ [body op] }
  | .run i =>
      match c.threads[i]? with
      | some (.sect k next) =>
          { state := effect k c.state, threads := c.threads.set i (next c.state) }
      | _ => c

def runs (effect : κ → σ → σ) (body : ω → Prog σ κ Unit) (s : σ) (moves : List (PoolMove ω)) :
    Pool σ κ :=
  moves.foldl (step effect body) { state := s, threads := [] }

/-- No call is in progress. -/
def AtRest (c : Pool σ κ) : Prop := ∀ p ∈ c.threads, p.next?.isNone

/-- The section that a move runs is one with `ok`. -/
def Allows (ok : κ → σ → Prop) (c : Pool σ κ) : PoolMove ω → Prop
  | .call _ => True
  | .run i => ∀ p ∈ c.threads[i]?, ∀ k ∈ p.next?, ok k c.state

instance (c : Pool σ κ) : Decidable c.AtRest :=
  inferInstanceAs (Decidable (∀ p ∈ c.threads, p.next?.isNone))

instance (ok : κ → σ → Prop) [∀ k s, Decidable (ok k s)] (c : Pool σ κ) (move : PoolMove ω) :
    Decidable (c.Allows ok move) :=
  match move with
  | .call _ => inferInstanceAs (Decidable True)
  | .run i => inferInstanceAs (Decidable (∀ p ∈ c.threads[i]?, ∀ k ∈ p.next?, ok k c.state))

end Pool

section Rules

variable [AddCommMonoid M] (effect : κ → σ → σ) (Inv : M → σ → Prop) (ok : κ → σ → Prop)

/-- The program keeps `Inv`, whatever the other threads own, and ends with what `Post` says. -/
def Owns (Post : α → M → Prop) : M → Prog σ κ α → Prop
  | m, .done a => Post a m
  | m, .sect k next => ∀ frame s, Inv (m + frame) s → ok k s →
      ∃ m', Inv (m' + frame) (effect k s) ∧ Owns Post m' (next s)

variable {effect Inv ok} {Post : α → M → Prop}

theorem Owns.bind {Post' : β → M → Prop} {m : M} {x : Prog σ κ α} {f : α → Prog σ κ β}
    (howns : Owns effect Inv ok Post m x)
    (hrest : ∀ a n, Post a n → Owns effect Inv ok Post' n (f a)) :
    Owns effect Inv ok Post' m (x >>= f) := by
  induction x generalizing m with
  | done a => exact hrest a m howns
  | sect k next ih =>
      intro frame s hinv hok
      obtain ⟨n, hinv', hnext⟩ := howns frame s hinv hok
      exact ⟨n, hinv', ih s hnext⟩

theorem Owns.mono {Post' : α → M → Prop} {m : M} {x : Prog σ κ α}
    (howns : Owns effect Inv ok Post m x) (hpost : ∀ a n, Post a n → Post' a n) :
    Owns effect Inv ok Post' m x := by
  induction x generalizing m with
  | done a => exact hpost a m howns
  | sect k next ih =>
      intro frame s hinv hok
      obtain ⟨n, hinv', hnext⟩ := howns frame s hinv hok
      exact ⟨n, hinv', ih s hnext⟩

/-- What a thread owns beside what a program needs. -/
theorem Owns.frame {m : M} {x : Prog σ κ α} (howns : Owns effect Inv ok Post m x) (extra : M) :
    Owns effect Inv ok (fun a n => ∃ n', n = n' + extra ∧ Post a n') (m + extra) x := by
  induction x generalizing m with
  | done a => exact ⟨m, rfl, howns⟩
  | sect k next ih =>
      intro frame s hinv hok
      rw [add_assoc] at hinv
      obtain ⟨n, hinv', hnext⟩ := howns (extra + frame) s hinv hok
      rw [← add_assoc] at hinv'
      exact ⟨n + extra, hinv', ih s hnext⟩

theorem Owns.act {m : M} {k : κ} {f : σ → α}
    (hact : ∀ frame s, Inv (m + frame) s → ok k s →
      ∃ n, Inv (n + frame) (effect k s) ∧ Post (f s) n) :
    Owns effect Inv ok Post m (.act k f) := hact

theorem Owns.each {m : M} {f : β → Prog σ κ Unit} {bs : List β}
    (hbody : ∀ b ∈ bs, Owns effect Inv ok (fun _ n => n = m) m (f b)) :
    Owns effect Inv ok (fun _ n => n = m) m (.each f bs) := by
  induction bs with
  | nil => exact rfl
  | cons b bs ih =>
      apply (hbody b List.mem_cons_self).bind
      rintro _ _ rfl
      exact ih fun b' hb' => hbody b' (List.mem_cons_of_mem _ hb')

/-- A thread that alone owns a part of the state does to it what its program does by itself. -/
theorem Owns.alone {τ : Type} {view : σ → τ} {change : κ → τ → τ} {own : τ → M} {P : κ → Prop}
    (hview : ∀ x frame s, Inv (own x + frame) s → view s = x)
    (hkeep : ∀ k x frame s, P k → Inv (own x + frame) s →
      Inv (own (change k x) + frame) (effect k s))
    {p : Prog τ κ α} (hall : p.All P) (x : τ) :
    Owns effect Inv ok (fun a m => a = (p.exec change x).1 ∧ m = own (p.exec change x).2) (own x)
      (p.lift view) := by
  induction p generalizing x with
  | done a => exact ⟨rfl, rfl⟩
  | sect k next ih =>
      intro frame s hinv _
      obtain rfl := hview x frame s hinv
      refine ⟨own (change k (view s)), hkeep k (view s) frame s hall.1 hinv, ?_⟩
      exact ih (view s) (hall.2 _) (change k (view s))

/-- Each thread owns something, and the invariant holds of it all. -/
def Pool.Owned (effect : κ → σ → σ) (Inv : M → σ → Prop) (ok : κ → σ → Prop) (c : Pool σ κ) :
    Prop :=
  ∃ owned : List M,
    List.Forall₂ (fun m p => Owns effect Inv ok (fun _ n => n = 0) m p) owned c.threads ∧
      Inv owned.sum c.state

theorem sum_set_add (owned : List M) {i : Nat} (hi : i < owned.length) :
    ∃ frame, owned.sum = owned[i] + frame ∧ ∀ m, (owned.set i m).sum = m + frame := by
  induction owned generalizing i with
  | nil => exact absurd hi (Nat.not_lt_zero i)
  | cons first rest ih =>
      cases i with
      | zero => exact ⟨rest.sum, List.sum_cons, fun m => List.sum_cons⟩
      | succ i =>
          have hi' : i < rest.length := Nat.lt_of_succ_lt_succ hi
          obtain ⟨frame, hsum, hset⟩ := ih hi'
          refine ⟨first + frame, ?_, fun m => ?_⟩
          · calc (first :: rest).sum = first + rest.sum := List.sum_cons
              _ = first + (rest[i] + frame) := by rw [hsum]
              _ = rest[i] + (first + frame) := add_left_comm _ _ _
          · calc ((first :: rest).set (i + 1) m).sum = first + (rest.set i m).sum := List.sum_cons
              _ = first + (m + frame) := by rw [hset]
              _ = m + (first + frame) := add_left_comm _ _ _

theorem Pool.Owned.step {body : ω → Prog σ κ Unit} {c : Pool σ κ} {move : PoolMove ω}
    (hbody : ∀ op, Owns effect Inv ok (fun _ n => n = 0) 0 (body op))
    (howned : c.Owned effect Inv ok) (hallows : c.Allows ok move) :
    (c.step effect body move).Owned effect Inv ok := by
  obtain ⟨owned, hthreads, hinv⟩ := howned
  cases move with
  | call op =>
      refine ⟨owned ++ [0], List.rel_append hthreads (.cons (hbody op) .nil), ?_⟩
      rw [List.sum_append, List.sum_singleton, add_zero]
      exact hinv
  | run i =>
      simp only [Pool.step]
      cases hi : c.threads[i]? with
      | none => exact ⟨owned, hthreads, hinv⟩
      | some p =>
          cases p with
          | done a => exact ⟨owned, hthreads, hinv⟩
          | sect k next =>
              have hlt : i < c.threads.length := (List.getElem?_eq_some_iff.1 hi).1
              have hget : c.threads[i] = .sect k next := (List.getElem?_eq_some_iff.1 hi).2
              have hlt' : i < owned.length := hthreads.length_eq ▸ hlt
              obtain ⟨frame, hsum, hset⟩ := sum_set_add owned hlt'
              have hown : Owns effect Inv ok (fun _ n => n = 0) owned[i] (.sect k next) :=
                hget ▸ hthreads.get hlt' hlt
              rw [hsum] at hinv
              obtain ⟨m, hinv', hnext⟩ := hown frame c.state hinv (hallows _ hi k rfl)
              refine ⟨owned.set i m, ?_, by rwa [hset]⟩
              rw [List.forall₂_iff_get]
              refine ⟨by simp [hthreads.length_eq], fun j hj hj' => ?_⟩
              simp only [List.get_eq_getElem, List.getElem_set]
              split
              · exact hnext
              · exact hthreads.get _ _

/-- **The rule for runs.** -/
theorem Pool.runs_owned {body : ω → Prog σ κ Unit}
    (hbody : ∀ op, Owns effect Inv ok (fun _ n => n = 0) 0 (body op)) {s : σ} (hinit : Inv 0 s)
    {moves : List (PoolMove ω)}
    (hmoves : ∀ pre move, pre ++ [move] <+: moves → (runs effect body s pre).Allows ok move) :
    (runs effect body s moves).Owned effect Inv ok :=
  @foldl_invariant _ _ (step effect body) (Allows ok) moves (Owned effect Inv ok)
    (fun _ _ _ howned hallows => howned.step hbody hallows) _ ⟨[], .nil, hinit⟩
    fun pre move hpre _ => hmoves pre move hpre

/-- When a section without `ok` takes the state out of `Good`, a run stays in `Good` exactly when
its sections all have `ok`. -/
theorem Pool.runs_good_iff {body : ω → Prog σ κ Unit} {Good : σ → Prop}
    (hbody : ∀ op, Owns effect Inv ok (fun _ n => n = 0) 0 (body op))
    (hgood : ∀ m s, Inv m s → Good s)
    (hbreak : ∀ m k s, Inv m s → Good (effect k s) → ok k s) {s : σ} (hinit : Inv 0 s)
    (moves : List (PoolMove ω)) :
    (∀ pre, pre <+: moves → Good (runs effect body s pre).state) ↔
      ∀ pre move, pre ++ [move] <+: moves → (runs effect body s pre).Allows ok move := by
  refine @weak_prefixes_iff _ _ (step effect body) (Allows ok) moves (Owned effect Inv ok)
    (fun c => Good c.state) ?_ (fun _ _ _ howned hallows => howned.step hbody hallows) ?_ _
    ⟨[], .nil, hinit⟩
  · rintro c ⟨owned, -, hinv⟩
    exact hgood _ _ hinv
  · rintro c move - ⟨owned, -, hinv⟩ hafter
    cases move with
    | call op => trivial
    | run i =>
        intro p hp k hk
        cases p with
        | done a => cases hk
        | sect k' next =>
            cases hk
            have hthread : c.threads[i]? = some (.sect k next) := hp
            simp only [step, hthread] at hafter
            exact hbreak _ _ _ hinv hafter

theorem Pool.Owned.atRest {c : Pool σ κ} (howned : c.Owned effect Inv ok) (hrest : c.AtRest) :
    Inv 0 c.state := by
  obtain ⟨owned, hthreads, hinv⟩ := howned
  suffices hnone : ∀ m ∈ owned, m = 0 by rwa [List.sum_eq_zero hnone] at hinv
  intro m hm
  obtain ⟨i, hi, rfl⟩ := List.getElem_of_mem hm
  have hi' : i < c.threads.length := hthreads.length_eq ▸ hi
  have hown := hthreads.get hi hi'
  have hdone := hrest _ (List.getElem_mem hi')
  simp only [List.get_eq_getElem] at hown
  cases hp : c.threads[i] with
  | done a => rwa [hp] at hown
  | sect k next => simp [hp, Prog.next?] at hdone

end Rules

/-! ### Where the threads are -/

section Tallies

variable (effect : κ → σ → σ) (weight : κ → Nat) (tally : σ → Nat)

/-- What the next section weighs; `rest` when there is none. -/
def Prog.weightOr (weight : κ → Nat) (rest : Nat) : Prog σ κ α → Nat
  | done _ => rest
  | sect k _ => weight k

theorem Prog.weightOr_bind {weight : κ → Nat} {rest mid : Nat} {f : α → Prog σ κ β}
    (hf : ∀ a, (f a).weightOr weight rest = mid) (x : Prog σ κ α) :
    (x >>= f).weightOr weight rest = x.weightOr weight mid := by
  cases x with
  | done a => exact hf a
  | sect k next => rfl

/-- Each section changes `tally` by as much as the weight of its thread. -/
def Tallies (rest : Nat) : Prog σ κ α → Prop
  | .done _ => True
  | .sect k next => ∀ s,
      (weight k ≤ tally s →
        tally (effect k s) + weight k = tally s + (next s).weightOr weight rest) ∧
      Tallies rest (next s)

variable {effect weight tally}

theorem Tallies.bind {rest mid : Nat} {x : Prog σ κ α} {f : α → Prog σ κ β}
    (hx : Tallies effect weight tally mid x)
    (hf : ∀ a, (f a).weightOr weight rest = mid ∧ Tallies effect weight tally rest (f a)) :
    Tallies effect weight tally rest (x >>= f) := by
  induction x with
  | done a => exact (hf a).2
  | sect k next ih =>
      intro s
      refine ⟨fun hle => ?_, ih s (hx s).2⟩
      rw [(hx s).1 hle, ← Prog.weightOr_bind (fun a => (hf a).1) (next s)]
      rfl

/-- A first section whose result says how much it changes the tally. -/
theorem Tallies.act_bind {rest : Nat} {k : κ} {g : σ → α} {f : α → Prog σ κ β}
    (hact : ∀ s, weight k ≤ tally s →
      tally (effect k s) + weight k = tally s + (f (g s)).weightOr weight rest)
    (hf : ∀ a, Tallies effect weight tally rest (f a)) :
    Tallies effect weight tally rest (.act k g >>= f) := fun s => ⟨hact s, hf (g s)⟩

/-- A program whose sections all have the weight of what follows it, and keep the tally. -/
theorem Tallies.lift {τ : Type} {view : σ → τ} {P : κ → Prop} {rest : Nat}
    (hweight : ∀ k, P k → weight k = rest) (htally : ∀ k s, P k → tally (effect k s) = tally s)
    {p : Prog τ κ α} (hall : p.All P) :
    (p.lift view).weightOr weight rest = rest ∧ Tallies effect weight tally rest (p.lift view) := by
  induction p with
  | done a => exact ⟨rfl, trivial⟩
  | sect k next ih =>
      refine ⟨hweight k hall.1, fun s => ⟨fun _ => ?_, (ih (view s) (hall.2 _)).2⟩⟩
      rw [htally k s hall.1, hweight k hall.1, (ih (view s) (hall.2 _)).1]

theorem Pool.runs_tally {body : ω → Prog σ κ Unit}
    (hbody : ∀ op, (body op).weightOr weight 0 = 0 ∧ Tallies effect weight tally 0 (body op))
    {s : σ} (hinit : tally s = 0) (moves : List (PoolMove ω)) :
    tally (runs effect body s moves).state =
      ((runs effect body s moves).threads.map (Prog.weightOr weight 0)).sum := by
  suffices hinv : tally (runs effect body s moves).state =
      ((runs effect body s moves).threads.map (Prog.weightOr weight 0)).sum ∧
      ∀ p ∈ (runs effect body s moves).threads, Tallies effect weight tally 0 p from hinv.1
  refine @foldl_invariant _ _ (step effect body) (fun _ _ => True) moves
    (fun c => tally c.state = (c.threads.map (Prog.weightOr weight 0)).sum ∧
      ∀ p ∈ c.threads, Tallies effect weight tally 0 p) ?_ _ ⟨hinit, nofun⟩ fun _ _ _ _ => trivial
  rintro c move - ⟨htally, hthreads⟩ -
  cases move with
  | call op =>
      refine ⟨?_, fun p hp => ?_⟩
      · simp only [step, List.map_append, List.sum_append, List.map_cons, List.map_nil,
          List.sum_singleton, (hbody op).1]
        exact htally
      · rcases List.mem_append.1 hp with hold | hnew
        · exact hthreads p hold
        · rw [List.mem_singleton.1 hnew]
          exact (hbody op).2
  | run i =>
      simp only [step]
      cases hi : c.threads[i]? with
      | none => exact ⟨htally, hthreads⟩
      | some p =>
          cases p with
          | done a => exact ⟨htally, hthreads⟩
          | sect k next =>
              have hlt : i < c.threads.length := (List.getElem?_eq_some_iff.1 hi).1
              have hget : c.threads[i] = .sect k next := (List.getElem?_eq_some_iff.1 hi).2
              have hmem : Prog.sect k next ∈ c.threads := hget ▸ List.getElem_mem hlt
              have hsect := (show ∀ s, _ from hthreads _ hmem) c.state
              have hlt' : i < (c.threads.map (Prog.weightOr weight 0)).length := by simpa using hlt
              obtain ⟨frame, hsum, hset⟩ := sum_set_add _ hlt'
              rw [List.getElem_map, hget, ← htally] at hsum
              have hle : weight k ≤ tally c.state := hsum ▸ Nat.le_add_right _ _
              refine ⟨?_, fun p hp => ?_⟩
              · show tally (effect k c.state) =
                  ((c.threads.set i (next c.state)).map (Prog.weightOr weight 0)).sum
                rw [List.map_set, hset]
                have hchange := hsect.1 hle
                simp only [Prog.weightOr] at hsum hchange ⊢
                omega
              · rcases List.mem_or_eq_of_mem_set hp with hold | rfl
                · exact hthreads p hold
                · exact hsect.2

/-- Threads that are done weigh nothing. -/
theorem Pool.AtRest.sum_weightOr {c : Pool σ κ} (hrest : c.AtRest) :
    (c.threads.map (Prog.weightOr weight 0)).sum = 0 := by
  refine List.sum_eq_zero fun n hn => ?_
  obtain ⟨p, hp, rfl⟩ := List.mem_map.1 hn
  have hdone := hrest p hp
  cases p with
  | done _ => rfl
  | sect k next => exact absurd hdone Bool.false_ne_true

end Tallies

end NabuIris.Lib
