import NabuIris.Lib.Run

/-!
# Programs in atomic sections

A program holds a lock except while it waits, and a wait can end well or run out. Between two
sections anything may happen that `handle` allows. `Sat` is the proof rule: every wait is entered
in a state that others keep, and the program goes on from any such state.
-/

namespace NabuIris.Lib

inductive Sections (σ κ α : Type) : Type
  | done (a : α) (s : σ)
  /-- waits at `k`; what follows is told whether the wait ran out, and the state it finds -/
  | wait (k : κ) (s : σ) (next : Bool → σ → Sections σ κ α)

variable {σ τ κ ε ω α β : Type}

namespace Sections

def bind : Sections σ κ α → (α → σ → Sections σ κ β) → Sections σ κ β
  | done a s, f => f a s
  | wait k s next, f => wait k s fun timedOut s => (next timedOut s).bind f

/-- The program on a part of a larger state. -/
def zoom (get : τ → σ) (put : τ → σ → τ) : Sections σ κ α → τ → Sections τ κ α
  | done a s, t => done a (put t s)
  | wait k s next, t => wait k (put t s) fun timedOut t => (next timedOut (get t)).zoom get put t

/-- A run to the end: what others do at each wait, and whether it runs out. -/
def run (others : κ → σ → σ) (timedOut : κ → Bool) : Sections σ κ α → α × σ
  | done a s => (a, s)
  | wait k s next => (next (timedOut k) (others k s)).run others timedOut

@[simp]
theorem run_done (others : κ → σ → σ) (timedOut : κ → Bool) (a : α) (s : σ) :
    (done a s : Sections σ κ α).run others timedOut = (a, s) := rfl

@[simp]
theorem run_bind (others : κ → σ → σ) (timedOut : κ → Bool) (x : Sections σ κ α)
    (f : α → σ → Sections σ κ β) :
    (x.bind f).run others timedOut =
      (f (x.run others timedOut).1 (x.run others timedOut).2).run others timedOut := by
  induction x with
  | done _ _ => rfl
  | wait k s next ih => exact ih (timedOut k) (others k s)

/-- The sections keep `Q` if the others do, and every wait is entered with `P`. -/
def Enters (P : κ → σ → Prop) (Q : σ → Prop) : Sections σ κ α → Prop
  | done _ s => Q s
  | wait k s next => P k s ∧ Q s ∧ ∀ timedOut t, Q t → (next timedOut t).Enters P Q

theorem Enters.bind {P : κ → σ → Prop} {Q : σ → Prop} {x : Sections σ κ α}
    {f : α → σ → Sections σ κ β} (henters : x.Enters P Q)
    (hrest : ∀ a s, Q s → (f a s).Enters P Q) : (x.bind f).Enters P Q := by
  induction x with
  | done a s => exact hrest a s henters
  | wait k s next ih =>
      obtain ⟨hwait, hs, hnext⟩ := henters
      exact ⟨hwait, hs, fun timedOut t ht => ih timedOut t (hnext timedOut t ht)⟩

/-- Every section of the program is related to the state that it starts in, `a` for the first. -/
def Frames (R : σ → σ → Prop) (a : σ) : Sections σ κ α → Prop
  | done _ s => R a s
  | wait _ s next => R a s ∧ ∀ timedOut t, (next timedOut t).Frames R t

theorem Frames.bind {R : σ → σ → Prop} {a : σ} {x : Sections σ κ α} {f : α → σ → Sections σ κ β}
    (hframes : x.Frames R a) (hrest : ∀ b s value, R b s → (f value s).Frames R b) :
    (x.bind f).Frames R a := by
  induction x generalizing a with
  | done value s => exact hrest a s value hframes
  | wait k s next ih => exact ⟨hframes.1, fun timedOut t => ih timedOut t (hframes.2 timedOut t)⟩

theorem Frames.zoom {R : τ → τ → Prop} {get : τ → σ} {put : τ → σ → τ}
    (hput : ∀ a t s, R a t → R a (put t s)) (hrefl : ∀ t, R t t) (x : Sections σ κ α) {a t : τ}
    (ht : R a t) : (x.zoom get put t).Frames R a := by
  induction x generalizing a t with
  | done value s => exact hput a t s ht
  | wait k s next ih =>
      exact ⟨hput a t s ht, fun timedOut u => ih timedOut (get u) (hrefl u)⟩

/-- What every section passes on, the program keeps. -/
theorem Frames.enters {R : σ → σ → Prop} {Q : σ → Prop} (hkeep : ∀ a s, R a s → Q a → Q s)
    {x : Sections σ κ α} {a : σ} (hframes : x.Frames R a) (ha : Q a) :
    x.Enters (fun _ _ => True) Q := by
  induction x generalizing a with
  | done value s => exact hkeep a s hframes ha
  | wait k s next ih =>
      exact ⟨trivial, hkeep a s hframes.1 ha,
        fun timedOut t ht => ih timedOut t (hframes.2 timedOut t) ht⟩

end Sections

/-- What the threads share: the events, the effect of the end of a wait (`none` while it cannot
end so), and the program of each call. -/
structure Machine (σ κ ε ω α : Type) where
  handle : ε → σ → σ
  resume : κ → Bool → σ → Option σ
  body : ω → σ → Sections σ κ α

structure Config (σ κ α : Type) where
  state : σ
  /-- the call in progress: where it waits, and how it goes on -/
  thread : Option (κ × (Bool → σ → Sections σ κ α))

inductive Move (ε ω : Type)
  | event (e : ε)
  | call (op : ω)
  | resume (timedOut : Bool)

def Sections.enter : Sections σ κ α → Config σ κ α
  | done _ s => { state := s, thread := none }
  | wait k s next => { state := s, thread := some (k, next) }

namespace Machine

variable (m : Machine σ κ ε ω α)

/-- One call at a time: another one, or the end of a wait that is not there, is no move. -/
def step (c : Config σ κ α) : Move ε ω → Config σ κ α
  | .event e => { c with state := m.handle e c.state }
  | .call op =>
      match c.thread with
      | none => (m.body op c.state).enter
      | some _ => c
  | .resume timedOut =>
      match c.thread with
      | none => c
      | some (k, next) =>
          match m.resume k timedOut c.state with
          | none => c
          | some s => (next timedOut s).enter

def runs (s : σ) (moves : List (Move ε ω)) : Config σ κ α :=
  moves.foldl m.step { state := s, thread := none }

/-- A step, with the call that was entered last. -/
def stepCall (x : Config σ κ α × Option ω) (move : Move ε ω) : Config σ κ α × Option ω :=
  (m.step x.1 move,
    match move, x.1.thread with
    | .call op, none => some op
    | _, _ => x.2)

def runsCall (s : σ) (moves : List (Move ε ω)) : Config σ κ α × Option ω :=
  moves.foldl m.stepCall ({ state := s, thread := none }, none)

/-- The call in progress, with where it waits. -/
def waiting (s : σ) (moves : List (Move ε ω)) : Option (ω × κ) :=
  let (c, last) := m.runsCall s moves
  last.bind fun op => c.thread.map fun waiting => (op, waiting.1)

theorem runsCall_fst (s : σ) (moves : List (Move ε ω)) :
    (m.runsCall s moves).1 = m.runs s moves := by
  have hstep : ∀ x move, m.step x.1 move = (m.stepCall x move).1 := fun _ _ => rfl
  rw [runs, runsCall, ← List.foldl_hom Prod.fst hstep]

theorem runs_snoc (s : σ) (moves : List (Move ε ω)) (move : Move ε ω) :
    m.runs s (moves ++ [move]) = m.step (m.runs s moves) move := by
  rw [runs, List.foldl_append]
  rfl

end Machine

/-- The moves that a proof is about. -/
structure Allowed (σ κ ε ω : Type) where
  event : ε → σ → Prop
  call : ω → σ → Prop
  resume : κ → Bool → σ → Prop

section Rules

variable (m : Machine σ κ ε ω α) (allowed : Allowed σ κ ε ω)

/-- The allowed events keep `J`. -/
def Stable (J : σ → Prop) : Prop := ∀ e s, allowed.event e s → J s → J (m.handle e s)

/-- The sections of a program: `Inv` holds at every wait, `Post` at the end. -/
def Sat (Inv : κ → σ → Prop) (Post : β → σ → Prop) : Sections σ κ β → Prop
  | .done b s => Post b s
  | .wait k s next => ∃ J : σ → Prop,
      Stable m allowed J ∧ J s ∧ (∀ t, J t → Inv k t) ∧
        ∀ timedOut t u, J t → allowed.resume k timedOut t → m.resume k timedOut t = some u →
          Sat Inv Post (next timedOut u)

variable {m allowed} {Inv : κ → σ → Prop}

theorem Sat.mono {Post Post' : β → σ → Prop} {x : Sections σ κ β}
    (hsat : Sat m allowed Inv Post x) (hpost : ∀ b s, Post b s → Post' b s) :
    Sat m allowed Inv Post' x := by
  induction x with
  | done b s => exact hpost b s hsat
  | wait k s next ih =>
      obtain ⟨J, hstable, hs, hinv, hnext⟩ := hsat
      exact ⟨J, hstable, hs, hinv, fun timedOut t u ht hok hu =>
        ih timedOut u (hnext timedOut t u ht hok hu)⟩

theorem Sat.bind {Mid : β → σ → Prop} {Post : α → σ → Prop} {x : Sections σ κ β}
    {f : β → σ → Sections σ κ α} (hsat : Sat m allowed Inv Mid x)
    (hrest : ∀ b s, Mid b s → Sat m allowed Inv Post (f b s)) :
    Sat m allowed Inv Post (x.bind f) := by
  induction x with
  | done b s => exact hrest b s hsat
  | wait k s next ih =>
      obtain ⟨J, hstable, hs, hinv, hnext⟩ := hsat
      exact ⟨J, hstable, hs, hinv, fun timedOut t u ht hok hu =>
        ih timedOut u (hnext timedOut t u ht hok hu)⟩

/-- What holds of a configuration: `Idle` between calls, and in a call what its program needs. -/
def Config.Valid (m : Machine σ κ ε ω α) (allowed : Allowed σ κ ε ω) (Inv : κ → σ → Prop)
    (Idle : σ → Prop) (c : Config σ κ α) : Prop :=
  match c.thread with
  | none => Idle c.state
  | some (k, next) => Sat m allowed Inv (fun _ => Idle) (.wait k c.state next)

variable {Idle : σ → Prop}

/-- What is seen of a configuration: where the call in progress waits, and the state. -/
theorem Config.Valid.elim {R : Option κ → σ → Prop} {c : Config σ κ α}
    (hvalid : c.Valid m allowed Inv Idle) (hidle : ∀ s, Idle s → R none s)
    (hwait : ∀ k s, Inv k s → R (some k) s) : R (c.thread.map (·.1)) c.state := by
  obtain ⟨s, thread⟩ := c
  cases thread with
  | none => exact hidle s hvalid
  | some waiting =>
      obtain ⟨J, -, hs, hinv, -⟩ := hvalid
      exact hwait waiting.1 s (hinv s hs)

theorem Config.Valid.holds {K : σ → Prop} {c : Config σ κ α}
    (hvalid : c.Valid m allowed (fun _ => K) K) : K c.state :=
  hvalid.elim (R := fun _ => K) (fun _ hs => hs) fun _ _ hs => hs

def Allowed.move (allowed : Allowed σ κ ε ω) (c : Config σ κ α) : Move ε ω → Prop
  | .event e => allowed.event e c.state
  | .call op => c.thread = none → allowed.call op c.state
  | .resume timedOut => ∀ k next, c.thread = some (k, next) → allowed.resume k timedOut c.state

/-- The same, where the invariant of the waits depends on the call in progress. -/
def Config.Within (m : Machine σ κ ε ω α) (allowed : Allowed σ κ ε ω) (Inv : ω → κ → σ → Prop)
    (Idle : σ → Prop) (x : Config σ κ α × Option ω) : Prop :=
  match x.1.thread with
  | none => Idle x.1.state
  | some (k, next) =>
      ∃ op, x.2 = some op ∧ Sat m allowed (Inv op) (fun _ => Idle) (.wait k x.1.state next)

variable {InvOf : ω → κ → σ → Prop}

theorem Sat.within {op : ω} {x : Sections σ κ α}
    (hsat : Sat m allowed (InvOf op) (fun _ => Idle) x) :
    Config.Within m allowed InvOf Idle (x.enter, some op) := by
  cases x with
  | done a s => exact hsat
  | wait k s next => exact ⟨op, rfl, hsat⟩

theorem Config.Within.valid {x : Config σ κ α × Option ω}
    (hwithin : Config.Within m allowed (fun _ => Inv) Idle x) : x.1.Valid m allowed Inv Idle := by
  obtain ⟨⟨s, thread⟩, last⟩ := x
  cases thread with
  | none => exact hwithin
  | some waiting =>
      obtain ⟨op, -, hsat⟩ := hwithin
      exact hsat

theorem Config.Within.step {x : Config σ κ α × Option ω} {move : Move ε ω}
    (hidle : Stable m allowed Idle)
    (hbody : ∀ op s, allowed.call op s → Idle s →
      Sat m allowed (InvOf op) (fun _ => Idle) (m.body op s))
    (hwithin : Config.Within m allowed InvOf Idle x) (hallowed : allowed.move x.1 move) :
    Config.Within m allowed InvOf Idle (m.stepCall x move) := by
  obtain ⟨⟨s, thread⟩, last⟩ := x
  cases thread with
  | none =>
      cases move with
      | event e => exact hidle e s hallowed hwithin
      | call op => exact (hbody op s (hallowed rfl) hwithin).within
      | resume timedOut => exact hwithin
  | some waiting =>
      obtain ⟨k, next⟩ := waiting
      obtain ⟨op, rfl, J, hstable, hs, hinv, hnext⟩ := hwithin
      cases move with
      | event e => exact ⟨op, rfl, J, hstable, hstable e s hallowed hs, hinv, hnext⟩
      | call _ => exact ⟨op, rfl, J, hstable, hs, hinv, hnext⟩
      | resume timedOut =>
          have hresume := hallowed k next rfl
          simp only [Machine.stepCall, Machine.step]
          cases hu : m.resume k timedOut s with
          | none => exact ⟨op, rfl, J, hstable, hs, hinv, hnext⟩
          | some u => exact (hnext timedOut s u hs hresume hu).within

theorem Machine.runs_within (hidle : Stable m allowed Idle)
    (hbody : ∀ op s, allowed.call op s → Idle s →
      Sat m allowed (InvOf op) (fun _ => Idle) (m.body op s))
    {s : σ} (hinit : Idle s) {moves : List (Move ε ω)}
    (hmoves : ∀ pre move, pre ++ [move] <+: moves → allowed.move (m.runs s pre) move) :
    Config.Within m allowed InvOf Idle (m.runsCall s moves) :=
  @foldl_invariant _ _ m.stepCall (fun x => allowed.move x.1) moves
    (Config.Within m allowed InvOf Idle)
    (fun _ _ _ hwithin hok => hwithin.step hidle hbody hok) _ hinit
    fun pre move hpre _ => m.runsCall_fst s pre ▸ hmoves pre move hpre

/-- **The rule for runs.** -/
theorem Machine.runs_valid (hidle : Stable m allowed Idle)
    (hbody : ∀ op s, allowed.call op s → Idle s →
      Sat m allowed Inv (fun _ => Idle) (m.body op s))
    {s : σ} (hinit : Idle s) {moves : List (Move ε ω)}
    (hmoves : ∀ pre move, pre ++ [move] <+: moves → allowed.move (m.runs s pre) move) :
    (m.runs s moves).Valid m allowed Inv Idle := by
  have hwithin : Config.Within m allowed (fun _ => Inv) Idle (m.runsCall s moves) :=
    Machine.runs_within hidle hbody hinit hmoves
  rw [← m.runsCall_fst]
  exact hwithin.valid

/-- What is seen of a run: the call in progress with where it waits, and the state. -/
theorem Machine.runs_elim {R : Option (ω × κ) → σ → Prop} {s : σ} {moves : List (Move ε ω)}
    (hwithin : Config.Within m allowed InvOf Idle (m.runsCall s moves))
    (hidle : ∀ s, Idle s → R none s) (hwait : ∀ op k s, InvOf op k s → R (some (op, k)) s) :
    R (m.waiting s moves) (m.runs s moves).state := by
  rw [← m.runsCall_fst, Machine.waiting]
  generalize m.runsCall s moves = x at hwithin
  obtain ⟨⟨s, thread⟩, last⟩ := x
  cases thread with
  | none =>
      cases last with
      | none => exact hidle s hwithin
      | some op => exact hidle s hwithin
  | some waiting =>
      obtain ⟨op, rfl, J, -, hs, hinv, -⟩ := hwithin
      exact hwait op waiting.1 s (hinv s hs)

/-- Between two sections: `Q`, and every wait to come is entered with `P`. -/
def Config.Entered (P : κ → σ → Prop) (Q : σ → Prop) (c : Config σ κ α) : Prop :=
  Q c.state ∧ ∀ k next, c.thread = some (k, next) →
    ∀ timedOut t, Q t → (next timedOut t).Enters P Q

variable {P : κ → σ → Prop} {Q : σ → Prop}

theorem Sections.Enters.entered {x : Sections σ κ α} (henters : x.Enters P Q) :
    x.enter.Entered P Q := by
  cases x with
  | done a s => exact ⟨henters, nofun⟩
  | wait k s next =>
      refine ⟨henters.2.1, fun _ _ hthread => ?_⟩
      cases hthread
      exact henters.2.2

theorem Config.Entered.step {c : Config σ κ α} (hentered : c.Entered P Q)
    (hevent : ∀ e s, Q s → Q (m.handle e s))
    (hresume : ∀ k timedOut s t, m.resume k timedOut s = some t → Q s → Q t)
    (hbody : ∀ op s, Q s → (m.body op s).enter.Entered P Q) (move : Move ε ω) :
    (m.step c move).Entered P Q := by
  obtain ⟨s, thread⟩ := c
  cases move with
  | event e => exact ⟨hevent e s hentered.1, hentered.2⟩
  | call op =>
      cases thread with
      | none => exact hbody op s hentered.1
      | some _ => exact hentered
  | resume timedOut =>
      cases thread with
      | none => exact hentered
      | some waiting =>
          simp only [Machine.step]
          cases hu : m.resume waiting.1 timedOut s with
          | none => exact hentered
          | some u => exact (hentered.2 _ _ rfl timedOut u
              (hresume _ _ _ _ hu hentered.1)).entered

end Rules

/-! ### What is seen of the events of a run -/

section Observation

variable (m : Machine σ κ ε ω α)

/-- What is seen of each event, in the state that it meets. -/
def Machine.seen (see : ε → σ → β) : Config σ κ α → List (Move ε ω) → List β
  | _, [] => []
  | c, .event e :: moves => see e c.state :: Machine.seen see (m.step c (.event e)) moves
  | c, .call op :: moves => Machine.seen see (m.step c (.call op)) moves
  | c, .resume timedOut :: moves => Machine.seen see (m.step c (.resume timedOut)) moves

/-- The rest of the call in progress keeps `R` in each of its sections. -/
def Config.Framed (R : σ → σ → Prop) (c : Config σ κ α) : Prop :=
  ∀ k next, c.thread = some (k, next) → ∀ timedOut t, (next timedOut t).Frames R t

variable {m} {R : σ → σ → Prop}

theorem Sections.Frames.framed {x : Sections σ κ α} {a : σ} (hframes : x.Frames R a) :
    R a x.enter.state ∧ x.enter.Framed R := by
  cases x with
  | done value s => exact ⟨hframes, nofun⟩
  | wait k s next =>
      refine ⟨hframes.1, fun _ _ hthread => ?_⟩
      cases hthread
      exact hframes.2

/-- **The rule for a value that only events change.** It is folded over what is seen of them. -/
theorem Machine.runs_seen {γ : Type} {get : σ → γ} {see : ε → σ → β} {update : γ → β → γ}
    (hkeep : ∀ a s, R a s → get s = get a)
    (hevent : ∀ e s, get (m.handle e s) = update (get s) (see e s))
    (hresume : ∀ k timedOut s t, m.resume k timedOut s = some t → R s t)
    (hbody : ∀ op s, (m.body op s).Frames R s) {c : Config σ κ α} (hframed : c.Framed R)
    (moves : List (Move ε ω)) :
    get (moves.foldl m.step c).state = (m.seen see c moves).foldl update (get c.state) := by
  induction moves generalizing c with
  | nil => rfl
  | cons move rest ih =>
      obtain ⟨s, thread⟩ := c
      cases move with
      | event e =>
          rw [List.foldl_cons, seen, List.foldl_cons, ← hevent e s]
          exact ih hframed
      | call op =>
          rw [List.foldl_cons, seen]
          cases thread with
          | some _ => exact ih hframed
          | none =>
              obtain ⟨hkept, hrest⟩ := (hbody op s).framed
              exact (ih hrest).trans (congrArg (List.foldl update · _) (hkeep _ _ hkept))
      | resume timedOut =>
          rw [List.foldl_cons, seen]
          cases thread with
          | none => exact ih hframed
          | some waiting =>
              simp only [step]
              cases hu : m.resume waiting.1 timedOut s with
              | none => exact ih hframed
              | some u =>
                  obtain ⟨hkept, hrest⟩ := (hframed _ _ rfl timedOut u).framed
                  have hfirst : get u = get s := hkeep s u (hresume _ _ _ _ hu)
                  exact (ih hrest).trans (congrArg (List.foldl update · _)
                    ((hkeep u _ hkept).trans hfirst))

end Observation

end NabuIris.Lib
