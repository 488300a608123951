import Mathlib.Data.List.SplitBy

/-!
# A one-slot delay line

Full items wait in the slot for their successor: one that is the same replaces them, any other item
pushes them out. Empty items pass at once. `line_eq` says what this does to a whole list: cut into
maximal runs of full items that are the same, each run loses all but its last item.
-/

namespace NabuIris.Lib

inductive LineAction (α : Type*)
  | drop (a : α)
  | pass (a : α)
deriving DecidableEq, Repr

section

variable {α : Type*} (full : α → Bool) (same : α → α → Bool)

def lineStep (held : Option α) (a : α) : List (LineAction α) × Option α :=
  match held with
  | none => if full a then ([], some a) else ([.pass a], none)
  | some h =>
      if full a then (if same h a then [.drop h] else [.pass h], some a)
      else ([.pass h, .pass a], none)

def line : Option α → List α → List (LineAction α) × Option α
  | held, [] => ([], held)
  | held, a :: as =>
      let (actions, held) := lineStep full same held a
      let (rest, held) := line held as
      (actions ++ rest, held)

/-- The maximal runs of full items that are the same; an empty item is a run of its own. -/
def lineRuns (as : List α) : List (List α) := as.splitBy fun a b => full a && full b && same a b

/-- A finished run: its last item passes. -/
def finishRun (run : List α) : List (LineAction α) :=
  run.dropLast.map .drop ++ (run.getLast?.map .pass).toList

/-- All runs but the last one are finished, and the last one if its item is empty. -/
def settleRuns : List (List α) → List (LineAction α) × Option α
  | [] => ([], none)
  | [run] =>
      if run.all full then (run.dropLast.map .drop, run.getLast?) else (finishRun run, none)
  | run :: rest => (finishRun run ++ (settleRuns rest).1, (settleRuns rest).2)

/-- What becomes of the held item when `a` arrives. -/
def released (held : Option α) (a : α) : List (LineAction α) :=
  match held with
  | none => []
  | some h => if full a && same h a then [.drop h] else [.pass h]

variable {full same}

theorem lineStep_eq (held : Option α) (a : α) :
    lineStep full same held a =
      (released full same held a ++ (if full a then [] else [.pass a]),
        if full a then some a else none) := by
  cases held with
  | none => cases hfull : full a <;> simp [lineStep, released, hfull]
  | some h =>
      cases hfull : full a <;> cases hsame : same h a <;>
        simp [lineStep, released, hfull, hsame]

theorem lineRuns_singleton (a : α) : lineRuns full same [a] = [[a]] := rfl

theorem lineRuns_ne_nil (a : α) (as : List α) : lineRuns full same (a :: as) ≠ [] :=
  List.splitBy_ne_nil.2 (List.cons_ne_nil a as)

theorem lineRuns_cons_of_joins {a b : α} {as : List α}
    (hjoins : (full a && full b && same a b) = true) :
    ∃ run runs, lineRuns full same (b :: as) = (b :: run) :: runs ∧
      lineRuns full same (a :: b :: as) = (a :: b :: run) :: runs := by
  obtain ⟨first, runs, hruns⟩ := List.exists_cons_of_ne_nil (@lineRuns_ne_nil _ full same b as)
  obtain ⟨hflat, hnil, hchain, hcut⟩ := List.splitBy_eq_iff.1 hruns
  obtain ⟨c, run, rfl⟩ := List.exists_cons_of_ne_nil fun h : first = [] => hnil (by simp [h])
  obtain ⟨rfl, hrest⟩ : b = c ∧ as = run ++ runs.flatten := by simpa using hflat
  refine ⟨run, runs, hruns, List.splitBy_eq_iff.2 ⟨by simp [hrest], ?_, ?_, ?_⟩⟩
  · simpa using hnil
  · intro m hm
    rcases List.mem_cons.1 hm with rfl | hm
    · exact List.isChain_cons_cons.2 ⟨hjoins, hchain _ List.mem_cons_self⟩
    · exact hchain m (List.mem_cons_of_mem _ hm)
  · cases runs with
    | nil => exact List.isChain_singleton _
    | cons next runs =>
        obtain ⟨hlast, hcut⟩ := List.isChain_cons_cons.1 hcut
        obtain ⟨_, hnext, hlast⟩ := hlast
        refine List.isChain_cons_cons.2 ⟨⟨List.cons_ne_nil _ _, hnext, ?_⟩, hcut⟩
        rwa [List.getLast_cons (List.cons_ne_nil b run)]

theorem lineRuns_cons_of_not_joins {a b : α} {as : List α}
    (hjoins : (full a && full b && same a b) = false) :
    lineRuns full same (a :: b :: as) = [a] :: lineRuns full same (b :: as) := by
  refine List.splitBy_append_cons (l := [a]) as fun x hx => ?_
  cases hx
  exact hjoins

theorem settleRuns_cons {run : List α} {runs : List (List α)} (hruns : runs ≠ []) :
    settleRuns full (run :: runs) =
      (finishRun run ++ (settleRuns full runs).1, (settleRuns full runs).2) := by
  cases runs with
  | nil => exact absurd rfl hruns
  | cons _ _ => rfl

/-- An item that is dropped from the front of a run. -/
theorem settleRuns_drop {a b : α} {run : List α} {runs : List (List α)} (hfull : full a = true) :
    settleRuns full ((a :: b :: run) :: runs) =
      (.drop a :: (settleRuns full ((b :: run) :: runs)).1,
        (settleRuns full ((b :: run) :: runs)).2) := by
  cases runs with
  | nil =>
      by_cases hrun : (b :: run).all full = true
      · simp [settleRuns, hfull, hrun]
      · simp [settleRuns, finishRun, hfull, hrun]
  | cons next runs => simp [settleRuns, finishRun]

theorem settleRuns_empty {a : α} (hempty : full a = false) (as : List α) :
    settleRuns full (lineRuns full same (a :: as)) =
      (.pass a :: (settleRuns full (lineRuns full same as)).1,
        (settleRuns full (lineRuns full same as)).2) := by
  cases as with
  | nil =>
      rw [lineRuns_singleton]
      simp [lineRuns, settleRuns, finishRun, hempty]
  | cons b as =>
      rw [lineRuns_cons_of_not_joins (by simp [hempty]),
        settleRuns_cons (lineRuns_ne_nil b as)]
      rfl

/-- **The law of the delay line.** -/
theorem line_eq (as : List α) :
    line full same none as = settleRuns full (lineRuns full same as) ∧
      ∀ a, full a = true →
        line full same (some a) as = settleRuns full (lineRuns full same (a :: as)) := by
  induction as with
  | nil =>
      refine ⟨rfl, fun a hfull => ?_⟩
      rw [lineRuns_singleton]
      simp [line, settleRuns, hfull]
  | cons b as ih =>
      obtain ⟨ihnone, ihsome⟩ := ih
      constructor
      · cases hfull : full b with
        | true => simp [line, lineStep, hfull, ihsome b hfull]
        | false => simp [line, lineStep, hfull, ihnone, settleRuns_empty hfull]
      · intro a ha
        have hpush : (full a && full b && same a b) = false →
            settleRuns full (lineRuns full same (a :: b :: as)) =
              (.pass a :: (settleRuns full (lineRuns full same (b :: as))).1,
                (settleRuns full (lineRuns full same (b :: as))).2) := by
          intro hjoins
          rw [lineRuns_cons_of_not_joins hjoins,
            settleRuns_cons (lineRuns_ne_nil b as)]
          rfl
        cases hfull : full b with
        | false =>
            rw [hpush (by simp [hfull]), settleRuns_empty hfull]
            simp [line, lineStep, hfull, ihnone]
        | true =>
            cases hsame : same a b with
            | false =>
                rw [hpush (by simp [hsame]), ← ihsome b hfull]
                simp [line, lineStep, hfull, hsame]
            | true =>
                obtain ⟨run, runs, hruns, hcons⟩ :=
                  @lineRuns_cons_of_joins _ full same a b as (by simp [ha, hfull, hsame])
                rw [hcons, settleRuns_drop ha, ← hruns, ← ihsome b hfull]
                simp [line, lineStep, hfull, hsame]

end

end NabuIris.Lib
