import NabuIris.Interconnects
import NabuIris.Lib.Run

/-!
# The recorded interconnect votes

A set votes for `video-mem` only, and an unset takes all votes back: what the other paths lose by it
nothing restores. A failed set rolls back to the last vote, which at first is not the one recorded.
-/

namespace NabuIris

open Lib

variable {table : List IccInfo} {paths : List IccPath} {core : IccCore} {bw : Nat}

def IccInfo.videoMem (info : IccInfo) : Bool := info.name == "video-mem"

/-! ### The first path and the others -/

@[simp]
theorem IccPath.videoMem_vote (bw : Nat) (path : IccPath) :
    (path.vote bw).videoMem = path.videoMem := rfl

@[simp]
theorem IccPath.videoMem_unvote (path : IccPath) : path.unvote.videoMem = path.videoMem := rfl

theorem find_voteVideoMem (bw : Nat) (paths : List IccPath) :
    (voteVideoMem bw paths).find? IccPath.videoMem =
      (paths.find? IccPath.videoMem).map (IccPath.vote bw) := by
  induction paths with
  | nil => rfl
  | cons path rest ih =>
      cases hvideo : path.videoMem <;> simp [voteVideoMem, hvideo, ih]

theorem eraseP_voteVideoMem (bw : Nat) (paths : List IccPath) :
    (voteVideoMem bw paths).eraseP IccPath.videoMem = paths.eraseP IccPath.videoMem := by
  induction paths with
  | nil => rfl
  | cons path rest ih =>
      cases hvideo : path.videoMem <;> simp [voteVideoMem, hvideo, ih]

theorem map_info_voteVideoMem (bw : Nat) (paths : List IccPath) :
    (voteVideoMem bw paths).map IccPath.info = paths.map IccPath.info := by
  induction paths with
  | nil => rfl
  | cons path rest ih =>
      cases hvideo : path.videoMem with
      | false => simp [voteVideoMem, hvideo, ih]
      | true => simp [voteVideoMem, hvideo, IccPath.vote]

theorem voteVideoMem_twice (last bw : Nat) (paths : List IccPath) :
    voteVideoMem last (voteVideoMem bw paths) = voteVideoMem last paths := by
  induction paths with
  | nil => rfl
  | cons path rest ih =>
      cases hvideo : path.videoMem with
      | false => simp [voteVideoMem, hvideo, ih]
      | true =>
          rw [voteVideoMem, if_pos hvideo, voteVideoMem, IccPath.videoMem_vote, if_pos hvideo,
            voteVideoMem, if_pos hvideo]
          rfl

theorem voteVideoMem_eq_self_iff :
    voteVideoMem bw paths = paths ↔
      ∀ path, paths.find? IccPath.videoMem = some path → path.avgBw = bw := by
  induction paths with
  | nil => simp [voteVideoMem]
  | cons path rest ih =>
      cases hvideo : path.videoMem with
      | false => simp [voteVideoMem, hvideo, ih]
      | true =>
          have hvote : path.vote bw = path ↔ path.avgBw = bw := by
            constructor
            · exact fun h => (congrArg IccPath.avgBw h).symm
            · rintro rfl
              rfl
          simp [voteVideoMem, hvideo, hvote]

theorem forall_paths_iff {P : IccPath → Prop} :
    (∀ path ∈ paths, P path) ↔
      (∀ path, paths.find? IccPath.videoMem = some path → P path) ∧
        ∀ path ∈ paths.eraseP IccPath.videoMem, P path := by
  induction paths with
  | nil => simp
  | cons path rest ih =>
      cases hvideo : path.videoMem with
      | false =>
          simp only [List.forall_mem_cons, List.find?_cons, hvideo, List.eraseP_cons, cond_false,
            ih]
          tauto
      | true => simp [hvideo]

namespace IccCore

def otherPaths (core : IccCore) : List IccPath := core.iccTbl.eraseP IccPath.videoMem

/-! ### What a call does to the votes -/

/-- The votes meet a request. -/
structure Honoured (iccBw : Nat) (core : IccCore) : Prop where
  least : ∀ path ∈ core.iccTbl, path.info.bwMinKbps ≤ path.avgBw
  near : ∀ path, core.videoPath = some path →
    distance (clampBw iccBw path.info) path.avgBw < bwThreshold

/-- What is promised of a call. -/
def Sound (core : IccCore) : IccOp → Prop
  | .set ret iccBw =>
      ((core.irisSetIccBw ret iccBw).1 = 0 → Honoured iccBw (core.irisSetIccBw ret iccBw).2) ∧
        ((core.irisSetIccBw ret iccBw).1 ≠ 0 → (core.irisSetIccBw ret iccBw).2 = core)
  | .unset _ => True

/-- A set finds the vote near enough, or votes, or fails and puts the last vote back. -/
theorem irisSetIccBw_cases (ret : Int) (iccBw : Nat) (core : IccCore) :
    (core.videoPath = none ∧ core.irisSetIccBw ret iccBw = (ret, core)) ∨
      ∃ path, core.videoPath = some path ∧
        ((core.iccBw ≠ 0 ∧ distance (clampBw iccBw path.info) core.iccBw < bwThreshold ∧
            core.irisSetIccBw ret iccBw = (0, core)) ∨
          ((core.iccBw = 0 ∨ ¬distance (clampBw iccBw path.info) core.iccBw < bwThreshold) ∧
            ((ret = 0 ∧ core.irisSetIccBw ret iccBw =
                (0,
                  { iccTbl := voteVideoMem (clampBw iccBw path.info) core.iccTbl
                    iccBw := clampBw iccBw path.info })) ∨
              (ret ≠ 0 ∧ core.irisSetIccBw ret iccBw =
                (ret, { core with iccTbl := voteVideoMem core.iccBw core.iccTbl }))))) := by
  unfold irisSetIccBw
  cases core.videoPath with
  | none => exact .inl ⟨rfl, rfl⟩
  | some path =>
      refine .inr ⟨path, rfl, ?_⟩
      by_cases hnear : core.iccBw ≠ 0 ∧ distance (clampBw iccBw path.info) core.iccBw < bwThreshold
      · exact .inl ⟨hnear.1, hnear.2, if_pos hnear⟩
      · refine .inr ⟨by tauto, ?_⟩
        by_cases hret : ret = 0
        · exact .inl ⟨hret, by simp only [if_neg hnear, if_pos hret]⟩
        · refine .inr ⟨hret, ?_⟩
          simp only [if_neg hnear, if_neg hret, voteVideoMem_twice]

/-! ### Histories -/

def unsetIn (ops : List IccOp) : Bool :=
  ops.any fun op => match op with
    | .set _ _ => false
    | .unset _ => true

/-- No path but `video-mem` needs a vote. -/
def OthersFree (table : List IccInfo) : Prop :=
  ∀ info ∈ table.eraseP IccInfo.videoMem, info.bwMinKbps = 0

/-- `video-mem` needs no vote. -/
def VideoFree (table : List IccInfo) : Prop :=
  ∀ info, table.find? IccInfo.videoMem = some info → info.bwMinKbps = 0

/-- A vote that succeeds does not come after an unset, and one that fails is not the first call. -/
def Safe (table : List IccInfo) (pre : List IccOp) : IccOp → Prop
  | .set ret _ =>
      (ret = 0 → unsetIn pre = true → OthersFree table) ∧ (ret ≠ 0 → pre = [] → VideoFree table)
  | .unset _ => True

/-- What is recorded after the calls `pre`. -/
structure Recorded (table : List IccInfo) (pre : List IccOp) (core : IccCore) : Prop where
  infos : core.iccTbl.map IccPath.info = table
  video : ∀ path, core.videoPath = some path →
    path.avgBw = if pre = [] then path.info.bwMinKbps else core.iccBw
  least : core.iccBw ≠ 0 → ∀ path, core.videoPath = some path →
    path.info.bwMinKbps ≤ core.iccBw
  started : pre = [] → core.iccBw = 0
  others : ∀ path ∈ core.otherPaths,
    path.avgBw = if unsetIn pre = true then 0 else path.info.bwMinKbps

theorem recorded_init (table : List IccInfo) : Recorded table [] (irisInitIcc table) := by
  refine ⟨?_, fun path hpath => ?_, fun h => absurd rfl h, fun _ => rfl, fun path hpath => ?_⟩
  · rw [irisInitIcc, List.map_map]
    exact List.map_id _
  · obtain ⟨info, -, rfl⟩ := List.mem_map.1 (List.mem_of_find?_eq_some hpath)
    rfl
  · obtain ⟨info, -, rfl⟩ := List.mem_map.1 (List.mem_of_mem_eraseP hpath)
    rfl

theorem clampBw_ge (bw : Nat) (info : IccInfo) : info.bwMinKbps ≤ clampBw bw info := by
  unfold clampBw
  split_ifs with hhigh hlow
  · exact info.ordered
  · exact Nat.le_refl _
  · exact Nat.le_of_lt (Nat.not_le.1 hlow)

theorem unsetIn_set (pre : List IccOp) (ret : Int) (iccBw : Nat) :
    unsetIn (pre ++ [.set ret iccBw]) = unsetIn pre := by
  simp [unsetIn]

theorem unsetIn_unset (pre : List IccOp) (ret : Int) : unsetIn (pre ++ [.unset ret]) = true := by
  simp [unsetIn]

theorem concat_ne_nil (pre : List IccOp) (op : IccOp) : pre ++ [op] ≠ [] :=
  List.append_ne_nil_of_right_ne_nil pre (List.cons_ne_nil op [])

/-- A vote for `video-mem` that is then the last one. -/
theorem Recorded.voted {pre : List IccOp} (hrecorded : Recorded table pre core) (ret : Int)
    (iccBw : Nat)
    (hleast : bw ≠ 0 → ∀ path, core.videoPath = some path → path.info.bwMinKbps ≤ bw) :
    Recorded table (pre ++ [.set ret iccBw])
      { iccTbl := voteVideoMem bw core.iccTbl, iccBw := bw } := by
  refine ⟨(map_info_voteVideoMem bw _).trans hrecorded.infos, fun path hpath => ?_,
    fun hbw path hpath => ?_, fun h => absurd h (concat_ne_nil _ _), fun path hpath => ?_⟩
  · rw [videoPath, find_voteVideoMem] at hpath
    obtain ⟨old, -, rfl⟩ := Option.map_eq_some_iff.1 hpath
    rw [if_neg (concat_ne_nil _ _)]
    rfl
  · rw [videoPath, find_voteVideoMem] at hpath
    obtain ⟨old, hold, rfl⟩ := Option.map_eq_some_iff.1 hpath
    exact hleast hbw old hold
  · rw [otherPaths, eraseP_voteVideoMem] at hpath
    rw [unsetIn_set]
    exact hrecorded.others path hpath

theorem Recorded.kept {pre : List IccOp} (hrecorded : Recorded table pre core) (ret : Int)
    (iccBw : Nat) (hsame : pre ≠ [] ∨ core.videoPath = none) :
    Recorded table (pre ++ [.set ret iccBw]) core := by
  refine ⟨hrecorded.infos, fun path hpath => ?_, hrecorded.least,
    fun h => absurd h (concat_ne_nil _ _), fun path hpath => ?_⟩
  · rw [if_neg (concat_ne_nil _ _)]
    rcases hsame with hpre | hnone
    · rw [hrecorded.video path hpath, if_neg hpre]
    · rw [hnone] at hpath
      cases hpath
  · rw [unsetIn_set]
    exact hrecorded.others path hpath

theorem Recorded.unset {pre : List IccOp} (hrecorded : Recorded table pre core) (ret : Int) :
    Recorded table (pre ++ [.unset ret])
      { iccTbl := core.iccTbl.map IccPath.unvote, iccBw := 0 } := by
  refine ⟨?_, fun path hpath => ?_, fun h => absurd rfl h, fun _ => rfl, fun path hpath => ?_⟩
  · rw [List.map_map]
    exact hrecorded.infos
  · obtain ⟨old, -, rfl⟩ := List.mem_map.1 (List.mem_of_find?_eq_some hpath)
    rw [if_neg (concat_ne_nil _ _)]
    rfl
  · obtain ⟨old, -, rfl⟩ := List.mem_map.1 (List.mem_of_mem_eraseP hpath)
    rw [unsetIn_unset, if_pos rfl]
    rfl

theorem Recorded.apply {pre : List IccOp} (hrecorded : Recorded table pre core) (op : IccOp) :
    Recorded table (pre ++ [op]) (core.apply op) := by
  cases op with
  | unset ret => exact hrecorded.unset ret
  | set ret iccBw =>
      rw [IccCore.apply]
      rcases irisSetIccBw_cases ret iccBw core with
        ⟨hnone, heq⟩ | ⟨path, hpath, ⟨hbw, -, heq⟩ | ⟨-, ⟨-, heq⟩ | ⟨-, heq⟩⟩⟩ <;> rw [heq]
      · exact hrecorded.kept ret iccBw (.inr hnone)
      · exact hrecorded.kept ret iccBw (.inl fun hpre => hbw (hrecorded.started hpre))
      · refine hrecorded.voted ret iccBw fun _ other hother => ?_
        obtain rfl : other = path := Option.some.inj (hother.symm.trans hpath)
        exact clampBw_ge iccBw other.info
      · exact hrecorded.voted ret iccBw hrecorded.least

theorem recorded_after (table : List IccInfo) (ops : List IccOp) :
    Recorded table ops (votesAfter table ops) := by
  induction ops using List.reverseRecOn with
  | nil => exact recorded_init table
  | append_singleton pre op ih =>
      rw [votesAfter, List.foldl_append]
      exact ih.apply op

theorem Recorded.otherInfos {ops : List IccOp} (hrecorded : Recorded table ops core) :
    core.otherPaths.map IccPath.info = table.eraseP IccInfo.videoMem := by
  rw [← hrecorded.infos, List.eraseP_map]
  rfl

theorem Recorded.videoInfo {ops : List IccOp} (hrecorded : Recorded table ops core) :
    core.videoPath.map IccPath.info = table.find? IccInfo.videoMem := by
  rw [← hrecorded.infos, List.find?_map]
  rfl

theorem Recorded.others_least {ops : List IccOp} (hrecorded : Recorded table ops core)
    (hfree : unsetIn ops = true → OthersFree table) :
    ∀ path ∈ core.otherPaths, path.info.bwMinKbps ≤ path.avgBw := by
  intro path hpath
  rw [hrecorded.others path hpath]
  split_ifs with hunset
  · have hinfo : path.info ∈ table.eraseP IccInfo.videoMem := by
      rw [← hrecorded.otherInfos]
      exact List.mem_map_of_mem hpath
    exact Nat.le_of_eq (hfree hunset path.info hinfo)
  · exact Nat.le_refl _

theorem Recorded.videoFree {ops : List IccOp} (hrecorded : Recorded table ops core) :
    VideoFree table ↔ ∀ path, core.videoPath = some path → path.info.bwMinKbps = 0 := by
  rw [VideoFree, ← hrecorded.videoInfo]
  cases core.videoPath <;> simp

/-- While a vote stands after an unset, a vote has succeeded since. -/
theorem paid_after {ops : List IccOp}
    (hsafe : ∀ pre op, pre ++ [op] <+: ops → Safe table pre op) :
    (votesAfter table ops).iccBw ≠ 0 → unsetIn ops = true → OthersFree table := by
  induction ops using List.reverseRecOn with
  | nil => exact fun h => absurd rfl h
  | append_singleton pre op ih =>
      have hbefore := ih fun mid last hmid => hsafe mid last (hmid.trans (List.prefix_append _ _))
      have hlast := hsafe pre op List.prefix_rfl
      rw [votesAfter, List.foldl_append]
      change ((votesAfter table pre).apply op).iccBw ≠ 0 → _
      cases op with
      | unset ret => exact fun h => absurd rfl h
      | set ret iccBw =>
          rw [unsetIn_set, IccCore.apply]
          rcases irisSetIccBw_cases ret iccBw (votesAfter table pre) with
            ⟨-, heq⟩ | ⟨path, -, ⟨-, -, heq⟩ | ⟨-, ⟨hret, -⟩ | ⟨-, heq⟩⟩⟩
          · rw [heq]
            exact hbefore
          · rw [heq]
            exact hbefore
          · exact fun _ hunset => hlast.1 hret hunset
          · rw [heq]
            exact hbefore

theorem sound_of_safe {pre : List IccOp} {op : IccOp} (hrecorded : Recorded table pre core)
    (hpaid : core.iccBw ≠ 0 → unsetIn pre = true → OthersFree table)
    (hsafe : Safe table pre op) : core.Sound op := by
  cases op with
  | unset ret => trivial
  | set ret iccBw =>
      rcases irisSetIccBw_cases ret iccBw core with
        ⟨hnone, heq⟩ | ⟨path, hpath, ⟨hbw, hnear, heq⟩ | ⟨hfar, ⟨hret, heq⟩ | ⟨hret, heq⟩⟩⟩ <;>
        rw [Sound, heq]
      · refine ⟨fun hret => ⟨?_, fun path hpath => ?_⟩, fun _ => rfl⟩
        · exact forall_paths_iff.2 ⟨fun path hpath => absurd (hnone.symm.trans hpath) nofun,
            hrecorded.others_least (hsafe.1 hret)⟩
        · exact absurd (hnone.symm.trans hpath) nofun
      · have hpre : pre ≠ [] := fun h => hbw (hrecorded.started h)
        have havg : ∀ other, core.videoPath = some other → other.avgBw = core.iccBw := by
          intro other hother
          rw [hrecorded.video other hother, if_neg hpre]
        refine ⟨fun _ => ⟨?_, fun other hother => ?_⟩, fun h => absurd rfl h⟩
        · refine forall_paths_iff.2 ⟨fun other hother => ?_, hrecorded.others_least (hpaid hbw)⟩
          rw [havg other hother]
          exact hrecorded.least hbw other hother
        · obtain rfl : other = path := Option.some.inj (hother.symm.trans hpath)
          rw [havg other hother]
          exact hnear
      · have hvoted := (hrecorded.apply (.set ret iccBw))
        rw [IccCore.apply, heq] at hvoted
        refine ⟨fun _ => ⟨?_, fun other hother => ?_⟩, fun h => absurd rfl h⟩
        · refine forall_paths_iff.2 ⟨fun other hother => ?_, hvoted.others_least ?_⟩
          · rw [find_voteVideoMem] at hother
            obtain ⟨old, hold, rfl⟩ := Option.map_eq_some_iff.1 hother
            obtain rfl : old = path := Option.some.inj (hold.symm.trans hpath)
            exact clampBw_ge iccBw old.info
          · rw [unsetIn_set]
            exact hsafe.1 hret
        · rw [videoPath, find_voteVideoMem] at hother
          obtain ⟨old, hold, rfl⟩ := Option.map_eq_some_iff.1 hother
          obtain rfl : old = path := Option.some.inj (hold.symm.trans hpath)
          have hzero : distance (clampBw iccBw old.info) (clampBw iccBw old.info) = 0 := by
            simp [distance]
          exact lt_of_eq_of_lt hzero (by decide)
      · refine ⟨fun h => absurd h hret, fun _ => ?_⟩
        have hself : voteVideoMem core.iccBw core.iccTbl = core.iccTbl := by
          refine voteVideoMem_eq_self_iff.2 fun other hother => ?_
          rw [hrecorded.video other hother]
          split_ifs with hpre
          · rw [hrecorded.started hpre]
            exact hrecorded.videoFree.1 (hsafe.2 hret hpre) other hother
          · rfl
        rw [hself]

theorem safe_of_sound {pre : List IccOp} {op : IccOp} (hrecorded : Recorded table pre core)
    (hsound : core.Sound op) : Safe table pre op := by
  cases op with
  | unset ret => trivial
  | set ret iccBw =>
      refine ⟨fun hret hunset => ?_, fun hret hpre => ?_⟩
      · have hdone : (core.irisSetIccBw ret iccBw).1 = 0 := by
          rcases irisSetIccBw_cases ret iccBw core with
            ⟨-, heq⟩ | ⟨path, -, ⟨-, -, heq⟩ | ⟨-, ⟨-, heq⟩ | ⟨hne, -⟩⟩⟩
          · rw [heq]
            exact hret
          · rw [heq]
          · rw [heq]
          · exact absurd hret hne
        have hleast := (hsound.1 hdone).least
        have hafter : Recorded table (pre ++ [.set ret iccBw]) (core.irisSetIccBw ret iccBw).2 :=
          hrecorded.apply (.set ret iccBw)
        intro info hinfo
        rw [← hafter.otherInfos] at hinfo
        obtain ⟨path, hpath, rfl⟩ := List.mem_map.1 hinfo
        have hzero := hafter.others path hpath
        rw [unsetIn_set, if_pos hunset] at hzero
        have hle := hleast path (List.mem_of_mem_eraseP hpath)
        omega
      · rw [hrecorded.videoFree]
        intro path hpath
        have hidle : core.iccBw = 0 := hrecorded.started hpre
        have havg : path.avgBw = path.info.bwMinKbps := by
          rw [hrecorded.video path hpath, if_pos hpre]
        rcases irisSetIccBw_cases ret iccBw core with
          ⟨hnone, -⟩ | ⟨other, -, ⟨hbw, -, -⟩ | ⟨-, ⟨hzero, -⟩ | ⟨-, heq⟩⟩⟩
        · exact absurd (hnone.symm.trans hpath) nofun
        · exact absurd hidle hbw
        · exact absurd hzero hret
        · have hsame := hsound.2
          rw [heq] at hsame
          have hself := congrArg IccCore.iccTbl (hsame hret)
          rw [← havg, ← hidle]
          exact voteVideoMem_eq_self_iff.1 hself path hpath

/-- **Interconnect votes.** The votes are sound through a whole history exactly when no vote
succeeds after an unset and the first call is not a vote that fails. -/
theorem votes_sound_iff (table : List IccInfo) (ops : List IccOp) :
    (∀ pre op, pre ++ [op] <+: ops → (votesAfter table pre).Sound op) ↔
      ∀ pre op, pre ++ [op] <+: ops → Safe table pre op := by
  constructor
  · intro hsound pre op hpre
    exact safe_of_sound (recorded_after table pre) (hsound pre op hpre)
  · intro hsafe pre op hpre
    refine sound_of_safe (recorded_after table pre) (paid_after fun mid last hmid => ?_)
      (hsafe pre op hpre)
    exact hsafe mid last (hmid.trans ((List.prefix_append _ _).trans hpre))

/-! ### A second power-on -/

def sm8250IccTable : List IccInfo :=
  [⟨"cpu-cfg", 1000, 1000, by decide⟩, ⟨"video-mem", 1000, 15000000, by decide⟩]

theorem vote_lost_by_unset :
    ¬ ∀ (table : List IccInfo) (ops : List IccOp) (pre : List IccOp) (op : IccOp),
      pre ++ [op] <+: ops → (votesAfter table pre).Sound op := by
  intro hall
  have hsound := hall sm8250IccTable [.set 0 200000, .unset 0, .set 0 200000]
    [.set 0 200000, .unset 0] (.set 0 200000) List.prefix_rfl
  have hleast := (hsound.1 (by decide)).least
    ⟨⟨"cpu-cfg", 1000, 1000, by decide⟩, 0, 0⟩ List.mem_cons_self
  exact absurd hleast (by decide)

end IccCore

end NabuIris
