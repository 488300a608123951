import Mathlib.Algebra.Group.Nat.Defs
import NabuIris.Proof.InputBuffers

/-!
# The tags of the DPBs

A start of the CAPTURE queue numbers the DPBs that it creates from `VIDEO_MAX_FRAME` on, whatever it
finds: a DPB that the firmware still holds keeps its tag.
-/

namespace NabuIris

open Lib Lib.Reading Gen1Message

variable {s t : PoolInst}

def PoolInst.tags (s : PoolInst) : List Nat := s.base.dpbs.map Dpb.index

/-! ### Messages -/

section Messages

variable {base : Gen1Inst} {mem : Memory} {tags : List Nat}

/-- The DPBs have these tags. -/
def Tags (tags : List Nat) (base : Gen1Inst) : Prop := base.dpbs.map Dpb.index = tags

theorem Tags.rule : BufferRule (Tags tags) := fun _ _ htags _ hbase => htags.trans hbase

theorem readRequirements_tags (n req : Nat) (hbase : Tags tags base) :
    Tags tags ((readRequirements n req base).run mem) := by
  induction n generalizing req base with
  | zero => exact hbase
  | succ n ih =>
      refine run_bind_rule fun type => ?_
      cases requirementType base.inst type with
      | none => exact ih _ hbase
      | some bufType => exact run_bind_rule fun size => ih _ hbase

theorem propertyInfo_tags (hbase : Tags tags base) :
    Tags tags ((irisHfiGen1SessionPropertyInfo base).run mem).2 := by
  unfold irisHfiGen1SessionPropertyInfo
  rw [run_bind, run_bind, run_bind]
  dsimp only
  split_ifs
  · exact hbase
  · rw [run_bind]
    exact readRequirements_tags _ _ hbase

/-- No message changes a tag. -/
theorem handleSession_tags (env : Gen1Env) (pktType : U32) (hbase : Tags tags base) :
    Tags tags ((handleSession env pktType base).run mem).2 := by
  by_cases hinfo : pktType = hfiMsgSessionPropertyInfo
  · subst hinfo
    exact propertyInfo_tags hbase
  · exact Tags.rule.handleSession env hinfo hbase

end Messages

/-! ### Streaming -/

/-- A start that numbers its DPBs away from those that the firmware still holds. -/
def Restart.Clear (restart : Restart) : Prop :=
  (∀ tag ∈ restart.kept, videoMaxFrame + restart.created ≤ tag) ∧
    videoMaxFrame + restart.created ≤ 2 ^ 32

instance (restart : Restart) : Decidable restart.Clear :=
  inferInstanceAs (Decidable (_ ∧ _))

def Restarted (s : PoolInst) : Prop := ∀ restart ∈ s.restarts, restart.Clear

instance (s : PoolInst) : Decidable (Restarted s) :=
  inferInstanceAs (Decidable (∀ restart ∈ s.restarts, _))

/-- The tags differ from each other and from the indices of the CAPTURE buffers. -/
def TagsDistinct (s : PoolInst) : Prop := s.tags.Nodup ∧ ∀ tag ∈ s.tags, videoMaxFrame ≤ tag

def Tagged (s : PoolInst) : Prop := Restarted s → TagsDistinct s

theorem dpbTag_eq {index n : Nat} (hindex : index < n) (hn : videoMaxFrame + n ≤ 2 ^ 32) :
    dpbTag index = videoMaxFrame + index := by
  rw [dpbTag, BitVec.toNat_ofNat, Nat.mod_eq_of_lt (by omega)]

theorem map_dpbTag {n : Nat} (hn : videoMaxFrame + n ≤ 2 ^ 32) :
    (List.range n).map dpbTag = List.range' videoMaxFrame n := by
  rw [List.range'_eq_map_range]
  exact List.map_congr_left fun index hindex => dpbTag_eq (List.mem_range.1 hindex) hn

namespace Tagged

/-- What keeps the tags and the starts. -/
theorem of_tags (hs : Tagged s) (hrestarts : t.restarts = s.restarts) (htags : t.tags = s.tags) :
    Tagged t := by
  intro hclear
  rw [Restarted, hrestarts] at hclear
  rw [TagsDistinct, htags]
  exact hs hclear

theorem of_sublist (hs : Tagged s) (hrestarts : t.restarts = s.restarts)
    (htags : t.tags.Sublist s.tags) : Tagged t := by
  intro hclear
  rw [Restarted, hrestarts] at hclear
  obtain ⟨hnodup, hfrom⟩ := hs hclear
  exact ⟨hnodup.sublist htags, fun tag hmem => hfrom tag (htags.subset hmem)⟩

theorem fill (hs : Tagged s) (env : PoolEnv) (type : BufType) :
    Tagged (s.irisFillInternalBufInfo env type) := by
  cases type <;> exact hs

theorem get (hs : Tagged s) (env : PoolEnv) (plane : Plane) :
    Tagged (s.irisGetInternalBuffers env plane) := by
  cases plane with
  | output => exact (hs.fill env .bin).fill env .scratch1
  | capture => exact hs.fill env .dpb

theorem setList (hs : Tagged s) (type : BufType) (list : List InternalAttr) :
    Tagged (s.setList type list) := hs

theorem createDpbs (hs : Tagged s) (env : PoolEnv) :
    Tagged (s.irisCreateInternalBuffers env .capture).2 := by
  obtain ⟨k, dpbs, hdpbs, htags⟩ := createDpbs_setDpbs env s
  rw [PoolInst.irisCreateInternalBuffers, hdpbs]
  have hk : k = dpbs.length := by
    simpa using congrArg List.length htags.symm
  intro hclear
  have hold : TagsDistinct s := hs fun restart hmem =>
    hclear restart (List.mem_append_left _ hmem)
  obtain ⟨hkept, hfits⟩ := hclear _ (List.mem_append_right _ List.mem_cons_self)
  have hcreated : (s.base.dpbs ++ dpbs).length - s.base.dpbs.length = k := by
    rw [List.length_append, hk, Nat.add_sub_cancel_left]
  change ∀ tag ∈ s.tags, _ + ((s.base.dpbs ++ dpbs).length - s.base.dpbs.length) ≤ tag at hkept
  change _ + ((s.base.dpbs ++ dpbs).length - s.base.dpbs.length) ≤ _ at hfits
  rw [hcreated] at hkept hfits
  have happend : (PoolInst.noteStart .capture (s.setDpbs (s.base.dpbs ++ dpbs)) s).tags =
      s.tags ++ List.range' videoMaxFrame k := by
    calc (s.base.dpbs ++ dpbs).map Dpb.index
      _ = s.tags ++ dpbs.map Dpb.index := List.map_append
      _ = s.tags ++ List.range' videoMaxFrame k := by rw [htags, map_dpbTag hfits]
  rw [TagsDistinct, happend]
  refine ⟨hold.1.append List.nodup_range' fun tag hmem hnew => ?_, fun tag hmem => ?_⟩
  · have hbelow := (List.mem_range'_1.1 hnew).2
    exact absurd (hkept tag hmem) hbelow.not_ge
  · obtain hmem | hnew := List.mem_append.1 hmem
    · exact hold.2 tag hmem
    · exact (List.mem_range'_1.1 hnew).1

theorem createInput (hs : Tagged s) (env : PoolEnv) :
    Tagged (s.irisCreateInternalBuffers env .output).2 := by
  refine forTypes_keep (Q := Tagged) (fun type hmem s hs => ?_) hs
  have htype : type ≠ .dpb := by
    rintro rfl
    exact absurd hmem (by decide)
  obtain ⟨list, hlist, -⟩ := createType_setList env htype s
  rw [hlist]
  exact hs.setList type list

theorem create (hs : Tagged s) (env : PoolEnv) (plane : Plane) :
    Tagged (s.irisCreateInternalBuffers env plane).2 := by
  cases plane with
  | output => exact hs.createInput env
  | capture => exact hs.createDpbs env

theorem irisQueueDpb_index (ret : Int) (dpb : Dpb) :
    (PoolInst.irisQueueDpb ret dpb).2.index = dpb.index :=
  orGoto_keep (P := fun r : Int × Dpb => r.2.index = dpb.index) (Q := fun d => d.index = dpb.index)
    rfl (fun _ _ => id) fun _ => id

theorem queueType (hs : Tagged s) (ret : BufType → Nat → Int) (type : BufType) :
    Tagged (PoolInst.queueType ret type s).2 := by
  cases type with
  | dpb =>
      refine hs.of_tags rfl (forEachEntry_map (fun k dpb => ?_) 0 s.base.dpbs)
      unfold PoolInst.queueDpb
      split_ifs
      · rfl
      · rfl
      · exact irisQueueDpb_index _ dpb
  | _ => exact hs

theorem deferred (hs : Tagged s) (ret : Nat → Int) :
    Tagged (s.irisQueueInternalDeferredBuffers ret).2 := by
  refine hs.of_tags rfl (forEachEntry_map (fun k dpb => ?_) 0 s.base.dpbs)
  split_ifs
  · exact irisQueueDpb_index _ dpb
  · rfl

theorem persist (hs : Tagged s) (env : PoolEnv) :
    Tagged (s.irisAllocAndQueuePersistBufs env).2 := by
  unfold PoolInst.irisAllocAndQueuePersistBufs
  split_ifs
  · exact hs
  · refine orGoto_keep (P := fun r : Int × PoolInst => Tagged r.2) (Q := Tagged) ?_
      (fun _ _ => id) fun s hs => hs.queueType env.queueRet .persist
    obtain ⟨list, hlist, -⟩ :=
      @createType_setList .persist env nofun (s.irisFillInternalBufInfo env .persist)
    rw [hlist]
    exact (hs.fill env .persist).setList .persist list

theorem destroyType (hs : Tagged s) (force : Bool) (type : BufType) :
    Tagged (PoolInst.destroyType force s type) := by
  cases type with
  | dpb => exact hs.of_sublist rfl (List.filter_sublist.map _)
  | _ => exact hs

theorem destroyTypes (hs : Tagged s) (force : Bool) (types : List BufType) :
    Tagged (types.foldl (PoolInst.destroyType force) s) := by
  induction types generalizing s with
  | nil => exact hs
  | cons type rest ih => exact ih (hs.destroyType force type)

theorem rules : PoolRules Tagged where
  session := fun _ _ hs => hs
  get := fun env plane _ hs => hs.get env plane
  create := fun env plane _ hs => hs.create env plane
  queue := fun ret _ _ hs => forTypes_keep (fun type _ _ hs => hs.queueType ret type) hs
  deferred := fun ret _ hs => hs.deferred ret
  persist := fun env _ hs => hs.persist env
  release := fun type _ _ hs => hs.setList type _
  dequeued := fun plane _ hs => hs.destroyTypes false (decIntBufTbl plane)
  all := fun plane _ hs => (hs.destroyTypes true (decIntBufTbl plane)).destroyType true .persist
  message := fun env pktType _ _ hs => hs.of_tags rfl (handleSession_tags env pktType rfl)
  negotiated := fun _ _ _ _ hs => hs

end Tagged

/-! ### The tags -/

/-- A completion with the tag and the offset of a queued DPB completes this one. -/
def Selects (s : PoolInst) : Prop :=
  ∀ pre dpb post pkt, s.base.dpbs = pre ++ dpb :: post → dpb.matched pkt →
    completeDpb pkt s.base.dpbs = some (pre ++ dpb.completed pkt :: post)

structure DpbTagsSound (s : PoolInst) : Prop where
  distinct : s.tags.Nodup
  disjoint : ∀ tag ∈ s.tags, videoMaxFrame ≤ tag
  selects : Selects s

theorem completeDpb_of_nodup {pre post : List Dpb} {dpb : Dpb} {pkt : FtbDone}
    (htags : ((pre ++ dpb :: post).map Dpb.index).Nodup) (hmatched : dpb.matched pkt) :
    completeDpb pkt (pre ++ dpb :: post) = some (pre ++ dpb.completed pkt :: post) := by
  induction pre with
  | nil => exact if_pos hmatched
  | cons first rest ih =>
      obtain ⟨hfirst, hrest⟩ := List.nodup_cons.1 htags
      have hne : ¬ first.matched pkt := fun hmatches => by
        have hsame : first.index = dpb.index := by
          simp only [Dpb.matched, Bool.and_eq_true, beq_iff_eq] at hmatches hmatched
          rw [hmatches.1.2, hmatched.1.2]
        exact hfirst (by simp [hsame])
      rw [List.cons_append, completeDpb, if_neg hne, ih hrest]
      rfl

theorem TagsDistinct.sound (hs : TagsDistinct s) : DpbTagsSound s where
  distinct := hs.1
  disjoint := hs.2
  selects := fun pre dpb post pkt hdpbs hmatched => by
    have htags := hs.1
    rw [PoolInst.tags, hdpbs] at htags
    rw [hdpbs]
    exact completeDpb_of_nodup htags hmatched

/-- The part of it that can be evaluated. -/
instance (s : PoolInst) : Decidable (TagsDistinct s) := inferInstanceAs (Decidable (_ ∧ _))

theorem DpbTagsSound.tagsDistinct (hs : DpbTagsSound s) : TagsDistinct s :=
  ⟨hs.distinct, hs.disjoint⟩

/-- **Tags of the DPBs.** They are sound through a run in which no start of the CAPTURE queue gives
a DPB the tag of one that the firmware still holds. -/
theorem dpb_tags_unique (base : Gen1Inst) {moves : List PoolMove}
    (hrestarts : ∀ pre, pre <+: moves → Restarted (poolMachine.runs (.opened base) pre).state) :
    ∀ pre, pre <+: moves → DpbTagsSound (poolMachine.runs (.opened base) pre).state := by
  intro pre hpre
  have hopened : Tagged (.opened base) := fun _ => ⟨List.nodup_nil, List.forall_mem_nil _⟩
  have hreached : TagsDistinct (poolMachine.runs (.opened base) pre).state :=
    Tagged.rules.runs hopened pre (hrestarts pre hpre)
  exact hreached.sound

/-- A split-mode decoder with two DPBs. -/
def splitPools : PoolInst := openedPools true 2

/-- The firmware gives a DPB back. -/
def dpbReturned (index : Nat) : PoolMove :=
  .event (.message takenEnv Gen1Message.hfiMsgSessionFillBuffer
    (wordMemory [(84, BitVec.ofNat 32 (videoMaxFrame + index))]))

/-- The CAPTURE queue is stopped and started again with no DPB left in the firmware. -/
def captureReturned : List PoolMove :=
  bothStarted ++ [.call (.streamoff plentiful .capture), dpbReturned 0, dpbReturned 1, flushAnswer,
    .resume false, .call (.streamon plentiful .capture [])] ++ List.replicate 4 (.resume false)

theorem dpb_tags_unique_returned :
    (poolMachine.runs splitPools captureReturned).state.restarts = [⟨[], 2⟩, ⟨[], 2⟩] ∧
      (∀ pre, pre <+: captureReturned → Restarted (poolMachine.runs splitPools pre).state) ∧
      ∀ pre, pre <+: captureReturned → DpbTagsSound (poolMachine.runs splitPools pre).state := by
  have htwice : (poolMachine.runs splitPools captureReturned).state.restarts =
      [⟨[], 2⟩, ⟨[], 2⟩] := by decide +kernel
  have hrestarts : ∀ pre, pre <+: captureReturned →
      Restarted (poolMachine.runs splitPools pre).state := by
    have hinits : ∀ pre ∈ captureReturned.inits,
        Restarted (poolMachine.runs splitPools pre).state := by decide +kernel
    exact fun pre hpre => hinits pre ((List.mem_inits _ _).2 hpre)
  exact ⟨htwice, hrestarts, dpb_tags_unique _ hrestarts⟩

/-- The CAPTURE queue is stopped and started again while the firmware holds both DPBs. -/
def captureRestarted : List PoolMove :=
  bothStarted ++ [.call (.streamoff plentiful .capture), flushAnswer, .resume false,
    .call (.streamon plentiful .capture [])] ++ List.replicate 4 (.resume false)

theorem dpb_tags_repeated :
    ¬ DpbTagsSound (poolMachine.runs splitPools captureRestarted).state := by
  have hrepeated : ¬ TagsDistinct (poolMachine.runs splitPools captureRestarted).state := by
    decide +kernel
  exact fun hs => hrepeated hs.tagsDistinct

end NabuIris
