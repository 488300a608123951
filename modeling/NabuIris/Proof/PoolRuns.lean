import NabuIris.InternalPools

/-!
# What a run does to the internal buffers

Streaming creates, queues, releases and destroys internal buffers in a few functions, and leaves
them alone otherwise. What these functions keep holds at every wait of a call and after it.
-/

namespace NabuIris

open Lib

variable {s : PoolInst} {type : BufType}

/-! ### Loops -/

theorem forTypes_keep {Q : PoolInst → Prop} {f : BufType → PoolInst → Int × PoolInst}
    {types : List BufType} (hf : ∀ type ∈ types, ∀ s, Q s → Q (f type s).2) (hs : Q s) :
    Q (PoolInst.forTypes f types s).2 := by
  induction types generalizing s with
  | nil => exact hs
  | cons type rest ih =>
      obtain ⟨hfirst, hrest⟩ := List.forall_mem_cons.1 hf
      exact orGoto_keep (P := fun r : Int × PoolInst => Q r.2) (hfirst s hs) (fun _ _ => id)
        fun _ => ih hrest

/-- What the body keeps of an entry, the loop keeps of the list. -/
theorem forEachEntry_map {β γ : Type} {f : Nat → β → Int × β} {key : β → γ}
    (hkey : ∀ k entry, key (f k entry).2 = key entry) (k : Nat) (list : List β) :
    (PoolInst.forEachEntry f k list).2.map key = list.map key := by
  induction list generalizing k with
  | nil => rfl
  | cons entry rest ih =>
      rw [PoolInst.forEachEntry]
      split_ifs
      · rw [List.map_cons, List.map_cons, hkey]
      · rw [List.map_cons, List.map_cons, hkey, ih]

theorem forEachEntry_length {β : Type} (f : Nat → β → Int × β) (k : Nat) (list : List β) :
    (PoolInst.forEachEntry f k list).2.length = list.length := by
  have hmap := @forEachEntry_map β Unit f (fun _ => ()) (fun _ _ => rfl) k list
  simpa using congrArg List.length hmap

/-! ### The functions, for a type other than `BUF_DPB` -/

@[simp]
theorem setList_setList (list list' : List InternalAttr) :
    (s.setList type list).setList type list' = s.setList type list' := by
  simp [PoolInst.setList, PoolInst.setPool]

theorem setList_self : s.setList type (s.pool type).list = s := by
  simp [PoolInst.setList, PoolInst.setPool]

theorem pool_setPool (pool : BufferPool) : (s.setPool type pool).pool type = pool := by
  simp [PoolInst.setPool]

theorem pool_setPool_of_ne {other : BufType} (hne : other ≠ type) (pool : BufferPool) :
    (s.setPool type pool).pool other = s.pool other := by
  simp [PoolInst.setPool, hne]

@[simp]
theorem pool_setList (list : List InternalAttr) :
    (s.setList type list).pool type = { s.pool type with list } :=
  pool_setPool _

theorem pool_setList_of_ne {other : BufType} (hne : other ≠ type) (list : List InternalAttr) :
    (s.setList type list).pool other = s.pool other :=
  pool_setPool_of_ne hne _

theorem minCount_of_ne (htype : type ≠ .dpb) : s.minCount type = (s.pool type).minCount := by
  cases type <;> first | exact absurd rfl htype | rfl

theorem createFrom_setList (env : PoolEnv) (htype : type ≠ .dpb) (n index : Nat) (s : PoolInst) :
    ∃ list, (PoolInst.createFrom env type n index s).2 = s.setList type list ∧
      list.length ≤ (s.pool type).list.length + n := by
  induction n generalizing index s with
  | zero => exact ⟨_, setList_self.symm, le_rfl⟩
  | succ n ih =>
      let Created (r : Int × PoolInst) : Prop := ∃ list, r.2 = s.setList type list ∧
        list.length ≤ (s.pool type).list.length + (n + 1)
      have hone : ∃ list, (PoolInst.irisCreateInternalBuffer env type index s).2 =
          s.setList type list ∧ list.length ≤ (s.pool type).list.length + 1 := by
        unfold PoolInst.irisCreateInternalBuffer
        split_ifs
        · exact ⟨_, setList_self.symm, Nat.le_succ _⟩
        · cases env.alloc type index with
          | none => exact ⟨_, setList_self.symm, Nat.le_succ _⟩
          | some addr =>
              cases type with
              | dpb => exact absurd rfl htype
              | _ => exact ⟨_, rfl, (List.length_append).le⟩
      obtain ⟨list, hlist, hlength⟩ := hone
      refine orGoto_keep (P := Created) (Q := (· = s.setList type list)) hlist ?_ ?_
      · rintro ret _ rfl
        exact ⟨list, rfl, by omega⟩
      · rintro _ rfl
        obtain ⟨list', hlist', hlength'⟩ := ih (index + 1) (s.setList type list)
        refine ⟨list', hlist'.trans (setList_setList list list'), ?_⟩
        rw [pool_setList] at hlength'
        dsimp only at hlength'
        omega

theorem createType_setList (env : PoolEnv) (htype : type ≠ .dpb) (s : PoolInst) :
    ∃ list, (PoolInst.createType env type s).2 = s.setList type list ∧
      list.length ≤ (s.pool type).list.length + (s.pool type).minCount.toNat := by
  rw [← minCount_of_ne htype]
  exact createFrom_setList env htype _ 0 s

theorem createFrom_empty (env : PoolEnv) (hsize : s.size type = 0) (n index : Nat) :
    PoolInst.createFrom env type n index s = (0, s) := by
  induction n generalizing index with
  | zero => rfl
  | succ n ih =>
      have hnone : PoolInst.irisCreateInternalBuffer env type index s = (0, s) := if_pos hsize
      rw [PoolInst.createFrom, hnone, orGoto_zero, ih]

/-- The tag of the DPB that a start creates at an index. -/
def dpbTag (index : Nat) : Nat := (BitVec.ofNat 32 (videoMaxFrame + index)).toNat

theorem createFrom_setDpbs (env : PoolEnv) (hsize : s.size .dpb ≠ 0) (n index : Nat) :
    ∃ k dpbs, (PoolInst.createFrom env .dpb n index s).2 = s.setDpbs (s.base.dpbs ++ dpbs) ∧
      dpbs.map Gen1Message.Dpb.index = (List.range' index k).map dpbTag := by
  induction n generalizing index s with
  | zero => exact ⟨0, [], by rw [List.append_nil]; rfl, rfl⟩
  | succ n ih =>
      rw [PoolInst.createFrom]
      unfold PoolInst.irisCreateInternalBuffer
      rw [if_neg hsize]
      cases env.alloc .dpb index with
      | none => exact ⟨0, [], by rw [List.append_nil]; rfl, rfl⟩
      | some addr =>
          rw [orGoto_zero]
          obtain ⟨k, dpbs, hdpbs, htags⟩ :=
            @ih (s.setDpbs (s.base.dpbs ++ [PoolInst.newDpb index addr])) hsize (index + 1)
          refine ⟨k + 1, PoolInst.newDpb index addr :: dpbs, hdpbs.trans ?_, ?_⟩
          · exact congrArg (fun dpbs => s.setDpbs dpbs) (List.append_cons _ _ _).symm
          · rw [List.map_cons, htags, List.range'_succ, List.map_cons]
            rfl

/-- A start of the CAPTURE queue creates DPBs behind those that are there, numbered afresh. -/
theorem createDpbs_setDpbs (env : PoolEnv) (s : PoolInst) :
    ∃ k dpbs, (PoolInst.forTypes (PoolInst.createType env) (decIntBufTbl .capture) s).2 =
        s.setDpbs (s.base.dpbs ++ dpbs) ∧
      dpbs.map Gen1Message.Dpb.index = (List.range k).map dpbTag := by
  have hone : (PoolInst.forTypes (PoolInst.createType env) (decIntBufTbl .capture) s).2 =
      (PoolInst.createFrom env .dpb s.base.dpbMinCount.toNat 0 s).2 :=
    orGoto_keep (P := fun r : Int × PoolInst => r.2 = _) (Q := (· = _)) rfl (fun _ _ => id)
      fun _ => id
  rw [hone]
  by_cases hsize : s.size .dpb = 0
  · refine ⟨0, [], ?_, rfl⟩
    rw [createFrom_empty env hsize, List.append_nil]
    rfl
  · obtain ⟨k, dpbs, hdpbs, htags⟩ := createFrom_setDpbs env hsize s.base.dpbMinCount.toNat 0
    exact ⟨k, dpbs, hdpbs, htags.trans (by rw [List.range_eq_range'])⟩

theorem queueType_setList (ret : BufType → Nat → Int) (htype : type ≠ .dpb) (s : PoolInst) :
    ∃ list, (PoolInst.queueType ret type s).2 = s.setList type list ∧
      list.length = (s.pool type).list.length := by
  cases type with
  | dpb => exact absurd rfl htype
  | _ => exact ⟨_, rfl, forEachEntry_length _ _ _⟩

theorem destroyType_setList (force : Bool) (htype : type ≠ .dpb) (s : PoolInst) :
    PoolInst.destroyType force s type =
      s.setList type ((s.pool type).list.filter fun attr => !force && attr.queued) := by
  cases type <;> first | exact absurd rfl htype | rfl

/-! ### Messages -/

section Messages

open Lib.Reading Gen1Message

theorem run_bind_rule {α β : Type} {P : β → Prop} {mem : Memory} {x : Reading α}
    {f : α → Reading β} (hf : ∀ a, P ((f a).run mem)) : P ((x >>= f).run mem) := by
  rw [run_bind]
  exact hf _

theorem completeDpb_tags {pkt : FtbDone} {dpbs completed : List Dpb}
    (hcompleted : completeDpb pkt dpbs = some completed) :
    completed.map Dpb.index = dpbs.map Dpb.index := by
  induction dpbs generalizing completed with
  | nil => cases hcompleted
  | cons dpb rest ih =>
      rw [completeDpb] at hcompleted
      split_ifs at hcompleted
      · cases hcompleted
        rfl
      · obtain ⟨others, hothers, rfl⟩ := Option.map_eq_some_iff.1 hcompleted
        rw [List.map_cons, List.map_cons, ih hothers]

/-- `P` looks only at the tags of the DPBs and at the sizes that the firmware has stated. -/
def BufferRule (P : Gen1Inst → Prop) : Prop :=
  ∀ base changed : Gen1Inst, changed.dpbs.map Dpb.index = base.dpbs.map Dpb.index →
    changed.fwBufferSizes = base.fwBufferSizes → P base → P changed

namespace BufferRule

variable {P : Gen1Inst → Prop} {base : Gen1Inst} {mem : Memory} (hrule : BufferRule P)
include hrule

theorem eventVp9Resize (pkt : FtbDone) (hbase : P base) :
    P ((irisHfiGen1EventVp9Resize pkt base).run mem) := by
  unfold irisHfiGen1EventVp9Resize
  split_ifs
  · refine run_bind_rule fun width => run_bind_rule fun height => ?_
    split_ifs
    · exact run_bind_rule fun left => run_bind_rule fun top => hrule base _ rfl rfl hbase
    · exact hbase
  · exact hbase

theorem ftbCrop (pkt : FtbDone) (i : Nat) (hbase : P base) :
    P ((Gen1Message.ftbCrop pkt i base).run mem) := by
  have hresized : P ((irisHfiGen1EventVp9Resize pkt base).run mem) := hrule.eventVp9Resize pkt hbase
  rw [Gen1Message.ftbCrop, run_bind, run_ite]
  split_ifs
  · exact hrule ((irisHfiGen1EventVp9Resize pkt base).run mem) _ rfl rfl hresized
  · exact hresized

theorem ftbDone (env : Gen1Env) (hbase : P base) :
    P ((Gen1Message.irisHfiGen1SessionFtbDone env base).run mem).2 := by
  refine run_bind_rule (P := fun handled : Handled => P handled.2) fun pkt => ?_
  unfold ftbHandle
  dsimp only
  by_cases hsplit : base.inst.splitMode ∧ base.inst.domain = .decoder ∧ pkt.streamId = 0
  · rw [if_pos hsplit]
    cases hcompleted : completeDpb pkt base.dpbs with
    | none => exact hrule base _ rfl rfl hbase
    | some completed => exact hrule base _ (completeDpb_tags hcompleted) rfl hbase
  · rw [if_neg hsplit]
    cases ftbFind pkt _ with
    | none => exact hrule base _ rfl rfl hbase
    | some i =>
        dsimp only
        rw [run_bind]
        let done := { base with
          flushCompletion := if pkt.eos && !pkt.filled then 0 else base.flushCompletion }
        have hdone : P done := hrule base done rfl rfl hbase
        have hstored := @ftbCrop P done mem hrule pkt i hdone
        exact hrule ((Gen1Message.ftbCrop pkt i done).run mem) _ rfl rfl hstored

theorem applySequence (env : Gen1Env) (event : HfiEventData) (hbase : P base) :
    P (Gen1Message.applySequence env event base) := by
  unfold Gen1Message.applySequence
  dsimp only
  split_ifs
  all_goals exact hrule base _ rfl rfl hbase

theorem eventNotify (env : Gen1Env) (hbase : P base) :
    P ((irisHfiGen1SessionEventNotify env base).run mem).2 := by
  have hsame : ∀ inst queueError, P { base with inst, queueError } :=
    fun inst queueError => hrule base _ rfl rfl hbase
  refine run_bind_rule (P := fun handled : Handled => P handled.2) fun event => ?_
  split_ifs
  · refine run_bind_rule (P := fun handled : Handled => P handled.2) fun error => ?_
    split_ifs
    · exact hbase
    · exact hsame _ _
  · unfold Gen1Message.irisHfiGen1EventSeqChanged
    split_ifs
    · exact hbase
    · refine run_bind_rule (P := fun handled : Handled => P handled.2) fun data => ?_
      split_ifs
      · exact hsame _ _
      · refine run_bind_rule (P := fun handled : Handled => P handled.2) fun count => ?_
        split_ifs
        · exact hsame _ _
        · rw [run_bind]
          exact hrule.applySequence env _ hbase
  · exact hbase

theorem hdr (pktType : U32) (hbase : P base) :
    P ((irisHfiGen1SessionHdr pktType base).run mem).2 := by
  refine run_bind_rule (P := fun handled : Handled => P handled.2) fun error => ?_
  split_ifs
  · exact hrule base _ rfl rfl hbase
  · exact hrule base _ rfl rfl hbase

/-- Only one message states sizes. -/
theorem handleSession (env : Gen1Env) {pktType : U32} (hinfo : pktType ≠ hfiMsgSessionPropertyInfo)
    (hbase : P base) : P ((Gen1Message.handleSession env pktType base).run mem).2 := by
  unfold Gen1Message.handleSession
  split_ifs
  · exact hrule.eventNotify env hbase
  · exact hrule base _ rfl rfl hbase
  · exact hrule.ftbDone env hbase
  · exact hrule.hdr pktType hbase

end BufferRule

end Messages

/-! ### The rules -/

/-- `Q` survives the functions that get at the internal buffers, and everything else. -/
structure PoolRules (Q : PoolInst → Prop) : Prop where
  session : ∀ s t, Q s → Q (s.setSession t)
  get : ∀ env plane s, Q s → Q (s.irisGetInternalBuffers env plane)
  create : ∀ env plane s, Q s → Q (s.irisCreateInternalBuffers env plane).2
  queue : ∀ ret plane s, Q s → Q (s.irisQueueInternalBuffers ret plane).2
  deferred : ∀ ret s, Q s → Q (s.irisQueueInternalDeferredBuffers ret).2
  persist : ∀ env s, Q s → Q (s.irisAllocAndQueuePersistBufs env).2
  release : ∀ type k s, Q s → Q (s.setList type ((s.pool type).list.modify k fun attr =>
    { attr with pendingRelease := true }))
  dequeued : ∀ plane s, Q s → Q (s.irisDestroyDequeuedInternalBuffers plane)
  all : ∀ plane s, Q s → Q (s.irisDestroyAllInternalBuffers plane)
  message : ∀ env pktType mem s, Q s →
    Q { s with base := ((Gen1Message.handleSession env pktType s.base).run mem).2 }
  negotiated : ∀ formats splitMode numBuffers s, Q s →
    Q (s.handle (.negotiated formats splitMode numBuffers))

/-- `R` relates a state to what those functions make of it, and to all else that a call does. -/
structure PoolFrame (R : PoolInst → PoolInst → Prop) : Prop where
  refl : ∀ s, R s s
  session : ∀ a s t, R a s → R a (s.setSession t)
  get : ∀ env plane a s, R a s → R a (s.irisGetInternalBuffers env plane)
  create : ∀ env plane a s, R a s → R a (s.irisCreateInternalBuffers env plane).2
  queue : ∀ ret plane a s, R a s → R a (s.irisQueueInternalBuffers ret plane).2
  deferred : ∀ ret a s, R a s → R a (s.irisQueueInternalDeferredBuffers ret).2
  persist : ∀ env a s, R a s → R a (s.irisAllocAndQueuePersistBufs env).2
  release : ∀ type k a s, R a s → R a (s.setList type ((s.pool type).list.modify k fun attr =>
    { attr with pendingRelease := true }))
  dequeued : ∀ plane a s, R a s → R a (s.irisDestroyDequeuedInternalBuffers plane)
  all : ∀ plane a s, R a s → R a (s.irisDestroyAllInternalBuffers plane)

namespace PoolFrame

variable {R : PoolInst → PoolInst → Prop} {a : PoolInst}

/-- Every section of the program keeps `R`. -/
abbrev Keeps (R : PoolInst → PoolInst → Prop) (a : PoolInst) (program : PoolProgram) : Prop :=
  program.Frames R a

theorem keeps_orGoto {call : PoolProgram} {label : Int → PoolInst → PoolProgram}
    {next : PoolInst → PoolProgram} (hcall : Keeps R a call)
    (hlabel : ∀ a ret s, R a s → Keeps R a (label ret s))
    (hnext : ∀ a s, R a s → Keeps R a (next s)) : Keeps R a (call.orGoto label next) :=
  hcall.bind fun a _ _ hs => orGoto_keep (P := Keeps R a) hs (hlabel a) (hnext a)

theorem keeps_giveUp (a : PoolInst) (ret : Int) (s : PoolInst) (hs : R a s) :
    Keeps R a (PoolInst.giveUp ret s) := hs

variable (hframe : PoolFrame R)
include hframe

theorem onInst (change : Inst → Inst) (hs : R a s) : R a (s.onInst change) :=
  hframe.session a s { s.session with inst := change s.base.inst } hs

theorem onSession (program : Session → Program) (a s : PoolInst) (hs : R a s) :
    Keeps R a (s.onSession program) :=
  Sections.Frames.zoom hframe.session hframe.refl _ hs

theorem lift (call : Inst → Int × Inst) (hs : R a s) : R a (s.lift call).2 :=
  hframe.onInst (fun inst => (call inst).2) hs

/-! ### The input side -/

theorem releaseAt (env : PoolEnv) (type : BufType) (positions : List Nat) (hs : R a s) :
    Keeps R a (s.releaseAt env type positions) := by
  induction positions generalizing a s with
  | nil => exact hs
  | cons k rest ih =>
      unfold PoolInst.releaseAt
      cases (s.pool type).list[k]? with
      | none => exact ih hs
      | some attr =>
          dsimp only
          split_ifs
          · exact ih hs
          · refine orGoto_keep hs (fun _ _ => id) fun s hs => ?_
            refine keeps_orGoto (hframe.onSession _ a s hs) keeps_giveUp fun a s hs => ?_
            exact ih (hframe.release type k a s hs)

theorem releaseTypes (env : PoolEnv) (types : List BufType) (hs : R a s) :
    Keeps R a (s.releaseTypes env types) := by
  induction types generalizing a s with
  | nil => exact hs
  | cons type rest ih =>
      exact keeps_orGoto (hframe.releaseAt env type _ hs) keeps_giveUp fun _ _ => ih

theorem allocAndQueueInputIntBufs (env : PoolEnv) (hs : R a s) :
    Keeps R a (s.irisAllocAndQueueInputIntBufs env) := by
  refine keeps_orGoto (hframe.releaseTypes env _ (hframe.get env .output a s hs)) keeps_giveUp
    fun a s hs => ?_
  refine orGoto_keep (hframe.create env .output a s hs) (fun _ _ => id) fun s hs => ?_
  exact hframe.queue env.queueRet .output a s hs

/-! ### Streaming -/

theorem sessionStreamoff (env : PoolEnv) (plane : Plane) (hs : R a s) :
    Keeps R a (s.irisSessionStreamoff env plane) := by
  have herror : ∀ a ret s, R a s → Keeps R a (PoolInst.streamoffError plane ret s) :=
    fun _ _ _ hs => hframe.onInst _ hs
  refine keeps_orGoto (hframe.onSession _ a _ (hframe.onInst _ hs)) herror fun a s hs => ?_
  refine orGoto_keep (hframe.lift _ hs) (herror a) fun s hs => ?_
  have hflushed : R a (s.onInst (irisFlushDeferredBuffers plane)) := hframe.onInst _ hs
  dsimp only
  split_ifs
  · exact hframe.onSession _ a _ (hframe.all .capture a _ (hframe.all .output a _ hflushed))
  · exact hflushed

theorem processStreamonOutput (env : PoolEnv) (hs : R a s) :
    Keeps R a (s.irisProcessStreamonOutput env) := by
  refine keeps_orGoto ?_ keeps_giveUp (hframe.onSession _)
  split_ifs
  · exact keeps_orGoto (hframe.allocAndQueueInputIntBufs env hs) keeps_giveUp fun _ _ => id
  · exact hs

theorem streamonInput (env : PoolEnv) (hs : R a s) : Keeps R a (s.irisVdecStreamonInput env) := by
  refine keeps_orGoto (hframe.onSession _ a _ (hframe.onInst _ hs)) keeps_giveUp fun a s hs => ?_
  refine orGoto_keep hs (keeps_giveUp a) fun s hs => ?_
  refine orGoto_keep (hframe.persist env a s hs) (keeps_giveUp a) fun s hs => ?_
  have hdestroyed := hframe.dequeued .output a _ (hframe.get env .output a s hs)
  refine orGoto_keep (hframe.create env .output a _ hdestroyed) (keeps_giveUp a) fun s hs => ?_
  exact orGoto_keep (hframe.queue env.queueRet .output a s hs) (keeps_giveUp a)
    (hframe.onSession _ a)

theorem streamonOutput (env : PoolEnv) (hs : R a s) :
    Keeps R a (s.irisVdecStreamonOutput env) := by
  have hrollback : ∀ a ret s, R a s → Keeps R a (PoolInst.streamonRollback env ret s) :=
    fun _ _ _ hs => (hframe.sessionStreamoff env .capture (hframe.onInst _ hs)).bind
      fun _ _ _ hs => hframe.onInst _ hs
  refine keeps_orGoto (hframe.onSession _ a _ (hframe.onInst _ hs)) keeps_giveUp fun a s hs => ?_
  have hdestroyed := hframe.dequeued .capture a _ (hframe.get env .capture a s hs)
  refine orGoto_keep (hframe.create env .capture a _ hdestroyed) (keeps_giveUp a) fun s hs => ?_
  refine keeps_orGoto (hframe.processStreamonOutput env hs) hrollback fun a s hs => ?_
  exact orGoto_keep (hframe.queue env.queueRet .capture a s hs) (hrollback a) fun _ => id

theorem startDeferred (env : PoolEnv) (plane : Plane) (hs : R a s) :
    R a (s.startDeferred env plane).2 := by
  let Kept (r : Int × PoolInst) : Prop := R a r.2
  refine orGoto_keep (P := Kept) (Q := R a) ?_ (fun _ _ => id) fun s hs => ?_
  · cases plane with
    | output => exact hframe.lift _ hs
    | capture => exact hs
  · split_ifs
    · exact orGoto_keep (P := Kept) (hframe.deferred _ a s hs) (fun _ _ => id)
        fun _ => hframe.lift _
    · exact hs

theorem startStreaming (env : PoolEnv) (plane : Plane) (hs : R a s) :
    Keeps R a (s.irisVb2StartStreaming env plane) := by
  have herror : ∀ a ret s, R a s → Keeps R a (PoolInst.startError plane ret s) :=
    fun _ _ _ hs => hframe.onInst _ hs
  unfold PoolInst.irisVb2StartStreaming
  split_ifs
  · exact herror a _ s hs
  · refine orGoto_keep hs (herror a) fun s hs => ?_
    refine keeps_orGoto (hframe.onSession _ a s hs) herror fun a s hs => ?_
    refine keeps_orGoto ?_ herror fun a s hs => ?_
    · cases plane with
      | output => exact hframe.streamonInput env hs
      | capture => exact hframe.streamonOutput env hs
    · exact orGoto_keep (hframe.startDeferred env plane hs) (herror a) fun _ => id

theorem stopStreaming (env : PoolEnv) (plane : Plane) (hs : R a s) :
    Keeps R a (s.irisVb2StopStreaming env plane) := by
  unfold PoolInst.irisVb2StopStreaming
  split_ifs
  · exact hs
  · exact (hframe.sessionStreamoff env plane (hframe.onInst _ hs)).bind
      fun _ _ _ hs => hframe.onInst _ hs

/-! ### Calls and commands -/

theorem body (call : PoolCall) (hs : R a s) : Keeps R a (s.body call) := by
  cases call with
  | reqbufs env => exact hframe.onSession _ a s hs
  | qbuf ret plane i data =>
      refine (?_ : R a _)
      split_ifs
      · exact hframe.session _ _ _ hs
      · exact hs
  | streamon env plane bufs =>
      dsimp only [PoolInst.body]
      split_ifs
      · exact hs
      · exact (hframe.startStreaming env plane (hframe.session _ _ _ hs)).bind
          fun _ _ _ hs => hframe.onInst _ hs
  | streamoff env plane =>
      dsimp only [PoolInst.body]
      split_ifs
      · exact (hframe.stopStreaming env plane hs).bind fun _ _ _ hs => hframe.onInst _ hs
      · exact hs

theorem startCmdFlushed (env : CmdEnv) (dpbRet : Nat → Int) (hs : R a s) :
    R a (s.irisVdecStartCmdFlushed env dpbRet).2 := by
  let Kept (r : Int × PoolInst) : Prop := R a r.2
  have hclear : ∀ ret subState, R a (orGoto (ret, s) (fun ret s => (ret, s)) (PoolInst.lift
      fun inst => irisInstChangeSubState (subState ||| pausedSubState inst) 0 inst)).2 :=
    fun _ _ => orGoto_keep (P := Kept) hs (fun _ _ => id) fun _ => hframe.lift _
  refine orGoto_keep (P := Kept) (Q := R a) ?_ (fun _ _ => id) fun s hs => ?_
  · split_ifs
    · exact hclear _ _
    · exact hclear _ _
    · exact hframe.onInst _ hs
  · have hdone := hframe.onInst (fun inst => { inst with lastBufferDequeued := false }) hs
    dsimp only
    split_ifs
    · refine orGoto_keep (P := Kept) (hframe.queue _ .capture a _ hdone) (fun _ _ => id)
        fun s hs => ?_
      exact orGoto_keep (P := Kept) (hframe.lift _ hs) (fun _ _ => id) fun _ => hframe.lift _
    · exact hdone

theorem decCmd (env : CmdEnv) (dpbRet : Nat → Int) (cmd : Cmd) (hs : R a s) :
    R a (s.irisDecCmd env dpbRet cmd).2 := by
  unfold PoolInst.irisDecCmd
  split_ifs
  · exact hs
  · exact hs
  · cases cmd with
    | start =>
        dsimp only [PoolInst.irisVdecStartCmd]
        split_ifs
        · exact hs
        · exact hs
        · exact hs
        · exact hframe.startCmdFlushed env dpbRet hs
    | stop => exact hframe.lift _ hs

end PoolFrame

namespace PoolRules

variable {Q : PoolInst → Prop} (hrules : PoolRules Q)
include hrules

theorem frame : PoolFrame fun a s => Q a → Q s where
  refl := fun _ => id
  session := fun _ s t hs ha => hrules.session s t (hs ha)
  get := fun env plane _ s hs ha => hrules.get env plane s (hs ha)
  create := fun env plane _ s hs ha => hrules.create env plane s (hs ha)
  queue := fun ret plane _ s hs ha => hrules.queue ret plane s (hs ha)
  deferred := fun ret _ s hs ha => hrules.deferred ret s (hs ha)
  persist := fun env _ s hs ha => hrules.persist env s (hs ha)
  release := fun type k _ s hs ha => hrules.release type k s (hs ha)
  dequeued := fun plane _ s hs ha => hrules.dequeued plane s (hs ha)
  all := fun plane _ s hs ha => hrules.all plane s (hs ha)

theorem handle (event : PoolEvent) (hs : Q s) : Q (s.handle event) := by
  cases event with
  | message env pktType mem => exact hrules.message env pktType mem s hs
  | systemError => exact hrules.frame.onInst _ id hs
  | responseTimeout => exact hrules.frame.onInst _ id hs
  | cmd env dpbRet cmd => exact hrules.frame.decCmd env dpbRet cmd id hs
  | startFlushed env dpbRet timedOut =>
      cases timedOut with
      | true => exact hrules.frame.onInst _ id hs
      | false => exact hrules.frame.startCmdFlushed env dpbRet id hs
  | negotiated formats splitMode numBuffers => exact hrules.negotiated _ _ _ s hs

theorem body (call : PoolCall) (hs : Q s) : (s.body call).Enters (fun _ _ => True) Q :=
  (hrules.frame.body call id).enters (fun _ _ hkeep => hkeep) hs

theorem resume {call : InstCall} {timedOut : Bool} {t : PoolInst}
    (hresume : s.resume call timedOut = some t) (hs : Q s) : Q t := by
  obtain ⟨session, -, rfl⟩ := Option.map_eq_some_iff.1 hresume
  exact hrules.session s session hs

/-- **The rule for runs.** -/
theorem runs (hs : Q s) (moves : List PoolMove) : Q (poolMachine.runs s moves).state := by
  have hentered : (poolMachine.runs s moves).Entered (fun _ _ => True) Q :=
    @foldl_invariant _ _ poolMachine.step (fun _ _ => True) moves
      (Config.Entered (fun _ _ => True) Q)
      (fun c move _ hentered _ => hentered.step (fun event _ => hrules.handle event)
        (fun _ _ _ _ => hrules.resume)
        (fun call _ hs => (hrules.body call hs).entered) move)
      _ ⟨hs, nofun⟩ fun _ _ _ _ => trivial
  exact hentered.1

end PoolRules

end NabuIris
