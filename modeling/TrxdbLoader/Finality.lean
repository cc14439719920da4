import Mathlib.Data.List.Nodup
import TrxdbLoader.Resolver

/-! # Exactly-once finalization, whatever the grouping

    With no stop block and a reliable Commit Target, each delivery's calls
    depend on the delivery alone.  The `StepIndex != 0` skip and the group-wide
    loop of `UpdateIrreversibleData` then compose: each group is finalized by
    its first delivery, in group order, and by no other.

    * `finalizations_fullJobCalls`, `writes_fullJobCalls`: one delivery;
    * `writes_carried`, `finalizations_carried`: a carried emission sequence;
    * `finalizes_each_group_once`: the whole run, and its invariance when a
      run of groups is cut differently. -/

namespace TrxdbLoader

/-- The block a call finalizes, if it is `UpdateNowIrreversibleBlock`. -/
@[simp] def Call.finalized : Call → Option Block
  | .updateNowIrreversibleBlock b => some b
  | _ => none

/-- The blocks a list of calls finalizes, in order. -/
def finalizations (cs : List Call) : List Block := cs.filterMap Call.finalized

/-- `PutBlock` and `UpdateNowIrreversibleBlock` are writes; a flush is not. -/
@[simp] def Call.isWrite : Call → Bool
  | .flush => false
  | _ => true

/-- The writes among a list of calls, in order. -/
def writes (cs : List Call) : List Call := cs.filter Call.isWrite

/-- The writes one emission should cause: a new block is stored, after the
    Genesis Sentinel at the first streamable block; a group is finalized in
    order. -/
def emissionWrites (env : Env) : Emission → List Call
  | .new b => sentinelWrites env b ++ [.putBlock b]
  | .irreversible g => g.map .updateNowIrreversibleBlock

@[simp] theorem writes_append (cs cs' : List Call) : writes (cs ++ cs') = writes cs ++ writes cs' :=
  by simp [writes]

@[simp] theorem writes_nil : writes [] = [] := rfl

@[simp] theorem writes_writes (cs : List Call) : writes (writes cs) = writes cs := by
  simp only [writes, List.filter_filter, Bool.and_self]

@[simp] theorem writes_cons (c : Call) (cs : List Call) :
    writes (c :: cs) = if c.isWrite then c :: writes cs else writes cs := by
  simp only [writes, List.filter_cons]

@[simp] theorem writes_flatMap {α : Type} (xs : List α) (f : α → List Call) :
    writes (xs.flatMap f) = xs.flatMap fun x => writes (f x) := by
  induction xs <;> simp [*]

@[simp] theorem finalizations_nil : finalizations [] = [] := rfl

@[simp] theorem finalizations_cons (c : Call) (cs : List Call) :
    finalizations (c :: cs) = c.finalized.toList ++ finalizations cs := by
  cases c <;> rfl

@[simp] theorem finalizations_append (cs cs' : List Call) :
    finalizations (cs ++ cs') = finalizations cs ++ finalizations cs' := by
  simp [finalizations]

@[simp] theorem writes_dueFlush (l : BigtableLoader) (d : Delivery) :
    writes (dueFlush l d) = [] := by
  unfold dueFlush; split <;> rfl

@[simp] theorem finalizations_dueFlush (l : BigtableLoader) (d : Delivery) :
    finalizations (dueFlush l d) = [] := by
  unfold dueFlush; split <;> rfl

@[simp] theorem writes_sentinelWrites (env : Env) (b : Block) :
    writes (sentinelWrites env b) = sentinelWrites env b := by
  unfold sentinelWrites; split <;> rfl

@[simp] theorem writes_updates (bs : List Block) :
    writes (bs.map .updateNowIrreversibleBlock) = bs.map .updateNowIrreversibleBlock := by
  simp [writes, List.filter_map, Function.comp_def, Call.isWrite]

@[simp] theorem finalizations_updates (bs : List Block) :
    finalizations (bs.map .updateNowIrreversibleBlock) = bs := by
  simp [finalizations, List.filterMap_map, Function.comp_def]

section NoStopBlock

variable (env : Env) {l : BigtableLoader}

omit env in
theorem not_isCutoff (he : l.endBlock = 0) (n : Nat) (o : ForkableObject) : ¬ isCutoff l n o :=
  fun h => h.1 he

omit env in
theorem not_plannedShutdown (he : l.endBlock = 0) (d : Delivery) : ¬ plannedShutdown l d :=
  fun h => not_isCutoff he _ _ h.2.2

/-- With no stop block, a running `FullJob` loader issues `FullJob`'s calls
    for each delivery. -/
theorem trace_noStop (hb : 0 < l.batchSize) (hr : l.shutter = none)
    (hj : l.processingJob = .fullJob) (he : l.endBlock = 0) (ds : List Delivery) :
    trace env.reliable l ds = ds.map fun d => (d, fullJobCalls env l d) := by
  rw [trace_reliable_running env ds hb hr fun d _ => not_plannedShutdown he d,
    plannedCalls_fullJob env hr hj]

theorem run_noStop_calls (hb : 0 < l.batchSize) (hr : l.shutter = none)
    (hj : l.processingJob = .fullJob) (he : l.endBlock = 0) (ds : List Delivery) :
    (run env.reliable l ds).calls = l.calls ++ ds.flatMap (fullJobCalls env l) := by
  rw [(run_reliable_running env ds hb hr fun d _ => not_plannedShutdown he d).1.calls,
    plannedCalls_fullJob env hr hj]

theorem writes_run_noStop (hb : 0 < l.batchSize) (hr : l.shutter = none)
    (hj : l.processingJob = .fullJob) (he : l.endBlock = 0) (ds : List Delivery) :
    writes (run env.reliable l ds).calls =
      writes l.calls ++ ds.flatMap fun d => writes (fullJobCalls env l d) := by
  rw [run_noStop_calls env hb hr hj he, writes_append, writes_flatMap]

/-- One delivery's writes, with no stop block. -/
theorem writes_fullJobCalls (he : l.endBlock = 0) (d : Delivery) :
    writes (fullJobCalls env l d) =
      if d.obj.step = .new then sentinelWrites env d.block ++ [.putBlock d.block]
      else if d.obj.step = .irreversible ∧ d.obj.stepIndex = 0 then
        d.obj.stepBlocks.map .updateNowIrreversibleBlock
      else [] := by
  unfold fullJobCalls
  split <;> simp_all [not_isCutoff he, Call.isWrite]
  split_ifs <;> simp

/-- One delivery's finalizations, with no stop block: the whole group on the
    first delivery of an `Irreversible` group, the Genesis Sentinel on the
    first streamable `New`, nothing otherwise. -/
theorem finalizations_fullJobCalls (he : l.endBlock = 0) (d : Delivery) :
    finalizations (fullJobCalls env l d) =
      if d.obj.step = .irreversible ∧ d.obj.stepIndex = 0 then d.obj.stepBlocks
      else if d.obj.step = .new ∧ d.block.number = env.protocolFirstStreamableBlock then
        [genesisBlock env d.block]
      else [] := by
  unfold fullJobCalls sentinelWrites
  split <;> simp_all [not_isCutoff he, Call.finalized]
  all_goals split_ifs <;> simp_all

/-- Over carried deliveries, the writes are the emissions' writes. -/
theorem writes_carried (he : l.endBlock = 0) {es : List Emission} {ds : List Delivery}
    (hc : Carries es ds) :
    ds.flatMap (fun d => writes (fullJobCalls env l d)) = es.flatMap (emissionWrites env) := by
  induction hc with
  | nil => rfl
  | new b obj now h _ ih =>
    rw [List.flatMap_cons, List.flatMap_cons, ih, writes_fullJobCalls env he]
    simp [h, emissionWrites]
  | irreversible g gs h _ ih =>
    rw [List.flatMap_append, ih, groupTags_flatMap (List.map .updateNowIrreversibleBlock) rfl
      (fun d hd => by simp [writes_fullJobCalls env he, hd]) h]
    simp [emissionWrites]

/-- Over carried deliveries, the `Irreversible` deliveries finalize the
    groups' blocks, group after group, each group in order. -/
theorem finalizations_carried (he : l.endBlock = 0) {es : List Emission} {ds : List Delivery}
    (hc : Carries es ds) :
    (ds.filter fun d => d.obj.step = .irreversible).flatMap
      (fun d => finalizations (fullJobCalls env l d)) = es.flatMap Emission.group := by
  induction hc with
  | nil => rfl
  | new b obj now h _ ih => simp [h, ih, Emission.group]
  | irreversible g gs h _ ih =>
    rw [List.filter_append, List.filter_eq_self.mpr (by simpa using group_irreversible h),
      List.flatMap_append, ih, groupTags_flatMap id rfl
        (fun d hd => by simp [finalizations_fullJobCalls env he, hd]) h]
    simp

/-- A running `FullJob` loader with no stop block and no calls yet writes a
    carried sequence's emission writes. -/
theorem writes_run_carried (hb : 0 < l.batchSize) (hr : l.shutter = none)
    (hj : l.processingJob = .fullJob) (he : l.endBlock = 0) (hcalls : l.calls = [])
    {es : List Emission} {ds : List Delivery} (hc : Carries es ds) :
    writes (run env.reliable l ds).calls = es.flatMap (emissionWrites env) := by
  rw [writes_run_noStop env hb hr hj he, hcalls, writes_nil, List.nil_append,
    writes_carried env he hc]

/-- ... and its `Irreversible` deliveries finalize the groups' blocks. -/
theorem finalizations_trace_carried (hb : 0 < l.batchSize) (hr : l.shutter = none)
    (hj : l.processingJob = .fullJob) (he : l.endBlock = 0) {es : List Emission}
    {ds : List Delivery} (hc : Carries es ds) :
    ((trace env.reliable l ds).filter fun x => x.1.obj.step = .irreversible).flatMap
      (fun x => finalizations x.2) = es.flatMap Emission.group := by
  rw [trace_noStop env hb hr hj he, ← finalizations_carried env he hc]
  simp [List.filter_map, List.flatMap_map, Function.comp_def]

theorem flatMap_emissionWrites_groups (gs : List (List Block)) :
    (gs.map Emission.irreversible).flatMap (emissionWrites env) =
      gs.flatten.map .updateNowIrreversibleBlock := by
  induction gs with
  | nil => rfl
  | cons g gs ih => simp [← ih, emissionWrites]

end NoStopBlock

/-- **EXACTLY-ONCE FINALIZATION**: a fresh loader fed carried deliveries, with
    no stop block and a reliable Commit Target, finalizes in each delivery
    only the group of a `StepIndex 0` delivery or the Genesis Sentinel; the
    `Irreversible` deliveries finalize the groups' blocks in order, each
    once; a block's `PutBlock` precedes its finalization; and the writes do
    not depend on how a run of groups is cut. -/
theorem finalizes_each_group_once (env : Env) {B : Nat} (hB : 0 < B) {es : List Emission}
    {ds : List Delivery} (hc : Carries es ds) (hnew : NewFirst es) (hdisj : Disjoint es) :
    let T := trace env.reliable (newBigtableLoader B) ds
    let F := (T.filter fun x => x.1.obj.step = .irreversible).flatMap fun x => finalizations x.2
    let W := writes (run env.reliable (newBigtableLoader B) ds).calls
    (∀ x ∈ T, finalizations x.2 =
      if x.1.obj.step = .irreversible ∧ x.1.obj.stepIndex = 0 then x.1.obj.stepBlocks
      else if x.1.obj.step = .new ∧ x.1.block.number = env.protocolFirstStreamableBlock then
        [genesisBlock env x.1.block]
      else []) ∧
    F = es.flatMap Emission.group ∧
    (∀ b ∈ es.flatMap Emission.group, F.count b = 1) ∧
    W = es.flatMap (emissionWrites env) ∧
    (∀ b ∈ es.flatMap Emission.group, ∃ W₁ W₂, W = W₁ ++ W₂ ∧
      Call.putBlock b ∈ W₁ ∧ Call.updateNowIrreversibleBlock b ∈ W₂) ∧
    (∀ es' ds', Carries es' ds' → Regroups es es' →
      writes (run env.reliable (newBigtableLoader B) ds').calls = W) := by
  intro T F W
  have he : (newBigtableLoader B).endBlock = 0 := rfl
  have hT : T = ds.map fun d => (d, fullJobCalls env (newBigtableLoader B) d) :=
    trace_noStop env hB rfl rfl he ds
  have hF : F = es.flatMap Emission.group := finalizations_trace_carried env hB rfl rfl he hc
  have hWes : W = es.flatMap (emissionWrites env) := writes_run_carried env hB rfl rfl he rfl hc
  refine ⟨?_, hF, fun b hb => hF ▸ List.count_eq_one_of_mem hdisj hb, hWes, ?_, ?_⟩
  · intro x hx
    obtain ⟨d, -, rfl⟩ := List.mem_map.mp (hT ▸ hx)
    exact finalizations_fullJobCalls env he d
  · intro b hb
    obtain ⟨_ | g, hg, hbg⟩ := List.mem_flatMap.mp hb
    · simp at hbg
    obtain ⟨pre, post, rfl⟩ := List.append_of_mem hg
    refine ⟨pre.flatMap (emissionWrites env),
      g.map .updateNowIrreversibleBlock ++ post.flatMap (emissionWrites env),
      by simp [hWes, emissionWrites], ?_, ?_⟩
    · exact List.mem_flatMap.mpr ⟨_, hnew.mem_pre rfl hbg, by simp [emissionWrites]⟩
    · exact List.mem_append_left _ (List.mem_map_of_mem _ hbg)
  · rintro es' ds' hc' ⟨pre, post, gs, gs', rfl, rfl, hfl⟩
    rw [writes_run_carried env hB rfl rfl he rfl hc', hWes]
    simp [flatMap_emissionWrites_groups, hfl]

/-- Two blocks written, then finalized as one group of two deliveries. -/
theorem finalizes_each_group_once_pair :
    let b₁ : Block := ⟨1, "b1", "b0", 0⟩
    let b₂ : Block := ⟨2, "b2", "b1", 0⟩
    let es := [.new b₁, .new b₂, .irreversible [b₁, b₂]]
    let ds : List Delivery := [⟨b₁, ⟨.new, 0, 0, []⟩, 0⟩, ⟨b₂, ⟨.new, 0, 0, []⟩, 0⟩,
      ⟨b₁, ⟨.irreversible, 0, 2, [b₁, b₂]⟩, 0⟩, ⟨b₂, ⟨.irreversible, 1, 2, [b₁, b₂]⟩, 0⟩]
    let env : Env := ⟨Target.reliable, 0, 0⟩
    0 < 1 ∧ Carries es ds ∧ NewFirst es ∧ Disjoint es ∧
      writes (run env.reliable (newBigtableLoader 1) ds).calls =
        [.putBlock b₁, .putBlock b₂, .updateNowIrreversibleBlock b₁,
          .updateNowIrreversibleBlock b₂] := by
  intro b₁ b₂ es ds env
  have hc : Carries es ds :=
    .new _ _ _ rfl (.new _ _ _ rfl (.irreversible [b₁, b₂] (ds.drop 2) rfl .nil))
  have hnew : NewFirst es := by decide
  have hdisj : Disjoint es := by decide
  exact ⟨by decide, hc, hnew, hdisj,
    (finalizes_each_group_once env (by decide) hc hnew hdisj).2.2.2.1⟩

end TrxdbLoader
