import TrxdbLoader.Pipeline
import TrxdbLoader.Truncation

/-! # Stored before finalized, whatever the database answers

    `FullJob` writes a block on its `New` and finalizes it with its group,
    which the fork resolver emits after every `New` of the group.  Against a
    reliable Commit Target the calls therefore store each block before they
    mark it irreversible; against any other, the calls are a prefix of those
    (`pipelineRun_trails`), and the order survives the cut.  Behind the job
    pipeline's gate, only a block whose `New` the gate held back, numbered
    below the start block, can be finalized without being stored.

    * `StoredFirst`: every `UpdateNowIrreversibleBlock` comes after a
      `PutBlock` of its block, read left to right like `NewFirstFrom`;
    * `storedFirst_emissionWrites`: the emissions' writes are stored first
      when each group's blocks were emitted `New` before it;
    * `pipelineRun_reliable_carried`: the reliable pipeline over carried
      deliveries issues `FullJob`'s calls and never stops;
    * `put_before_finalize`: the gated job pipeline against any target. -/

namespace TrxdbLoader

-- ── Stored before finalized ─────────────────────────────────────────────────

/-- Every `UpdateNowIrreversibleBlock` of `cs` finalizes a block stored
    before it: among `stored`, or by an earlier `PutBlock` of `cs`. -/
def StoredFirst : List Block → List Call → Prop
  | _, [] => True
  | stored, .putBlock b :: cs => StoredFirst (b :: stored) cs
  | stored, .updateNowIrreversibleBlock b :: cs => b ∈ stored ∧ StoredFirst stored cs
  | stored, .flush :: cs => StoredFirst stored cs

/-- Flushes do not matter. -/
theorem storedFirst_writes (cs : List Call) :
    ∀ {s : List Block}, StoredFirst s (writes cs) ↔ StoredFirst s cs := by
  induction cs with
  | nil => exact Iff.rfl
  | cons c cs ih =>
    intro s
    cases c <;> simp only [writes_cons, Call.isWrite, if_true, Bool.false_eq_true, if_false]
    · exact ih
    · exact and_congr Iff.rfl ih
    · exact ih

theorem storedFirst_updates (g : List Block) (cs : List Call) {s : List Block} :
    StoredFirst s (g.map .updateNowIrreversibleBlock ++ cs) ↔
      (∀ b ∈ g, b ∈ s) ∧ StoredFirst s cs := by
  induction g with
  | nil => simp
  | cons b g ih => simp [StoredFirst, ih, and_assoc]

/-- A finalization in calls that store first has its `PutBlock` before it. -/
theorem StoredFirst.put_mem {b : Block} {post : List Call} :
    ∀ {s : List Block} (pre : List Call),
      StoredFirst s (pre ++ .updateNowIrreversibleBlock b :: post) →
        b ∈ s ∨ .putBlock b ∈ pre
  | _, [], h => .inl h.1
  | _, c :: pre, h => by
    cases c with
    | putBlock b' =>
      rcases StoredFirst.put_mem pre h with h | h
      · rcases List.mem_cons.mp h with rfl | h
        · exact .inr (List.mem_cons_self _ _)
        · exact .inl h
      · exact .inr (List.mem_cons_of_mem _ h)
    | updateNowIrreversibleBlock b' =>
      exact (StoredFirst.put_mem pre h.2).imp_right (List.mem_cons_of_mem _)
    | flush => exact (StoredFirst.put_mem pre h).imp_right (List.mem_cons_of_mem _)

/-- The emissions' writes store first, when each group's blocks were
    emitted `New` before it or lie among the blocks stored already. -/
theorem storedFirst_emissionWrites (env : Env) (es : List Emission) :
    ∀ {seen s : List Block}, NewFirstFrom seen es → (∀ b ∈ seen, b ∈ s) →
      StoredFirst s (es.flatMap (emissionWrites env)) := by
  induction es with
  | nil => exact fun _ _ => trivial
  | cons e es ih =>
    intro seen s hnew hs
    cases e with
    | new b =>
      rw [List.flatMap_cons, emissionWrites, List.append_assoc, sentinelWrites]
      split_ifs
      · exact ⟨List.mem_cons_self _ _, ih hnew fun x hx => List.mem_cons.mpr
          ((List.mem_cons.mp hx).imp_right fun hx => List.mem_cons_of_mem _ (hs x hx))⟩
      · exact ih hnew fun x hx => List.mem_cons.mpr ((List.mem_cons.mp hx).imp_right (hs x))
    | irreversible g =>
      rw [List.flatMap_cons, emissionWrites, storedFirst_updates]
      exact ⟨fun b hb => hs b (hnew.1 b hb), ih hnew.2 hs⟩

-- ── The reliable pipeline over carried deliveries ───────────────────────────

/-- The resolver hands on only `New` and `Irreversible` steps. -/
theorem Carries.step {es : List Emission} {ds : List Delivery} (hc : Carries es ds) :
    ∀ d ∈ ds, d.obj.step = .new ∨ d.obj.step = .irreversible := by
  induction hc with
  | nil => simp
  | new b obj now h _ ih =>
    simp only [List.mem_cons, forall_eq_or_imp]
    exact ⟨.inl h, ih⟩
  | irreversible g gs h _ ih =>
    intro d hd
    rcases List.mem_append.mp hd with hd | hd
    exacts [.inr (group_irreversible h d hd), ih d hd]

theorem fullJobCalls_congr (env : Env) {l l' : BigtableLoader} (hb : l'.batchSize = l.batchSize)
    (he : l'.endBlock = l.endBlock) : fullJobCalls env l' = fullJobCalls env l := by
  funext d
  simp [fullJobCalls, dueFlush, isCutoff, hb, he]

/-- With no stop block, a delivery leaves the source running. -/
theorem lifecycleAfter_sourceShutter (env : Env) (d : Delivery) {l : BigtableLoader}
    (he : l.endBlock = 0) : (lifecycleAfter env l d).sourceShutter = l.sourceShutter := by
  unfold lifecycleAfter
  split_ifs with ht hc
  · rfl
  · exact absurd hc (not_isCutoff he _ _)
  · split <;> rfl

/-- A running `FullJob` pipeline with no stop block, fed `New` and
    `Irreversible` deliveries against a reliable target, never stops and
    issues `FullJob`'s calls for each. -/
theorem pipelineRun_reliable_carried (env : Env) (ds : List Delivery)
    (hs : ∀ d ∈ ds, d.obj.step = .new ∨ d.obj.step = .irreversible) :
    ∀ {l : BigtableLoader}, 0 < l.batchSize → l.shutter = none → l.sourceShutter = none →
      l.processingJob = .fullJob → l.endBlock = 0 →
      ∃ l', pipelineRun env.reliable l (ds.map .deliver) = some l' ∧
        l'.calls = l.calls ++ ds.flatMap (fullJobCalls env l) := by
  induction ds with
  | nil => exact fun _ _ _ _ _ => ⟨_, rfl, by simp⟩
  | cons d ds ih =>
    intro l hb hr hsrc hj he
    obtain ⟨l', h1, h2, h3⟩ := processBlock_reliable env d l hb
    have hres : plannedResult l d = none := by
      rcases hs d (List.mem_cons_self _ _) with h | h <;>
        simp [plannedResult, fullJobResult, BigtableLoader.isTerminating, hr, hj, h]
    rw [hres] at h1
    have hsrc' : l'.sourceShutter = none := by
      have h := processBlock_lifecycle env.reliable d l
      rw [h1, stateOf_ok] at h
      rw [← hsrc, ← lifecycleAfter_sourceShutter env.reliable d he, ← h]
      rfl
    obtain ⟨l'', e, hc⟩ := ih (fun d hd => hs d (List.mem_cons_of_mem _ hd)) (h2.batchSize ▸ hb)
      (by rw [h3, if_neg (not_plannedShutdown he d), hr]) hsrc' (h2.processingJob ▸ hj)
      (h2.endBlock ▸ he)
    refine ⟨l'', ?_, ?_⟩
    · simp [pipelineRun, pipelineStep_deliver_of_ok hsrc h1, e]
    · rw [hc, h2.calls, plannedCalls_fullJob env hr hj,
        fullJobCalls_congr env h2.batchSize h2.endBlock,
        List.flatMap_cons, List.append_assoc]

-- ── Against any Commit Target ───────────────────────────────────────────────

/-- **PUT BEFORE FINALIZE**: a fresh pipeline built by `BuildPipelineJob`
    with the full job, a positive batch size and no stop block, launched and
    fed what the inclusive gate at `S` passes of a resolver output in which
    each group's blocks were emitted `New` before it, against any Commit
    Target: every `UpdateNowIrreversibleBlock` the database receives of a
    block numbered `S` or more comes after a `PutBlock` of the same block. -/
theorem put_before_finalize (env : Env) {B S n : Nat} (hB : 0 < B) {es : List Emission}
    {ds : List Delivery} (hc : Carries es ds) (hnew : NewFirst es) {l : BigtableLoader}
    (h : pipelineRun env ((newBigtableLoader B).buildPipelineJob S (.ok n) .fullJob).launch
      ((blockNumGate S gateMaxHoldOff ds).map .deliver) = some l) :
    ∀ pre b post, l.calls = pre ++ .updateNowIrreversibleBlock b :: post →
      .putBlock b ∈ pre ∨ b.number < S := by
  intro pre b post hl
  let l₀ := ((newBigtableLoader B).buildPipelineJob S (.ok n) .fullJob).launch
  have he : l₀.endBlock = 0 := rfl
  obtain ⟨held, hsplit, -⟩ := blockNumGate_split S gateMaxHoldOff ds
  obtain ⟨es₁, E, rfl, hheld, hW, -⟩ := blockNumGate_carried env he S gateMaxHoldOff hc
  obtain ⟨seen, hseen, hnf⟩ := NewFirstFrom.append_right es₁ hnew
  set gated := blockNumGate S gateMaxHoldOff ds
  obtain ⟨lr, hr, -, -, ht⟩ := pipelineRun_trails env (gated.map .deliver)
    (show Trails l₀ l₀ from ⟨hB, rfl, .inl ⟨rfl, rfl⟩⟩) h
  obtain ⟨lr', hr', hcalls⟩ := @pipelineRun_reliable_carried env gated
    (fun d hd => hc.step d (hsplit ▸ List.mem_append_right held hd)) l₀ hB rfl rfl rfl rfl
  obtain rfl : lr = lr' := Option.some.inj (hr.symm.trans hr')
  have hstored : StoredFirst seen lr.calls := by
    rw [← storedFirst_writes, hcalls, writes_append, writes_flatMap, hW]
    exact storedFirst_emissionWrites env E hnf fun _ h => h
  have hpre : l.calls <+: lr.calls := by
    rcases ht with ⟨h, -⟩ | ⟨-, h⟩
    exacts [h ▸ List.prefix_refl _, h]
  obtain ⟨t, ht⟩ := hpre
  rw [← ht, hl, List.append_assoc, List.cons_append] at hstored
  exact (StoredFirst.put_mem pre hstored).symm.imp_right fun hb =>
    hheld b ((hseen b hb).resolve_left (List.not_mem_nil _))

/-- A Commit Target that refuses to finalize block 2, behind a gate at
    block 1: the pipeline stops on that call, after storing both blocks and
    finalizing block 1. -/
theorem put_before_finalize_refused :
    let b₁ : Block := ⟨1, "b1", "b0", 0⟩
    let b₂ : Block := ⟨2, "b2", "b1", 0⟩
    let es := [.new b₁, .new b₂, .irreversible [b₁, b₂]]
    let ds : List Delivery := [⟨b₁, ⟨.new, 0, 0, []⟩, 0⟩, ⟨b₂, ⟨.new, 0, 0, []⟩, 0⟩,
      ⟨b₁, ⟨.irreversible, 0, 2, [b₁, b₂]⟩, 0⟩, ⟨b₂, ⟨.irreversible, 1, 2, [b₁, b₂]⟩, 0⟩]
    let env : Env :=
      ⟨fun _ c => if c = .updateNowIrreversibleBlock b₂ then some "unavailable" else none, 0, 0⟩
    let l₀ := ((newBigtableLoader 1).buildPipelineJob 1 (.ok 1) .fullJob).launch
    let evs := (blockNumGate 1 gateMaxHoldOff ds).map .deliver
    let l := (pipelineRun env l₀ evs).getD l₀
    0 < 1 ∧ Carries es ds ∧ NewFirst es ∧ pipelineRun env l₀ evs = some l ∧
      l.calls = [.putBlock b₁, .flush, .putBlock b₂, .flush, .updateNowIrreversibleBlock b₁,
        .updateNowIrreversibleBlock b₂] ∧
      ∀ pre b post, l.calls = pre ++ .updateNowIrreversibleBlock b :: post →
        .putBlock b ∈ pre ∨ b.number < 1 := by
  intro b₁ b₂ es ds env l₀ evs l
  have hc : Carries es ds :=
    .new _ _ _ rfl (.new _ _ _ rfl (.irreversible [b₁, b₂] (ds.drop 2) rfl .nil))
  have hnew : NewFirst es := by decide
  have h : pipelineRun env l₀ evs = some l := by decide
  exact ⟨by decide, hc, hnew, h, by decide, put_before_finalize env (by decide) hc hnew h⟩

end TrxdbLoader
