import TrxdbLoader.Finality

/-! # `PatchJob` is `FullJob` without its writes

    `BuildPipelinePatch` runs `PatchJob`, the narrower policy for one-off
    corrections: on `New` it records progress and runs the flush controller,
    on `Irreversible` it applies only the stop-block cutoff.  Against a
    reliable Commit Target with a positive batch size it issues, delivery by
    delivery, `FullJob`'s calls without the writes and without the flush
    `FlushIfNeeded` makes on an `Irreversible` delivery, and shuts the loader
    down at the same delivery.

    * `patchJobCalls_eq`: one delivery;
    * `trace_patchJob`: every run, for any two loaders that agree on the
      configuration and differ in the job;
    * `patchJob_simulates_fullJob`: the same loader under either job. -/

namespace TrxdbLoader

/-- `FullJob`'s calls `cs` for `d` with the writes removed, and on an
    `Irreversible` delivery other than the cutoff also the flushes, which
    `FlushIfNeeded` made there. -/
def withoutWrites (l : BigtableLoader) (d : Delivery) (cs : List Call) : List Call :=
  cs.filter fun c => !c.isWrite ∧
    ¬ (c = .flush ∧ d.obj.step = .irreversible ∧ ¬ isCutoff l d.block.number d.obj)

theorem withoutWrites_congr {l l' : BigtableLoader} (he : l'.endBlock = l.endBlock)
    (d : Delivery) (cs : List Call) : withoutWrites l' d cs = withoutWrites l d cs := by
  simp [withoutWrites, isCutoff, he]

/-- One delivery: `PatchJob` issues `FullJob`'s calls without its writes. -/
theorem patchJobCalls_eq (env : Env) {lf lp : BigtableLoader}
    (hb : lp.batchSize = lf.batchSize) (he : lp.endBlock = lf.endBlock) (d : Delivery) :
    patchJobCalls lp d = withoutWrites lf d (fullJobCalls env lf d) := by
  have hc : isCutoff lp d.block.number d.obj ↔ isCutoff lf d.block.number d.obj := by
    simp [isCutoff, he]
  unfold patchJobCalls fullJobCalls withoutWrites dueFlush sentinelWrites
  split <;> (try split_ifs) <;> simp_all [List.filter_map, Function.comp_def]

section Simulation

variable (env : Env)

/-- **PATCH RUN**: a `PatchJob` loader and a `FullJob` loader that agree on
    the batch size, the stop block and the shutter issue, delivery by
    delivery, the `FullJob` calls without the writes, and stay shut down
    alike. -/
theorem trace_patchJob (ds : List Delivery) :
    ∀ (lf lp : BigtableLoader), 0 < lf.batchSize → lp.batchSize = lf.batchSize →
      lp.endBlock = lf.endBlock → lp.shutter = lf.shutter →
      lf.processingJob = .fullJob → lp.processingJob = .patchJob →
      trace env.reliable lp ds =
          (trace env.reliable lf ds).map (fun x => (x.1, withoutWrites lf x.1 x.2)) ∧
        (run env.reliable lp ds).shutter = (run env.reliable lf ds).shutter := by
  induction ds with
  | nil => intro _ _ _ _ _ hr _ _; exact ⟨rfl, hr⟩
  | cons d ds ih =>
    intro lf lp hb hbs he hr hjf hjp
    obtain ⟨lf', hf1, hf2, hf3⟩ := processBlock_reliable env d lf hb
    obtain ⟨lp', hp1, hp2, hp3⟩ := processBlock_reliable env d lp (hbs ▸ hb)
    have ht : lp.isTerminating = lf.isTerminating := by simp [BigtableLoader.isTerminating, hr]
    have hsd : plannedShutdown lp d ↔ plannedShutdown lf d := by
      simp [plannedShutdown, isCutoff, ht, he]
    obtain ⟨ih1, ih2⟩ := ih lf' lp' (hf2.batchSize ▸ hb) (by rw [hp2.batchSize, hf2.batchSize, hbs])
      (by rw [hp2.endBlock, hf2.endBlock, he]) (by rw [hp3, hf3, hr]; simp [hsd])
      (hf2.processingJob ▸ hjf) (hp2.processingJob ▸ hjp)
    refine ⟨?_, by rw [run_cons_of_ok ds hp1, run_cons_of_ok ds hf1, ih2]⟩
    rw [trace_cons_of_ok ds hp1, trace_cons_of_ok ds hf1, issuedBy_reliable env d (hbs ▸ hb),
      issuedBy_reliable env d hb, ih1, List.map_cons]
    refine congrArg₂ _ ?_ (List.map_congr_left fun x _ => ?_)
    · by_cases hT : lf.isTerminating
      · simp [plannedCalls, hT, ht, withoutWrites]
      · simp [plannedCalls, hT, ht, hjf, hjp, patchJobCalls_eq env hbs he]
    · simp [withoutWrites_congr (hf2.endBlock) x.1 x.2]

end Simulation

/-- **PATCH SIMULATES FULL**: against a reliable Commit Target with a positive
    batch size, the loader under `PatchJob` issues, delivery by delivery,
    its calls under `FullJob` without the writes and without the flushes
    `FlushIfNeeded` makes on `Irreversible` deliveries, and after every
    prefix of the deliveries the two are shut down alike. -/
theorem patchJob_simulates_fullJob (env : Env) (l : BigtableLoader) (hb : 0 < l.batchSize)
    (ds : List Delivery) :
    trace env.reliable { l with processingJob := .patchJob } ds =
        (trace env.reliable { l with processingJob := .fullJob } ds).map
          (fun x => (x.1, withoutWrites l x.1 x.2)) ∧
      ∀ n, (run env.reliable { l with processingJob := .patchJob } (ds.take n)).shutter =
        (run env.reliable { l with processingJob := .fullJob } (ds.take n)).shutter :=
  have h := fun ds => trace_patchJob env ds { l with processingJob := .fullJob }
    { l with processingJob := .patchJob } hb rfl rfl rfl rfl rfl
  ⟨(h ds).1, fun n => (h (ds.take n)).2⟩

/-- A block written and finalized alone at stop block 1: `PatchJob` keeps
    only `FullJob`'s flush on `New` and the cutoff's flush. -/
theorem patchJob_simulates_fullJob_cutoff :
    let b₁ : Block := ⟨1, "b1", "b0", 0⟩
    let env : Env := ⟨Target.reliable, 0, 0⟩
    let l := (newBigtableLoader 1).stopBeforeBlock 1
    let ds : List Delivery := [⟨b₁, ⟨.new, 0, 0, []⟩, 0⟩, ⟨b₁, ⟨.irreversible, 0, 1, [b₁]⟩, 0⟩]
    0 < l.batchSize ∧
      (trace env.reliable { l with processingJob := .patchJob } ds).map (fun x => x.2) =
        [[.flush], [.flush]] := by
  intro b₁ env l ds
  refine ⟨by decide, ?_⟩
  rw [(patchJob_simulates_fullJob env l (by decide) ds).1]
  decide

end TrxdbLoader
