import TrxdbLoader.Truncation

/-! # The patch pipeline only flushes

    `BuildPipelinePatch` runs `PatchJob`, whose `patchDatabase` is empty: it
    flushes on a `New` when the batch is due and at the stop-block cutoff,
    and never calls `setHealthy`.  Over any run of its pipeline, against any
    Commit Target and with any events, the loader so sends the database
    nothing but `Flush`, and `Healthy()` stays false.

    * `plannedCalls_patchJob_flush`: every call a `PatchJob` delivery plans
      is a flush;
    * `lifecycleAfter_patchJob_healthy`: no delivery marks it healthy;
    * `PatchRunning`: the invariant, kept by every event
      (`pipelineStep_patchRunning`) and every run;
    * `patch_pipeline_flushes_only`. -/

namespace TrxdbLoader

theorem shutdown_healthy {l : BigtableLoader} (hh : l.healthy = false) (err : Option LoaderError) :
    (l.shutdown err).healthy = false := by
  unfold BigtableLoader.shutdown
  split_ifs <;> simp [hh]

theorem sourceShutdown_healthy {l : BigtableLoader} (hh : l.healthy = false)
    (err : Option LoaderError) : (l.sourceShutdown err).healthy = false := by
  unfold BigtableLoader.sourceShutdown
  split_ifs <;> simp [hh]

theorem afterProcessBlock_healthy {l : BigtableLoader} (hh : l.healthy = false)
    (r : Option LoaderError) : (l.afterProcessBlock r).healthy = false := by
  unfold BigtableLoader.afterProcessBlock
  split
  · exact hh
  · split_ifs
    exacts [hh, sourceShutdown_healthy hh _]

section PatchJob

variable {l : BigtableLoader} (hj : l.processingJob = .patchJob)
include hj

/-- A `PatchJob` delivery plans flushes only. -/
theorem plannedCalls_patchJob_flush (env : Env) (d : Delivery) :
    ∀ c ∈ plannedCalls env l d, c = .flush := by
  simp only [plannedCalls, patchJobCalls, dueFlush, hj]
  split_ifs <;> (try split) <;> simp_all

/-- No `PatchJob` delivery marks the loader healthy. -/
theorem lifecycleAfter_patchJob_healthy (env : Env) (d : Delivery) (hh : l.healthy = false) :
    (lifecycleAfter env l d).healthy = false := by
  simp only [lifecycleAfter, hj]
  split_ifs <;> (try split) <;> (try split) <;>
    simp_all [BigtableLoader.lifecycle, shutdown_healthy hh]

end PatchJob

-- ── Over a run of the pipeline ──────────────────────────────────────────────

/-- A `PatchJob` loader with a positive batch size, not healthy, that has
    sent only flushes since the Commit Target received `h₀`. -/
def PatchRunning (h₀ : List Call) (l : BigtableLoader) : Prop :=
  l.processingJob = .patchJob ∧ 0 < l.batchSize ∧ l.healthy = false ∧
    ∃ cs, l.calls = h₀ ++ cs ∧ ∀ c ∈ cs, c = .flush

/-- The invariant carries over to a state that appends only flushes and
    keeps the configuration. -/
theorem PatchRunning.of_steps {h₀ : List Call} {l l' : BigtableLoader} {cs : List Call}
    (hl : PatchRunning h₀ l) (hs : Steps l l' cs) (hcs : ∀ c ∈ cs, c = .flush)
    (hh : l'.healthy = false) : PatchRunning h₀ l' := by
  obtain ⟨hj, hb, -, cs₀, hc, hcs₀⟩ := hl
  refine ⟨hs.processingJob ▸ hj, hs.batchSize ▸ hb, hh, cs₀ ++ cs, ?_, ?_⟩
  · rw [hs.calls, hc, List.append_assoc]
  · simp only [List.mem_append]
    rintro c (hc | hc)
    exacts [hcs₀ c hc, hcs c hc]

/-- One event keeps the invariant, whatever the Commit Target answers. -/
theorem pipelineStep_patchRunning (env : Env) {h₀ : List Call} {l l' : BigtableLoader}
    {ev : Event} (hl : PatchRunning h₀ l) (hs : pipelineStep env l ev = some l') :
    PatchRunning h₀ l' := by
  have ⟨hj, hb, hh, _⟩ := hl
  cases ev with
  | shutdown err =>
    cases hs
    exact hl.of_steps (Steps.shutdown l err) (by simp) (shutdown_healthy hh err)
  | sourceTerminated err =>
    cases hs
    exact hl.of_steps (Steps.sourceShutdown l err) (by simp) (sourceShutdown_healthy hh err)
  | deliver d =>
    by_cases hsrc : l.sourceShutter = none
    swap
    · simp only [pipelineStep, Option.isSome_iff_ne_none.mpr hsrc, if_true,
        Option.some.injEq] at hs
      exact hs ▸ hl
    obtain ⟨s, h1, h2, -⟩ := processBlock_issues env d l hb
    rw [pipelineStep_deliver_of_ok hsrc h1, Option.some.injEq] at hs
    subst hs
    have hhs : s.healthy = false := by
      have h := processBlock_lifecycle env d l
      rw [h1, stateOf_ok] at h
      exact (congrArg Lifecycle.healthy h).trans (lifecycleAfter_patchJob_healthy hj env d hh)
    refine hl.of_steps (h2.trans (Steps.afterProcessBlock _ s)) ?_ (afterProcessBlock_healthy hhs _)
    intro c hc
    rw [List.append_nil] at hc
    obtain ⟨t, ht⟩ := issue_prefix l.calls (plannedSites env l d)
    exact plannedCalls_patchJob_flush hj env d c
      (plannedSites_calls env l d ▸ ht ▸ List.mem_append_left t hc)

/-- Every run keeps the invariant. -/
theorem pipelineRun_patchRunning (env : Env) (evs : List Event) :
    ∀ {l l' : BigtableLoader} {h₀ : List Call}, PatchRunning h₀ l →
      pipelineRun env l evs = some l' → PatchRunning h₀ l' := by
  induction evs with
  | nil =>
    intro l l' h₀ hl hr
    cases hr
    exact hl
  | cons ev evs ih =>
    intro l l' h₀ hl hr
    obtain ⟨l₁, h1, h2⟩ := Option.bind_eq_some.mp hr
    exact ih (pipelineStep_patchRunning env hl h1) h2

/-- **THE PATCH PIPELINE ONLY FLUSHES**: from a `PatchJob` loader with a
    positive batch size that is not healthy, over any run of the pipeline,
    whatever the Commit Target answers and whatever the events, the loader
    sends the database nothing but `Flush` and never reports healthy. -/
theorem patch_pipeline_flushes_only (env : Env) (evs : List Event) {l₀ l : BigtableLoader}
    (hj : l₀.processingJob = .patchJob) (hb : 0 < l₀.batchSize) (hh : l₀.healthy = false)
    (h : pipelineRun env l₀ evs = some l) :
    l.healthy = false ∧ ∃ cs, l.calls = l₀.calls ++ cs ∧ ∀ c ∈ cs, c = .flush :=
  let ⟨_, _, hh', hc⟩ := pipelineRun_patchRunning env evs ⟨hj, hb, hh, [], by simp, by simp⟩ h
  ⟨hh', hc⟩

/-- `BuildPipelinePatch` from block 1, stopping before block 2, launched:
    a `New` of block 1 is flushed, and the cutoff at block 2 flushes and
    stops the loader, which is never healthy. -/
theorem patch_pipeline_flushes_only_cutoff :
    let b₁ : Block := ⟨1, "b1", "b0", 0⟩
    let b₂ : Block := ⟨2, "b2", "b1", 0⟩
    let env : Env := ⟨Target.reliable, 0, 0⟩
    let l₀ :=
      (((newBigtableLoader 1).stopBeforeBlock 2).buildPipelineJob 1 (.ok 1) .patchJob).launch
    let evs := [Event.deliver ⟨b₁, ⟨.new, 0, 0, []⟩, 0⟩,
      .deliver ⟨b₂, ⟨.irreversible, 0, 1, [b₂]⟩, 0⟩]
    let l := (pipelineRun env l₀ evs).getD l₀
    l₀.processingJob = .patchJob ∧ 0 < l₀.batchSize ∧ l₀.healthy = false ∧
      pipelineRun env l₀ evs = some l ∧ l.calls = [.flush, .flush] ∧ l.isTerminating ∧
      l.healthy = false ∧ ∃ cs, l.calls = l₀.calls ++ cs ∧ ∀ c ∈ cs, c = .flush := by
  intro b₁ b₂ env l₀ evs l
  have h : pipelineRun env l₀ evs = some l := by decide
  exact ⟨by decide, by decide, by decide, h, by decide, by decide,
    patch_pipeline_flushes_only env evs (by decide) (by decide) (by decide) h⟩

end TrxdbLoader
