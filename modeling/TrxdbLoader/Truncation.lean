import TrxdbLoader.Failures

/-! # Failures only cut the calls short

    Whatever a Commit Target answers, the loader of a job pipeline asks it
    for the calls it would ask a reliable one for, in the same order, until
    the first refusal stops the file source.  So a run of the pipeline against any target issues a
    prefix of the calls of the same run, over the same events, against a
    reliable target: a failure never changes what is written, only where the
    writing ends.

    * `issue_calls_of_none`, `issue_prefix`: a scan issues all its sites'
      calls when none fails, and a prefix of them in any case;
    * congruence: what a delivery plans, returns and does to the lifecycle
      reads only the loader's lifecycle and calls, and the target only at the
      cutoff's flush (`lifecycleAfter_reliable`);
    * `Trails`: the two runs agree on calls and lifecycle, or the first has
      stopped its source on a prefix of the second's calls;
    * `pipelineStep_trails`, `pipelineRun_trails`, and
      `failures_truncate_calls` from any loader with a positive batch size
      whose source stops on an error; the eternal source of the live
      pipeline restarts instead, and the calls go on after a refusal. -/

namespace TrxdbLoader

-- ── The scan issues a prefix ────────────────────────────────────────────────

section Scan

variable {db : Target}

/-- A scan that returns no error issued every site's call. -/
theorem issue_calls_of_none {h : List Call} :
    ∀ {ss : List Site}, (issue db h ss).2 = none → (issue db h ss).1 = ss.map Site.call
  | [], _ => rfl
  | s :: ss, hn => by
    cases hs : db h s.call with
    | some e => simp [issue, hs] at hn
    | none =>
      simp only [issue, hs] at hn ⊢
      rw [issue_calls_of_none hn, List.map_cons]

/-- A scan issues the first of its sites' calls, in order. -/
theorem issue_prefix (h : List Call) : ∀ ss : List Site, (issue db h ss).1 <+: ss.map Site.call
  | [] => List.prefix_refl _
  | s :: ss => by
    cases hs : db h s.call with
    | some e => simp [issue, hs]
    | none => simpa [issue, hs] using issue_prefix (h ++ [s.call]) ss

end Scan

-- ── What a delivery reads of the loader ─────────────────────────────────────

theorem lifecycle_eq_iff {l l' : BigtableLoader} :
    l.lifecycle = l'.lifecycle ↔ l.shutter = l'.shutter ∧ l.sourceShutter = l'.sourceShutter ∧
      l.healthy = l'.healthy ∧ l.launched = l'.launched ∧ l.batchSize = l'.batchSize ∧
      l.endBlock = l'.endBlock ∧ l.processingJob = l'.processingJob ∧ l.source = l'.source := by
  simp [BigtableLoader.lifecycle]

section Congruence

variable {l l' : BigtableLoader} (h : l.lifecycle = l'.lifecycle)
include h

theorem shutdown_lifecycle_congr (err : Option LoaderError) :
    (l.shutdown err).lifecycle = (l'.shutdown err).lifecycle := by
  have hl := lifecycle_eq_iff.mp h
  unfold BigtableLoader.shutdown
  simp only [hl.1, hl.2.1, hl.2.2.2.1]
  split_ifs <;> simp_all [BigtableLoader.lifecycle]

theorem sourceShutdown_lifecycle_congr (err : Option LoaderError) :
    (l.sourceShutdown err).lifecycle = (l'.sourceShutdown err).lifecycle := by
  have hl := lifecycle_eq_iff.mp h
  unfold BigtableLoader.sourceShutdown
  simp only [hl.1, hl.2.1, hl.2.2.2.1]
  split_ifs <;> simp_all [BigtableLoader.lifecycle]

theorem plannedSites_lifecycle_congr (env : Env) (d : Delivery) :
    plannedSites env l d = plannedSites env l' d := by
  obtain ⟨h1, -, -, -, h5, h6, h7, -⟩ := lifecycle_eq_iff.mp h
  simp only [plannedSites, fullJobSites, patchJobSites, dueFlushSites, isCutoff,
    BigtableLoader.isTerminating, h1, h5, h6, h7]

theorem plannedResult_lifecycle_congr (d : Delivery) : plannedResult l d = plannedResult l' d := by
  obtain ⟨h1, -, -, -, -, -, h7, -⟩ := lifecycle_eq_iff.mp h
  simp only [plannedResult, BigtableLoader.isTerminating, h1, h7]

theorem lifecycleAfter_congr (env : Env) (d : Delivery) (hc : l.calls = l'.calls) :
    lifecycleAfter env l d = lifecycleAfter env l' d := by
  obtain ⟨h1, -, -, -, -, h6, h7, -⟩ := lifecycle_eq_iff.mp h
  simp only [lifecycleAfter, BigtableLoader.isTerminating, isCutoff, h, h1, h6, h7, hc,
    shutdown_lifecycle_congr h]

end Congruence

/-- At the cutoff, either job plans the single flush. -/
theorem plannedSites_cutoff (env : Env) {l : BigtableLoader} {d : Delivery}
    (ht : ¬ l.isTerminating) (hi : d.obj.step = .irreversible)
    (hc : isCutoff l d.block.number d.obj) : plannedSites env l d = [flushSite] := by
  cases hj : l.processingJob <;> simp [plannedSites, fullJobSites, patchJobSites, ht, hj, hi, hc]

/-- The lifecycle a delivery ends in reads the Commit Target only at the
    cutoff's flush: if the delivery's scan went through, it is the lifecycle
    it ends in against a reliable target. -/
theorem lifecycleAfter_reliable (env : Env) (d : Delivery) {l : BigtableLoader}
    (h : (issue env.db l.calls (plannedSites env l d)).2 = none) :
    lifecycleAfter env l d = lifecycleAfter env.reliable l d := by
  unfold lifecycleAfter
  split_ifs with ht hc
  · rfl
  · have hf : d.obj.step = .irreversible → env.db l.calls .flush = none := by
      intro hi
      rw [plannedSites_cutoff env ht hi hc] at h
      cases he : env.db l.calls .flush <;> simp_all [issue, flushSite]
    cases l.processingJob <;> cases hi : d.obj.step <;> try rfl
    all_goals simp only [hf hi, reliable_db]
  · rfl

-- ── One event on each side ──────────────────────────────────────────────────

/-- With a positive batch size every event returns, appending calls and
    keeping the configuration. -/
theorem pipelineStep_grows (env : Env) {l : BigtableLoader} (hb : 0 < l.batchSize) (ev : Event) :
    ∃ l' cs, pipelineStep env l ev = some l' ∧ Steps l l' cs := by
  cases ev with
  | shutdown err => exact ⟨_, [], rfl, Steps.shutdown l err⟩
  | sourceTerminated err => exact ⟨_, [], rfl, Steps.sourceShutdown l err⟩
  | deliver d =>
    by_cases hsrc : l.sourceShutter = none
    · obtain ⟨s, h1, h2, -⟩ := processBlock_issues env d l hb
      exact ⟨_, _, pipelineStep_deliver_of_ok hsrc h1, h2.trans (Steps.afterProcessBlock _ s)⟩
    · exact ⟨l, [], by simp [pipelineStep, Option.isSome_iff_ne_none.mpr hsrc], Steps.refl l⟩

/-- A stopped source delivers nothing: no event adds a call, and none
    restarts it. -/
theorem pipelineStep_stopped (env : Env) {l l' : BigtableLoader} {ev : Event}
    (hs : l.sourceShutter ≠ none) (h : pipelineStep env l ev = some l') :
    l'.calls = l.calls ∧ l'.sourceShutter ≠ none := by
  cases ev with
  | deliver d =>
    simp only [pipelineStep, Option.isSome_iff_ne_none.mpr hs, if_true, Option.some.injEq] at h
    exact h ▸ ⟨rfl, hs⟩
  | shutdown err =>
    cases h
    exact ⟨by simpa using (Steps.shutdown l err).calls, shutdown_sourceShutter err hs⟩
  | sourceTerminated err =>
    cases h
    exact ⟨(sourceShutdown_frame l err).1, (sourceShutdown_frame l err).2.2⟩

-- ── Two runs side by side ───────────────────────────────────────────────────

/-- The run against a Commit Target, `lf`, trails the run against a
    reliable one, `lr`, in a pipeline whose source stops on an error: they
    agree on the calls issued and on the lifecycle, or `lf`'s source has
    stopped on a prefix of `lr`'s calls. -/
def Trails (lf lr : BigtableLoader) : Prop :=
  0 < lr.batchSize ∧ lr.restartsOnError = false ∧
    (lf.calls = lr.calls ∧ lf.lifecycle = lr.lifecycle ∨
      lf.sourceShutter ≠ none ∧ lf.calls <+: lr.calls)

/-- A delivery to two loaders in step: both issue the same calls and end in
    the same lifecycle while the Commit Target answers every call, and
    otherwise the first stops its source on a prefix of the second's calls. -/
theorem deliver_trails (env : Env) (d : Delivery) {lf lr lf' : BigtableLoader}
    (hb : 0 < lr.batchSize) (hf : lr.restartsOnError = false) (hc : lf.calls = lr.calls)
    (hl : lf.lifecycle = lr.lifecycle) (hs : pipelineStep env lf (.deliver d) = some lf') :
    ∃ lr', pipelineStep env.reliable lr (.deliver d) = some lr' ∧ Trails lf' lr' := by
  obtain ⟨-, h2, -, -, h5, -, -, h8⟩ := lifecycle_eq_iff.mp hl
  by_cases hsrc : lr.sourceShutter = none
  swap
  · have hsrc' : lf.sourceShutter.isSome := by rwa [h2, Option.isSome_iff_ne_none]
    simp only [pipelineStep, hsrc', if_true, Option.some.injEq] at hs
    exact ⟨lr, by simp [pipelineStep, Option.isSome_iff_ne_none.mpr hsrc], hb, hf,
      .inl (hs ▸ ⟨hc, hl⟩)⟩
  obtain ⟨s₁, e₁, st₁, -⟩ := processBlock_issues env d lf (h5 ▸ hb)
  obtain ⟨s₂, e₂, st₂, -⟩ := processBlock_reliable env d lr hb
  have hl₁ : s₁.lifecycle = lifecycleAfter env lf d := by
    simpa [e₁] using processBlock_lifecycle env d lf
  have hl₂ : s₂.lifecycle = lifecycleAfter env.reliable lr d := by
    simpa [e₂] using processBlock_lifecycle env.reliable d lr
  rw [pipelineStep_deliver_of_ok (h2 ▸ hsrc) e₁, Option.some.injEq] at hs
  subst hs
  refine ⟨_, pipelineStep_deliver_of_ok hsrc e₂, ?_⟩
  have hf₂ := Steps.afterProcessBlock (plannedResult lr d) s₂
  have hfs₁ : s₁.restartsOnError = false :=
    (st₁.restartsOnError.trans (BigtableLoader.restartsOnError_congr h8)).trans hf
  have hfs₂ : s₂.restartsOnError = false := st₂.restartsOnError.trans hf
  refine ⟨(st₂.trans hf₂).batchSize ▸ hb, (st₂.trans hf₂).restartsOnError.trans hf, ?_⟩
  have hplan : (plannedSites env lf d).map Site.call = plannedCalls env lr d := by
    rw [plannedSites_lifecycle_congr hl, plannedSites_calls]
  rcases issue_cases lf.calls (plannedSites env lf d) with ⟨hn, -⟩ | ⟨-, -, -, -, -, -, hne⟩
  · -- Every call answered: both sides plan, return and end alike.
    have hr : (issue env.db lf.calls (plannedSites env lf d)).2.or (plannedResult lf d) =
        plannedResult lr d := by
      rw [hn, plannedResult_lifecycle_congr hl]; rfl
    have hcalls : s₁.calls = s₂.calls := by
      rw [st₁.calls, st₂.calls, issue_calls_of_none hn, hplan, hc]
    have hlc : s₁.lifecycle = s₂.lifecycle := by
      rw [hl₁, hl₂, lifecycleAfter_reliable env d hn, lifecycleAfter_congr hl env.reliable d hc]
    rw [hr]
    cases plannedResult lr d
    · exact .inl ⟨hcalls, hlc⟩
    · simp only [BigtableLoader.afterProcessBlock, hfs₁, hfs₂, Bool.false_eq_true, if_false]
      exact .inl ⟨by simp [(sourceShutdown_frame _ _).1, hcalls],
        sourceShutdown_lifecycle_congr hlc _⟩
  · -- A refusal: the error stops the source after a prefix of the plan.
    obtain ⟨e', he'⟩ := Option.ne_none_iff_exists'.mp hne
    have hr : (issue env.db lf.calls (plannedSites env lf d)).2.or (plannedResult lf d) =
        some e' := by
      rw [he']; rfl
    rw [hr]
    refine .inr ⟨afterProcessBlock_stopped hfs₁ e', ?_⟩
    rw [(Steps.afterProcessBlock (some e') s₁).calls, hf₂.calls, st₁.calls, st₂.calls, hc,
      List.append_nil, List.append_nil]
    exact List.prefix_append_right_inj _ |>.mpr (hplan ▸ issue_prefix _ _)

/-- **ONE EVENT**: an event that keeps the run against `env` going keeps the
    run against a reliable target going, and keeps the one trailing the
    other. -/
theorem pipelineStep_trails (env : Env) {lf lr lf' : BigtableLoader} {ev : Event}
    (ht : Trails lf lr) (hs : pipelineStep env lf ev = some lf') :
    ∃ lr', pipelineStep env.reliable lr ev = some lr' ∧ Trails lf' lr' := by
  obtain ⟨hb, hf, ⟨hc, hl⟩ | ⟨hstop, hpre⟩⟩ := ht
  · cases ev with
    | deliver d => exact deliver_trails env d hb hf hc hl hs
    | shutdown err =>
      cases hs
      have h := Steps.shutdown lr err
      exact ⟨_, rfl, h.batchSize ▸ hb, h.restartsOnError.trans hf, .inl ⟨by
        simp [(Steps.shutdown lf err).calls, h.calls, hc], shutdown_lifecycle_congr hl err⟩⟩
    | sourceTerminated err =>
      cases hs
      have h := Steps.sourceShutdown lr err
      exact ⟨_, rfl, h.batchSize ▸ hb, h.restartsOnError.trans hf, .inl ⟨by
        simp [(Steps.sourceShutdown lf err).calls, h.calls, hc],
        sourceShutdown_lifecycle_congr hl err⟩⟩
  · obtain ⟨lr', cs, h1, h2⟩ := pipelineStep_grows env.reliable hb ev
    obtain ⟨hc, hstop'⟩ := pipelineStep_stopped env hstop hs
    exact ⟨lr', h1, h2.batchSize ▸ hb, h2.restartsOnError.trans hf,
      .inr ⟨hstop', hc ▸ h2.calls ▸ hpre.trans (List.prefix_append _ _)⟩⟩

/-- Every run keeps the one trailing the other. -/
theorem pipelineRun_trails (env : Env) (evs : List Event) :
    ∀ {lf lr lf' : BigtableLoader}, Trails lf lr → pipelineRun env lf evs = some lf' →
      ∃ lr', pipelineRun env.reliable lr evs = some lr' ∧ Trails lf' lr' := by
  induction evs with
  | nil =>
    intro lf lr lf' ht hr
    cases hr
    exact ⟨lr, rfl, ht⟩
  | cons ev evs ih =>
    intro lf lr lf' ht hr
    obtain ⟨l₁, h1, h2⟩ := Option.bind_eq_some.mp hr
    obtain ⟨r₁, e₁, t₁⟩ := pipelineStep_trails env ht h1
    obtain ⟨r', e', t'⟩ := ih t₁ h2
    exact ⟨r', by simp [pipelineRun, e₁, e'], t'⟩

/-- **FAILURES ONLY TRUNCATE**: take any run of a pipeline whose source
    stops on an error (the file source of `BuildPipelineJob`), from a loader
    with a positive batch size, with any events and any Commit Target
    answers.  The same run against a reliable target returns too, and the
    two end with the same calls and lifecycle, or the first has stopped its
    source after a prefix of the second's calls. -/
theorem failures_truncate_calls (env : Env) (evs : List Event) {l₀ l : BigtableLoader}
    (hb : 0 < l₀.batchSize) (hf : l₀.restartsOnError = false)
    (h : pipelineRun env l₀ evs = some l) :
    ∃ l', pipelineRun env.reliable l₀ evs = some l' ∧
      (l.calls = l'.calls ∧ l.lifecycle = l'.lifecycle ∨
        l.sourceShutter ≠ none ∧ l.calls <+: l'.calls) :=
  let ⟨l', h', _, _, ht⟩ := pipelineRun_trails env evs ⟨hb, hf, .inl ⟨rfl, rfl⟩⟩ h
  ⟨l', h', ht⟩

/-- A Commit Target that refuses block 1's flush: the launched job pipeline
    stops after `PutBlock(1)` and the flush, where a reliable one goes on to
    block 2. -/
theorem failures_truncate_calls_flush_failed :
    let b₁ : Block := ⟨1, "b1", "b0", 0⟩
    let b₂ : Block := ⟨2, "b2", "b1", 0⟩
    let env : Env := ⟨fun h c => if c = .flush ∧ h = [.putBlock b₁] then some "timeout" else none,
      0, 0⟩
    let l₀ := ((newBigtableLoader 1).buildPipelineJob 1 (.ok 1) .fullJob).launch
    let evs := [Event.deliver ⟨b₁, ⟨.new, 0, 0, []⟩, 0⟩, .deliver ⟨b₂, ⟨.new, 0, 0, []⟩, 0⟩]
    let l := (pipelineRun env l₀ evs).getD l₀
    0 < l₀.batchSize ∧ l₀.restartsOnError = false ∧ pipelineRun env l₀ evs = some l ∧
      l.calls = [.putBlock b₁, .flush] ∧
      ∃ l', pipelineRun env.reliable l₀ evs = some l' ∧
        (l.calls = l'.calls ∧ l.lifecycle = l'.lifecycle ∨
          l.sourceShutter ≠ none ∧ l.calls <+: l'.calls) := by
  intro b₁ b₂ env l₀ evs l
  have h : pipelineRun env l₀ evs = some l := by decide
  exact ⟨by decide, rfl, h, by decide, failures_truncate_calls env evs (by decide) rfl h⟩

end TrxdbLoader
