import TrxdbLoader.Lifecycle

/-! # No call after a failure

    An error `ProcessBlock` returns stops the source, and with it the
    deliveries: a Commit Target call that fails is the last one the loader
    issues, over any run of the pipeline, whatever else happens in it.

    * `FailsLast`: the calls issued so far all succeeded, or all but the
      last, and the source has stopped;
    * `pipelineStep_failsLast`: one event keeps it, `pipelineRun_failsLast`:
      every run;
    * `no_call_after_failure`: from any loader with a positive batch size. -/

namespace TrxdbLoader

-- ── Over a run of the pipeline ──────────────────────────────────────────────

/-- Since the Commit Target had received `h₀`, the loader issued calls that
    were all answered without error, or all but the last, after which the
    source has stopped. -/
def FailsLast (db : Target) (h₀ : List Call) (l : BigtableLoader) : Prop :=
  ∃ cs, l.calls = h₀ ++ cs ∧ (Succeeds db h₀ cs ∨
    ∃ pre c e, cs = pre ++ [c] ∧ Succeeds db h₀ pre ∧ db (h₀ ++ pre) c = some e ∧
      l.sourceShutter ≠ none)

theorem sourceShutdown_frame (l : BigtableLoader) (err : Option LoaderError) :
    (l.sourceShutdown err).calls = l.calls ∧ (l.sourceShutdown err).batchSize = l.batchSize ∧
      (l.sourceShutdown err).sourceShutter ≠ none := by
  unfold BigtableLoader.sourceShutdown
  split_ifs with h <;> simp_all [Option.isSome_iff_ne_none]

theorem shutdown_sourceShutter {l : BigtableLoader} (err : Option LoaderError)
    (h : l.sourceShutter ≠ none) : (l.shutdown err).sourceShutter ≠ none := by
  unfold BigtableLoader.shutdown
  split_ifs <;> simp_all

/-- The invariant carries over to a state with the same calls whose source
    stays stopped once it was. -/
theorem FailsLast.of_stopped {db : Target} {h₀ : List Call} {l l' : BigtableLoader}
    (h : FailsLast db h₀ l) (hc : l'.calls = l.calls) (hs : l.sourceShutter ≠ none →
      l'.sourceShutter ≠ none) : FailsLast db h₀ l' := by
  obtain ⟨cs, h1, h2⟩ := h
  exact ⟨cs, hc.trans h1, h2.imp_right fun ⟨pre, c, e, h3, h4, h5, h6⟩ =>
    ⟨pre, c, e, h3, h4, h5, hs h6⟩⟩

/-- In a pipeline whose source stops on an error, one event keeps the
    invariant, the batch size and the source. -/
theorem pipelineStep_failsLast (env : Env) {h₀ : List Call} {l l' : BigtableLoader} {ev : Event}
    (hb : 0 < l.batchSize) (hf : l.restartsOnError = false) (hl : FailsLast env.db h₀ l)
    (hs : pipelineStep env l ev = some l') :
    FailsLast env.db h₀ l' ∧ l'.batchSize = l.batchSize ∧ l'.source = l.source := by
  cases ev with
  | shutdown err =>
    cases hs
    have h := Steps.shutdown l err
    exact ⟨hl.of_stopped (by simpa using h.calls) (shutdown_sourceShutter err), h.batchSize,
      h.source⟩
  | sourceTerminated err =>
    cases hs
    have h := Steps.sourceShutdown l err
    exact ⟨hl.of_stopped (by simpa using h.calls) fun _ => (sourceShutdown_frame l err).2.2,
      h.batchSize, h.source⟩
  | deliver d =>
    simp only [pipelineStep] at hs
    split_ifs at hs with hsrc
    · cases hs
      exact ⟨hl, rfl, rfl⟩
    obtain ⟨cs, hc, hcs⟩ := hl
    have hok : Succeeds env.db h₀ cs := hcs.resolve_right fun ⟨_, _, _, _, _, _, h⟩ =>
      hsrc (Option.isSome_iff_ne_none.mpr h)
    obtain ⟨s, h1, h2, -⟩ := processBlock_issues env d l hb
    simp only [h1, Option.some.injEq] at hs
    subst hs
    set r := (issue env.db l.calls (plannedSites env l d)).2.or (plannedResult l d) with hr
    have hstep := h2.trans (Steps.afterProcessBlock r s)
    refine ⟨?_, hstep.batchSize, hstep.source⟩
    have hs₁ : (s.afterProcessBlock r).calls =
        h₀ ++ (cs ++ (issue env.db l.calls (plannedSites env l d)).1) := by
      rw [hstep.calls, hc, List.append_nil, List.append_assoc]
    rcases issue_cases l.calls (plannedSites env l d) with
      ⟨-, hsu⟩ | ⟨pre, c, e, hpre, hsu, he, hne⟩
    · -- Every call answered: whatever the delivery returns, nothing failed.
      exact ⟨_, hs₁, .inl ((succeeds_append cs _).mpr ⟨hok, hc ▸ hsu⟩)⟩
    · -- A call failed: it was the last, and its error stops the source.
      obtain ⟨e', he'⟩ := Option.ne_none_iff_exists'.mp hne
      have hres : r = some e' := by rw [hr, he']; rfl
      rw [hres] at hs₁ ⊢
      refine ⟨cs ++ pre ++ [c], by rw [hs₁, hpre, List.append_assoc],
        .inr ⟨cs ++ pre, c, e, rfl, (succeeds_append cs pre).mpr ⟨hok, hc ▸ hsu⟩, ?_,
          afterProcessBlock_stopped (h2.restartsOnError.trans hf) e'⟩⟩
      rw [← List.append_assoc, ← hc]
      exact he

/-- Every run keeps the invariant. -/
theorem pipelineRun_failsLast (env : Env) (evs : List Event) :
    ∀ {l l' : BigtableLoader} {h₀ : List Call}, 0 < l.batchSize → l.restartsOnError = false →
      FailsLast env.db h₀ l → pipelineRun env l evs = some l' → FailsLast env.db h₀ l' := by
  induction evs with
  | nil =>
    intro l l' h₀ _ _ hl hr
    cases hr
    exact hl
  | cons ev evs ih =>
    intro l l' h₀ hb hf hl hr
    obtain ⟨l₁, h1, h2⟩ := Option.bind_eq_some.mp hr
    obtain ⟨hl₁, hb₁, hs₁⟩ := pipelineStep_failsLast env hb hf hl h1
    exact ih (hb₁ ▸ hb) (by simpa [BigtableLoader.restartsOnError, hs₁] using hf) hl₁ h2

/-- **NO CALL AFTER A FAILURE**: over any run of a pipeline whose source
    stops on an error, the file source `BuildPipelineJob` builds, with a
    positive batch size, whatever the Commit Target answers and whatever the
    events, the calls it receives are all answered without error, or all but
    the last, and then the source has stopped: no call follows a failed one.
    The live pipeline's eternal source restarts instead. -/
theorem no_call_after_failure (env : Env) (evs : List Event) {l₀ l : BigtableLoader}
    (hb : 0 < l₀.batchSize) (hf : l₀.restartsOnError = false)
    (h : pipelineRun env l₀ evs = some l) :
    ∃ cs, l.calls = l₀.calls ++ cs ∧ (Succeeds env.db l₀.calls cs ∨
      ∃ pre c e, cs = pre ++ [c] ∧ Succeeds env.db l₀.calls pre ∧
        env.db (l₀.calls ++ pre) c = some e ∧ l.sourceShutter ≠ none) :=
  pipelineRun_failsLast env evs hb hf ⟨[], by simp, .inl trivial⟩ h

/-- A job pipeline whose Commit Target refuses the `PutBlock` of block 1:
    the file source stops there, and block 2 is never written. -/
theorem no_call_after_failure_store_failed :
    let b₁ : Block := ⟨1, "b1", "b0", 0⟩
    let b₂ : Block := ⟨2, "b2", "b1", 0⟩
    let env : Env := ⟨fun _ c => if c = .putBlock b₁ then some "unavailable" else none, 0, 0⟩
    let l₀ := ((newBigtableLoader 1).buildPipelineJob 1 (.ok 1) .fullJob).launch
    let evs := [Event.deliver ⟨b₁, ⟨.new, 0, 0, []⟩, 0⟩, .deliver ⟨b₂, ⟨.new, 0, 0, []⟩, 0⟩]
    let l := (pipelineRun env l₀ evs).getD l₀
    0 < l₀.batchSize ∧ l₀.restartsOnError = false ∧ pipelineRun env l₀ evs = some l ∧
      l.calls = [.putBlock b₁] ∧
      ∃ cs, l.calls = l₀.calls ++ cs ∧ (Succeeds env.db l₀.calls cs ∨
        ∃ pre c e, cs = pre ++ [c] ∧ Succeeds env.db l₀.calls pre ∧
          env.db (l₀.calls ++ pre) c = some e ∧ l.sourceShutter ≠ none) := by
  intro b₁ b₂ env l₀ evs l
  have h : pipelineRun env l₀ evs = some l := by decide
  exact ⟨by decide, rfl, h, by decide, no_call_after_failure env evs (by decide) rfl h⟩

end TrxdbLoader
