import TrxdbLoader.Finality

/-! # The stop block

    `StopBeforeBlock(N)` "indicates the stop block (exclusive), means that
    block num will not be inserted".  `FullJob` reads it only on
    `Irreversible` deliveries: the last delivery of a group numbered `N` or
    more flushes and shuts the loader down.  Until that delivery the loader
    does what it does with no stop block, so a `New` at or past `N` is still
    written, and a group reaching past `N` is still finalized whole by its
    first delivery.

    * `trace_before_cutoff`: before the cutoff the stop block changes nothing;
    * `stop_block_written`: so block `N` is written and finalized;
    * `trace_stopBeforeBlock`: the trace is the one with no stop block up to
      the first cutoff, a flush there, and nothing after; so the writes and
      finalizations are a prefix of those with none;
    * `stops_cleanly_at_first_cutoff`: with a positive batch size the loader
      shuts down cleanly at the first cutoff, having finalized every group
      block below `N` once, and issues nothing afterwards;
    * `processBlock_reliable_zero`: on a zero batch size, the first `New` or
      group panics once it has written;
    * `sentinel_written_per_new_delivery`: the writes of each delivery, with
      any batch size, the Genesis Sentinel on every `New` at the first
      streamable height. -/

namespace TrxdbLoader

section StopBlock

variable (env : Env) {l : BigtableLoader} {N : Nat}

omit env in
theorem isCutoff_stopBeforeBlock (hN : 0 < N) (n : Nat) (o : ForkableObject) :
    isCutoff (l.stopBeforeBlock N) n o ↔ N ≤ n ∧ o.stepCount = o.stepIndex + 1 := by
  simp [isCutoff, BigtableLoader.stopBeforeBlock, hN.ne']

/-- A delivery that is not the cutoff gets the calls it gets with no stop
    block. -/
theorem fullJobCalls_stopBeforeBlock (he : l.endBlock = 0) {d : Delivery}
    (hd : ¬ (d.obj.step = .irreversible ∧ isCutoff (l.stopBeforeBlock N) d.block.number d.obj)) :
    fullJobCalls env (l.stopBeforeBlock N) d = fullJobCalls env l d := by
  unfold fullJobCalls
  split <;> simp_all [dueFlush, BigtableLoader.stopBeforeBlock, not_isCutoff he]

/-- Before the cutoff, a loader with a stop block issues, delivery by
    delivery, the calls of the same loader with none. -/
theorem trace_before_cutoff (hb : 0 < l.batchSize) (hr : l.shutter = none)
    (hj : l.processingJob = .fullJob) (he : l.endBlock = 0) (ds : List Delivery)
    (hno : ∀ x ∈ ds, ¬ plannedShutdown (l.stopBeforeBlock N) x) :
    trace env.reliable (l.stopBeforeBlock N) ds = trace env.reliable l ds := by
  have hb' : 0 < (l.stopBeforeBlock N).batchSize := hb
  have hr' : (l.stopBeforeBlock N).shutter = none := hr
  rw [trace_reliable_running env ds hb' hr' hno, trace_noStop env hb hr hj he,
    plannedCalls_fullJob env hr' hj]
  refine List.map_congr_left fun x hx => ?_
  rw [fullJobCalls_stopBeforeBlock env he]
  exact fun h => hno x hx
    ⟨by simp [BigtableLoader.isTerminating, BigtableLoader.stopBeforeBlock, hr], h⟩

/-- A non-cutoff delivery of a loader with a stop block plans what the same
    loader with none plans. -/
theorem plannedCalls_stopBeforeBlock (hr : l.shutter = none) (hj : l.processingJob = .fullJob)
    (he : l.endBlock = 0) {d : Delivery} (hd : ¬ plannedShutdown (l.stopBeforeBlock N) d) :
    plannedCalls env (l.stopBeforeBlock N) d = fullJobCalls env l d := by
  have hr' : (l.stopBeforeBlock N).shutter = none := hr
  rw [plannedCalls_fullJob env hr' hj, fullJobCalls_stopBeforeBlock env he]
  exact fun h => hd ⟨by simp [BigtableLoader.isTerminating, BigtableLoader.stopBeforeBlock, hr], h⟩

/-- The cutoff plans the flush alone. -/
theorem plannedCalls_cutoff (hr : l.shutter = none) (hj : l.processingJob = .fullJob)
    {d : Delivery} (hd : plannedShutdown (l.stopBeforeBlock N) d) :
    plannedCalls env (l.stopBeforeBlock N) d = [.flush] := by
  have hr' : (l.stopBeforeBlock N).shutter = none := hr
  rw [plannedCalls_fullJob env hr' hj]
  simp_all [fullJobCalls, plannedShutdown]

/-- **THE STOP BLOCK CUTS THE TRACE**: a running loader given a stop block
    issues, delivery by delivery, what it issues with none, up to the first
    cutoff; there it flushes and stops, and no call follows. -/
theorem trace_stopBeforeBlock (hb : 0 < l.batchSize) (hr : l.shutter = none)
    (hj : l.processingJob = .fullJob) (he : l.endBlock = 0) (ds : List Delivery) :
    (∀ x ∈ ds, ¬ plannedShutdown (l.stopBeforeBlock N) x) ∧
      trace env.reliable (l.stopBeforeBlock N) ds = ds.map (fun d => (d, fullJobCalls env l d)) ∨
    ∃ pre d post, ds = pre ++ d :: post ∧ (∀ x ∈ pre, ¬ plannedShutdown (l.stopBeforeBlock N) x) ∧
      plannedShutdown (l.stopBeforeBlock N) d ∧
      trace env.reliable (l.stopBeforeBlock N) ds =
        pre.map (fun x => (x, fullJobCalls env l x)) ++
          (d, [.flush]) :: post.map fun x => (x, []) := by
  cases hf : ds.find? (fun x => decide (plannedShutdown (l.stopBeforeBlock N) x)) with
  | none =>
    have hno : ∀ x ∈ ds, ¬ plannedShutdown (l.stopBeforeBlock N) x := fun x hx => by
      simpa using List.find?_eq_none.mp hf x hx
    exact .inl ⟨hno, by
      rw [trace_before_cutoff env hb hr hj he ds hno, trace_noStop env hb hr hj he]⟩
  | some d =>
    obtain ⟨hd, pre, post, rfl, hpre⟩ := List.find?_eq_some.mp hf
    have hno : ∀ x ∈ pre, ¬ plannedShutdown (l.stopBeforeBlock N) x := fun x hx => by
      simpa using hpre x hx
    have hd' : plannedShutdown (l.stopBeforeBlock N) d := by simpa using hd
    refine .inr ⟨pre, d, post, rfl, hno, hd', ?_⟩
    have hb' : 0 < (l.stopBeforeBlock N).batchSize := hb
    have hr' : (l.stopBeforeBlock N).shutter = none := hr
    rw [trace_reliable_cutoff env pre d post hb' hr' hno hd', plannedCalls_cutoff env hr hj hd']
    simp only [List.append_cancel_right_eq, List.cons.injEq, and_true]
    exact List.map_congr_left fun x hx => by
      rw [plannedCalls_stopBeforeBlock env hr hj he (hno x hx)]

/-- With a stop block, a running loader writes a prefix of what it writes
    with none. -/
theorem writes_run_stopBeforeBlock (hb : 0 < l.batchSize) (hr : l.shutter = none)
    (hj : l.processingJob = .fullJob) (he : l.endBlock = 0) (ds : List Delivery) :
    writes (run env.reliable (l.stopBeforeBlock N) ds).calls <+:
      writes l.calls ++ ds.flatMap fun d => writes (fullJobCalls env l d) := by
  have hb' : 0 < (l.stopBeforeBlock N).batchSize := hb
  rw [run_calls_reliable env ds hb', writes_append]
  change writes l.calls ++ _ <+: _
  rw [List.prefix_append_right_inj, writes_flatMap]
  rcases @trace_stopBeforeBlock env l N hb hr hj he ds with
    ⟨-, ht⟩ | ⟨pre, d, post, rfl, -, -, ht⟩
  · simp [ht, List.flatMap_map]
  · simp only [ht, List.flatMap_append, List.flatMap_map, List.flatMap_cons, writes_cons]
    simp [Call.isWrite, List.flatMap_eq_nil_iff.mpr]

/-- With a stop block, the `Irreversible` deliveries finalize what they
    finalize with none, up to the first cutoff, which finalizes nothing. -/
theorem finalizations_trace_stopBeforeBlock (hb : 0 < l.batchSize) (hr : l.shutter = none)
    (hj : l.processingJob = .fullJob) (he : l.endBlock = 0) (ds : List Delivery) :
    let F := fun ds : List Delivery => ((trace env.reliable (l.stopBeforeBlock N) ds).filter
      fun x => x.1.obj.step = .irreversible).flatMap fun x => finalizations x.2
    let F₀ := fun ds : List Delivery => (ds.filter fun d => d.obj.step = .irreversible).flatMap
      fun d => finalizations (fullJobCalls env l d)
    F ds = F₀ ds ∨ ∃ pre d post, ds = pre ++ d :: post ∧
      plannedShutdown (l.stopBeforeBlock N) d ∧ F ds = F₀ pre := by
  intro F F₀
  rcases @trace_stopBeforeBlock env l N hb hr hj he ds with
    ⟨-, ht⟩ | ⟨pre, d, post, rfl, -, hd, ht⟩
  · exact .inl (by simp only [F, F₀, ht, List.filter_map, List.flatMap_map, Function.comp_def])
  · refine .inr ⟨pre, d, post, rfl, hd, ?_⟩
    simp only [F, F₀, ht, List.filter_append, List.filter_map, List.flatMap_append,
      List.flatMap_map, Function.comp_def, List.append_right_eq_self, List.flatMap_eq_nil_iff]
    -- The cutoff's flush and the ignored deliveries finalize nothing.
    intro x hx
    rcases List.mem_cons.mp (List.mem_of_mem_filter hx) with rfl | hx
    · rfl
    · obtain ⟨y, -, rfl⟩ := List.mem_map.mp hx
      rfl

/-- With stop block 2, the resolver's `New` of block 2 is written, and the
    first delivery of the group `[1, 2]` finalizes block 2, before the
    group's last delivery shuts the loader down. -/
theorem stop_block_written :
    let b₁ : Block := ⟨1, "b1", "b0", 0⟩
    let b₂ : Block := ⟨2, "b2", "b1", 0⟩
    let es := [.new b₁, .new b₂, .irreversible [b₁, b₂]]
    let ds : List Delivery := [⟨b₁, ⟨.new, 0, 0, []⟩, 0⟩, ⟨b₂, ⟨.new, 0, 0, []⟩, 0⟩,
      ⟨b₁, ⟨.irreversible, 0, 2, [b₁, b₂]⟩, 0⟩, ⟨b₂, ⟨.irreversible, 1, 2, [b₁, b₂]⟩, 0⟩]
    let env : Env := ⟨Target.reliable, 0, 0⟩
    let l := run env.reliable ((newBigtableLoader 1).stopBeforeBlock 2) ds
    Carries es ds ∧ NewFirst es ∧ Disjoint es ∧ 2 ≤ b₂.number ∧
      Call.putBlock b₂ ∈ l.calls ∧ Call.updateNowIrreversibleBlock b₂ ∈ l.calls ∧
      l.shutter = some none := by
  intro b₁ b₂ es ds env l
  exact ⟨.new _ _ _ rfl (.new _ _ _ rfl (.irreversible [b₁, b₂] (ds.drop 2) rfl .nil)),
    by decide, by decide, by decide, by decide, by decide, by decide⟩

/-- What a carried delivery finalizes, when it ends a group at or past the
    stop block, lies at or past the stop block: it is the whole group only
    if the group is that one block. -/
theorem finalizations_last_cutoff (he : l.endBlock = 0) {es : List Emission}
    {ds : List Delivery} {d : Delivery} (hc : Carries es ds) (hx : d ∈ ds)
    (hd : d.obj.step = .irreversible ∧ d.obj.stepCount = d.obj.stepIndex + 1 ∧
      N ≤ d.block.number) :
    ∀ b ∈ finalizations (fullJobCalls env l d), N ≤ b.number := by
  obtain ⟨hs, hk, hN⟩ := hd
  obtain ⟨hlen, hget⟩ := hc.irreversible_tag hx hs
  rw [finalizations_fullJobCalls env he]
  by_cases h0 : d.obj.stepIndex = 0
  · obtain ⟨a, ha⟩ := List.length_eq_one.mp (by omega : d.obj.stepBlocks.length = 1)
    rw [h0, ha] at hget
    simp_all
  · simp [hs, h0]

end StopBlock

/-- **CLEAN STOP**: a fresh loader with stop block `N > 0`, a positive batch
    size and a reliable Commit Target, fed a carried sequence whose last
    delivery `d` is the first to end a group at or past `N`, then anything:
    it is still running before `d`; `d` flushes, shuts the loader down with
    no error and returns none; nothing is issued afterwards; and the
    `Irreversible` deliveries finalized every group block below `N` once. -/
theorem stops_cleanly_at_first_cutoff (env : Env) {B N : Nat} (hB : 0 < B) (hN : 0 < N)
    {es : List Emission} {ds : List Delivery} {d : Delivery} (post : List Delivery)
    (hc : Carries es (ds ++ [d])) (hdisj : Disjoint es)
    (hfirst : ∀ x ∈ ds, x.obj.step = .irreversible → x.obj.stepCount = x.obj.stepIndex + 1 →
      x.block.number < N)
    (hd : d.obj.step = .irreversible ∧ d.obj.stepCount = d.obj.stepIndex + 1 ∧
      N ≤ d.block.number) :
    let l₀ := (newBigtableLoader B).stopBeforeBlock N
    let F := ((trace env.reliable l₀ (ds ++ d :: post)).filter fun x =>
      x.1.obj.step = .irreversible).flatMap fun x => finalizations x.2
    (run env.reliable l₀ ds).shutter = none ∧
    (∃ l₂, processBlock env.reliable d (run env.reliable l₀ ds) = .ok none l₂ ∧
      l₂.shutter = some none ∧ l₂.calls = (run env.reliable l₀ ds).calls ++ [.flush] ∧
      run env.reliable l₀ (ds ++ d :: post) = l₂) ∧
    ∀ b ∈ es.flatMap Emission.group, b.number < N → F.count b = 1 := by
  intro l₀ F
  have he₀ : (newBigtableLoader B).endBlock = 0 := rfl
  have hr₀ : l₀.shutter = none := rfl
  have hj₀ : l₀.processingJob = .fullJob := rfl
  have hcut : ∀ x : Delivery, plannedShutdown l₀ x ↔
      x.obj.step = .irreversible ∧ N ≤ x.block.number ∧ x.obj.stepCount = x.obj.stepIndex + 1 :=
    fun x => by
      simp only [plannedShutdown, l₀, isCutoff_stopBeforeBlock hN]
      simp [BigtableLoader.isTerminating, BigtableLoader.stopBeforeBlock, newBigtableLoader]
  have hno : ∀ x ∈ ds, ¬ plannedShutdown l₀ x := fun x hx h => by
    rw [hcut] at h
    exact absurd (hfirst x hx h.1 h.2.2) (Nat.not_lt.mpr h.2.1)
  have hdcut : plannedShutdown l₀ d := (hcut d).mpr ⟨hd.1, hd.2.2, hd.2.1⟩
  have hcalls : plannedCalls env l₀ d = [.flush] := plannedCalls_cutoff env rfl rfl hdcut
  obtain ⟨hr₁, l₂, h1, h2, hr₂, hrun⟩ := run_reliable_cutoff env ds d post hB hr₀ hno hdcut
  refine ⟨hr₁, ⟨l₂, by simpa [plannedResult, fullJobResult, BigtableLoader.isTerminating,
    hd.1, l₀, BigtableLoader.stopBeforeBlock, newBigtableLoader] using h1, hr₂,
    by rw [h2.calls, hcalls], hrun⟩, ?_⟩
  -- Before `d` the loader issues what it would with no stop block; `d` and
  -- what follows finalize nothing.
  have hF : F = ((trace env.reliable (newBigtableLoader B) ds).filter fun x =>
      x.1.obj.step = .irreversible).flatMap fun x => finalizations x.2 := by
    simp only [F, trace_reliable_cutoff env ds d post hB hr₀ hno hdcut, hcalls,
      ← trace_reliable_running env ds hB hr₀ hno, trace_before_cutoff env hB rfl rfl he₀ ds hno]
    simp [List.filter_append, List.filter_map, Function.comp_def]
  have hsplit : es.flatMap Emission.group =
      F ++ finalizations (fullJobCalls env (newBigtableLoader B) d) := by
    rw [← finalizations_trace_carried env hB rfl rfl he₀ hc, hF, trace_noStop env hB rfl rfl he₀,
      trace_noStop env hB rfl rfl he₀]
    simp [List.filter_append, hd.1]
  intro b hb hbN
  have hnd : (F ++ finalizations (fullJobCalls env (newBigtableLoader B) d)).Nodup := by
    rw [← hsplit]; exact hdisj
  rw [hsplit] at hb
  have hbF : b ∈ F := (List.mem_append.mp hb).resolve_right fun h =>
    absurd (finalizations_last_cutoff env he₀ hc
      (List.mem_append_right _ (List.mem_singleton_self d)) hd b h) (Nat.not_le.mpr hbN)
  exact List.count_eq_one_of_mem (List.Nodup.of_append_left hnd) hbF

/-- Blocks 1 and 2 written, then the group `[1, 2]` with stop block 2: the
    group's second delivery is the cutoff. -/
theorem stops_cleanly_at_first_cutoff_pair :
    let b₁ : Block := ⟨1, "b1", "b0", 0⟩
    let b₂ : Block := ⟨2, "b2", "b1", 0⟩
    let es := [.new b₁, .new b₂, .irreversible [b₁, b₂]]
    let ds : List Delivery := [⟨b₁, ⟨.new, 0, 0, []⟩, 0⟩, ⟨b₂, ⟨.new, 0, 0, []⟩, 0⟩,
      ⟨b₁, ⟨.irreversible, 0, 2, [b₁, b₂]⟩, 0⟩]
    let d : Delivery := ⟨b₂, ⟨.irreversible, 1, 2, [b₁, b₂]⟩, 0⟩
    let env : Env := ⟨Target.reliable, 0, 0⟩
    Carries es (ds ++ [d]) ∧ Disjoint es ∧
      (∀ x ∈ ds, x.obj.step = .irreversible → x.obj.stepCount = x.obj.stepIndex + 1 →
        x.block.number < 2) ∧
      (d.obj.step = .irreversible ∧ d.obj.stepCount = d.obj.stepIndex + 1 ∧ 2 ≤ d.block.number) ∧
      (run env.reliable ((newBigtableLoader 1).stopBeforeBlock 2) ds).shutter = none := by
  intro b₁ b₂ es ds d env
  have hc : Carries es (ds ++ [d]) :=
    .new _ _ _ rfl (.new _ _ _ rfl (.irreversible [b₁, b₂] ((ds ++ [d]).drop 2) rfl .nil))
  have hfirst : ∀ x ∈ ds, x.obj.step = .irreversible → x.obj.stepCount = x.obj.stepIndex + 1 →
      x.block.number < 2 := by decide
  have hd : d.obj.step = .irreversible ∧ d.obj.stepCount = d.obj.stepIndex + 1 ∧
      2 ≤ d.block.number := by decide
  exact ⟨hc, by decide, hfirst, hd,
    (stops_cleanly_at_first_cutoff env (by decide) (by decide) [] hc (by decide) hfirst hd).1⟩

-- ── The Genesis Sentinel ────────────────────────────────────────────────────

section Sentinel

variable (env : Env) {l : BigtableLoader} {N : Nat}

/-- With a positive batch size, a running loader with a stop block writes,
    delivery by delivery, what it writes with none up to the cutoff, and
    nothing from the cutoff on. -/
theorem writes_trace_pos (hb : 0 < l.batchSize) (hr : l.shutter = none)
    (hj : l.processingJob = .fullJob) (he : l.endBlock = 0) (ds rest : List Delivery)
    (hno : ∀ d ∈ ds, ¬ plannedShutdown (l.stopBeforeBlock N) d)
    (hcut : ∀ d post, rest = d :: post → plannedShutdown (l.stopBeforeBlock N) d) :
    (trace env.reliable (l.stopBeforeBlock N) (ds ++ rest)).map (fun x => writes x.2) =
      ds.map (fun d => writes (fullJobCalls env l d)) ++ rest.map fun _ => [] := by
  have hb' : 0 < (l.stopBeforeBlock N).batchSize := hb
  have hr' : (l.stopBeforeBlock N).shutter = none := hr
  have hw : ∀ d ∈ ds, writes (plannedCalls env (l.stopBeforeBlock N) d) =
      writes (fullJobCalls env l d) := fun d hd => by
    rw [plannedCalls_stopBeforeBlock env hr hj he (hno d hd)]
  cases rest with
  | nil =>
    rw [List.append_nil, trace_reliable_running env ds hb' hr' hno, List.map_map, List.map_nil,
      List.append_nil]
    exact List.map_congr_left hw
  | cons d post =>
    rw [trace_reliable_cutoff env ds d post hb' hr' hno (hcut d post rfl),
      plannedCalls_cutoff env hr hj (hcut d post rfl)]
    simp only [List.map_append, List.map_map, List.map_cons]
    congr 1
    exact List.map_congr_left hw

/-- The cutoff flushes and shuts the loader down, whatever the batch size. -/
theorem processBlock_reliable_cutoff (hr : l.shutter = none) (hj : l.processingJob = .fullJob)
    {d : Delivery} (hd : plannedShutdown l d) :
    processBlock env.reliable d l = .ok none ((l.record .flush).shutdown none) := by
  obtain ⟨-, hs, hc⟩ := hd
  obtain ⟨b, ⟨step, i, k, bs⟩, now⟩ := d
  cases hs
  simp [processBlock, fullJob, BigtableLoader.isTerminating, hr, hj, hc, doFlush_apply, shutdown]

/-- `FlushIfNeeded`'s `blockNum % 0` panics. -/
theorem flushIfNeeded_zero (hb : l.batchSize = 0) (n : Nat) (t now : Time) :
    flushIfNeeded env n t now l = .error .integerDivideByZero l := by
  simp [flushIfNeeded, hb]

/-- On a zero batch size, a running `FullJob` loader handles a delivery that
    is not the cutoff with its writes alone: a `New` or the first delivery of
    a group panics in `FlushIfNeeded` once it has written; any other
    delivery writes nothing and leaves the loader as it was. -/
theorem processBlock_reliable_zero (hb : l.batchSize = 0) (hr : l.shutter = none)
    (hj : l.processingJob = .fullJob) (d : Delivery) (hd : ¬ plannedShutdown l d) :
    (∃ l', processBlock env.reliable d l = .error .integerDivideByZero l' ∧
      l'.calls = l.calls ++ writes (fullJobCalls env l d)) ∨
    processBlock env.reliable d l = .ok (fullJobResult d) l ∧
      writes (fullJobCalls env l d) = [] := by
  obtain ⟨b, ⟨step, i, k, bs⟩, now⟩ := d
  have ht : l.isTerminating = false := by simp [BigtableLoader.isTerminating, hr]
  cases step
  case new =>
    refine .inl ?_
    by_cases hs : b.number = env.protocolFirstStreamableBlock <;>
      simp [processBlock, fullJob, ht, hj, writeNewBlock, deferring, flushIfNeeded_zero, hb, hs,
        fullJobCalls, sentinelWrites, showProgress, setHealthy, BigtableLoader.record, setHeadBlock]
  case irreversible =>
    have hc : ¬ isCutoff l b.number ⟨.irreversible, i, k, bs⟩ := fun h => hd ⟨by simp [ht], rfl, h⟩
    by_cases hi : i = 0
    · subst hi
      obtain ⟨l', h1, h2, -⟩ := updateIrreversibleData_issues env.reliable bs l
      rw [show env.reliable.db = Target.reliable from rfl, issue_reliable] at h1 h2
      have hb' : l'.batchSize = 0 := h2.batchSize.trans hb
      refine .inl ⟨l', ?_, ?_⟩
      · simp [processBlock, fullJob, ht, hj, hc, h1, flushIfNeeded_zero _ hb']
      · simp [h2.calls, fullJobCalls, hc, updateSites, Function.comp_def]
    · exact .inr ⟨by simp [processBlock, fullJob, ht, hj, hc, hi, fullJobResult],
        by simp [fullJobCalls, hc, hi]⟩
  all_goals exact .inr ⟨by simp [processBlock, fullJob, ht, hj, fullJobResult], rfl⟩

/-- On a zero batch size, a running loader with a stop block writes,
    delivery by delivery, what it writes with none, until the first
    delivery that panics, and nothing from the cutoff on. -/
theorem writes_trace_zero (hb : l.batchSize = 0) (hr : l.shutter = none)
    (hj : l.processingJob = .fullJob) (he : l.endBlock = 0) (rest : List Delivery)
    (hcut : ∀ d post, rest = d :: post → plannedShutdown (l.stopBeforeBlock N) d) :
    ∀ ds : List Delivery, (∀ d ∈ ds, ¬ plannedShutdown (l.stopBeforeBlock N) d) →
      (trace env.reliable (l.stopBeforeBlock N) (ds ++ rest)).map (fun x => writes x.2) <+:
        ds.map (fun d => writes (fullJobCalls env l d)) ++ rest.map fun _ => []
  | [], _ => by
    cases rest with
    | nil => simp [trace]
    | cons d post =>
      have h := @processBlock_reliable_cutoff env (l.stopBeforeBlock N) hr hj d (hcut d post rfl)
      have hr' : ((l.stopBeforeBlock N).record .flush).shutter = none := hr
      have ht : (((l.stopBeforeBlock N).record .flush).shutdown none).isTerminating := by
        simp [BigtableLoader.isTerminating, BigtableLoader.shutdown_shutter _ _ hr']
      rw [List.nil_append, trace_cons_of_ok post h, trace_of_isTerminating _ post ht]
      simp [issuedBy, h, (Steps.record_shutdown _ _ _).calls, Call.isWrite, Function.comp_def]
  | d :: ds, hno => by
    have hd := hno d (List.mem_cons_self _ _)
    have hw := fullJobCalls_stopBeforeBlock env he fun h => hd
      ⟨by simp [BigtableLoader.isTerminating, BigtableLoader.stopBeforeBlock, hr], h⟩
    rcases @processBlock_reliable_zero env (l.stopBeforeBlock N) hb hr hj d hd with
      ⟨l', h1, h2⟩ | ⟨h1, h2⟩
    · simp [List.cons_append, trace, h1, issuedBy, h2, hw]
    · rw [List.cons_append, trace_cons_of_ok _ h1]
      simpa [issuedBy, h1, ← hw, h2] using writes_trace_zero hb hr hj he rest hcut ds
        fun x hx => hno x (List.mem_cons_of_mem _ hx)

end Sentinel

/-- **WRITES PER DELIVERY**: a fresh loader with any batch size and any stop
    block, and a reliable Commit Target, fed deliveries before the first
    cutoff and then anything from the cutoff on, writes, delivery by
    delivery: the Genesis Sentinel and the block on every `New` of the first
    streamable height, the block on any other `New`, the group on the first
    delivery of an `Irreversible` group, nothing else before the cutoff, and
    nothing from the cutoff on.  On a zero batch size it writes a prefix of
    that, as the first `New` or group panics once written.  So the sentinel
    is written once per `New` at that height. -/
theorem sentinel_written_per_new_delivery (env : Env) {B N : Nat} (ds rest : List Delivery)
    (hno : ∀ d ∈ ds, ¬ plannedShutdown ((newBigtableLoader B).stopBeforeBlock N) d)
    (hcut : ∀ d post, rest = d :: post →
      plannedShutdown ((newBigtableLoader B).stopBeforeBlock N) d) :
    let W := (trace env.reliable ((newBigtableLoader B).stopBeforeBlock N) (ds ++ rest)).map
      fun x => writes x.2
    let E := ds.map (fun d =>
        if d.obj.step = .new then sentinelWrites env d.block ++ [.putBlock d.block]
        else if d.obj.step = .irreversible ∧ d.obj.stepIndex = 0 then
          d.obj.stepBlocks.map .updateNowIrreversibleBlock
        else []) ++ rest.map fun _ => []
    W <+: E ∧ (0 < B → W = E) := by
  intro W E
  have hE : E = ds.map (fun d => writes (fullJobCalls env (newBigtableLoader B) d)) ++
      rest.map fun _ => [] := by
    simp only [E, @writes_fullJobCalls env (newBigtableLoader B) rfl]
  have hpos : 0 < B → W = E := fun hB => hE ▸ writes_trace_pos env hB rfl rfl rfl ds rest hno hcut
  refine ⟨?_, hpos⟩
  rcases Nat.eq_zero_or_pos B with rfl | hB
  · exact hE ▸ writes_trace_zero env rfl rfl rfl rfl rest hcut ds hno
  · exact hpos hB ▸ List.prefix_refl _

/-- The `New` of the first streamable block writes the sentinel, then the
    block; the cutoff at stop block 2 writes nothing. -/
theorem sentinel_written_per_new_delivery_single :
    let a₁ : Block := ⟨1, "a1", "g", 0⟩
    let a₂ : Block := ⟨2, "a2", "a1", 0⟩
    let env : Env := ⟨Target.reliable, 1, 0⟩
    let l := (newBigtableLoader 1).stopBeforeBlock 2
    let ds : List Delivery := [⟨a₁, ⟨.new, 0, 0, []⟩, 0⟩]
    let rest : List Delivery := [⟨a₂, ⟨.irreversible, 0, 1, [a₂]⟩, 0⟩]
    (∀ d ∈ ds, ¬ plannedShutdown l d) ∧ (∀ d post, rest = d :: post → plannedShutdown l d) ∧
      (trace env.reliable l (ds ++ rest)).map (fun x => writes x.2) =
        [[.putBlock (genesisBlock env a₁), .updateNowIrreversibleBlock (genesisBlock env a₁),
          .putBlock a₁], []] := by
  intro a₁ a₂ env l ds rest
  have hno : ∀ d ∈ ds, ¬ plannedShutdown l d := by decide
  have hcut : ∀ d post, rest = d :: post → plannedShutdown l d := by
    intro d post h
    obtain ⟨rfl, -⟩ := List.cons.inj h
    decide
  exact ⟨hno, hcut, ((sentinel_written_per_new_delivery env ds rest hno hcut).2 (by decide)).trans
    (by decide)⟩

/-- Two forks at the first streamable height each write and finalize the
    Genesis Sentinel. -/
theorem sentinel_written_twice_on_fork :
    let a₁ : Block := ⟨1, "a1", "g", 0⟩
    let a₂ : Block := ⟨1, "a2", "g", 0⟩
    let env : Env := ⟨Target.reliable, 1, 0⟩
    let ds : List Delivery := [⟨a₁, ⟨.new, 0, 0, []⟩, 0⟩, ⟨a₂, ⟨.new, 0, 0, []⟩, 0⟩]
    Carries [.new a₁, .new a₂] ds ∧ genesisBlock env a₂ = genesisBlock env a₁ ∧
      (run env.reliable (newBigtableLoader 1) ds).calls.count
        (.putBlock (genesisBlock env a₁)) = 2 ∧
      (run env.reliable (newBigtableLoader 1) ds).calls.count
        (.updateNowIrreversibleBlock (genesisBlock env a₁)) = 2 :=
  ⟨.new _ _ _ rfl (.new _ _ _ rfl .nil), rfl, by decide, by decide⟩

end TrxdbLoader
