import TrxdbLoader.Sites

/-! # One delivery against any Commit Target

    When the Commit Target may fail any call, a delivery's calls depend on
    its answers, but what the delivery does to the loader's lifecycle does
    not: `FullJob`'s `New` marks a running loader healthy, the stop-block
    cutoff shuts it down with the flush's error, and nothing else touches the
    shutters, the health flag or the configuration.  The one panic modelled
    is `FlushIfNeeded`'s `blockNum % 0`, which a positive batch size rules
    out; `MustTime` on an out-of-range header time and `ToNative`'s type
    assertion are not modelled, since a `Block` here always carries a
    wall-clock time and is always an Ethereum block.

    * `Lifecycle`: the fields only `setHealthy` and the shutdowns change;
    * `EndsIn lc r`: a result that ends with lifecycle `lc`, panicked or not,
      and returns when `lc`'s batch size is positive;
    * `lifecycleAfter`: what `ProcessBlock` does to the lifecycle, and
      `processBlock_endsIn`, that it does exactly that;
    * `batch_zero_panics`: on batch size 0 a `New` panics under either job. -/

namespace TrxdbLoader

variable {α β : Type}

/-- The fields a delivery changes only through `setHealthy` and the
    shutdowns: the two shutters, the health flag, the hooks, and the
    configuration. -/
structure Lifecycle where
  shutter : Shutter
  sourceShutter : Shutter
  healthy : Bool
  launched : Bool
  batchSize : Nat
  endBlock : Nat
  processingJob : Job
  source : Option SourcePlan
  deriving DecidableEq, Repr

/-- The loader's lifecycle fields. -/
def BigtableLoader.lifecycle (l : BigtableLoader) : Lifecycle :=
  ⟨l.shutter, l.sourceShutter, l.healthy, l.launched, l.batchSize, l.endBlock, l.processingJob,
    l.source⟩

@[simp] theorem lifecycle_record (c : Call) (l : BigtableLoader) :
    (l.record c).lifecycle = l.lifecycle := rfl

@[simp] theorem lifecycle_setHeadBlock (n : Nat) (t : Time) (l : BigtableLoader) :
    (setHeadBlock n t l).lifecycle = l.lifecycle := rfl

theorem lifecycle_shutdown_record (c : Call) (err : Option LoaderError) (l : BigtableLoader) :
    ((l.record c).shutdown err).lifecycle = (l.shutdown err).lifecycle := by
  simp only [BigtableLoader.shutdown, BigtableLoader.record]
  split_ifs <;> rfl

-- ── Results that end in a lifecycle ─────────────────────────────────────────

/-- `r` ends with lifecycle `lc`, whether it returned or panicked, and it
    returned if `lc`'s batch size is positive. -/
def EndsIn (lc : Lifecycle) (r : EStateM.Result Panic BigtableLoader α) : Prop :=
  (stateOf r).lifecycle = lc ∧ (0 < lc.batchSize → ∃ a l', r = .ok a l')

@[simp] theorem endsIn_ok {lc : Lifecycle} (a : α) (l : BigtableLoader) :
    EndsIn lc (.ok a l : EStateM.Result Panic BigtableLoader α) ↔ l.lifecycle = lc := by
  simp [EndsIn]

@[simp] theorem endsIn_error {lc : Lifecycle} (e : Panic) (l : BigtableLoader) :
    EndsIn lc (.error e l : EStateM.Result Panic BigtableLoader α) ↔
      l.lifecycle = lc ∧ lc.batchSize = 0 := by
  simp [EndsIn, Nat.pos_iff_ne_zero]

theorem EndsIn.congr {lc lc' : Lifecycle} {r : EStateM.Result Panic BigtableLoader α}
    (h : EndsIn lc r) (he : lc = lc') : EndsIn lc' r :=
  he ▸ h

theorem EndsIn.bind {lc : Lifecycle} {x : LoaderM α} {f : α → LoaderM β} {s : BigtableLoader}
    (hx : EndsIn lc (x s)) (hf : ∀ a s', s'.lifecycle = lc → EndsIn lc (f a s')) :
    EndsIn lc ((x >>= f) s) := by
  rw [bind_apply]
  obtain ⟨h1, h2⟩ := hx
  cases h : x s with
  | ok a s' => exact hf a s' (by simpa [h] using h1)
  | error e s' =>
    rw [h] at h1 h2
    refine (endsIn_error e s').mpr ⟨h1, Nat.eq_zero_of_not_pos fun hb => ?_⟩
    obtain ⟨_, _, h'⟩ := h2 hb
    cases h'

/-- Go's `if err := l.db.X(...); err != nil { return ... }`: whatever the
    Commit Target answers, the call only records itself. -/
theorem endsIn_callDb_bind (env : Env) (c : Call) {f : Option DbError → LoaderM β}
    {lc : Lifecycle} {s : BigtableLoader} (h : ∀ o, EndsIn lc (f o (s.record c))) :
    EndsIn lc ((callDb env c >>= f) s) := by
  rw [bind_apply, callDb_apply]
  exact h _

theorem endsIn_deferring {lc : Lifecycle} {x : LoaderM α} {g : BigtableLoader → BigtableLoader}
    {s : BigtableLoader} (h : EndsIn lc (x s)) (hg : ∀ l, (g l).lifecycle = l.lifecycle) :
    EndsIn lc (deferring x g s) := by
  unfold deferring
  obtain ⟨h1, h2⟩ := h
  split <;> rename_i heq <;> rw [heq] at h1 h2 <;> simp_all

theorem flushIfNeeded_endsIn (env : Env) (n : Nat) (t now : Time) (l : BigtableLoader) :
    EndsIn l.lifecycle (flushIfNeeded env n t now l) := by
  simp only [flushIfNeeded, bind_apply, get_apply]
  by_cases h0 : l.batchSize = 0
  · simp [h0, EndsIn, BigtableLoader.lifecycle]
  · simp only [h0, if_false]
    split_ifs
    · simp only [bind_apply, doFlush_apply]
      cases h : env.db l.calls .flush <;>
        simp [h, setHeadBlockNumber, BigtableLoader.lifecycle, BigtableLoader.record]
    · simp

theorem updateIrreversibleData_endsIn (env : Env) (bs : List Block) (l : BigtableLoader) :
    EndsIn l.lifecycle (updateIrreversibleData env bs l) := by
  induction bs generalizing l with
  | nil => simp [updateIrreversibleData]
  | cons b bs ih =>
    refine endsIn_callDb_bind env _ fun o => ?_
    cases o
    · exact ih _
    · simp

theorem writeNewBlock_endsIn (env : Env) (n : Nat) (b : Block) (now : Time) (l : BigtableLoader) :
    EndsIn l.lifecycle (writeNewBlock env n b now l) := by
  have hput : ∀ s : BigtableLoader, s.lifecycle = l.lifecycle → EndsIn l.lifecycle
      ((callDb env (.putBlock b) >>= fun r => match r with
        | some err => pure (some (LoaderError.storeBlock err))
        | _ => flushIfNeeded env n b.timestamp now) s) := fun s hs =>
    endsIn_callDb_bind env _ fun o => by
      cases o
      · exact (flushIfNeeded_endsIn env n _ now _).congr (by simp [hs])
      · simp [hs]
  unfold writeNewBlock
  split_ifs
  · refine endsIn_callDb_bind env _ fun o => ?_
    cases o
    · simp only [pure_bind]
      refine endsIn_callDb_bind env _ fun o => ?_
      cases o
      · simpa only [pure_bind] using hput _ (by simp)
      · simp
    · simp
  · exact hput l rfl

-- ── What one delivery does to the lifecycle ─────────────────────────────────

/-- What `ProcessBlock` does to the lifecycle, whether it returns or panics:
    `FullJob`'s `New` marks a running loader healthy, and the cutoff shuts it
    down with the flush's error, except that `PatchJob` does not shut down
    when the flush fails. -/
def lifecycleAfter (env : Env) (l : BigtableLoader) (d : Delivery) : Lifecycle :=
  if l.isTerminating then l.lifecycle else
  match l.processingJob, d.obj.step with
  | .fullJob, .new => { l.lifecycle with healthy := true }
  | job, .irreversible =>
    if isCutoff l d.block.number d.obj then
      match job, (env.db l.calls .flush).map LoaderError.flushFailed with
      | .patchJob, some _ => l.lifecycle
      | _, err => (l.shutdown err).lifecycle
    else l.lifecycle
  | _, _ => l.lifecycle

theorem lifecycleAfter_batchSize (env : Env) (l : BigtableLoader) (d : Delivery) :
    (lifecycleAfter env l d).batchSize = l.batchSize := by
  unfold lifecycleAfter BigtableLoader.shutdown
  split_ifs <;> (try split) <;> (try split) <;> rfl

theorem fullJob_endsIn (env : Env) (d : Delivery) {l : BigtableLoader}
    (ht : l.isTerminating = false) (hj : l.processingJob = .fullJob) :
    EndsIn (lifecycleAfter env l d) (fullJob env d.block.number d.block d.obj d.now l) := by
  obtain ⟨b, ⟨step, i, k, bs⟩, now⟩ := d
  simp only [lifecycleAfter, ht, hj, Bool.false_eq_true, if_false]
  cases step <;> simp only [fullJob, bind_apply, get_apply, pure_apply]
  case new =>
    simp only [showProgress, setHealthy, modify_apply]
    exact endsIn_deferring (writeNewBlock_endsIn env _ _ _ _) (lifecycle_setHeadBlock _ _)
  case irreversible =>
    split_ifs with hc hi
    · simp only [doFlush_apply, shutdown, bind_apply, modify_apply, pure_apply]
      cases env.db l.calls .flush <;> simp [lifecycle_shutdown_record]
    · simp
    · simp only [pure_bind]
      refine (updateIrreversibleData_endsIn env bs l).bind fun r s hs => ?_
      cases r
      · simpa only [pure_bind] using (flushIfNeeded_endsIn env _ _ now s).congr hs
      · simp [hs]
  all_goals simp

theorem patchJob_endsIn (env : Env) (d : Delivery) {l : BigtableLoader}
    (ht : l.isTerminating = false) (hj : l.processingJob = .patchJob) :
    EndsIn (lifecycleAfter env l d) (patchJob env d.block.number d.block d.obj d.now l) := by
  obtain ⟨b, ⟨step, i, k, bs⟩, now⟩ := d
  simp only [lifecycleAfter, ht, hj, Bool.false_eq_true, if_false]
  cases step <;> simp only [patchJob, bind_apply, get_apply, pure_apply]
  case new =>
    simp only [showProgress, modify_apply]
    exact (flushIfNeeded_endsIn env _ _ now _).congr rfl
  case irreversible =>
    split_ifs with hc
    · simp only [doFlush_apply, shutdown, bind_apply, modify_apply, pure_apply]
      cases env.db l.calls .flush <;> simp [lifecycle_shutdown_record]
    · simp
  all_goals simp

/-- **ONE DELIVERY, ANY TARGET**: `ProcessBlock` ends in `lifecycleAfter`,
    whatever the Commit Target answers, and returns when the batch size is
    positive. -/
theorem processBlock_endsIn (env : Env) (d : Delivery) (l : BigtableLoader) :
    EndsIn (lifecycleAfter env l d) (processBlock env d l) := by
  simp only [processBlock, bind_apply, get_apply]
  cases ht : l.isTerminating
  · cases hj : l.processingJob
    · simpa [hj] using fullJob_endsIn env d ht hj
    · simpa [hj] using patchJob_endsIn env d ht hj
  · simp [lifecycleAfter, ht]

theorem processBlock_lifecycle (env : Env) (d : Delivery) (l : BigtableLoader) :
    (stateOf (processBlock env d l)).lifecycle = lifecycleAfter env l d :=
  (processBlock_endsIn env d l).1

-- ── Panics ──────────────────────────────────────────────────────────────────

/-- `NewBigtableLoader` takes a batch size of 0, and then the first `New`
    panics in `FlushIfNeeded`'s `blockNum % 0`, under either job. -/
theorem batch_zero_panics :
    let d : Delivery := ⟨⟨1, "b1", "b0", 0⟩, ⟨.new, 0, 0, []⟩, 0⟩
    let env : Env := ⟨Target.reliable, 0, 0⟩
    (∃ l, processBlock env.reliable d (newBigtableLoader 0) = .error .integerDivideByZero l) ∧
      ∃ l, processBlock env.reliable d { newBigtableLoader 0 with processingJob := .patchJob } =
        .error .integerDivideByZero l :=
  ⟨⟨_, rfl⟩, ⟨_, rfl⟩⟩

end TrxdbLoader
