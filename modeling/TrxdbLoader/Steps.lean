import TrxdbLoader.Loader

/-! # What one delivery plans

    With every call succeeding and a positive batch size the loader's
    functions never panic and never return an error, so what `ProcessBlock`
    does to the state is a list of calls and, at the stop-block cutoff, a
    shutdown.  This file says what those are:

    * `plannedCalls` lists the calls a delivery issues, branch by branch of
      `FullJob` and `PatchJob`; `plannedShutdown` says when it shuts down,
      and `plannedResult` what it returns;
    * `Steps l l' cs`: `l'` is `l` with the calls `cs` appended and the same
      configuration.

    `Sites` proves `processBlock` does exactly that (`processBlock_reliable`),
    from its spec against any Commit Target. -/

namespace TrxdbLoader

variable {α β : Type}

/-- The state a computation ends in, whether it returns or panics. -/
def stateOf : EStateM.Result Panic BigtableLoader α → BigtableLoader
  | .ok _ l => l
  | .error _ l => l

@[simp] theorem stateOf_ok (a : α) (l : BigtableLoader) : stateOf (.ok a l) = l := rfl

@[simp] theorem stateOf_error (e : Panic) (l : BigtableLoader) :
    stateOf (.error e l : EStateM.Result Panic BigtableLoader α) = l := rfl

-- ── The monad, one rfl lemma per primitive ──────────────────────────────────

@[simp] theorem bind_apply (x : LoaderM α) (f : α → LoaderM β) (l : BigtableLoader) :
    (x >>= f) l = match x l with
      | .ok a l' => f a l'
      | .error e l' => .error e l' := by
  show EStateM.bind x f l = _
  unfold EStateM.bind
  cases x l <;> rfl

@[simp] theorem map_apply (x : LoaderM α) (f : α → β) (l : BigtableLoader) :
    (f <$> x) l = match x l with
      | .ok a l' => .ok (f a) l'
      | .error e l' => .error e l' := by
  show EStateM.map f x l = _
  unfold EStateM.map
  cases x l <;> rfl

@[simp] theorem get_apply (l : BigtableLoader) : (get : LoaderM _) l = .ok l l := rfl

@[simp] theorem pure_apply (a : α) (l : BigtableLoader) : (pure a : LoaderM α) l = .ok a l :=
  rfl

@[simp] theorem throw_apply (e : Panic) (l : BigtableLoader) :
    (throw e : LoaderM α) l = .error e l := rfl

@[simp] theorem modify_apply (g : BigtableLoader → BigtableLoader) (l : BigtableLoader) :
    (modify g : LoaderM PUnit) l = .ok ⟨⟩ (g l) := rfl

@[simp] theorem callDb_apply (env : Env) (c : Call) (l : BigtableLoader) :
    callDb env c l = .ok (env.db l.calls c) (l.record c) := rfl

@[simp] theorem reliable_db (env : Env) (h : List Call) (c : Call) :
    env.reliable.db h c = none := rfl

@[simp] theorem reliable_protocolFirstStreamableBlock (env : Env) :
    env.reliable.protocolFirstStreamableBlock = env.protocolFirstStreamableBlock := rfl

@[simp] theorem genesisBlock_reliable (env : Env) (b : Block) :
    genesisBlock env.reliable b = genesisBlock env b := rfl

-- ── Planned calls ───────────────────────────────────────────────────────────

/-- `FlushIfNeeded`'s condition: a multiple of the batch size, or a block less
    than 25 s old. -/
def flushDue (batchSize blockNum : Nat) (blockTime now : Time) : Prop :=
  blockNum % batchSize = 0 ∨ now - blockTime < 25 * second

instance (batchSize blockNum : Nat) (blockTime now : Time) :
    Decidable (flushDue batchSize blockNum blockTime now) :=
  inferInstanceAs (Decidable (_ ∨ _))

/-- The flush `FlushIfNeeded` issues for a delivery, if any. -/
def dueFlush (l : BigtableLoader) (d : Delivery) : List Call :=
  if flushDue l.batchSize d.block.number d.block.timestamp d.now then [.flush] else []

/-- The Genesis Sentinel's two writes, made before the first streamable block. -/
def sentinelWrites (env : Env) (b : Block) : List Call :=
  if b.number = env.protocolFirstStreamableBlock then
    [.putBlock (genesisBlock env b), .updateNowIrreversibleBlock (genesisBlock env b)]
  else []

/-- The calls `FullJob` issues for `d` when every call succeeds. -/
def fullJobCalls (env : Env) (l : BigtableLoader) (d : Delivery) : List Call :=
  match d.obj.step with
  | .new => sentinelWrites env d.block ++ .putBlock d.block :: dueFlush l d
  | .irreversible =>
    if isCutoff l d.block.number d.obj then [.flush]
    else if d.obj.stepIndex ≠ 0 then []
    else d.obj.stepBlocks.map .updateNowIrreversibleBlock ++ dueFlush l d
  | _ => []

/-- The calls `PatchJob` issues for `d` when every call succeeds. -/
def patchJobCalls (l : BigtableLoader) (d : Delivery) : List Call :=
  match d.obj.step with
  | .new => dueFlush l d
  | .irreversible => if isCutoff l d.block.number d.obj then [.flush] else []
  | _ => []

/-- The calls `ProcessBlock` issues for `d` from `l` when every call succeeds
    and the batch size is positive. -/
def plannedCalls (env : Env) (l : BigtableLoader) (d : Delivery) : List Call :=
  if l.isTerminating then [] else
  match l.processingJob with
  | .fullJob => fullJobCalls env l d
  | .patchJob => patchJobCalls l d

/-- Whether `ProcessBlock` shuts the loader down on `d`: only at the cutoff. -/
def plannedShutdown (l : BigtableLoader) (d : Delivery) : Prop :=
  ¬ l.isTerminating ∧ d.obj.step = .irreversible ∧ isCutoff l d.block.number d.obj

instance (l : BigtableLoader) (d : Delivery) : Decidable (plannedShutdown l d) :=
  inferInstanceAs (Decidable (_ ∧ _ ∧ _))

/-- What `FullJob` returns against a reliable target: `nil`, except on a
    step it does not handle. -/
def fullJobResult (d : Delivery) : Option LoaderError :=
  match d.obj.step with
  | .new => none
  | .irreversible => none
  | s => some (.unsupportedForkableStep s)

/-- What `ProcessBlock` returns against a reliable target. -/
def plannedResult (l : BigtableLoader) (d : Delivery) : Option LoaderError :=
  if l.isTerminating then none else
  match l.processingJob with
  | .fullJob => fullJobResult d
  | .patchJob => none

-- ── The frame of a delivery ─────────────────────────────────────────────────

/-- The fields no delivery changes, and the calls it appends. -/
structure Steps (l l' : BigtableLoader) (cs : List Call) : Prop where
  calls : l'.calls = l.calls ++ cs
  batchSize : l'.batchSize = l.batchSize
  endBlock : l'.endBlock = l.endBlock
  processingJob : l'.processingJob = l.processingJob
  launched : l'.launched = l.launched
  source : l'.source = l.source

theorem steps_iff (l l' : BigtableLoader) (cs : List Call) :
    Steps l l' cs ↔ l'.calls = l.calls ++ cs ∧ l'.batchSize = l.batchSize ∧
      l'.endBlock = l.endBlock ∧ l'.processingJob = l.processingJob ∧
      l'.launched = l.launched ∧ l'.source = l.source :=
  ⟨fun ⟨a, b, c, d, e, f⟩ => ⟨a, b, c, d, e, f⟩, fun ⟨a, b, c, d, e, f⟩ => ⟨a, b, c, d, e, f⟩⟩

theorem Steps.refl (l : BigtableLoader) : Steps l l [] := ⟨by simp, rfl, rfl, rfl, rfl, rfl⟩

theorem Steps.record (l : BigtableLoader) (c : Call) : Steps l (l.record c) [c] :=
  ⟨rfl, rfl, rfl, rfl, rfl, rfl⟩

theorem Steps.trans {l₁ l₂ l₃ : BigtableLoader} {cs₁ cs₂ : List Call}
    (h₁ : Steps l₁ l₂ cs₁) (h₂ : Steps l₂ l₃ cs₂) : Steps l₁ l₃ (cs₁ ++ cs₂) :=
  ⟨by rw [h₂.calls, h₁.calls, List.append_assoc], h₂.batchSize.trans h₁.batchSize,
    h₂.endBlock.trans h₁.endBlock, h₂.processingJob.trans h₁.processingJob,
    h₂.launched.trans h₁.launched, h₂.source.trans h₁.source⟩

theorem Steps.shutdown (l : BigtableLoader) (err : Option LoaderError) :
    Steps l (l.shutdown err) [] := by
  unfold BigtableLoader.shutdown
  split_ifs <;> exact ⟨by simp, rfl, rfl, rfl, rfl, rfl⟩

theorem BigtableLoader.shutdown_shutter (l : BigtableLoader) (err : Option LoaderError)
    (h : l.shutter = none) : (l.shutdown err).shutter = some err := by
  unfold BigtableLoader.shutdown
  split_ifs <;> simp_all

theorem Steps.record_shutdown (l : BigtableLoader) (c : Call) (err : Option LoaderError) :
    Steps l ((l.record c).shutdown err) [c] :=
  have h := Steps.shutdown (l.record c) err
  ⟨by rw [h.calls]; simp [BigtableLoader.record], h.batchSize, h.endBlock, h.processingJob,
    h.launched, h.source⟩

/-- The planned calls and shutdown read only the configuration and whether
    the loader is shutting down, which a delivery keeps unless it is the
    cutoff. -/
theorem plannedCalls_congr (env : Env) (d : Delivery) {l l' : BigtableLoader} {cs : List Call}
    (h : Steps l l' cs) (ht : l'.isTerminating = l.isTerminating) :
    plannedCalls env l' d = plannedCalls env l d ∧
      (plannedShutdown l' d ↔ plannedShutdown l d) := by
  simp [plannedCalls, plannedShutdown, fullJobCalls, patchJobCalls, dueFlush, isCutoff, ht,
    h.batchSize, h.endBlock, h.processingJob]

theorem plannedResult_congr (d : Delivery) {l l' : BigtableLoader} {cs : List Call}
    (h : Steps l l' cs) (ht : l'.isTerminating = l.isTerminating) :
    plannedResult l' d = plannedResult l d := by
  simp [plannedResult, ht, h.processingJob]

/-- A running `FullJob` loader plans `FullJob`'s calls. -/
theorem plannedCalls_fullJob (env : Env) {l : BigtableLoader}
    (hr : l.shutter = none) (hj : l.processingJob = .fullJob) :
    plannedCalls env l = fullJobCalls env l := by
  funext d
  simp [plannedCalls, BigtableLoader.isTerminating, hr, hj]

end TrxdbLoader

