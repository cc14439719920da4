import TrxdbLoader.Block

/-! # `BigtableLoader` — the ingestion state machine

    The loader's state and every function of `trxdb_loader` that runs per
    delivery, in the `EStateM` monad: a Go function returning `error` returns
    `Option LoaderError` here, and the monad's own error channel is a Go panic
    (`blockNum % 0`).  The state also holds what the Commit Target has received
    and the two head-block metrics the loader sets.

    * `buildPipelineJob` and `buildPipelineLive` set the job and record the
      source topology they assemble, which `Pipeline` and `Live` follow;
    * `shutdown` is `Shutter.Shutdown` with the hooks `Launch` registers, so a
      loader that shuts itself down at the stop block also stops its source;
    * `fullJob` and `patchJob` are the two policies `processBlock` dispatches to. -/

namespace TrxdbLoader

/-- A `*shutter.Shutter`: `none` while running, `some err` once shut down with
    `err` (`none` is Go's `nil`); the first `Shutdown` wins. -/
abbrev Shutter := Option (Option LoaderError)

/-- The job a loader runs for each delivery (`l.processingJob`). -/
inductive Job
  | fullJob
  | patchJob
  deriving DecidableEq, Repr

/-- The source topology a `BuildPipeline*` call stored in `l.source`. -/
inductive SourcePlan
  /-- `BuildPipelineJob`: a file source from the resolved start block into the
      fork resolver, whose handler is an inclusive gate at `startBlockNum`. -/
  | job (startBlockNum resolvedStartBlockNum : Nat)
  /-- `BuildPipelineLive`: an eternal source built by a factory that closes
      over `startAtBlockOne` and the last written irreversible block. -/
  | live (startAtBlockOne : Bool) (libRef : BlockRef)
  deriving DecidableEq, Repr

/-- The fields of `BigtableLoader` that any modelled function reads, the
    source's shutter, whether `Launch` has wired the two shutters together,
    the calls the Commit Target received, and the head-block metrics. -/
structure BigtableLoader where
  shutter : Shutter
  processingJob : Job
  batchSize : Nat
  lastTickBlock : Nat
  lastTickTime : Option Time
  source : Option SourcePlan
  sourceShutter : Shutter
  launched : Bool
  endBlock : Nat
  healthy : Bool
  calls : List Call
  headBlockNumber : Nat
  headBlockTime : Option Time
  deriving DecidableEq, Repr

/-- `NewBigtableLoader(addr, store, batchSize, db, parallel)`: the batch size
    is taken as given, and the job defaults to the full job. -/
def newBigtableLoader (batchSize : Nat) : BigtableLoader where
  shutter := none
  processingJob := .fullJob
  batchSize := batchSize
  lastTickBlock := 0
  lastTickTime := none
  source := none
  sourceShutter := none
  launched := false
  endBlock := 0
  healthy := false
  calls := []
  headBlockNumber := 0
  headBlockTime := none

/-- What `GetLastWrittenIrreversibleBlockRef` answers: a reference, or an
    error, with whether it is `kvdb.ErrNotFound` (an empty table). -/
inductive LibLookup
  | found (ref : BlockRef)
  | failed (e : String) (notFound : Bool)

namespace BigtableLoader

/-- `StopBeforeBlock(blockNum)`: the exclusive stop block, `0` for none. -/
def stopBeforeBlock (blockNum : Nat) (l : BigtableLoader) : BigtableLoader :=
  { l with endBlock := blockNum }

/-- `IsTerminating()`. -/
def isTerminating (l : BigtableLoader) : Bool := l.shutter.isSome

/-- The Commit Target's record once it has received `c`. -/
def record (c : Call) (l : BigtableLoader) : BigtableLoader :=
  { l with calls := l.calls ++ [c] }

/-- `l.Shutdown(err)`.  Once `Launch` has run, the loader's `OnTerminating`
    hook shuts the source down, whose hooks shut the loader down (a no-op by
    then) and call `setUnhealthy`. -/
def shutdown (err : Option LoaderError) (l : BigtableLoader) : BigtableLoader :=
  if l.shutter.isSome then l
  else if l.launched && l.sourceShutter.isNone then
    { l with shutter := some err, sourceShutter := some err, healthy := false }
  else { l with shutter := some err }

/-- `l.source.Shutdown(err)`, as a source calls it when it stops.  Once
    `Launch` has run, its `OnTerminating` hook shuts the loader down with the
    same cause and its `OnTerminated` hook calls `setUnhealthy`. -/
def sourceShutdown (err : Option LoaderError) (l : BigtableLoader) : BigtableLoader :=
  if l.sourceShutter.isSome then l
  else if l.launched then
    { l with sourceShutter := some err, shutter := l.shutter.or (some err), healthy := false }
  else { l with sourceShutter := some err }

/-- `Launch()` before `l.source.Run()`: register the shutdown hooks. -/
def launch (l : BigtableLoader) : BigtableLoader := { l with launched := true }

/-- `BuildPipelineJob(startBlockNum, startBlockResolver, job)`, with the
    resolver's answer: a resolved start block, or the error that shuts the
    loader down and leaves it with no source. -/
def buildPipelineJob (startBlockNum : Nat) (resolved : Except String Nat)
    (job : Job) (l : BigtableLoader) : BigtableLoader :=
  let l := { l with processingJob := job }
  match resolved with
  | .error e => l.shutdown (some (.unableToResolveStartBlock e))
  | .ok n => { l with source := some (.job startBlockNum n) }

/-- `BuildPipelineLive(allowLiveOnEmptyTable)`, with the lookup's answer:
    the full job and an eternal source resuming after the last written
    irreversible block; on an empty table, starting at block 1 if allowed;
    otherwise the wrapped error, with no source. -/
def buildPipelineLive (allowLiveOnEmptyTable : Bool) (lib : LibLookup)
    (l : BigtableLoader) : BigtableLoader × Option LoaderError :=
  let l := { l with processingJob := .fullJob }
  match lib with
  | .found libRef => ({ l with source := some (.live false libRef) }, none)
  | .failed e notFound =>
    if notFound && allowLiveOnEmptyTable then
      ({ l with source := some (.live true ⟨"", 0⟩) }, none)
    else (l, some (.failedGettingLatestWrittenLib e))

end BigtableLoader

/-- The loader's monad: state, and a Go panic as the only exception. -/
abbrev LoaderM := EStateM Panic BigtableLoader

/-- One request on `l.db`, answered by the Commit Target from its history. -/
def callDb (env : Env) (c : Call) : LoaderM (Option DbError) :=
  modifyGet fun l => (env.db l.calls c, l.record c)

/-- Go's `defer` of a state update that cannot panic: it runs when `x`
    returns, and also when `x` panics. -/
def deferring (x : LoaderM α) (f : BigtableLoader → BigtableLoader) : LoaderM α := fun l =>
  match x l with
  | .ok a l' => .ok a (f l')
  | .error e l' => .error e (f l')

/-- `setHealthy()`. -/
def setHealthy : LoaderM Unit := modify fun l => { l with healthy := true }

/-- `setUnhealthy()`. -/
def setUnhealthy : LoaderM Unit := modify fun l => { l with healthy := false }

/-- `metrics.HeadBlockNumber.SetUint64(blockNum)`. -/
def setHeadBlockNumber (blockNum : Nat) : LoaderM Unit :=
  modify fun l => { l with headBlockNumber := blockNum }

/-- `l.Shutdown(err)` inside the monad. -/
def shutdown (err : Option LoaderError) : LoaderM Unit := modify (·.shutdown err)

/-- `ShowProgress(blockNum)`: at most every 5 s, move the tick to this block.
    The zero `time.Time` lies before every clock reading; the rate line it
    logs is not modelled. -/
def showProgress (blockNum : Nat) (now : Time) : LoaderM Unit :=
  modify fun l =>
    let due := l.lastTickTime.all (· < now - 5 * second)
    { l with lastTickTime := if due then some now else l.lastTickTime,
             lastTickBlock := if due then blockNum else l.lastTickBlock }

/-- `DoFlush(blockNum)`: a flush bounded by a one-minute context; a timeout
    is one of the Commit Target's errors.  The block number is only logged. -/
def doFlush (env : Env) : LoaderM (Option LoaderError) := do
  if let some err ← callDb env .flush then
    return some (.flushFailed err)
  return none

/-- `FlushIfNeeded(blockNum, blockTime)`: flush at every multiple of the batch
    size, or when the block is less than 25 s old.  `%` by a zero batch size
    panics. -/
def flushIfNeeded (env : Env) (blockNum : Nat) (blockTime now : Time) :
    LoaderM (Option LoaderError) := do
  let l ← get
  if l.batchSize = 0 then throw .integerDivideByZero
  if blockNum % l.batchSize = 0 ∨ now - blockTime < 25 * second then
    if let some err ← doFlush env then
      return some err
    setHeadBlockNumber blockNum
  return none

/-- `UpdateIrreversibleData(nowIrreversibleBlocks)`: finalize each block in
    order, stopping at the first error. -/
def updateIrreversibleData (env : Env) : List Block → LoaderM (Option LoaderError)
  | [] => return none
  | blk :: rest => do
    if let some err ← callDb env (.updateNowIrreversibleBlock blk) then
      return some (.db err)
    updateIrreversibleData env rest

/-- The Genesis Sentinel `FullJob` builds from the first streamable block: it
    has the genesis number, the block's parent hash and the block's time. -/
def genesisBlock (env : Env) (block : Block) : Block where
  number := env.protocolGenesisBlock
  hash := block.parentHash
  parentHash := ""
  timestamp := block.timestamp

/-- Whether an `Irreversible` delivery is the stop-block cutoff: a stop block
    is set, reached, and this is the last delivery of its group. -/
def isCutoff (l : BigtableLoader) (blockNum : Nat) (fObj : ForkableObject) : Prop :=
  l.endBlock ≠ 0 ∧ blockNum ≥ l.endBlock ∧ fObj.stepCount = fObj.stepIndex + 1

instance (l : BigtableLoader) (blockNum : Nat) (fObj : ForkableObject) :
    Decidable (isCutoff l blockNum fObj) :=
  inferInstanceAs (Decidable (_ ∧ _ ∧ _))

/-- The writes of `FullJob`'s `StepNew` case, which run under its deferred
    metric updates: the Genesis Sentinel at the first streamable block, then
    the block, then a flush if needed. -/
def writeNewBlock (env : Env) (blockNum : Nat) (block : Block) (now : Time) :
    LoaderM (Option LoaderError) := do
  if blockNum = env.protocolFirstStreamableBlock then
    let genesisBlock := genesisBlock env block
    if let some err ← callDb env (.putBlock genesisBlock) then
      return some (.storeGenesisBlock err)
    if let some err ← callDb env (.updateNowIrreversibleBlock genesisBlock) then
      return some (.setGenesisBlockIrreversible err)
  if let some err ← callDb env (.putBlock block) then
    return some (.storeBlock err)
  flushIfNeeded env blockNum block.timestamp now

/-- The two metric updates `FullJob` defers on `New`. -/
def setHeadBlock (blockNum : Nat) (blkTime : Time) (l : BigtableLoader) : BigtableLoader :=
  { l with headBlockNumber := blockNum, headBlockTime := some blkTime }

/-- `FullJob`: write on `New`, finalize the whole group on the first
    delivery of an `Irreversible` group, flush and stop at the cutoff. -/
def fullJob (env : Env) (blockNum : Nat) (block : Block) (fObj : ForkableObject)
    (now : Time) : LoaderM (Option LoaderError) := do
  let blkTime := block.timestamp
  match fObj.step with
  | .new =>
    showProgress blockNum now
    setHealthy
    deferring (writeNewBlock env blockNum block now) (setHeadBlock blockNum blkTime)
  | .irreversible =>
    if isCutoff (← get) blockNum fObj then
      if let some err ← doFlush env then
        shutdown (some err)
        return some err
      shutdown none
      return none
    -- Handle only the first multi-block step Irreversible
    if fObj.stepIndex ≠ 0 then
      return none
    if let some err ← updateIrreversibleData env fObj.stepBlocks then
      return some err
    flushIfNeeded env blockNum blkTime now
  | step => return some (.unsupportedForkableStep step)

/-- `PatchJob`: no writes; progress and flushes on `New`, and the stop-block
    cutoff on `Irreversible`, which does not shut down on a flush error. -/
def patchJob (env : Env) (blockNum : Nat) (blk : Block) (fObj : ForkableObject)
    (now : Time) : LoaderM (Option LoaderError) := do
  match fObj.step with
  | .new =>
    showProgress blockNum now
    flushIfNeeded env blockNum blk.timestamp now
  | .irreversible =>
    if isCutoff (← get) blockNum fObj then
      if let some err ← doFlush env then
        return some err
      shutdown none
      return none
    return none
  | _ => return none

/-- `ProcessBlock(blk, obj)`: nothing once terminating, else the job. -/
def processBlock (env : Env) (d : Delivery) : LoaderM (Option LoaderError) := do
  let l ← get
  if l.isTerminating then
    return none
  match l.processingJob with
  | .fullJob => fullJob env d.block.number d.block d.obj d.now
  | .patchJob => patchJob env d.block.number d.block d.obj d.now

end TrxdbLoader
