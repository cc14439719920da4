import Mathlib.Data.List.Basic

/-! # Blocks, fork steps and the Commit Target — the loader's data model

    The `trxdb_loader` package receives blocks from a `bstream` source through
    the fork resolver (`forkable`), which tags every delivery with a step and,
    for `Irreversible`, with the group of blocks the step finalizes.  The loader
    writes them to a `trxdb.DBWriter`, the Commit Target.

    * `Block` keeps the fields the loader reads or builds (`Number`, `Hash`,
      `Header.ParentHash`, `Header.Timestamp`);
    * `ForkableObject` is the resolver's tag, `Delivery` one call of
      `ProcessBlock` with the wall clock at that moment;
    * `Call` is one request on the Commit Target, which answers from the
      history of requests it has seen (`Target`);
    * `LoaderError` has one constructor per `fmt.Errorf` site of the loader. -/

namespace TrxdbLoader

/-- `time.Time` and `time.Duration`, in nanoseconds.  Go saturates
    `Time.Sub` at the bounds of `int64`; every comparison the loader makes
    against a duration comes out the same on the unbounded difference. -/
abbrev Time := Int

/-- `time.Second`. -/
def second : Time := 1000000000

/-- The fields of a `*pbcodec.Block` (and of the `bstream.Block` carrying it)
    that the loader reads or builds. -/
structure Block where
  number : Nat
  hash : String
  parentHash : String
  timestamp : Time
  deriving DecidableEq, Repr

/-- A `bstream.BlockRef`: an ID and a number; the empty ref has ID `""`. -/
structure BlockRef where
  id : String
  num : Nat
  deriving DecidableEq, Repr

/-- The reference of a block. -/
def Block.asRef (b : Block) : BlockRef := ⟨b.hash, b.number⟩

/-- `bstream.StepType`, the step the fork resolver tags a delivery with. -/
inductive StepType
  | new
  | undo
  | redo
  | handoff
  | irreversible
  | stalled
  deriving DecidableEq, Repr

/-- `StepType.String()`, as `%q` quotes it in an error. -/
def StepType.name : StepType → String
  | .new => "new"
  | .undo => "undo"
  | .redo => "redo"
  | .handoff => "handoff"
  | .irreversible => "irreversible"
  | .stalled => "stalled"

/-- `*forkable.ForkableObject`: the step, and for a multi-block step the
    position of this delivery in its group, the group's size and its blocks. -/
structure ForkableObject where
  step : StepType
  stepIndex : Nat
  stepCount : Nat
  stepBlocks : List Block
  deriving DecidableEq, Repr

/-- One call of `ProcessBlock(blk, obj)`, with the wall clock (`time.Now()`)
    while the loader handles it. -/
structure Delivery where
  block : Block
  obj : ForkableObject
  now : Time
  deriving DecidableEq, Repr

/-- One request on the Commit Target (`trxdb.DBWriter`). -/
inductive Call
  | putBlock (b : Block)
  | updateNowIrreversibleBlock (b : Block)
  | flush
  deriving DecidableEq, Repr

/-- The error a Commit Target returns; its text is opaque to the loader. -/
abbrev DbError := String

/-- The Commit Target: its answer to a call (`none` is Go's `nil`) may depend
    on every call it received before. -/
abbrev Target := List Call → Call → Option DbError

/-- A Commit Target whose calls all succeed. -/
def Target.reliable : Target := fun _ _ => none

/-- The errors the loader returns or shuts down with, one per `fmt.Errorf`
    site; `db` is a Commit Target error returned unwrapped and `source` the
    error a source terminates with. -/
inductive LoaderError
  | storeGenesisBlock (e : DbError)
  | setGenesisBlockIrreversible (e : DbError)
  | storeBlock (e : DbError)
  | flushFailed (e : DbError)
  | db (e : DbError)
  | unsupportedForkableStep (s : StepType)
  | unableToResolveStartBlock (e : String)
  | failedGettingLatestWrittenLib (e : String)
  | source (e : String)
  deriving DecidableEq, Repr

/-- The text of each error, as its format string renders it. -/
def LoaderError.message : LoaderError → String
  | .storeGenesisBlock e => "store genesis block: " ++ e
  | .setGenesisBlockIrreversible e => "set genesis block irreversible: " ++ e
  | .storeBlock e => "store block: " ++ e
  | .flushFailed e => "flush failed: " ++ e
  | .db e => e
  | .unsupportedForkableStep s => "unsupported forkable step \"" ++ s.name ++ "\""
  | .unableToResolveStartBlock e => "unable to resolve start block: " ++ e
  | .failedGettingLatestWrittenLib e => "failed getting latest written LIB: " ++ e
  | .source e => e

/-- A Go runtime panic the loader can raise; no caller recovers it. -/
inductive Panic
  | integerDivideByZero
  deriving DecidableEq, Repr

/-- What the loader's functions read besides their own state: the Commit
    Target, and `bstream`'s protocol globals, which the chain sets at init. -/
structure Env where
  db : Target
  protocolFirstStreamableBlock : Nat
  protocolGenesisBlock : Nat

/-- The same protocol globals, with a Commit Target whose calls all succeed. -/
def Env.reliable (env : Env) : Env := { env with db := Target.reliable }

end TrxdbLoader
