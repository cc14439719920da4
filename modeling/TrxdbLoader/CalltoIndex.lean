import TrxdbLoader.Block

/-! # The generate-callto-index command

    `generateCalltoIdxE` (package `tools`) reads its flags, turns the two
    bundle-size lists into `uint64`s, parses the start and the optional stop
    block number, opens the three stores, and asks the firehose for the
    irreversible blocks from the earlier of the first blocks the
    irreversible index and the call-to index have not covered yet.  Its
    handler hands each block to the irreversible-blocks indexer when
    `--create-irreversible-indexes` is set, then to the call indexer.

    * `bundleSizes`: the loop over an `IntSlice` flag, run on both size
      flags; `bundleSizes_ok_or_first_negative`: the sizes are handed on
      unchanged, or the error names the first negative one;
    * `parseUint`: `strconv.ParseUint(s, 10, 64)`, and `parseUint_ok_iff`:
      it accepts exactly the non-empty decimal strings whose value fits in
      a `uint64`;
    * `generateCalltoIdxE`: the command up to `stream.Run`, with the stores,
      `FindNextUnindexed` and the stream factory as oracles;
    * `start_block_wraps_negative`: a start block past `math.MaxInt64`
      reaches the firehose as a negative, head-relative start. -/

namespace TrxdbLoader.Tools

-- ── strconv.ParseUint ───────────────────────────────────────────────────────

/-- `math.MaxUint64`, `1<<64 - 1`. -/
def maxUint64 : Nat := 18446744073709551615

/-- The cause in a `*strconv.NumError`: `ErrSyntax` or `ErrRange`. -/
inductive NumErrorKind
  | invalid
  | outOfRange
  deriving DecidableEq, Repr

/-- `*strconv.NumError` of `ParseUint`: the input, and the cause. -/
structure NumError where
  num : String
  kind : NumErrorKind
  deriving DecidableEq, Repr

/-- The value of a decimal digit. -/
def digitValue (c : Char) : Nat := c.toNat - '0'.toNat

/-- `ParseUint`'s loop in base 10 from the value `n` read so far.  A
    character that is not a decimal digit is `ErrSyntax` (a letter is a
    digit of too high a base, anything else no digit).  A digit is
    `ErrRange` when `n` is at the cutoff, so that `n*10` overflows, or when
    `n*10 + d` wraps around in `uint64`, which on the unbounded value is
    exceeding `maxUint64`. -/
def parseDigits (n : Nat) : List Char → Except NumErrorKind Nat
  | [] => .ok n
  | c :: cs =>
    if c.isDigit then
      if maxUint64 / 10 + 1 ≤ n then .error .outOfRange
      else if maxUint64 < n * 10 + digitValue c then .error .outOfRange
      else parseDigits (n * 10 + digitValue c) cs
    else .error .invalid

/-- `strconv.ParseUint(s, 10, 64)`, over the characters of `s` (Go reads
    bytes; a non-ASCII character is an error either way). -/
def parseUint (s : String) : Except NumError Nat :=
  if s = "" then .error ⟨s, .invalid⟩ else (parseDigits 0 s.toList).mapError fun k => ⟨s, k⟩

/-- The decimal value of a digit string, read from the value `n`. -/
def decimalFrom (n : Nat) (cs : List Char) : Nat :=
  cs.foldl (fun n c => n * 10 + digitValue c) n

@[simp] theorem decimalFrom_nil (n : Nat) : decimalFrom n [] = n := rfl

@[simp] theorem decimalFrom_cons (n : Nat) (c : Char) (cs : List Char) :
    decimalFrom n (c :: cs) = decimalFrom (n * 10 + digitValue c) cs := rfl

theorem le_decimalFrom (cs : List Char) : ∀ n, n ≤ decimalFrom n cs := by
  induction cs with
  | nil => exact fun n => le_rfl
  | cons c cs ih => exact fun n => le_trans (by omega) (ih (n * 10 + digitValue c))

/-- The loop returns exactly when every character is a digit and the value
    fits in a `uint64`: a value that grows past `maxUint64` never comes
    back under it. -/
theorem parseDigits_ok_iff (cs : List Char) :
    ∀ {n m : Nat}, n ≤ maxUint64 → (parseDigits n cs = .ok m ↔
      (∀ c ∈ cs, c.isDigit) ∧ decimalFrom n cs = m ∧ m ≤ maxUint64) := by
  induction cs with
  | nil =>
    intro n m hn
    simp only [parseDigits, Except.ok.injEq, List.not_mem_nil, false_implies, implies_true,
      decimalFrom_nil, true_and]
    exact ⟨fun h => ⟨h, h ▸ hn⟩, fun h => h.1⟩
  | cons c cs ih =>
    intro n m hn
    have hmono := le_decimalFrom cs (n * 10 + digitValue c)
    simp only [parseDigits, List.mem_cons, forall_eq_or_imp, decimalFrom_cons]
    by_cases hc : c.isDigit
    · simp only [hc, if_true, true_and]
      split_ifs with h₁ h₂
      · simp only [reduceCtorEq, false_iff]
        rintro ⟨-, rfl, h⟩
        simp only [maxUint64] at h₁ h
        omega
      · simp only [reduceCtorEq, false_iff]
        rintro ⟨-, rfl, h⟩
        omega
      · exact ih (by omega)
    · simp [hc]

/-- **WHAT PARSEUINT ACCEPTS**: a non-empty string of decimal digits whose
    value is at most `maxUint64`, read as that value. -/
theorem parseUint_ok_iff (s : String) (n : Nat) :
    parseUint s = .ok n ↔ s ≠ "" ∧ (∀ c ∈ s.toList, c.isDigit) ∧
      decimalFrom 0 s.toList = n ∧ n ≤ maxUint64 := by
  by_cases hs : s = ""
  · simp [parseUint, hs]
  · simp only [parseUint, hs, if_false, ne_eq, not_false_eq_true, true_and]
    rw [← parseDigits_ok_iff s.toList (Nat.zero_le _)]
    cases parseDigits 0 s.toList <;> simp [Except.mapError]

-- ── The command ─────────────────────────────────────────────────────────────

/-- The command's flags, with the defaults `init` registers. -/
structure Flags where
  calltoIndexesSize : Nat := 10000
  lookupCalltoIndexesSizes : List Int := [1000000, 100000, 10000, 1000]
  irreversibleIndexesSizes : List Int := [10000, 1000]
  createIrreversibleIndexes : Bool := false
  deriving DecidableEq, Repr

/-- A `pbfirehose.ForkStep` a request can ask for. -/
inductive ForkStep
  | stepNew
  | stepUndo
  | stepIrreversible
  deriving DecidableEq, Repr

/-- The `*pbfirehose.Request` the command builds. -/
structure Request where
  startBlockNum : Int
  stopBlockNum : Nat
  forkSteps : List ForkStep
  deriving DecidableEq, Repr

/-- The errors the command returns, one per `fmt.Errorf` site, and cobra's
    `RangeArgs(4, 5)` check before it. -/
inductive CmdError
  | argCount (n : Nat)
  | invalidNegativeSize (size : Int)
  | unableToParseBlockNumber (arg : String) (err : NumError)
  | blockStore (url : String) (e : String)
  | irrIndexStore (url : String) (e : String)
  | accountIndexStore (url : String) (e : String)
  | firehoseStream (e : String)
  deriving DecidableEq, Repr

/-- `%q` of text with no control character: in double quotes, with `"` and
    the backslash escaped. -/
def quote (s : String) : String :=
  "\"" ++ String.join (s.toList.map fun c =>
    if c = '"' then "\\\"" else if c = '\\' then "\\\\" else c.toString) ++ "\""

/-- `NumError.Error()`. -/
def NumError.message (e : NumError) : String :=
  "strconv.ParseUint: parsing " ++ quote e.num ++ ": " ++
    match e.kind with
    | .invalid => "invalid syntax"
    | .outOfRange => "value out of range"

/-- The text of each error, as its format string renders it. -/
def CmdError.message : CmdError → String
  | .argCount n => "accepts between 4 and 5 arg(s), received " ++ toString n
  | .invalidNegativeSize size => "invalid negative size for bundle-sizes: " ++ toString size
  | .unableToParseBlockNumber arg err =>
    "unable to parse block number " ++ quote arg ++ ": " ++ err.message
  | .blockStore url e => "failed setting up block store from url " ++ quote url ++ ": " ++ e
  | .irrIndexStore url e =>
    "failed setting up irreversible blocks index store from url " ++ quote url ++ ": " ++ e
  | .accountIndexStore url e =>
    "failed setting up account index store from url " ++ quote url ++ ": " ++ e
  | .firehoseStream e => "getting firehose stream: " ++ e

/-- What the command reads besides its flags and arguments: the error, if
    any, of opening a store URL (`dstore.NewDBinStore`, `dstore.NewStore`);
    the first block `bstransform.FindNextUnindexed` finds no index file for,
    from a start block, with bundle sizes, an index short name and a store;
    the call-to index's short name; and the stream factory's error. -/
structure ToolEnv where
  newDBinStore : String → Option String
  newStore : String → Option String
  findNextUnindexed : Nat → List Nat → String → String → Nat
  callAddrIndexShortName : String
  newStream : Request → Option String

/-- What the command hands to `stream.Run`: the request, and what the
    handler and the indexers were set up with. -/
structure IndexRun where
  request : Request
  createIrr : Bool
  irrIdxSizes : List Nat
  acctIdxSize : Nat
  lookupAccountIdxSizes : List Nat
  startBlockNum : Nat
  deriving DecidableEq, Repr

/-- The loop over an `IntSlice` size flag: a negative size is an error,
    the others are appended as `uint64`. -/
def bundleSizesFrom (acc : List Nat) : List Int → Except CmdError (List Nat)
  | [] => .ok acc
  | size :: sizes =>
    if size < 0 then .error (.invalidNegativeSize size)
    else bundleSizesFrom (acc ++ [size.toNat]) sizes

/-- The loop from an empty slice, as the command runs it on both flags. -/
def bundleSizes (sizes : List Int) : Except CmdError (List Nat) := bundleSizesFrom [] sizes

/-- The loop stops at the first negative size, and otherwise appends every
    size. -/
theorem bundleSizesFrom_eq (acc : List Nat) (sizes : List Int) :
    bundleSizesFrom acc sizes = match sizes.find? (· < 0) with
      | some size => .error (.invalidNegativeSize size)
      | none => .ok (acc ++ sizes.map Int.toNat) := by
  induction sizes generalizing acc with
  | nil => simp [bundleSizesFrom]
  | cons size sizes ih =>
    by_cases h : size < 0
    · simp [bundleSizesFrom, h]
    · simp [bundleSizesFrom, h, ih]

/-- **BUNDLE SIZES**: a size flag is accepted exactly when no size is
    negative, and its sizes are then handed on as `uint64`s, unchanged and in
    order; otherwise the error names the first negative size. -/
theorem bundleSizes_ok_or_first_negative (sizes : List Int) :
    (∀ ns, bundleSizes sizes = .ok ns ↔ sizes = ns.map Int.ofNat) ∧
    ∀ e, bundleSizes sizes = .error e ↔ ∃ pre size post, sizes = pre ++ size :: post ∧
      (∀ s ∈ pre, 0 ≤ s) ∧ size < 0 ∧ e = .invalidNegativeSize size := by
  rw [bundleSizes, bundleSizesFrom_eq]
  cases hf : sizes.find? (· < 0) with
  | some size =>
    obtain ⟨hs, pre, post, hsizes, hpre⟩ := List.find?_eq_some.mp hf
    simp only [decide_eq_true_eq, Bool.not_eq_true', decide_eq_false_iff_not] at hs hpre
    refine ⟨fun ns => ⟨nofun, fun h => ?_⟩, fun e => ⟨?_, ?_⟩⟩
    · -- A negative size is no `uint64`.
      obtain ⟨n, -, rfl⟩ := List.mem_map.mp (h ▸ hsizes ▸ List.mem_append_right pre
        (List.mem_cons_self size post))
      exact absurd hs (Int.not_lt.mpr (Int.ofNat_nonneg n))
    · rintro ⟨⟩
      exact ⟨pre, size, post, hsizes, fun s hs => Int.not_lt.mp (hpre s hs), hs, rfl⟩
    · -- The first negative size is the one `find?` meets.
      rintro ⟨pre', size', post', h', hpre', hs', rfl⟩
      have : sizes.find? (· < 0) = some size' := List.find?_eq_some.mpr
        ⟨by simpa using hs', pre', post', h',
          fun a ha => by simpa using Int.not_lt.mpr (hpre' a ha)⟩
      rw [hf] at this
      cases this
      rfl
  | none =>
    have hall : ∀ s ∈ sizes, 0 ≤ s := fun s hs =>
      Int.not_lt.mp (by simpa using List.find?_eq_none.mp hf s hs)
    refine ⟨fun ns => ?_, fun e => ⟨nofun, ?_⟩⟩
    · simp only [List.nil_append, Except.ok.injEq]
      constructor
      · rintro rfl
        rw [List.map_map]
        conv_lhs => rw [← List.map_id sizes]
        exact List.map_congr_left fun s hs => (Int.toNat_of_nonneg (hall s hs)).symm
      · rintro rfl
        simp [List.map_map, Function.comp_def]
    · rintro ⟨pre, size, post, rfl, -, hs, -⟩
      exact absurd (hall size (by simp)) (by omega)

/-- `math.MaxInt64`, `1<<63 - 1`. -/
def maxInt64 : Nat := 9223372036854775807

/-- `int64(n)` of a `uint64`: two's complement past `math.MaxInt64`. -/
def toInt64 (n : Nat) : Int := if n ≤ maxInt64 then n else (n : Int) - (maxUint64 + 1)

/-- A block number argument, or the error naming the argument the source
    names. -/
def parseBlockNum (named arg : String) : Except CmdError Nat :=
  (parseUint arg).mapError (.unableToParseBlockNumber named)

/-- The stop block: `args[4]` when there are five arguments, `0` without. -/
def parseStopBlockNum (args : List String) : Except CmdError Nat :=
  if args.length = 5 then parseBlockNum (args.getD 0 "") (args.getD 4 "") else pure 0

/-- Go's `if err != nil { return fmt.Errorf(..., err) }` after a call that
    failed with `err`, if it did. -/
def wrapErr (err : Option String) (wrap : String → CmdError) : Except CmdError Unit :=
  match err with
  | some e => .error (wrap e)
  | none => pure ()

/-- `generateCalltoIdxE` up to `stream.Run`, on the arguments cobra let
    through (four or five, so every `args[i]` it reads exists). -/
def generateCalltoIdxE (env : ToolEnv) (flags : Flags) (args : List String) :
    Except CmdError IndexRun := do
  let createIrr := flags.createIrreversibleIndexes
  let irrIdxSizes ← bundleSizes flags.irreversibleIndexesSizes
  let acctIdxSize := flags.calltoIndexesSize
  let lookupAccountIdxSizes ← bundleSizes flags.lookupCalltoIndexesSizes
  let accountIndexStoreURL := args.getD 0 ""
  let irrIndexStoreURL := args.getD 1 ""
  let blocksStoreURL := args.getD 2 ""
  let startBlockNum ← parseBlockNum (args.getD 0 "") (args.getD 3 "")
  let stopBlockNum ← parseStopBlockNum args
  wrapErr (env.newDBinStore blocksStoreURL) (.blockStore blocksStoreURL)
  wrapErr (env.newStore irrIndexStoreURL) (.irrIndexStore irrIndexStoreURL)
  wrapErr (env.newStore accountIndexStoreURL) (.accountIndexStore accountIndexStoreURL)
  let irrStart := env.findNextUnindexed startBlockNum irrIdxSizes "irr" irrIndexStoreURL
  let accStart := env.findNextUnindexed startBlockNum lookupAccountIdxSizes
    env.callAddrIndexShortName accountIndexStoreURL
  let startBlockNum := if irrStart < accStart then irrStart else accStart
  let req : Request := ⟨toInt64 startBlockNum, stopBlockNum, [.stepIrreversible]⟩
  wrapErr (env.newStream req) .firehoseStream
  return ⟨req, createIrr, irrIdxSizes, acctIdxSize, lookupAccountIdxSizes, startBlockNum⟩

/-- The command: cobra's `RangeArgs(4, 5)`, then `generateCalltoIdxE`. -/
def generateCalltoIdxCmd (env : ToolEnv) (flags : Flags) (args : List String) :
    Except CmdError IndexRun :=
  if args.length < 4 ∨ 5 < args.length then .error (.argCount args.length)
  else generateCalltoIdxE env flags args

/-- A call the handler makes on an indexer. -/
inductive IndexerCall
  | irreversibleIndexerAdd (blk : Block)
  | callIndexerProcessBlock (blk : Block)
  deriving DecidableEq, Repr

/-- The stream's handler: the irreversible-blocks indexer first when asked
    for, then the call indexer; it returns `nil` for every block. -/
def handler (createIrr : Bool) (blk : Block) : List IndexerCall × Option String :=
  ((if createIrr then [.irreversibleIndexerAdd blk] else []) ++ [.callIndexerProcessBlock blk],
    none)

-- ── What the command hands on, and its errors ───────────────────────────────

section Spec

variable {env : ToolEnv} {flags : Flags} {args : List String}

theorem bind_eq_ok {α β : Type} {x : Except CmdError α} {f : α → Except CmdError β} {b : β} :
    x >>= f = .ok b ↔ ∃ a, x = .ok a ∧ f a = .ok b := by
  cases x <;> simp [bind, Except.bind]

/-- When the command gets to the stream: the sizes the flags gave, the
    parsed block numbers, the earlier of the two first unindexed blocks from
    the start block, and a request for irreversible blocks only. -/
theorem generateCalltoIdxE_ok {run : IndexRun} (h : generateCalltoIdxE env flags args = .ok run) :
    ∃ start stop, bundleSizes flags.irreversibleIndexesSizes = .ok run.irrIdxSizes ∧
      bundleSizes flags.lookupCalltoIndexesSizes = .ok run.lookupAccountIdxSizes ∧
      parseBlockNum (args.getD 0 "") (args.getD 3 "") = .ok start ∧
      parseStopBlockNum args = .ok stop ∧
      run.startBlockNum = min (env.findNextUnindexed start run.irrIdxSizes "irr" (args.getD 1 ""))
        (env.findNextUnindexed start run.lookupAccountIdxSizes env.callAddrIndexShortName
          (args.getD 0 "")) ∧
      run.request = ⟨toInt64 run.startBlockNum, stop, [.stepIrreversible]⟩ ∧
      run.createIrr = flags.createIrreversibleIndexes ∧
        run.acctIdxSize = flags.calltoIndexesSize := by
  simp only [generateCalltoIdxE, bind_eq_ok] at h
  obtain ⟨irr, h1, lookup, h2, start, h3, stop, h4, -, -, -, -, -, -, -, -, h⟩ := h
  cases h
  exact ⟨start, stop, h1, h2, h3, h4, by simp only [min_def]; split_ifs <;> omega, rfl, rfl, rfl⟩

/-- **THE START BLOCK WRAPS AROUND**: the command parses the start block as
    a `uint64` but hands the firehose `int64` of the block it starts from.
    With `FindNextUnindexed` keeping to its contract (a `uint64` no lower
    than the block it starts from), a start argument past `math.MaxInt64`
    reaches the firehose as a negative start block. -/
theorem start_block_wraps_negative {run : IndexRun} {start : Nat}
    (hf : ∀ n sizes name url, n ≤ maxUint64 → n ≤ env.findNextUnindexed n sizes name url ∧
      env.findNextUnindexed n sizes name url ≤ maxUint64)
    (hs : parseUint (args.getD 3 "") = .ok start) (hbig : maxInt64 < start)
    (h : generateCalltoIdxCmd env flags args = .ok run) : run.request.startBlockNum < 0 := by
  unfold generateCalltoIdxCmd at h
  split_ifs at h
  obtain ⟨start', stop, -, -, h3, -, h5, h6, -⟩ := generateCalltoIdxE_ok h
  have hst : start' = start := by
    rw [parseBlockNum, hs] at h3
    exact (Except.ok.inj h3).symm
  subst hst
  have hmax := ((parseUint_ok_iff _ _).mp hs).2.2.2
  have h₁ := hf start' run.irrIdxSizes "irr" (args.getD 1 "") hmax
  have h₂ := hf start' run.lookupAccountIdxSizes env.callAddrIndexShortName (args.getD 0 "") hmax
  have hlo : maxInt64 < run.startBlockNum := by rw [h5]; omega
  have hhi : run.startBlockNum ≤ maxUint64 := by rw [h5]; omega
  rw [h6]
  show toInt64 run.startBlockNum < 0
  rw [toInt64, if_neg (by omega)]
  omega

/-- The start block `2^63`, with no index file yet: the firehose is asked
    to start at `-2^63`. -/
theorem start_block_wraps_negative_half :
    let env : ToolEnv := ⟨fun _ => none, fun _ => none, fun n _ _ _ => n, "", fun _ => none⟩
    let args := ["gs://acct", "gs://irr", "gs://blocks", "9223372036854775808"]
    let run : IndexRun := ⟨⟨-9223372036854775808, 0, [.stepIrreversible]⟩, false, [10000, 1000],
      10000, [1000000, 100000, 10000, 1000], 9223372036854775808⟩
    (∀ n sizes name url, n ≤ maxUint64 → n ≤ env.findNextUnindexed n sizes name url ∧
      env.findNextUnindexed n sizes name url ≤ maxUint64) ∧
    parseUint (args.getD 3 "") = .ok 9223372036854775808 ∧ maxInt64 < 9223372036854775808 ∧
    generateCalltoIdxCmd env {} args = .ok run ∧ run.request.startBlockNum < 0 := by
  intro env args run
  have hf : ∀ n sizes name url, n ≤ maxUint64 → n ≤ env.findNextUnindexed n sizes name url ∧
      env.findNextUnindexed n sizes name url ≤ maxUint64 := fun _ _ _ _ h => ⟨le_rfl, h⟩
  have hs : parseUint (args.getD 3 "") = .ok 9223372036854775808 := rfl
  have h : generateCalltoIdxCmd env {} args = .ok run := by dsimp only [env, args, run]; rfl
  have hb : maxInt64 < 9223372036854775808 := by decide
  exact ⟨hf, hs, hb, h, start_block_wraps_negative hf hs hb h⟩

end Spec

end TrxdbLoader.Tools
