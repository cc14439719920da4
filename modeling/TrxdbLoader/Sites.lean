import TrxdbLoader.Steps

/-! # One delivery, call by call, against any Commit Target

    Every Commit Target call of `FullJob` and `PatchJob` sits in a Go
    `if err := ...; err != nil { return ... }`: the first call that fails
    ends the delivery, and its error comes back as its call site wraps it
    (`store genesis block: `, `set genesis block irreversible: `,
    `store block: `, `flush failed: `, or unwrapped from
    `UpdateIrreversibleData`).  A `Site` pairs a call with that wrapping, and
    `issue` is the short-circuit scan of a delivery's sites.

    * `issue_cases`: the calls a scan issues all succeed, or all but the
      last, which fails and ends it;
    * `IssuesAt`: a computation issues a list of sites, with its spec lemmas
      for a guarded call, for sequencing, and one per callee;
    * `plannedSites_calls`: the sites' calls are the planned calls;
    * `processBlock_issues`: `ProcessBlock` issues its sites up to the first
      failure, returns that failure, and shuts down only at the cutoff;
    * `processBlock_reliable`: against a reliable target, the planned calls,
      result and shutdown, on which every run-level result is built. -/

namespace TrxdbLoader

/-- A Commit Target call, and the error its call site returns when it
    fails. -/
structure Site where
  call : Call
  wrap : DbError → LoaderError

/-- The short-circuit scan: the calls of `sites` issued against `db`, which
    received `h` before, up to and including the first that fails, and the
    error its site returns. -/
def issue (db : Target) : List Call → List Site → List Call × Option LoaderError
  | _, [] => ([], none)
  | h, s :: ss =>
    match db h s.call with
    | some e => ([s.call], some (s.wrap e))
    | none => ((issue db (h ++ [s.call]) ss).1.cons s.call, (issue db (h ++ [s.call]) ss).2)

/-- `db`, having received `h`, answers every call of `cs` in turn without
    error. -/
def Succeeds (db : Target) : List Call → List Call → Prop
  | _, [] => True
  | h, c :: cs => db h c = none ∧ Succeeds db (h ++ [c]) cs

-- ── The scan ────────────────────────────────────────────────────────────────

section Scan

variable {db : Target}

@[simp] theorem issue_nil (h : List Call) : issue db h [] = ([], none) := rfl

theorem issue_cons (h : List Call) (s : Site) (ss : List Site) :
    issue db h (s :: ss) = match db h s.call with
      | some e => ([s.call], some (s.wrap e))
      | none => ((issue db (h ++ [s.call]) ss).1.cons s.call, (issue db (h ++ [s.call]) ss).2) :=
  rfl

theorem succeeds_append (cs cs' : List Call) {h : List Call} :
    Succeeds db h (cs ++ cs') ↔ Succeeds db h cs ∧ Succeeds db (h ++ cs) cs' := by
  induction cs generalizing h with
  | nil => simp [Succeeds]
  | cons c cs ih => simp [Succeeds, ih, and_assoc]

/-- **ALL SUCCEED**: every call issued, no error. -/
theorem issue_of_succeeds {h : List Call} :
    ∀ {ss : List Site}, Succeeds db h (ss.map Site.call) → issue db h ss = (ss.map Site.call, none)
  | [], _ => rfl
  | s :: ss, ⟨hs, hss⟩ => by simp [issue, hs, issue_of_succeeds hss]

/-- Every scan is one of the two: all its calls succeed, or all but the
    last, which fails. -/
theorem issue_cases (h : List Call) :
    ∀ ss : List Site, (issue db h ss).2 = none ∧ Succeeds db h (issue db h ss).1 ∨
      ∃ pre c e, (issue db h ss).1 = pre ++ [c] ∧ Succeeds db h pre ∧ db (h ++ pre) c = some e ∧
        (issue db h ss).2 ≠ none
  | [] => .inl ⟨rfl, trivial⟩
  | s :: ss => by
    cases hs : db h s.call with
    | some e => exact .inr ⟨[], s.call, e, by simp [issue, hs], trivial, by simpa using hs,
        by simp [issue, hs]⟩
    | none =>
      simp only [issue, hs]
      rcases issue_cases (h ++ [s.call]) ss with ⟨h1, h2⟩ | ⟨pre, c, e, h1, h2, h3, h4⟩
      · exact .inl ⟨h1, hs, h2⟩
      · exact .inr ⟨s.call :: pre, c, e, by rw [h1]; rfl, ⟨hs, h2⟩, by simpa using h3, h4⟩

/-- A scan that fails stops: later sites add nothing. -/
theorem issue_append_of_failed {h : List Call} {ss₁ : List Site} (ss₂ : List Site)
    (hf : (issue db h ss₁).2 ≠ none) : issue db h (ss₁ ++ ss₂) = issue db h ss₁ := by
  induction ss₁ generalizing h with
  | nil => exact absurd rfl hf
  | cons s ss ih =>
    rw [List.cons_append, issue_cons, issue_cons]
    cases hs : db h s.call with
    | some e => rfl
    | none =>
      simp only [issue_cons, hs] at hf
      simp only [ih hf]

/-- A scan that goes through continues with the next sites. -/
theorem issue_append_of_succeeded {h : List Call} {ss₁ : List Site} (ss₂ : List Site)
    (hs : (issue db h ss₁).2 = none) :
    issue db h (ss₁ ++ ss₂) = ((issue db h ss₁).1 ++ (issue db (h ++ (issue db h ss₁).1) ss₂).1,
      (issue db (h ++ (issue db h ss₁).1) ss₂).2) := by
  induction ss₁ generalizing h with
  | nil => simp
  | cons s ss ih =>
    rw [List.cons_append, issue_cons, issue_cons]
    cases hc : db h s.call with
    | some e => simp [issue_cons, hc] at hs
    | none =>
      simp only [issue_cons, hc] at hs
      simp [ih hs]

theorem succeeds_reliable (h : List Call) : ∀ cs : List Call, Succeeds Target.reliable h cs
  | [] => trivial
  | _ :: cs => ⟨rfl, succeeds_reliable _ cs⟩

/-- Against a reliable target the scan issues every call. -/
@[simp] theorem issue_reliable (h : List Call) (ss : List Site) :
    issue Target.reliable h ss = (ss.map Site.call, none) :=
  issue_of_succeeds (succeeds_reliable h _)

end Scan

-- ── Computations that issue sites ───────────────────────────────────────────

/-- From `l`, `x` issues the calls of `sites` up to the first that fails and
    returns that failure, keeping the configuration and the shutter. -/
def IssuesAt (env : Env) (sites : List Site) (x : LoaderM (Option LoaderError))
    (l : BigtableLoader) : Prop :=
  ∃ l', x l = .ok (issue env.db l.calls sites).2 l' ∧
    Steps l l' (issue env.db l.calls sites).1 ∧ l'.shutter = l.shutter

/-- `DoFlush`'s one call, and its error. -/
def flushSite : Site := ⟨.flush, .flushFailed⟩

section IssuesAt

variable (env : Env)

theorem issuesAt_pure (l : BigtableLoader) : IssuesAt env [] (pure none) l :=
  ⟨l, rfl, Steps.refl l, rfl⟩

/-- Go's `if err := l.db.X(...); err != nil { return wrap(err) }`, then the
    rest. -/
theorem issuesAt_callDb (s : Site) {ss : List Site}
    {f : Option DbError → LoaderM (Option LoaderError)} {l : BigtableLoader}
    (hf : ∀ e l', f (some e) l' = .ok (some (s.wrap e)) l')
    (hk : IssuesAt env ss (f none) (l.record s.call)) :
    IssuesAt env (s :: ss) (callDb env s.call >>= f) l := by
  rw [IssuesAt, bind_apply, callDb_apply, issue_cons]
  cases hs : env.db l.calls s.call with
  | some e => exact ⟨l.record s.call, hf e _, Steps.record l s.call, rfl⟩
  | none =>
    obtain ⟨l', h1, h2, h3⟩ := hk
    exact ⟨l', h1, (Steps.record l s.call).trans h2, h3⟩

/-- Go's `if err := f(); err != nil { return err }`, then the rest. -/
theorem issuesAt_bind {ss₁ ss₂ : List Site} {x : LoaderM (Option LoaderError)}
    {f : Option LoaderError → LoaderM (Option LoaderError)} {l : BigtableLoader}
    (hx : IssuesAt env ss₁ x l) (hf : ∀ e l', f (some e) l' = .ok (some e) l')
    (hy : ∀ l', Steps l l' (issue env.db l.calls ss₁).1 → l'.shutter = l.shutter →
      IssuesAt env ss₂ (f none) l') :
    IssuesAt env (ss₁ ++ ss₂) (x >>= f) l := by
  obtain ⟨l₁, h1, h2, h3⟩ := hx
  rw [IssuesAt, bind_apply, h1]
  cases hr : (issue env.db l.calls ss₁).2 with
  | some e =>
    rw [issue_append_of_failed ss₂ (by simp [hr]), hr]
    exact ⟨l₁, hf e l₁, h2, h3⟩
  | none =>
    obtain ⟨l₂, h4, h5, h6⟩ := hy l₁ h2 h3
    rw [h2.calls] at h4 h5
    rw [issue_append_of_succeeded ss₂ hr]
    exact ⟨l₂, h4, h2.trans h5, h6.trans h3⟩

theorem issuesAt_get_bind {f : BigtableLoader → LoaderM (Option LoaderError)} {ss : List Site}
    {l : BigtableLoader} (h : IssuesAt env ss (f l) l) : IssuesAt env ss (get >>= f) l :=
  h

/-- A state update that keeps the calls, the configuration and the shutter,
    then the rest. -/
theorem issuesAt_modify_bind {g : BigtableLoader → BigtableLoader}
    {k : LoaderM (Option LoaderError)} {ss : List Site} {l : BigtableLoader}
    (hg : Steps l (g l) []) (hgs : (g l).shutter = l.shutter) (hk : IssuesAt env ss k (g l)) :
    IssuesAt env ss (modify g >>= fun _ => k) l := by
  obtain ⟨l', h1, h2, h3⟩ := hk
  rw [hg.calls, List.append_nil] at h1 h2
  exact ⟨l', h1, by simpa using hg.trans h2, h3.trans hgs⟩

/-- Go's `defer` of such an update. -/
theorem issuesAt_deferring {x : LoaderM (Option LoaderError)}
    {g : BigtableLoader → BigtableLoader} {ss : List Site} {l : BigtableLoader}
    (hx : IssuesAt env ss x l) (hg : ∀ l', Steps l' (g l') [] ∧ (g l').shutter = l'.shutter) :
    IssuesAt env ss (deferring x g) l := by
  obtain ⟨l', h1, h2, h3⟩ := hx
  exact ⟨g l', by simp [deferring, h1], by simpa using h2.trans (hg l').1, (hg l').2.trans h3⟩

-- ── The callees ─────────────────────────────────────────────────────────────

/-- The sites of `UpdateIrreversibleData`: each block's finalization, whose
    error it returns as is. -/
def updateSites (bs : List Block) : List Site :=
  bs.map fun b => ⟨.updateNowIrreversibleBlock b, .db⟩

/-- The Genesis Sentinel's two sites, before the first streamable block. -/
def sentinelSites (env : Env) (blockNum : Nat) (b : Block) : List Site :=
  if blockNum = env.protocolFirstStreamableBlock then
    [⟨.putBlock (genesisBlock env b), .storeGenesisBlock⟩,
      ⟨.updateNowIrreversibleBlock (genesisBlock env b), .setGenesisBlockIrreversible⟩]
  else []

theorem doFlush_apply (env : Env) (l : BigtableLoader) :
    doFlush env l = .ok ((env.db l.calls .flush).map .flushFailed) (l.record .flush) := by
  simp only [doFlush, bind_apply, callDb_apply]
  cases env.db l.calls .flush <;> rfl

theorem flushIfNeeded_issues (n : Nat) (t now : Time) {l : BigtableLoader}
    (hb : 0 < l.batchSize) :
    IssuesAt env (if flushDue l.batchSize n t now then [flushSite] else [])
      (flushIfNeeded env n t now) l := by
  rw [IssuesAt]
  simp only [flushIfNeeded, flushDue, bind_apply, get_apply, Nat.pos_iff_ne_zero.mp hb, if_false,
    pure_apply]
  split_ifs
  · rw [bind_apply, doFlush_apply]
    cases h : env.db l.calls .flush
    · refine ⟨{ l.record .flush with headBlockNumber := n }, ?_, ?_, rfl⟩ <;>
        simp [issue, flushSite, h, setHeadBlockNumber, steps_iff, BigtableLoader.record]
    · refine ⟨l.record .flush, ?_, ?_, rfl⟩ <;>
        simp [issue, flushSite, h, steps_iff, BigtableLoader.record]
  · exact ⟨l, rfl, Steps.refl l, rfl⟩

theorem updateIrreversibleData_issues (bs : List Block) (l : BigtableLoader) :
    IssuesAt env (updateSites bs) (updateIrreversibleData env bs) l := by
  induction bs generalizing l with
  | nil => exact issuesAt_pure env l
  | cons b bs ih => exact issuesAt_callDb env _ (fun _ _ => rfl) (ih _)

theorem writeNewBlock_issues (n : Nat) (b : Block) (now : Time) {l : BigtableLoader}
    (hb : 0 < l.batchSize) :
    IssuesAt env (sentinelSites env n b ++ ⟨.putBlock b, .storeBlock⟩ ::
        if flushDue l.batchSize n b.timestamp now then [flushSite] else [])
      (writeNewBlock env n b now) l := by
  unfold writeNewBlock sentinelSites
  by_cases hs : n = env.protocolFirstStreamableBlock
  · simp only [if_pos hs, List.cons_append, List.nil_append]
    refine issuesAt_callDb env _ (fun _ _ => rfl) ?_
    simp only [pure_bind]
    refine issuesAt_callDb env _ (fun _ _ => rfl) ?_
    simp only [pure_bind]
    exact issuesAt_callDb env _ (fun _ _ => rfl) (flushIfNeeded_issues env n b.timestamp now hb)
  · simp only [if_neg hs, List.nil_append, pure_bind]
    exact issuesAt_callDb env _ (fun _ _ => rfl) (flushIfNeeded_issues env n b.timestamp now hb)

end IssuesAt

-- ── One delivery ────────────────────────────────────────────────────────────

/-- The flush `FlushIfNeeded` issues for `d`, if any, as a site. -/
def dueFlushSites (l : BigtableLoader) (d : Delivery) : List Site :=
  if flushDue l.batchSize d.block.number d.block.timestamp d.now then [flushSite] else []

/-- The sites `FullJob` issues for `d`, in order, while none fails. -/
def fullJobSites (env : Env) (l : BigtableLoader) (d : Delivery) : List Site :=
  match d.obj.step with
  | .new =>
    sentinelSites env d.block.number d.block ++
      ⟨.putBlock d.block, .storeBlock⟩ :: dueFlushSites l d
  | .irreversible =>
    if isCutoff l d.block.number d.obj then [flushSite]
    else if d.obj.stepIndex ≠ 0 then []
    else updateSites d.obj.stepBlocks ++ dueFlushSites l d
  | _ => []

/-- The sites `PatchJob` issues for `d`. -/
def patchJobSites (l : BigtableLoader) (d : Delivery) : List Site :=
  match d.obj.step with
  | .new => dueFlushSites l d
  | .irreversible => if isCutoff l d.block.number d.obj then [flushSite] else []
  | _ => []

/-- The sites `ProcessBlock` issues for `d` from `l`. -/
def plannedSites (env : Env) (l : BigtableLoader) (d : Delivery) : List Site :=
  if l.isTerminating then [] else
  match l.processingJob with
  | .fullJob => fullJobSites env l d
  | .patchJob => patchJobSites l d

theorem fullJobSites_calls (env : Env) (l : BigtableLoader) (d : Delivery) :
    (fullJobSites env l d).map Site.call = fullJobCalls env l d := by
  unfold fullJobSites fullJobCalls sentinelSites sentinelWrites dueFlushSites dueFlush
  split <;> simp_all [updateSites, flushSite] <;> split_ifs <;> simp

theorem patchJobSites_calls (l : BigtableLoader) (d : Delivery) :
    (patchJobSites l d).map Site.call = patchJobCalls l d := by
  unfold patchJobSites patchJobCalls dueFlushSites dueFlush
  split <;> simp_all [flushSite] <;> split_ifs <;> simp

/-- The sites' calls are the calls planned against a reliable target. -/
theorem plannedSites_calls (env : Env) (l : BigtableLoader) (d : Delivery) :
    (plannedSites env l d).map Site.call = plannedCalls env l d := by
  unfold plannedSites plannedCalls
  split_ifs
  · rfl
  · cases l.processingJob
    · exact fullJobSites_calls env l d
    · exact patchJobSites_calls l d

section OneDelivery

variable (env : Env)

theorem fullJob_issues (d : Delivery) {l : BigtableLoader} (hb : 0 < l.batchSize)
    (hr : l.shutter = none) :
    ∃ l', fullJob env d.block.number d.block d.obj d.now l =
        .ok ((issue env.db l.calls (fullJobSites env l d)).2.or (fullJobResult d)) l' ∧
      Steps l l' (issue env.db l.calls (fullJobSites env l d)).1 ∧
      l'.shutter = if d.obj.step = .irreversible ∧ isCutoff l d.block.number d.obj then
        some (issue env.db l.calls (fullJobSites env l d)).2 else l.shutter := by
  obtain ⟨b, ⟨step, i, k, bs⟩, now⟩ := d
  cases step
  case new =>
    have h : IssuesAt env (fullJobSites env l ⟨b, ⟨.new, i, k, bs⟩, now⟩)
        (fullJob env b.number b ⟨.new, i, k, bs⟩ now) l :=
      issuesAt_modify_bind env ⟨by simp, rfl, rfl, rfl, rfl, rfl⟩ rfl
        (issuesAt_modify_bind env ⟨by simp, rfl, rfl, rfl, rfl, rfl⟩ rfl
          (issuesAt_deferring env (writeNewBlock_issues env b.number b now hb)
            fun _ => ⟨⟨by simp [setHeadBlock], rfl, rfl, rfl, rfl, rfl⟩, rfl⟩))
    obtain ⟨l', h1, h2, h3⟩ := h
    exact ⟨l', by simpa [fullJobResult] using h1, h2, by simpa using h3⟩
  case irreversible =>
    by_cases hc : isCutoff l b.number ⟨.irreversible, i, k, bs⟩
    · -- The cutoff: the flush, then a shutdown with its error.
      simp only [fullJob, fullJobSites, fullJobResult, bind_apply, get_apply, if_pos hc,
        doFlush_apply, and_self, if_true]
      have hr' : (l.record .flush).shutter = none := hr
      refine ⟨(l.record .flush).shutdown ((env.db l.calls .flush).map .flushFailed), ?_, ?_, ?_⟩ <;>
        cases h : env.db l.calls .flush <;>
        simp [h, issue, flushSite, shutdown, Steps.record_shutdown,
          BigtableLoader.shutdown_shutter _ _ hr', hc]
    · have h : IssuesAt env (fullJobSites env l ⟨b, ⟨.irreversible, i, k, bs⟩, now⟩)
          (fullJob env b.number b ⟨.irreversible, i, k, bs⟩ now) l := by
        simp only [fullJob]
        refine issuesAt_get_bind env ?_
        simp only [if_neg hc, pure_bind, fullJobSites]
        by_cases hi : i = 0
        · simp only [hi, ne_eq, not_true_eq_false, if_false, pure_bind]
          refine issuesAt_bind env (updateIrreversibleData_issues env bs l) (fun _ _ => rfl)
            fun l' hs _ => ?_
          have := flushIfNeeded_issues env b.number b.timestamp now (hs.batchSize ▸ hb)
          rwa [hs.batchSize] at this
        · simp only [hi, ne_eq, not_false_eq_true, if_true]
          exact issuesAt_pure env l
      obtain ⟨l', h1, h2, h3⟩ := h
      exact ⟨l', by simpa [fullJobResult] using h1, h2, by simpa [hc] using h3⟩
  all_goals exact ⟨l, rfl, Steps.refl l, by simp⟩

theorem patchJob_issues (d : Delivery) {l : BigtableLoader} (hb : 0 < l.batchSize)
    (hr : l.shutter = none) :
    ∃ l', patchJob env d.block.number d.block d.obj d.now l =
        .ok (issue env.db l.calls (patchJobSites l d)).2 l' ∧
      Steps l l' (issue env.db l.calls (patchJobSites l d)).1 ∧
      l'.shutter = if d.obj.step = .irreversible ∧ isCutoff l d.block.number d.obj ∧
        (issue env.db l.calls (patchJobSites l d)).2 = none then some none else l.shutter := by
  obtain ⟨b, ⟨step, i, k, bs⟩, now⟩ := d
  cases step
  case new =>
    obtain ⟨l', h1, h2, h3⟩ : IssuesAt env (patchJobSites l ⟨b, ⟨.new, i, k, bs⟩, now⟩)
        (patchJob env b.number b ⟨.new, i, k, bs⟩ now) l :=
      issuesAt_modify_bind env ⟨by simp, rfl, rfl, rfl, rfl, rfl⟩ rfl
        (flushIfNeeded_issues env b.number b.timestamp now hb)
    exact ⟨l', h1, h2, by simpa using h3⟩
  case irreversible =>
    by_cases hc : isCutoff l b.number ⟨.irreversible, i, k, bs⟩
    · -- The cutoff: the flush, and a shutdown only if it succeeds.
      simp only [patchJob, patchJobSites, bind_apply, get_apply, if_pos hc, doFlush_apply]
      have hr' : (l.record .flush).shutter = none := hr
      cases h : env.db l.calls .flush with
      | none =>
        refine ⟨(l.record .flush).shutdown none, ?_, ?_, ?_⟩ <;>
          simp [h, issue, flushSite, shutdown, Steps.record_shutdown,
            BigtableLoader.shutdown_shutter _ _ hr', hc]
      | some e =>
        exact ⟨l.record .flush, by simp [h, issue, flushSite],
          by simpa [h, issue, flushSite] using Steps.record l .flush,
          by simp [h, issue, flushSite, hr, hr']⟩
    · exact ⟨l, by simp [patchJob, patchJobSites, hc],
        by simpa [patchJobSites, hc] using Steps.refl l, by simp [hc]⟩
  all_goals exact ⟨l, rfl, Steps.refl l, by simp⟩

/-- **ONE DELIVERY, ANY TARGET**: with a positive batch size, `ProcessBlock`
    issues its sites in order up to and including the first call the Commit
    Target fails, returns that call's error as its site wraps it (or the
    error for a step no job handles), and changes no configuration.  It shuts
    the loader down only at the cutoff: `FullJob` with the flush's error,
    `PatchJob` only when the flush succeeds. -/
theorem processBlock_issues (d : Delivery) (l : BigtableLoader) (hb : 0 < l.batchSize) :
    let r := issue env.db l.calls (plannedSites env l d)
    ∃ l', processBlock env d l = .ok (r.2.or (plannedResult l d)) l' ∧ Steps l l' r.1 ∧
      l'.shutter = if plannedShutdown l d ∧ (l.processingJob = .fullJob ∨ r.2 = none) then
        some r.2 else l.shutter := by
  intro r
  unfold processBlock
  by_cases ht : l.isTerminating
  · refine ⟨l, ?_, ?_, ?_⟩
    · simp [r, plannedSites, plannedResult, ht]
    · simpa [r, plannedSites, ht] using Steps.refl l
    · simp [plannedShutdown, ht]
  have hr : l.shutter = none := by simpa [BigtableLoader.isTerminating] using ht
  cases hj : l.processingJob
  · obtain ⟨l', h1, h2, h3⟩ := fullJob_issues env d hb hr
    refine ⟨l', ?_, ?_, ?_⟩ <;>
      simp_all [r, plannedSites, plannedResult, plannedShutdown]
  · obtain ⟨l', h1, h2, h3⟩ := patchJob_issues env d hb hr
    refine ⟨l', ?_, ?_, ?_⟩ <;>
      simp_all [r, plannedSites, plannedResult, plannedShutdown, and_assoc]

/-- A Commit Target that refuses block 1: the delivery of its `New` issues
    the one `PutBlock` and returns `store block: ` with the refusal. -/
theorem processBlock_issues_store_failed :
    let b₁ : Block := ⟨1, "b1", "b0", 0⟩
    let d : Delivery := ⟨b₁, ⟨.new, 0, 0, []⟩, 0⟩
    let env : Env := ⟨fun _ c => if c = .putBlock b₁ then some "unavailable" else none, 0, 0⟩
    0 < (newBigtableLoader 1).batchSize ∧ ∃ l', processBlock env d (newBigtableLoader 1) =
      .ok (some (.storeBlock "unavailable")) l' ∧ l'.calls = [.putBlock b₁] := by
  intro b₁ d env
  obtain ⟨l', h1, h2, -⟩ := processBlock_issues env d (newBigtableLoader 1) (by decide)
  have hr : (issue env.db (newBigtableLoader 1).calls
      (plannedSites env (newBigtableLoader 1) d)).2.or (plannedResult (newBigtableLoader 1) d) =
      some (.storeBlock "unavailable") := by decide
  exact ⟨by decide, l', h1.trans (by rw [hr]), h2.calls.trans (by decide)⟩

end OneDelivery

/-- **ONE DELIVERY**: against a reliable target with a positive batch size,
    `ProcessBlock` returns `plannedResult`, issues `plannedCalls`, and shuts
    down exactly on `plannedShutdown`. -/
theorem processBlock_reliable (env : Env) (d : Delivery) (l : BigtableLoader)
    (hb : 0 < l.batchSize) :
    ∃ l', processBlock env.reliable d l = .ok (plannedResult l d) l' ∧
      Steps l l' (plannedCalls env l d) ∧
      l'.shutter = if plannedShutdown l d then some none else l.shutter := by
  obtain ⟨l', h1, h2, h3⟩ := processBlock_issues env.reliable d l hb
  have hr : issue env.reliable.db l.calls (plannedSites env.reliable l d) =
      (plannedCalls env l d, none) := by
    rw [show env.reliable.db = Target.reliable from rfl, issue_reliable, plannedSites_calls]
    rfl
  rw [hr] at h1 h2 h3
  exact ⟨l', by simpa using h1, h2, by simpa using h3⟩

end TrxdbLoader
