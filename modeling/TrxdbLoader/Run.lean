import TrxdbLoader.Sites

/-! # Runs — a delivery sequence fed to `ProcessBlock`

    The source calls `ProcessBlock` once per delivery, in order, and a Go panic
    ends the process: `run` stops there.  `issuedBy` reads off the calls one
    delivery issued, and `trace` pairs each delivery of a run with them.

    Against a reliable target with a positive batch size a running loader
    issues each delivery's planned calls and stays running until the cutoff
    (`run_reliable_running`); once shut down it issues nothing more
    (`run_of_isTerminating`).  The main results about whole runs are built on
    these two lemmas. -/

namespace TrxdbLoader

/-- `ProcessBlock` over a delivery sequence, one call after another; a panic
    ends the process, so nothing after it runs. -/
def run (env : Env) : BigtableLoader → List Delivery → BigtableLoader
  | l, [] => l
  | l, d :: ds =>
    match processBlock env d l with
    | .ok _ l' => run env l' ds
    | .error _ l' => l'

/-- The calls `ProcessBlock` issued for `d` from state `l`. -/
def issuedBy (env : Env) (l : BigtableLoader) (d : Delivery) : List Call :=
  (stateOf (processBlock env d l)).calls.drop l.calls.length

/-- `ProcessBlock` over a delivery sequence, with each delivery paired with the
    calls it issued; a panic ends the process after its delivery. -/
def trace (env : Env) : BigtableLoader → List Delivery → List (Delivery × List Call)
  | _, [] => []
  | l, d :: ds =>
    (d, issuedBy env l d) ::
      match processBlock env d l with
      | .ok _ l' => trace env l' ds
      | .error _ _ => []

@[simp] theorem run_nil (env : Env) (l : BigtableLoader) : run env l [] = l := rfl

theorem run_cons_of_ok {env : Env} {l l' : BigtableLoader} {d : Delivery} {r : Option LoaderError}
    (ds : List Delivery) (h : processBlock env d l = .ok r l') :
    run env l (d :: ds) = run env l' ds := by
  simp [run, h]

theorem trace_cons_of_ok {env : Env} {l l' : BigtableLoader} {d : Delivery}
    {r : Option LoaderError} (ds : List Delivery) (h : processBlock env d l = .ok r l') :
    trace env l (d :: ds) = (d, issuedBy env l d) :: trace env l' ds := by
  simp [trace, h]

theorem processBlock_of_isTerminating (env : Env) (d : Delivery) {l : BigtableLoader}
    (h : l.isTerminating = true) : processBlock env d l = .ok none l := by
  simp [processBlock, h]

/-- A loader that is shutting down ignores every delivery. -/
theorem run_of_isTerminating (env : Env) (ds : List Delivery) {l : BigtableLoader}
    (h : l.isTerminating = true) : run env l ds = l := by
  induction ds with
  | nil => rfl
  | cons d ds ih => rw [run_cons_of_ok ds (processBlock_of_isTerminating env d h), ih]

/-- A loader that is shutting down issues nothing for any delivery. -/
theorem trace_of_isTerminating (env : Env) (ds : List Delivery) {l : BigtableLoader}
    (h : l.isTerminating = true) : trace env l ds = ds.map fun d => (d, []) := by
  induction ds with
  | nil => rfl
  | cons d ds ih => simp [trace, issuedBy, processBlock_of_isTerminating env d h, ih]

section Reliable

variable (env : Env)

theorem issuedBy_reliable (d : Delivery) {l : BigtableLoader} (hb : 0 < l.batchSize) :
    issuedBy env.reliable l d = plannedCalls env l d := by
  obtain ⟨l', h1, h2, -⟩ := processBlock_reliable env d l hb
  simp [issuedBy, h1, h2.calls]

theorem run_append_reliable (xs ys : List Delivery) {l : BigtableLoader}
    (hb : 0 < l.batchSize) :
    run env.reliable l (xs ++ ys) = run env.reliable (run env.reliable l xs) ys := by
  induction xs generalizing l with
  | nil => rfl
  | cons d xs ih =>
    obtain ⟨l', h1, h2, -⟩ := processBlock_reliable env d l hb
    rw [List.cons_append, run_cons_of_ok _ h1, run_cons_of_ok _ h1, ih (h2.batchSize ▸ hb)]

theorem trace_append_reliable (xs ys : List Delivery) {l : BigtableLoader}
    (hb : 0 < l.batchSize) :
    trace env.reliable l (xs ++ ys) =
      trace env.reliable l xs ++ trace env.reliable (run env.reliable l xs) ys := by
  induction xs generalizing l with
  | nil => rfl
  | cons d xs ih =>
    obtain ⟨l', h1, h2, -⟩ := processBlock_reliable env d l hb
    rw [List.cons_append, trace_cons_of_ok _ h1, trace_cons_of_ok _ h1, run_cons_of_ok _ h1,
      ih (h2.batchSize ▸ hb), List.cons_append]

/-- A run's calls are the ones its trace pairs with its deliveries, in order. -/
theorem run_calls_reliable (ds : List Delivery) {l : BigtableLoader} (hb : 0 < l.batchSize) :
    (run env.reliable l ds).calls = l.calls ++ (trace env.reliable l ds).flatMap Prod.snd := by
  induction ds generalizing l with
  | nil => simp [trace]
  | cons d ds ih =>
    obtain ⟨l', h1, h2, -⟩ := processBlock_reliable env d l hb
    rw [run_cons_of_ok _ h1, trace_cons_of_ok _ h1, ih (h2.batchSize ▸ hb), h2.calls,
      issuedBy_reliable env d hb, List.flatMap_cons, List.append_assoc]

/-- A step that is not the cutoff keeps the loader running and leaves every
    later delivery's plan as it was. -/
theorem processBlock_reliable_running (d : Delivery) {l : BigtableLoader}
    (hb : 0 < l.batchSize) (hr : l.shutter = none) (hd : ¬ plannedShutdown l d) :
    ∃ l', processBlock env.reliable d l = .ok (plannedResult l d) l' ∧
      Steps l l' (plannedCalls env l d) ∧ 0 < l'.batchSize ∧ l'.shutter = none ∧
      ∀ d', plannedCalls env l' d' = plannedCalls env l d' ∧
        (plannedShutdown l' d' ↔ plannedShutdown l d') := by
  obtain ⟨l', h1, h2, h3⟩ := processBlock_reliable env d l hb
  have hr' : l'.shutter = none := by simp [h3, hd, hr]
  have ht : l'.isTerminating = l.isTerminating := by simp [BigtableLoader.isTerminating, hr, hr']
  exact ⟨l', h1, h2, h2.batchSize ▸ hb, hr', fun d' => plannedCalls_congr env d' h2 ht⟩

/-- **RUNNING RUN**: while no delivery is the cutoff, a running loader stays
    running and every delivery issues its planned calls. -/
theorem run_reliable_running (ds : List Delivery) {l : BigtableLoader}
    (hb : 0 < l.batchSize) (hr : l.shutter = none) (hno : ∀ d ∈ ds, ¬ plannedShutdown l d) :
    Steps l (run env.reliable l ds) (ds.flatMap (plannedCalls env l)) ∧
      (run env.reliable l ds).shutter = none := by
  induction ds generalizing l with
  | nil => exact ⟨Steps.refl l, hr⟩
  | cons d ds ih =>
    obtain ⟨l', h1, h2, hb', hr', hc⟩ :=
      processBlock_reliable_running env d hb hr (hno d (List.mem_cons_self _ _))
    obtain ⟨h4, h5⟩ :=
      ih hb' hr' fun d' hd' => (hc d').2.not.mpr (hno d' (List.mem_cons_of_mem _ hd'))
    rw [run_cons_of_ok ds h1, List.flatMap_cons, ← List.flatMap_congr fun d' _ => (hc d').1]
    exact ⟨h2.trans h4, h5⟩

/-- The same run, delivery by delivery. -/
theorem trace_reliable_running (ds : List Delivery) {l : BigtableLoader}
    (hb : 0 < l.batchSize) (hr : l.shutter = none) (hno : ∀ d ∈ ds, ¬ plannedShutdown l d) :
    trace env.reliable l ds = ds.map fun d => (d, plannedCalls env l d) := by
  induction ds generalizing l with
  | nil => rfl
  | cons d ds ih =>
    obtain ⟨l', h1, -, hb', hr', hc⟩ :=
      processBlock_reliable_running env d hb hr (hno d (List.mem_cons_self _ _))
    simp only [trace, h1, issuedBy_reliable env d hb, List.map_cons,
      ih hb' hr' fun d' hd' => (hc d').2.not.mpr (hno d' (List.mem_cons_of_mem _ hd')),
      fun d' => (hc d').1]

/-- **CUTOFF RUN**: a running loader fed deliveries none of which is the
    cutoff, then the cutoff, issues each one's planned calls, shuts down
    cleanly at the cutoff, and ignores every later delivery. -/
theorem run_reliable_cutoff (ds : List Delivery) (d : Delivery) (post : List Delivery)
    {l : BigtableLoader} (hb : 0 < l.batchSize) (hr : l.shutter = none)
    (hno : ∀ x ∈ ds, ¬ plannedShutdown l x) (hd : plannedShutdown l d) :
    (run env.reliable l ds).shutter = none ∧
      ∃ l₂, processBlock env.reliable d (run env.reliable l ds) = .ok (plannedResult l d) l₂ ∧
        Steps (run env.reliable l ds) l₂ (plannedCalls env l d) ∧ l₂.shutter = some none ∧
        run env.reliable l (ds ++ d :: post) = l₂ := by
  obtain ⟨hs, hr₁⟩ := run_reliable_running env ds hb hr hno
  have ht : (run env.reliable l ds).isTerminating = l.isTerminating := by
    simp [BigtableLoader.isTerminating, hr, hr₁]
  obtain ⟨hc, hsd⟩ := plannedCalls_congr env d hs ht
  obtain ⟨l₂, h1, h2, h3⟩ := processBlock_reliable env d _ (hs.batchSize ▸ hb)
  rw [plannedResult_congr d hs ht] at h1
  rw [hc] at h2
  have hr₂ : l₂.shutter = some none := by simp [h3, hsd.mpr hd]
  refine ⟨hr₁, l₂, h1, h2, hr₂, ?_⟩
  rw [run_append_reliable env _ _ hb, run_cons_of_ok _ h1,
    run_of_isTerminating env.reliable post (by simp [BigtableLoader.isTerminating, hr₂])]

/-- The cutoff run, delivery by delivery. -/
theorem trace_reliable_cutoff (ds : List Delivery) (d : Delivery) (post : List Delivery)
    {l : BigtableLoader} (hb : 0 < l.batchSize) (hr : l.shutter = none)
    (hno : ∀ x ∈ ds, ¬ plannedShutdown l x) (hd : plannedShutdown l d) :
    trace env.reliable l (ds ++ d :: post) =
      ds.map (fun x => (x, plannedCalls env l x)) ++ (d, plannedCalls env l d) ::
        post.map fun x => (x, []) := by
  obtain ⟨-, l₂, h1, h2, hr₂, -⟩ := run_reliable_cutoff env ds d post hb hr hno hd
  have ht : l₂.isTerminating = true := by simp [BigtableLoader.isTerminating, hr₂]
  rw [trace_append_reliable env _ _ hb, trace_reliable_running env ds hb hr hno,
    trace_cons_of_ok _ h1, trace_of_isTerminating env.reliable post ht]
  simp [issuedBy, h1, h2.calls]

end Reliable

end TrxdbLoader
