import TrxdbLoader.Effects

/-! # Health across the pipeline's lifecycle

    `Launch` wires the loader and its source together: the source's
    `OnTerminating` hook shuts the loader down with the same error, its
    `OnTerminated` hook calls `setUnhealthy`, and the loader's `OnTerminating`
    hook shuts the source down.  When `ProcessBlock` returns an error, the
    file source of a job pipeline stops with it, and the eternal source of
    the live pipeline restarts.  An `Event` is what can happen to a launched
    pipeline, in any order: a delivery, a loader shutdown from outside, a
    source that ends on its own.

    `Healthy()` is set by every `New` that reaches `FullJob`, before its
    writes, and cleared whenever the source terminates, whichever side shut
    it down first: the stop-block cutoff shuts the source down too, so a
    clean stop leaves the loader unhealthy.

    * `Lifecycle.Linked`: the invariant `Launch` sets up, and
      `Lifecycle.HealthStep`: what one event does to the health flag;
    * `pipelineStep_health`: one event, `pipelineRun_health`: every run;
    * `healthy_iff_new_and_running`: from a freshly launched loader;
    * `healthy_cleared_by_clean_stop`: a clean stop clears the flag. -/

namespace TrxdbLoader

/-- What can happen to a launched pipeline. -/
inductive Event
  /-- The source hands `d` to `ProcessBlock`. -/
  | deliver (d : Delivery)
  /-- `l.Shutdown(err)` from outside. -/
  | shutdown (err : Option LoaderError)
  /-- The source ends on its own with `err`. -/
  | sourceTerminated (err : Option LoaderError)

/-- Whether an event is the delivery of a `New`. -/
def Event.isNew : Event → Bool
  | .deliver d => decide (d.obj.step = .new)
  | _ => false

/-- Whether `l.source` goes on after `ProcessBlock` returns an error: the
    eternal source of `BuildPipelineLive` builds a new source from the last
    block processed and restarts, where the file source of
    `BuildPipelineJob` stops with the error. -/
def BigtableLoader.restartsOnError (l : BigtableLoader) : Bool :=
  match l.source with
  | some (.live _ _) => true
  | _ => false

/-- What the source does once `ProcessBlock` returned `r`: nothing on `nil`;
    on an error, the eternal source restarts and any other source stops with
    that error. -/
def BigtableLoader.afterProcessBlock (r : Option LoaderError) (l : BigtableLoader) :
    BigtableLoader :=
  match r with
  | none => l
  | some err => if l.restartsOnError then l else l.sourceShutdown (some err)

@[simp] theorem BigtableLoader.afterProcessBlock_none (l : BigtableLoader) :
    l.afterProcessBlock none = l := rfl

/-- One event on a launched pipeline; `none` once the process panics.  A
    stopped source delivers nothing. -/
def pipelineStep (env : Env) (l : BigtableLoader) : Event → Option BigtableLoader
  | .deliver d =>
    if l.sourceShutter.isSome then some l else
    match processBlock env d l with
    | .ok r l' => some (l'.afterProcessBlock r)
    | .error _ _ => none
  | .shutdown err => some (l.shutdown err)
  | .sourceTerminated err => some (l.sourceShutdown err)

/-- Events one after another, until the process panics. -/
def pipelineRun (env : Env) : BigtableLoader → List Event → Option BigtableLoader
  | l, [] => some l
  | l, e :: es => (pipelineStep env l e).bind fun l' => pipelineRun env l' es

theorem Steps.sourceShutdown (l : BigtableLoader) (err : Option LoaderError) :
    Steps l (l.sourceShutdown err) [] := by
  unfold BigtableLoader.sourceShutdown
  split_ifs <;> exact ⟨by simp, rfl, rfl, rfl, rfl, rfl⟩

theorem Steps.afterProcessBlock (r : Option LoaderError) (l : BigtableLoader) :
    Steps l (l.afterProcessBlock r) [] := by
  unfold BigtableLoader.afterProcessBlock
  split
  · exact Steps.refl l
  · split_ifs
    exacts [Steps.refl l, Steps.sourceShutdown l _]

theorem BigtableLoader.restartsOnError_congr {l l' : BigtableLoader} (h : l'.source = l.source) :
    l'.restartsOnError = l.restartsOnError := by
  simp [BigtableLoader.restartsOnError, h]

theorem Steps.restartsOnError {l l' : BigtableLoader} {cs : List Call} (h : Steps l l' cs) :
    l'.restartsOnError = l.restartsOnError :=
  BigtableLoader.restartsOnError_congr h.source

/-- A source that does not restart has stopped once `ProcessBlock` returned
    an error. -/
theorem afterProcessBlock_stopped {l : BigtableLoader} (hf : l.restartsOnError = false)
    (err : LoaderError) : (l.afterProcessBlock (some err)).sourceShutter ≠ none := by
  simp only [BigtableLoader.afterProcessBlock, hf, Bool.false_eq_true, if_false]
  unfold BigtableLoader.sourceShutdown
  split_ifs with h <;> simp_all [Option.isSome_iff_ne_none]

/-- A delivery to a running source, when `ProcessBlock` returns. -/
theorem pipelineStep_deliver_of_ok {env : Env} {d : Delivery} {l s : BigtableLoader}
    {r : Option LoaderError} (hsrc : l.sourceShutter = none) (h : processBlock env d l = .ok r s) :
    pipelineStep env l (.deliver d) = some (s.afterProcessBlock r) := by
  simp [pipelineStep, hsrc, h]

namespace Lifecycle

/-- The invariant `Launch` sets up for the `FullJob` pipeline: the loader
    is shut down exactly when its source is, and healthy only while both
    run. -/
def Linked (lc : Lifecycle) : Prop :=
  lc.launched = true ∧ lc.processingJob = .fullJob ∧ (lc.shutter = none ↔ lc.sourceShutter = none) ∧
    (lc.healthy = true → lc.sourceShutter = none)

/-- Both sides shut down, and the loader unhealthy. -/
def Stopped (lc : Lifecycle) : Prop :=
  lc.launched = true ∧ lc.processingJob = .fullJob ∧ lc.shutter ≠ none ∧ lc.sourceShutter ≠ none ∧
    lc.healthy = false

/-- What events do to the health flag: from `lc` to `lc'`, the link holds,
    a stopped source stays stopped, and the loader is healthy exactly when
    it was, or a `New` was delivered, and the source still runs. -/
def HealthStep (lc lc' : Lifecycle) (new : Bool) : Prop :=
  lc'.Linked ∧ (lc'.sourceShutter = none → lc.sourceShutter = none) ∧
    (lc'.healthy = true ↔ (lc.healthy = true ∨ new = true) ∧ lc'.sourceShutter = none)

theorem Stopped.linked {lc : Lifecycle} (h : lc.Stopped) : lc.Linked := by
  obtain ⟨h1, h2, h3, h4, h5⟩ := h
  exact ⟨h1, h2, by simp [h3, h4], by simp [h5]⟩

theorem healthStep_of_stopped {lc lc' : Lifecycle} (new : Bool) (h : lc'.Stopped) :
    HealthStep lc lc' new :=
  ⟨h.linked, fun h' => absurd h' h.2.2.2.1, by simp [h.2.2.2.1, h.2.2.2.2]⟩

theorem healthStep_refl {lc : Lifecycle} (h : lc.Linked) : HealthStep lc lc false :=
  ⟨h, id, by simpa using h.2.2.2⟩

theorem healthStep_healthy {lc : Lifecycle} (h : lc.Linked) (hs : lc.sourceShutter = none) :
    HealthStep lc { lc with healthy := true } true :=
  ⟨⟨h.1, h.2.1, h.2.2.1, fun _ => hs⟩, id, by simpa using hs⟩

theorem HealthStep.trans {lc₁ lc₂ lc₃ : Lifecycle} {a b : Bool} (h₁ : HealthStep lc₁ lc₂ a)
    (h₂ : HealthStep lc₂ lc₃ b) : HealthStep lc₁ lc₃ (a || b) := by
  refine ⟨h₂.1, h₁.2.1 ∘ h₂.2.1, ?_⟩
  rw [h₂.2.2, h₁.2.2]
  constructor
  · rintro ⟨⟨h, -⟩ | h, hs⟩ <;> refine ⟨?_, hs⟩ <;> cases a <;> cases b <;> simp_all
  · rintro ⟨h, hs⟩
    have := h₂.2.1 hs
    refine ⟨?_, hs⟩
    cases a <;> cases b <;> simp_all

end Lifecycle

open Lifecycle

theorem stopped_shutdown {l : BigtableLoader} (h : l.lifecycle.Linked) (err : Option LoaderError) :
    (l.shutdown err).lifecycle.Stopped := by
  obtain ⟨h1, h2, h3, h4⟩ := h
  simp only [BigtableLoader.lifecycle] at h1 h2 h3 h4
  unfold BigtableLoader.shutdown
  split_ifs with hs hl <;> simp_all [Stopped, BigtableLoader.lifecycle, Option.isSome_iff_ne_none]

theorem stopped_sourceShutdown {l : BigtableLoader} (h : l.lifecycle.Linked)
    (err : Option LoaderError) : (l.sourceShutdown err).lifecycle.Stopped := by
  obtain ⟨h1, h2, h3, h4⟩ := h
  simp only [BigtableLoader.lifecycle] at h1 h2 h3 h4
  unfold BigtableLoader.sourceShutdown
  split_ifs with hs <;> simp_all [Stopped, BigtableLoader.lifecycle, Option.isSome_iff_ne_none]

/-- On a running `FullJob` loader a `New` only marks it healthy, and any
    other delivery changes nothing or shuts it down. -/
theorem lifecycleAfter_running (env : Env) (d : Delivery) {l : BigtableLoader}
    (hr : l.shutter = none) (hj : l.processingJob = .fullJob) :
    (d.obj.step = .new ∧ lifecycleAfter env l d = { l.lifecycle with healthy := true }) ∨
      (d.obj.step ≠ .new ∧ (lifecycleAfter env l d = l.lifecycle ∨
        ∃ err, lifecycleAfter env l d = (l.shutdown err).lifecycle)) := by
  have ht : l.isTerminating = false := by simp [BigtableLoader.isTerminating, hr]
  unfold lifecycleAfter
  simp only [ht, hj, Bool.false_eq_true, if_false]
  cases h : d.obj.step <;> simp
  split_ifs with hc
  · exact .inr ⟨_, rfl⟩
  · exact .inl fun h' => absurd h' hc

/-- **ONE EVENT**: on a linked loader, any event keeps the link, never
    restarts a stopped source, and leaves the loader healthy exactly when it
    was or the event delivered a `New`, and the source still runs. -/
theorem pipelineStep_health (env : Env) {l l' : BigtableLoader} {e : Event}
    (h : l.lifecycle.Linked) (hs : pipelineStep env l e = some l') :
    HealthStep l.lifecycle l'.lifecycle e.isNew := by
  cases e with
  | shutdown err =>
    cases hs
    exact healthStep_of_stopped _ (stopped_shutdown h err)
  | sourceTerminated err =>
    cases hs
    exact healthStep_of_stopped _ (stopped_sourceShutdown h err)
  | deliver d =>
    simp only [pipelineStep] at hs
    split_ifs at hs with hsrc
    · cases hs
      have hns : l.lifecycle.sourceShutter ≠ none := by
        simpa [BigtableLoader.lifecycle, Option.isSome_iff_ne_none] using hsrc
      exact ⟨h, id, by simpa [hns] using mt h.2.2.2 hns⟩
    · have hsrc' : l.sourceShutter = none := by simpa using hsrc
      have hl := processBlock_lifecycle env d l
      cases hp : processBlock env d l with
      | error e s => simp [hp] at hs
      | ok r s =>
        rw [hp, stateOf_ok] at hl
        -- What the delivery itself does, before an error stops the source.
        have hss : HealthStep l.lifecycle s.lifecycle (Event.deliver d).isNew := by
          rcases lifecycleAfter_running env d ((h.2.2.1).mpr hsrc') h.2.1 with
            ⟨hn, ha⟩ | ⟨hn, ha | ⟨err, ha⟩⟩ <;> rw [hl, ha]
          · simpa [Event.isNew, hn] using healthStep_healthy h hsrc'
          · simpa [Event.isNew, hn] using healthStep_refl h
          · exact healthStep_of_stopped _ (stopped_shutdown h err)
        simp only [hp, Option.some.injEq] at hs
        subst hs
        cases r with
        | none => exact hss
        | some err =>
          unfold BigtableLoader.afterProcessBlock
          split_ifs
          · exact hss
          · exact healthStep_of_stopped _ (stopped_sourceShutdown hss.1 _)

/-- **EVERY RUN**: from a linked loader, whatever the events and the Commit
    Target's answers, a run that does not panic ends linked, and healthy
    exactly when the loader was healthy or a `New` was delivered, and the
    source still runs. -/
theorem pipelineRun_health (env : Env) (evs : List Event) :
    ∀ {l l' : BigtableLoader}, l.lifecycle.Linked → pipelineRun env l evs = some l' →
      HealthStep l.lifecycle l'.lifecycle (evs.any Event.isNew) := by
  induction evs with
  | nil =>
    intro l l' h hr
    cases hr
    exact healthStep_refl h
  | cons e evs ih =>
    intro l l' h hr
    obtain ⟨l₁, h1, h2⟩ := Option.bind_eq_some.mp hr
    have hs := pipelineStep_health env h h1
    simpa [List.any_cons] using hs.trans (ih hs.1 h2)

theorem any_isNew_iff (evs : List Event) :
    evs.any Event.isNew = true ↔ ∃ d, Event.deliver d ∈ evs ∧ d.obj.step = .new := by
  simp only [List.any_eq_true]
  constructor
  · rintro ⟨_ | _ | _, he, hn⟩ <;>
      simp only [Event.isNew, decide_eq_true_eq, Bool.false_eq_true] at hn
    exact ⟨_, he, hn⟩
  · rintro ⟨d, hd, hn⟩
    exact ⟨_, hd, by simp [Event.isNew, hn]⟩

/-- **HEALTH**: after `Launch` of a `FullJob` pipeline, over any interleaving
    of deliveries (each call of which may fail), loader shutdowns and source
    terminations, as long as the process has not panicked: `Healthy()` holds
    exactly when some `New` has been delivered and the source still runs,
    and the loader is shut down exactly when its source is. -/
theorem healthy_iff_new_and_running (env : Env) {l₀ l : BigtableLoader} (evs : List Event)
    (h₀ : l₀.launched = true ∧ l₀.processingJob = .fullJob ∧ l₀.shutter = none ∧
      l₀.sourceShutter = none ∧ l₀.healthy = false)
    (h : pipelineRun env l₀ evs = some l) :
    (l.healthy = true ↔ (∃ d, Event.deliver d ∈ evs ∧ d.obj.step = .new) ∧
      l.sourceShutter = none) ∧ (l.shutter = none ↔ l.sourceShutter = none) := by
  obtain ⟨h1, h2, h3, h4, h5⟩ := h₀
  have hL : l₀.lifecycle.Linked := ⟨h1, h2, by simp [BigtableLoader.lifecycle, h3, h4],
    by simp [BigtableLoader.lifecycle, h5]⟩
  obtain ⟨hL', -, hh⟩ := pipelineRun_health env evs hL h
  refine ⟨?_, hL'.2.2.1⟩
  simp only [BigtableLoader.lifecycle, h5, any_isNew_iff, Bool.false_eq_true, false_or] at hh
  exact hh

/-- A freshly launched loader, one `New`. -/
theorem healthy_iff_new_and_running_single :
    let d : Delivery := ⟨⟨1, "b1", "b0", 0⟩, ⟨.new, 0, 0, []⟩, 0⟩
    let env : Env := ⟨Target.reliable, 0, 0⟩
    let l₀ := (newBigtableLoader 1).launch
    let l := (pipelineRun env.reliable l₀ [.deliver d]).getD l₀
    (l₀.launched = true ∧ l₀.processingJob = .fullJob ∧ l₀.shutter = none ∧
      l₀.sourceShutter = none ∧ l₀.healthy = false) ∧
      pipelineRun env.reliable l₀ [.deliver d] = some l ∧ l.healthy = true := by
  intro d env l₀ l
  have h₀ : l₀.launched = true ∧ l₀.processingJob = .fullJob ∧ l₀.shutter = none ∧
      l₀.sourceShutter = none ∧ l₀.healthy = false := by decide
  have h : pipelineRun env.reliable l₀ [.deliver d] = some l := by decide
  exact ⟨h₀, h, (healthy_iff_new_and_running env.reliable [.deliver d] h₀ h).1.mpr
    ⟨⟨d, List.mem_singleton_self _, rfl⟩, by decide⟩⟩

/-- A `New` completes without error and the source runs, so the loader is
    healthy; then the stop-block cutoff shuts the loader down cleanly, the
    loader's hook stops the source, and the source's hook clears the flag. -/
theorem healthy_cleared_by_clean_stop :
    let b₁ : Block := ⟨1, "b1", "b0", 0⟩
    let env : Env := ⟨Target.reliable, 0, 0⟩
    let l₀ := ((newBigtableLoader 1).stopBeforeBlock 1).launch
    let evs := [Event.deliver ⟨b₁, ⟨.new, 0, 0, []⟩, 0⟩,
      .deliver ⟨b₁, ⟨.irreversible, 0, 1, [b₁]⟩, 0⟩]
    (pipelineRun env.reliable l₀ (evs.take 1)).map (fun l => (l.healthy, l.sourceShutter)) =
        some (true, none) ∧
      (pipelineRun env.reliable l₀ evs).map (fun l => (l.healthy, l.shutter, l.sourceShutter)) =
        some (false, some none, some none) :=
  ⟨by decide, by decide⟩

end TrxdbLoader
