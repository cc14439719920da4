import TrxdbLoader.Run

/-! # What the fork resolver delivers

    `forkable`, filtered to `New` and `Irreversible`, emits a block when it is
    first seen and a group of blocks when they become irreversible.  A group of
    `k` blocks reaches the loader as `k` consecutive deliveries, the `i`-th
    carrying the group's `i`-th block with `StepIndex i`, `StepCount k` and the
    whole group.  `Carries es ds` says the deliveries `ds` carry the emissions
    `es` so, each with its own clock reading.

    * `NewFirst`: a block's `New` is emitted before the group finalizing it;
    * `Disjoint`: no block lies in two groups, nor twice in one;
    * `Regroups`: the same run of groups, cut into groups differently;
    * `Carries.split`: carried deliveries cut anywhere, as a gate cuts them. -/

namespace TrxdbLoader

/-- What the fork resolver emits: a new block, or an irreversible group. -/
inductive Emission
  | new (b : Block)
  | irreversible (group : List Block)
  deriving DecidableEq, Repr

/-- The blocks an emission finalizes. -/
@[simp] def Emission.group : Emission → List Block
  | .new _ => []
  | .irreversible g => g

/-- The `Irreversible` tags of a group's deliveries from position `i` on. -/
def groupTags (group : List Block) : Nat → List Block → List (Block × ForkableObject)
  | _, [] => []
  | i, b :: bs => (b, ⟨.irreversible, i, group.length, group⟩) :: groupTags group (i + 1) bs

/-- A delivery's block and tag, without its clock reading. -/
def Delivery.tag (d : Delivery) : Block × ForkableObject := (d.block, d.obj)

/-- The deliveries `ds` carry the emissions `es`, in order: a `New` as one
    delivery (with any other fields in its tag), a group as its consecutive
    deliveries. -/
inductive Carries : List Emission → List Delivery → Prop
  | nil : Carries [] []
  | new {es : List Emission} {ds : List Delivery} (b : Block) (obj : ForkableObject)
      (now : Time) (h : obj.step = .new) :
      Carries es ds → Carries (.new b :: es) (⟨b, obj, now⟩ :: ds)
  | irreversible {es : List Emission} {ds : List Delivery} (g : List Block)
      (gs : List Delivery) (h : gs.map Delivery.tag = groupTags g 0 g) :
      Carries es ds → Carries (.irreversible g :: es) (gs ++ ds)

/-- Every block of each group was emitted `New` before the group, counting
    the blocks `seen` emitted `New` before `es`. -/
def NewFirstFrom : List Block → List Emission → Prop
  | _, [] => True
  | seen, .new b :: es => NewFirstFrom (b :: seen) es
  | seen, .irreversible g :: es => (∀ b ∈ g, b ∈ seen) ∧ NewFirstFrom seen es

instance decNewFirstFrom : (seen : List Block) → (es : List Emission) →
    Decidable (NewFirstFrom seen es)
  | _, [] => isTrue trivial
  | seen, .new b :: es => decNewFirstFrom (b :: seen) es
  | seen, .irreversible _ :: es => @instDecidableAnd _ _ _ (decNewFirstFrom seen es)

/-- Every block's `New` is emitted before the group that finalizes it. -/
def NewFirst (es : List Emission) : Prop := NewFirstFrom [] es

instance (es : List Emission) : Decidable (NewFirst es) := decNewFirstFrom [] es

/-- No block lies in two groups, nor twice in one. -/
def Disjoint (es : List Emission) : Prop := (es.flatMap Emission.group).Nodup

instance (es : List Emission) : Decidable (Disjoint es) :=
  inferInstanceAs (Decidable (List.Nodup _))

/-- `es'` cuts one run of consecutive groups of `es` into groups differently. -/
def Regroups (es es' : List Emission) : Prop :=
  ∃ (pre post : List Emission) (gs gs' : List (List Block)),
    es = pre ++ gs.map .irreversible ++ post ∧
    es' = pre ++ gs'.map .irreversible ++ post ∧ gs.flatten = gs'.flatten

theorem NewFirstFrom.mem_pre {b : Block} {g : List Block} :
    ∀ {seen : List Block} (pre : List Emission) {post : List Emission},
      NewFirstFrom seen (pre ++ .irreversible g :: post) → b ∈ g → Emission.new b ∈ pre ∨ b ∈ seen
  | _, [], _, h, hb => .inr (h.1 b hb)
  | _, .new b' :: pre, _, h, hb => by
    rcases NewFirstFrom.mem_pre pre h hb with h' | h'
    · exact .inl (List.mem_cons_of_mem _ h')
    · rcases List.mem_cons.mp h' with rfl | h'
      · exact .inl (List.mem_cons_self _ _)
      · exact .inr h'
  | _, .irreversible _ :: pre, _, h, hb =>
    (NewFirstFrom.mem_pre pre h.2 hb).imp_left (List.mem_cons_of_mem _)

/-- In a `NewFirst` sequence, a group's block was emitted `New` before it. -/
theorem NewFirst.mem_pre {es pre post : List Emission} {g : List Block} {b : Block}
    (h : NewFirst es) (hes : es = pre ++ .irreversible g :: post) (hb : b ∈ g) :
    Emission.new b ∈ pre :=
  (NewFirstFrom.mem_pre pre (hes ▸ h) hb).resolve_right (List.not_mem_nil b)

-- ── Carried deliveries ──────────────────────────────────────────────────────

theorem groupTags_irreversible (g : List Block) :
    ∀ (i : Nat) (bs : List Block), ∀ x ∈ groupTags g i bs, x.2.step = .irreversible
  | _, [] => by simp [groupTags]
  | i, _ :: bs => by
    simp only [groupTags, List.mem_cons, forall_eq_or_imp]
    exact ⟨trivial, groupTags_irreversible g (i + 1) bs⟩

theorem mem_groupTags {g : List Block} {b : Block} {o : ForkableObject} :
    ∀ {i : Nat} {bs : List Block}, (b, o) ∈ groupTags g i bs →
      o.stepBlocks = g ∧ o.stepCount = g.length ∧ i ≤ o.stepIndex ∧ bs[o.stepIndex - i]? = some b
  | _, [], h => by simp [groupTags] at h
  | i, b' :: bs, h => by
    rcases List.mem_cons.mp h with h | h
    · simp only [Prod.mk.injEq] at h
      obtain ⟨rfl, rfl⟩ := h
      simp
    · obtain ⟨h1, h2, h3, h4⟩ := mem_groupTags h
      refine ⟨h1, h2, by omega, ?_⟩
      rw [show o.stepIndex - i = o.stepIndex - (i + 1) + 1 by omega, List.getElem?_cons_succ]
      exact h4

/-- Each `Irreversible` delivery of a carried sequence holds its whole group,
    the group's size, and the group's block at its own position. -/
theorem Carries.irreversible_tag {es : List Emission} {ds : List Delivery} (hc : Carries es ds)
    {x : Delivery} (hx : x ∈ ds) (hs : x.obj.step = .irreversible) :
    x.obj.stepCount = x.obj.stepBlocks.length ∧
      x.obj.stepBlocks[x.obj.stepIndex]? = some x.block := by
  induction hc with
  | nil => simp at hx
  | new b obj now h _ ih =>
    rcases List.mem_cons.mp hx with rfl | hx
    · simp [h] at hs
    · exact ih hx
  | irreversible g gs h _ ih =>
    rcases List.mem_append.mp hx with hx | hx
    · have := mem_groupTags (h ▸ List.mem_map_of_mem Delivery.tag hx)
      exact ⟨this.2.1.trans (congrArg List.length this.1).symm, by simpa [this.1] using this.2.2.2⟩
    · exact ih hx

/-- Every delivery of a group is `Irreversible`. -/
theorem group_irreversible {g : List Block} {gs : List Delivery}
    (h : gs.map Delivery.tag = groupTags g 0 g) : ∀ d ∈ gs, d.obj.step = .irreversible :=
  fun d hd => groupTags_irreversible g 0 g d.tag (h ▸ List.mem_map_of_mem _ hd)

/-- Every delivery of a group carries one of the group's blocks. -/
theorem group_mem {g : List Block} {gs : List Delivery}
    (h : gs.map Delivery.tag = groupTags g 0 g) : ∀ d ∈ gs, d.block ∈ g := fun _ hd =>
  List.getElem?_mem (mem_groupTags (h ▸ List.mem_map_of_mem Delivery.tag hd)).2.2.2

/-- A per-delivery quantity that reads only the tag, summed over the
    deliveries of a group from position `i` on, vanishes past the first. -/
theorem groupTags_flatMap_tail {f : Delivery → List α} (g : List Block)
    (hf : ∀ d : Delivery, d.obj.step = .irreversible → d.obj.stepIndex ≠ 0 → f d = []) :
    ∀ (i : Nat) (bs : List Block) (gs : List Delivery),
      gs.map Delivery.tag = groupTags g (i + 1) bs → gs.flatMap f = [] := by
  intro i bs
  induction bs generalizing i with
  | nil => intro gs h; simp_all [groupTags]
  | cons b bs ih =>
    intro gs h
    obtain _ | ⟨d, gs⟩ := gs
    · simp [groupTags] at h
    · simp only [List.map_cons, groupTags, List.cons.injEq, Delivery.tag, Prod.mk.injEq] at h
      obtain ⟨⟨-, ho⟩, h⟩ := h
      simp [hf d (by simp [ho]) (by simp [ho]), ih (i + 1) gs h]

/-- Summing over a group's deliveries a per-delivery quantity that an
    `Irreversible` delivery makes only at `StepIndex 0`, from its group:
    what the group makes once. -/
theorem groupTags_flatMap {f : Delivery → List α} (G : List Block → List α) (hG : G [] = [])
    (hf : ∀ d : Delivery, d.obj.step = .irreversible →
      f d = if d.obj.stepIndex = 0 then G d.obj.stepBlocks else [])
    {g : List Block} {gs : List Delivery} (h : gs.map Delivery.tag = groupTags g 0 g) :
    gs.flatMap f = G g := by
  obtain _ | ⟨b, bs⟩ := g <;> obtain _ | ⟨d, gs⟩ := gs
  · exact hG.symm
  all_goals simp only [List.map_cons, List.map_nil, groupTags, List.cons.injEq, Delivery.tag,
    Prod.mk.injEq, reduceCtorEq, false_and] at h
  obtain ⟨⟨-, ho⟩, ht⟩ := h
  rw [List.flatMap_cons, hf d (by simp [ho]),
    groupTags_flatMap_tail _ (fun d h1 h2 => by simp [hf d h1, h2]) 0 bs gs ht]
  simp [ho]

-- ── Cutting a carried sequence ──────────────────────────────────────────────

/-- Past a group's first delivery, every delivery has a nonzero `StepIndex`. -/
theorem group_tail_stepIndex {g : List Block} {gs pre rest : List Delivery}
    (h : gs.map Delivery.tag = groupTags g 0 g) (hs : gs = pre ++ rest) (hpre : pre ≠ [])
    {x : Delivery} (hx : x ∈ rest) : x.obj.stepIndex ≠ 0 := by
  obtain _ | ⟨y, pre⟩ := pre
  · exact absurd rfl hpre
  obtain _ | ⟨b, bs⟩ := g
  · simp [groupTags, hs] at h
  subst hs
  simp only [List.cons_append, List.map_cons, groupTags, List.cons.injEq] at h
  have := mem_groupTags (h.2 ▸ List.mem_map_of_mem Delivery.tag (List.mem_append_right pre hx))
  omega

/-- Cut carried deliveries anywhere: after the cut come the remaining
    deliveries of a group, none of them its first, then the deliveries of a
    suffix of the emissions; every `New` before that suffix is carried by a
    delivery before the cut. -/
theorem Carries.split {es : List Emission} {ds : List Delivery} (hc : Carries es ds) :
    ∀ {held rest : List Delivery}, ds = held ++ rest →
      ∃ es₁ E r ds₂, es = es₁ ++ E ∧ rest = r ++ ds₂ ∧ Carries E ds₂ ∧
        (∀ x ∈ r, x.obj.step = .irreversible ∧ x.obj.stepIndex ≠ 0) ∧
        ∀ b, Emission.new b ∈ es₁ → ∃ x ∈ held, x.obj.step = .new ∧ x.block = b := by
  induction hc with
  | nil =>
    intro held rest h
    obtain ⟨rfl, rfl⟩ := List.append_eq_nil.mp h.symm
    exact ⟨[], [], [], [], rfl, rfl, .nil, by simp, by simp⟩
  | @new es ds b obj now hs hc ih =>
    intro held rest h
    rcases List.cons_eq_append_iff.mp h with ⟨rfl, rfl⟩ | ⟨held', rfl, h'⟩
    · exact ⟨[], _, [], _, rfl, rfl, .new b obj now hs hc, by simp, by simp⟩
    obtain ⟨es₁, E, r, ds₂, rfl, rfl, hE, hr, hnews⟩ := ih h'
    refine ⟨.new b :: es₁, E, r, ds₂, rfl, rfl, hE, hr, fun b' hb' => ?_⟩
    rcases List.mem_cons.mp hb' with h | h
    · cases h
      exact ⟨_, List.mem_cons_self _ _, hs, rfl⟩
    · obtain ⟨x, hx, h1, h2⟩ := hnews b' h
      exact ⟨x, List.mem_cons_of_mem _ hx, h1, h2⟩
  | @irreversible es ds g gs hg hc ih =>
    intro held rest h
    rcases List.append_eq_append_iff.mp h with ⟨a', rfl, h'⟩ | ⟨c', hgs, rfl⟩
    · -- The cut lies past the group.
      obtain ⟨es₁, E, r, ds₂, rfl, rfl, hE, hr, hnews⟩ := ih h'
      refine ⟨.irreversible g :: es₁, E, r, ds₂, rfl, rfl, hE, hr, fun b hb => ?_⟩
      obtain ⟨x, hx, h1, h2⟩ := hnews b (by simpa using hb)
      exact ⟨x, List.mem_append_right _ hx, h1, h2⟩
    · -- The cut lies in the group: the rest of the group is its tail.
      by_cases hne : held = []
      · subst hne
        exact ⟨[], _, [], _, rfl, by simpa using hgs.symm, .irreversible g gs hg hc, by simp,
          by simp⟩
      refine ⟨[.irreversible g], es, c', ds, rfl, rfl, hc, fun x hx => ⟨?_, ?_⟩, by simp⟩
      · exact group_irreversible hg x (hgs ▸ List.mem_append_right _ hx)
      · exact group_tail_stepIndex hg hgs hne hx

/-- What a `NewFirst` sequence guarantees past a prefix: each group's blocks
    were emitted `New` before it, in the prefix or since. -/
theorem NewFirstFrom.append_right {B : List Emission} :
    ∀ {seen : List Block} (A : List Emission), NewFirstFrom seen (A ++ B) →
      ∃ seen', (∀ b ∈ seen', b ∈ seen ∨ Emission.new b ∈ A) ∧ NewFirstFrom seen' B
  | seen, [], h => ⟨seen, fun _ hb => .inl hb, h⟩
  | _, .new _ :: A, h =>
    let ⟨seen', hs, h'⟩ := NewFirstFrom.append_right A h
    ⟨seen', fun x hx => (hs x hx).elim
      (fun h => (List.mem_cons.mp h).elim (fun e => .inr (e ▸ List.mem_cons_self _ _)) .inl)
      (fun h => .inr (List.mem_cons_of_mem _ h)), h'⟩
  | _, .irreversible _ :: A, h =>
    let ⟨seen', hs, h'⟩ := NewFirstFrom.append_right A h.2
    ⟨seen', fun x hx => (hs x hx).imp_right (List.mem_cons_of_mem _), h'⟩

end TrxdbLoader
