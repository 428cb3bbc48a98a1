import GraphScript.Proofs.Bodies

namespace GraphScript

/-- What every path keeps to. -/
structure Path.Sound (limit : Nat) (path : Path) : Prop where
  nodup : path.Nodup
  length_le : path.length ≤ limit
  /-- The steps in a module stand next to each other. -/
  runs : ∀ a b, [a, b, a].Sublist (path.map Prod.fst) → b = a

/-- A path may go on in a module that it is in or that it has not been in. -/
def Path.Continues (path : Path) (id : String) : Prop :=
  id ∉ path.map Prod.fst ∨ ∃ earlier node, path = earlier ++ [(id, node)]

/-- The paths with which a walk is begun and with which it comes to its nodes. -/
def Walk.paths (path : Path) : Walk → List Path
  | done => [path]
  | cut _ => [path]
  | stop v => [path, path ++ [v.step]]
  | pass v rest => path :: rest.paths (path ++ [v.step])
  | perform v inlined rest =>
    path :: (inlined.paths (path ++ [v.step]) ++ rest.paths (path ++ [v.step]))
  | branch v yes no => path :: (yes.paths (path ++ [v.step]) ++ no.paths (path ++ [v.step]))

namespace Path

theorem sound_nil (limit : Nat) : Sound limit [] :=
  ⟨List.nodup_nil, Nat.zero_le limit, fun a b h => by cases h⟩

theorem continues_append (path : Path) (id node : String) : Continues (path ++ [(id, node)]) id :=
  .inr ⟨path, node, rfl⟩

theorem sublist_concat_cases {l ids : List String} {id : String} (h : l.Sublist (ids ++ [id])) :
    l.Sublist ids ∨ ∃ front, l = front ++ [id] ∧ front.Sublist ids := by
  obtain ⟨front, back, rfl, hf, hb⟩ := List.sublist_append_iff.mp h
  rcases List.sublist_cons_iff.mp hb with hn | ⟨rest, rfl, hn⟩
  · cases List.sublist_nil.mp hn
    exact .inl (by rwa [List.append_nil])
  · cases List.sublist_nil.mp hn
    exact .inr ⟨front, rfl, hf⟩

/-- Between two steps in a module there is no other when the last one goes on where the path is. -/
theorem Sound.runs_append {limit : Nat} {path : Path} {id : String} (h : Sound limit path)
    (hc : Continues path id) {a b : String}
    (hs : [a, b, a].Sublist (path.map Prod.fst ++ [id])) : b = a := by
  rcases sublist_concat_cases hs with inside | ⟨front, he, hf⟩
  · exact h.runs a b inside
  · have ends : [a, b] = front ∧ [a] = [id] := List.append_inj' he rfl
    obtain ⟨rfl, hid⟩ := ends
    cases hid
    rcases hc with fresh | ⟨earlier, node, rfl⟩
    · exact absurd (hf.subset (by simp)) fresh
    · rw [List.map_append] at hf
      rcases sublist_concat_cases hf with before | ⟨front, he, -⟩
      · apply h.runs
        rw [List.map_append]
        exact before.append (List.Sublist.refl [id])
      · have ends : [id] = front ∧ [b] = [id] := List.append_inj' he rfl
        cases ends.2
        rfl

end Path

namespace Context

variable {ctx : Context}

/-- A step that is admitted keeps a path sound. -/
theorem Admits.sound {path : Path} {module : Module} {node : Node}
    (ha : ctx.Admits ⟨module, node, path⟩) (h : path.Sound ctx.config.maxTraversalDepth)
    (hc : path.Continues module.id) :
    Path.Sound ctx.config.maxTraversalDepth (path ++ [(module.id, node.id)]) := by
  refine ⟨?_, ?_, fun a b hs => ?_⟩
  · exact List.nodup_append.mpr ⟨h.nodup, by simp, fun step hstep other ho => by
      rintro rfl
      cases List.mem_singleton.mp ho
      exact ha.1 hstep⟩
  · rw [List.length_append]
    exact ha.2
  · rw [List.map_append] at hs
    exact h.runs_append hc hs

/-- Every path of a plan is sound. -/
theorem Plans.paths_sound {path : Path} {module : Module} {start : Option Node} {walk : Walk}
    (h : ctx.Plans path module start walk) (hs : path.Sound ctx.config.maxTraversalDepth)
    (hc : path.Continues module.id) :
    ∀ p ∈ walk.paths path, p.Sound ctx.config.maxTraversalDepth := by
  induction h with
  | done => simpa [Walk.paths] using hs
  | cut => simpa [Walk.paths] using hs
  | stop ha =>
    exact List.forall_mem_cons.mpr ⟨hs, List.forall_mem_cons.mpr ⟨ha.sound hs hc, by simp⟩⟩
  | pass ha _ _ ih =>
    have rest := ih (ha.sound hs hc) (Path.continues_append _ _ _)
    exact List.forall_mem_cons.mpr ⟨hs, rest⟩
  | branch ha _ _ _ hy hn =>
    have after := ha.sound hs hc
    have yes := hy after (Path.continues_append _ _ _)
    have no := hn after (Path.continues_append _ _ _)
    exact List.forall_mem_cons.mpr ⟨hs, List.forall_mem_append.mpr ⟨yes, no⟩⟩
  | act ha _ _ _ ih =>
    have after := ha.sound hs hc
    have rest := ih after (Path.continues_append _ _ _)
    exact List.forall_mem_cons.mpr ⟨hs, List.forall_mem_cons.mpr ⟨after, rest⟩⟩
  | refuse ha _ _ _ _ ih =>
    have after := ha.sound hs hc
    have rest := ih after (Path.continues_append _ _ _)
    exact List.forall_mem_cons.mpr ⟨hs, List.forall_mem_cons.mpr ⟨after, rest⟩⟩
  | call ha _ _ hm _ _ hi ih =>
    have after := ha.sound hs hc
    have inlined := hi after (.inl (moduleStart_eq_ok_iff.mp hm).2.1)
    have rest := ih after (Path.continues_append _ _ _)
    exact List.forall_mem_cons.mpr ⟨hs, List.forall_mem_append.mpr ⟨inlined, rest⟩⟩

theorem Plans.path_mem_paths {path : Path} {module : Module} {start : Option Node} {walk : Walk}
    (h : ctx.Plans path module start walk) : path ∈ walk.paths path := by
  cases h <;> simp [Walk.paths]

/-- A visit and the two walks that follow it have the paths before and after their visits. -/
theorem visit_paths_pair {v : Visit} {first second : List Visit} {before after : List Path}
    (here : v.pathAfter ∈ before)
    (hf : ∀ u ∈ first, u.path ∈ before ∧ u.pathAfter ∈ before)
    (hs : ∀ u ∈ second, u.path ∈ after ∧ u.pathAfter ∈ after) :
    ∀ u ∈ v :: (first ++ second),
      u.path ∈ v.path :: (before ++ after) ∧ u.pathAfter ∈ v.path :: (before ++ after) := by
  refine List.forall_mem_cons.mpr ⟨⟨.head _, .tail _ (List.mem_append_left _ here)⟩, fun u hu => ?_⟩
  rcases List.mem_append.mp hu with hu | hu
  · exact (hf u hu).imp (fun h => .tail _ (List.mem_append_left _ h))
      fun h => .tail _ (List.mem_append_left _ h)
  · exact (hs u hu).imp (fun h => .tail _ (List.mem_append_right _ h))
      fun h => .tail _ (List.mem_append_right _ h)

/-- The paths of a plan are those before and after its visits. -/
theorem Plans.visit_paths {path : Path} {module : Module} {start : Option Node} {walk : Walk}
    (h : ctx.Plans path module start walk) :
    ∀ v ∈ walk.visits, v.path ∈ walk.paths path ∧ v.pathAfter ∈ walk.paths path := by
  induction h with
  | done => simp [Walk.visits]
  | cut => simp [Walk.visits]
  | stop => simp [Walk.visits, Walk.paths, Visit.pathAfter]
  | pass _ _ hr ih =>
    refine List.forall_mem_cons.mpr
      ⟨⟨.head _, .tail _ hr.path_mem_paths⟩, fun v hv => (ih v hv).imp (.tail _) (.tail _)⟩
  | branch _ _ hp _ hy hn =>
    exact visit_paths_pair hp.path_mem_paths hy hn
  | act _ _ _ _ ih => exact visit_paths_pair (List.mem_singleton_self _) (by simp [Walk.visits]) ih
  | refuse _ _ _ _ _ ih =>
    exact visit_paths_pair (List.mem_singleton_self _) (by simp [Walk.visits]) ih
  | call _ _ _ _ hp _ hi ih => exact visit_paths_pair hp.path_mem_paths hi ih

/-- The visits of the walks that start in a module, with nothing before them. -/
def Walked (ctx : Context) (v : Visit) : Prop :=
  ∃ budget module start, v ∈ (ctx.plan budget [] module start).visits

theorem plan_plans (ctx : Context) (budget : Nat) (module : Module) (start : Option Node) :
    ctx.Plans [] module start (ctx.plan budget [] module start) :=
  planFrom_plans rfl

theorem plan_paths_sound (ctx : Context) (budget : Nat) (module : Module) (start : Option Node) :
    ∀ p ∈ (ctx.plan budget [] module start).paths [], p.Sound ctx.config.maxTraversalDepth :=
  (plan_plans ctx budget module start).paths_sound (Path.sound_nil _) (.inl (by simp))

theorem Walked.sound {v : Visit} (h : ctx.Walked v) :
    Path.Sound ctx.config.maxTraversalDepth v.path ∧
      v.pathAfter.Sound ctx.config.maxTraversalDepth := by
  obtain ⟨budget, module, start, hv⟩ := h
  have paths := plan_paths_sound ctx budget module start
  exact ((plan_plans ctx budget module start).visit_paths v hv).imp (paths _) (paths _)

/-- All visits of a lowering belong to walks. -/
abbrev OnlyWalks (ctx : Context) {α : Type} (x : Lowered α) : Prop :=
  x.Within fun e => ∀ v, e.visit? = some v → ctx.Walked v

theorem onlyWalks_of_makes {α : Type} {x : Lowered α} {visits : List Visit} (h : x.Makes visits)
    (hv : ∀ v ∈ visits, ctx.Walked v) : ctx.OnlyWalks x :=
  fun e he v hev => hv v (h.isPrefix.subset (List.mem_filterMap.mpr ⟨e, he, hev⟩))

theorem onlyWalks_of_isPlain {α : Type} {x : Lowered α} (h : x.IsPlain ctx.config) :
    ctx.OnlyWalks x :=
  onlyWalks_of_makes h.makes (by simp)

theorem onlyWalks_allowed : ctx.Allows fun e => ∀ v, e.visit? = some v → ctx.Walked v where
  plain := onlyWalks_of_isPlain
  refused _ := onlyWalks_of_makes (Lowered.fallback_makes _ _) (by simp)
  walked budget module start := onlyWalks_of_makes (plan_plans ctx budget module start).makes
    fun _ hv => ⟨budget, module, start, hv⟩

/-- While a class is made nodes are visited only on walks that start with an empty path. -/
theorem assemble_onlyWalks : ctx.OnlyWalks ctx.assemble :=
  assemble_within onlyWalks_allowed

end Context

/-- All paths of the walks through an entity are sound, and so are those before and after every node
that is visited while its class is made. A module is run from a place exactly if the path to the
place is not in it; where it was run before and is left again it can be run once more. -/
theorem assemble_paths_sound (config : Config) (entity : Entity) :
    (∀ budget module start, ∀ p ∈ ((Context.of entity config).plan budget [] module start).paths [],
      p.Sound config.maxTraversalDepth) ∧
    (∀ v ∈ (assemble config entity).visits,
      Path.Sound config.maxTraversalDepth v.path ∧ v.pathAfter.Sound config.maxTraversalDepth) ∧
    (∀ path id module entry,
      (Context.of entity config).moduleStart path id = .ok (module, entry) ↔
        entity.module? id = some module ∧ module.id ∉ path.map Prod.fst ∧
          module.entryNode? = some entry) := by
  have ⟨he, hc⟩ := Context.of_fields entity config
  refine ⟨fun budget module start p hp => ?_, fun v hv => ?_, fun path id module entry => ?_⟩
  · exact hc ▸ Context.plan_paths_sound _ budget module start p hp
  · have walked : (Context.of entity config).OnlyWalks (assemble config entity) := by
      unfold assemble
      split
      next =>
        exact (Lowered.within_bind _ _).mpr
          ⟨Context.assemble_onlyWalks, fun _ _ => Lowered.within_pure _⟩
      next => exact Context.onlyWalks_of_isPlain (.bind (.perform rfl) fun _ => .pure _)
    obtain ⟨e, hm, hev⟩ := List.mem_filterMap.mp hv
    exact hc ▸ (walked e hm v hev).sound
  · rw [Context.moduleStart_eq_ok_iff, he]

end GraphScript
