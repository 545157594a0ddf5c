/-
  LayerTemplates.Proofs.Render.References
  ───────────────────────────────────────
  The layers in progress are a path of the reference graph.

  Without getters a layer asks for names that its text refers to, so whatever is entered is
  a reference of the layer below it, and leaving a layer takes the last step of the path back.
  A name that closes a cycle is a reference of the last layer in progress as well: the chain
  that is reported is the path, followed by a name on it.

  Main statements:
    * `Path.snoc` — a path goes on with a reference of its last name.
    * `resolve_path` — at every moment the layers in progress form a path.
    * `resolve_caused` — a run that stops for a cycle or its depth has followed a path.
    * `exists_cycle` — a reported chain runs into a cycle that the entry point reaches.
    * `cycles_are_paths` — what a reported cycle is, for a source, options and a template.
-/
import Mathlib.Data.List.Chain
import LayerTemplates.Proofs.Render.Moments

namespace LayerTemplates

namespace Renderer

/-! ## §1. Paths. -/

/-- Names that lead from the entry point along references, each name only once. -/
structure Path (r : Renderer) (names : List String) : Prop where
  starts : ∀ name, names.head? = some name → name = r.options.entryPoint
  links : names.IsChain r.Refers
  distinct : names.Nodup

/-- A path can go on with a name: with the entry point at first, then with a reference of its
last name. -/
def Leads (r : Renderer) (names : List String) (name : String) : Prop :=
  match names.getLast? with
  | none => name = r.options.entryPoint
  | some below => r.Refers below name

/-- A chain of references from the entry point into a name that it has met before. -/
structure CyclePath (r : Renderer) (chain : List String) : Prop where
  starts : chain.head? = some r.options.entryPoint
  links : chain.IsChain r.Refers
  distinct : chain.dropLast.Nodup
  closes : ∃ last, chain.getLast? = some last ∧ last ∈ chain.dropLast

variable {r : Renderer} {names : List String} {name : String}

theorem path_nil (r : Renderer) : r.Path [] where
  starts _ h := absurd h (by simp)
  links := .nil
  distinct := .nil

theorem leads_append_singleton {below : String} :
    r.Leads (names ++ [below]) name ↔ r.Refers below name := by
  unfold Leads
  simp

/-- Where a path can go on, the links of it do. -/
theorem links_append (hlinks : names.IsChain r.Refers) (hleads : r.Leads names name) :
    (names ++ [name]).IsChain r.Refers := by
  rw [List.isChain_append]
  refine ⟨hlinks, .singleton name, ?_⟩
  intro below hbelow other hother
  obtain rfl : name = other := by simpa using hother
  unfold Leads at hleads
  rwa [show names.getLast? = some below from hbelow] at hleads

/-- A longer path starts where the path does, or it is the entry point alone. -/
theorem head_append (hstarts : ∀ first, names.head? = some first → first = r.options.entryPoint)
    (hleads : r.Leads names name) :
    (names ++ [name]).head? = some r.options.entryPoint := by
  cases names with
  | nil => exact congrArg some hleads
  | cons first rest =>
      have hfirst := hstarts first rfl
      simp [hfirst]

/-- **A path goes on** with a new name that it leads to. -/
theorem Path.snoc (h : r.Path names) (hleads : r.Leads names name) (hnew : name ∉ names) :
    r.Path (names ++ [name]) where
  starts first hfirst := by
    rw [head_append h.starts hleads] at hfirst
    exact (Option.some.inj hfirst).symm
  links := links_append h.links hleads
  distinct := by
    rw [List.nodup_append]
    refine ⟨h.distinct, by simp, ?_⟩
    intro a ha b hb hab
    obtain rfl := List.mem_singleton.1 hb
    exact hnew (hab ▸ ha)

/-- The last step of a path is one that the rest of it leads to. -/
theorem Path.leads (h : r.Path (names ++ [name])) : r.Leads names name := by
  unfold Leads
  cases hlast : names.getLast? with
  | none =>
      obtain rfl := List.getLast?_eq_none_iff.1 hlast
      exact h.starts name rfl
  | some below =>
      have hlinks := (List.isChain_append.1 h.links).2.2
      exact hlinks below hlast name rfl

/-- A path that leads back into itself is the path of a cycle. -/
theorem Path.cyclePath (h : r.Path names) (hleads : r.Leads names name) (hold : name ∈ names) :
    r.CyclePath (names ++ [name]) where
  starts := head_append h.starts hleads
  links := links_append h.links hleads
  distinct := by
    rw [List.dropLast_concat]
    exact h.distinct
  closes := by
    refine ⟨name, by simp, ?_⟩
    rw [List.dropLast_concat]
    exact hold

/-! ## §2. Runs. -/

theorem store_inProgress (s : RenderState) (name : String) (result : Rendered) :
    (s.store name result).inProgress = s.inProgress := by
  unfold RenderState.store
  split <;> rfl

/-- While a layer is left the layers in progress are those below it. -/
theorem leaving_inProgress {s t : RenderState} {o : Except Halt Rendered}
    (hs : s.inProgress = names ++ [name]) (hnew : name ∉ names) (ht : t ∈ s.leaving name o) :
    t.inProgress = names := by
  have hleft : (s.leave name).inProgress = names := by
    show s.inProgress.erase name = names
    rw [hs]
    exact RenderState.erase_entered hnew
  cases o with
  | error halt =>
      obtain rfl := List.mem_singleton.1 ht
      exact hleft
  | ok result =>
      rcases List.mem_cons.1 ht with rfl | ht
      · exact hleft
      · obtain rfl := List.mem_singleton.1 ht
        rw [store_inProgress]
        exact hleft

theorem noted_entered_inProgress (r : Renderer) (name : String) (s : RenderState) :
    (r.noted name (s.entered name)).inProgress = s.inProgress ++ [name] := by
  rw [noted_inProgress]
  rfl

/-- Resolving a name leaves the layers in progress as they were. -/
theorem resolve_inProgress (r : Renderer) (depth : Nat) (name : String) (s : RenderState) :
    ((r.resolve depth name).outcome s).2.inProgress = s.inProgress := by
  obtain ⟨names, hgrown⟩ := r.resolve_grown depth name s
  exact hgrown.inProgress

theorem run_inProgress (r : Renderer) (depth : Nat) (p : Plan Rendered) (s : RenderState) :
    ((p.run (r.resolve depth)).outcome s).2.inProgress = s.inProgress := by
  obtain ⟨names, hgrown⟩ := Plan.run_grown (r.resolve_grown depth) p s
  exact hgrown.inProgress

variable (r)

/-- A moment of resolving a name is one of entering the layer, of its plan or of leaving it. -/
theorem mem_moments_succ {depth : Nat} {s t : RenderState}
    (h : t ∈ r.moments (depth + 1) name s) :
    name ∉ s.inProgress
      ∧ (t.inProgress = s.inProgress ++ [name]
        ∨ t ∈ (r.plan s.calls.toList name).moments (r.resolve depth) (r.moments depth)
            (r.noted name (s.entered name))
        ∨ t.inProgress = s.inProgress) := by
  unfold moments at h
  cases hc : s.cached name with
  | some result =>
      rw [hc] at h
      exact absurd h (by simp)
  | none =>
      rw [hc] at h
      dsimp only at h
      by_cases hp : name ∈ s.inProgress
      · rw [if_pos hp] at h
        exact absurd h (by simp)
      rw [if_neg hp] at h
      refine ⟨hp, ?_⟩
      have hran := (run_inProgress r depth (r.plan s.calls.toList name) _).trans
        (noted_entered_inProgress r name s)
      rcases List.mem_append.1 h with h | hleaving
      · rcases List.mem_append.1 h with h | hplan
        · left
          rcases List.mem_cons.1 h with rfl | h
          · rfl
          · obtain ⟨call, -, rfl⟩ := List.mem_map.1 h
            rfl
        · exact Or.inr (Or.inl hplan)
      · exact Or.inr (Or.inr (leaving_inProgress hran hp hleaving))

/-- **At every moment the layers in progress form a path**, if they did when the name was asked
for and led to it. -/
theorem resolve_path (hnone : r.getters = .none) (depth : Nat) :
    ∀ (name : String) (s : RenderState), r.Path s.inProgress → r.Leads s.inProgress name →
      ∀ t ∈ r.moments depth name s, r.Path t.inProgress := by
  induction depth with
  | zero =>
      intro name s _ _ t ht
      exact absurd ht (by simp [moments])
  | succ depth ih =>
      intro name s hpath hleads t ht
      obtain ⟨hnew, hentered | hplan | hleft⟩ := r.mem_moments_succ ht
      · rw [hentered]
        exact hpath.snoc hleads hnew
      · -- what the plan asks for is a reference of the layer that has been entered
        refine (r.plan_meets _ name).forall_moments
          (fun u => u.inProgress = s.inProgress ++ [name]) (fun u => r.Path u.inProgress)
          ?_ ?_ _ (noted_entered_inProgress r name s) t hplan
        · intro other u hu
          rw [resolve_inProgress, hu]
        · intro other hother u hu
          have hrefers := hother hnone
          apply ih other u
          · rw [hu]
            exact hpath.snoc hleads hnew
          · rw [hu]
            exact leads_append_singleton.2 hrefers
      · rw [hleft]
        exact hpath

/-- What makes a run stop that may follow references a number of layers deep: a path as long as
that, or a cycle, or an error of a layer. -/
def Cause (limit : Nat) : Halt → Prop
  | .tooDeep => ∃ names, r.Path names ∧ names.length = limit
  | .error (.cyclicDependence chain) => r.CyclePath chain
  | .error _ => True

theorem cause_of_isOwn {e : RenderError} (h : e.IsOwn) (limit : Nat) :
    r.Cause limit (.error e) := by
  unfold RenderError.IsOwn at h
  split at h
  · trivial
  · trivial
  · trivial
  · trivial
  · exact h.elim

/-- **A run that stops for a cycle or its depth has followed a path** to there. -/
theorem resolve_caused (hnone : r.getters = .none) (depth : Nat) :
    ∀ (name : String) (s : RenderState), r.Path s.inProgress → r.Leads s.inProgress name →
      ∀ halt, ((r.resolve depth name).outcome s).1 = .error halt →
        r.Cause (s.inProgress.length + depth) halt := by
  -- the layers in progress and the depth that is left make up the limit all along
  induction depth with
  | zero =>
      intro name s hpath _ halt hs
      obtain rfl := Except.error.inj hs
      exact ⟨s.inProgress, hpath, rfl⟩
  | succ depth ih =>
      intro name s hpath hleads halt hs
      rw [outcome_resolve] at hs
      cases hc : s.cached name with
      | some result =>
          rw [hc] at hs
          exact absurd hs (by simp)
      | none =>
          rw [hc] at hs
          dsimp only at hs
          by_cases hp : name ∈ s.inProgress
          · rw [if_pos hp] at hs
            obtain rfl := Except.error.inj hs
            exact hpath.cyclePath hleads hp
          · rw [if_neg hp] at hs
            have hlonger := hpath.snoc hleads hp
            refine (r.plan_meets _ name).halts (fun u => u.inProgress = s.inProgress ++ [name])
              ?_ ?_ (fun e he => r.cause_of_isOwn he _) _ (noted_entered_inProgress r name s)
              halt hs
            · intro other u hu
              rw [resolve_inProgress, hu]
            · intro other hother u hu stop hstop
              have hcause := ih other u (by rwa [hu])
                (by rw [hu]; exact leads_append_singleton.2 (hother hnone)) stop hstop
              have hlength : u.inProgress.length + depth
                  = s.inProgress.length + (depth + 1) := by
                rw [hu, List.length_append, List.length_singleton]
                omega
              rwa [hlength] at hcause

/-! ## §3. Renders. -/

/-- A fresh state has nothing in progress, which leads to the entry point. -/
theorem leads_fresh : r.Leads [] r.options.entryPoint := rfl

theorem renderMoments_path (hnone : r.getters = .none) (depth : Nat) :
    ∀ s ∈ r.renderMoments depth, r.Path s.inProgress := by
  intro s hs
  have hfresh : r.Path ({ fast := r.options.fast } : RenderState).inProgress := path_nil r
  unfold renderMoments at hs
  cases hrefusal : r.refusal? with
  | some e =>
      rw [hrefusal] at hs
      obtain rfl := List.mem_singleton.1 hs
      exact hfresh
  | none =>
      rw [hrefusal] at hs
      rcases List.mem_cons.1 hs with rfl | hs
      · exact hfresh
      · exact r.resolve_path hnone depth _ _ hfresh r.leads_fresh s hs

theorem renderWithin_caused (hnone : r.getters = .none) (depth : Nat) {halt : Halt}
    (h : (r.renderWithin depth).1 = .error halt) : r.Cause depth halt := by
  rw [renderWithin_eq] at h
  cases hrefusal : r.refusal? with
  | some e =>
      rw [hrefusal] at h
      obtain rfl := Except.error.inj h
      obtain ⟨reason, rfl⟩ | ⟨name, rfl⟩ := r.refused_of_refusal? hrefusal
      · trivial
      · trivial
  | none =>
      rw [hrefusal] at h
      have hcause := r.resolve_caused hnone depth _ _ (path_nil r) r.leads_fresh halt h
      rwa [List.length_nil, Nat.zero_add] at hcause

variable {r}

/-- **A reported chain runs into a cycle that the entry point reaches.** -/
theorem CyclePath.exists_cycle {chain : List String} (h : r.CyclePath chain) :
    ∃ name, Relation.ReflTransGen r.Refers r.options.entryPoint name
      ∧ Relation.TransGen r.Refers name name := by
  obtain ⟨name, hlast, hmem⟩ := h.closes
  have hchain : chain.dropLast ++ [name] = chain := List.dropLast_append_getLast? name hlast
  -- along the chain every name leads to all later ones
  have hlinks : chain.IsChain (Relation.TransGen r.Refers) :=
    h.links.imp fun _ _ hrefers => .single hrefers
  have hpairs := List.isChain_iff_pairwise.1 hlinks
  rw [← hchain, List.pairwise_append] at hpairs
  refine ⟨name, ?_, hpairs.2.2 name hmem name (by simp)⟩
  cases hfront : chain.dropLast with
  | nil =>
      rw [hfront] at hmem
      exact absurd hmem (by simp)
  | cons first rest =>
      have hstart := h.starts
      rw [← hchain, hfront] at hstart
      obtain rfl : first = r.options.entryPoint := Option.some.inj hstart
      rw [hfront] at hmem hpairs
      rcases List.mem_cons.1 hmem with rfl | hmem
      · exact .refl
      · exact ((List.pairwise_cons.1 hpairs.1).1 name hmem).to_reflTransGen

/-- **A reported cycle is a real path of the reference graph**: from the entry point along
references into a name on the way.  So where the entry point reaches no cycle none is reported.
At every moment of every run the layers in progress form such a path, and what is entered is the
entry point or a reference of the layer directly below it. -/
theorem cycles_are_paths (data : DataSource) (options : RenderOptions) (template : Option String)
    (depth : Nat) :
    let r := make data options template .none
    (∀ chain, (r.renderWithin depth).1 = .error (.error (.cyclicDependence chain)) →
        r.CyclePath chain)
      ∧ ((∀ name, Relation.ReflTransGen r.Refers options.entryPoint name →
            ¬ Relation.TransGen r.Refers name name) →
          ∀ chain, (r.renderWithin depth).1 ≠ .error (.error (.cyclicDependence chain)))
      ∧ (∀ s ∈ r.renderMoments depth, r.Path s.inProgress)
      ∧ ∀ s t, [s, t] <:+: r.renderMoments depth → ∀ name, s.enter name = .ok t →
          r.Leads s.inProgress name := by
  intro r
  have hcycle : ∀ chain, (r.renderWithin depth).1 = .error (.error (.cyclicDependence chain)) →
      r.CyclePath chain := fun chain h => r.renderWithin_caused rfl depth h
  have hpath := r.renderMoments_path rfl depth
  refine ⟨hcycle, ?_, hpath, ?_⟩
  · intro hacyclic chain h
    obtain ⟨name, hreach, hback⟩ := (hcycle chain h).exists_cycle
    exact hacyclic name hreach hback
  · intro s t hnext name henter
    obtain ⟨-, rfl⟩ := RenderState.enter_eq_ok_iff.1 henter
    have ht : s.entered name ∈ r.renderMoments depth := hnext.subset (by simp)
    exact (hpath _ ht).leads

/-- What stopped a computation, if it was stopped. -/
def stopOf {α : Type} : Except Halt α → Option Halt
  | .ok _ => none
  | .error halt => some halt

theorem eq_error_of_stopOf {α : Type} {o : Except Halt α} {halt : Halt}
    (h : stopOf o = some halt) : o = .error halt := by
  cases o with
  | ok a => exact absurd h (by simp [stopOf])
  | error other => exact congrArg Except.error (Option.some.inj h)

/-- Two layers that refer to each other, the second one behind a condition that holds. -/
def loopSource : DataSource :=
  .ordered
    [("start", .string "a\x7b\x7b=page\x7d\x7d"),
     ("page", .string "\x7b\x7bif name\x7d\x7d\x7b\x7b=start\x7d\x7d\x7b\x7bend\x7d\x7d"),
     ("name", .string "x")]

theorem cycles_are_paths_loopSource :
    ((make loopSource {} none .none).renderWithin 5).1
        = .error (.error (.cyclicDependence ["start", "page", "start"]))
      ∧ (make loopSource {} none .none).CyclePath ["start", "page", "start"] := by
  have hstop : stopOf ((make loopSource {} none .none).renderWithin 5).1
      = some (.error (.cyclicDependence ["start", "page", "start"])) := by decide +kernel
  have hcycle : ((make loopSource {} none .none).renderWithin 5).1
      = .error (.error (.cyclicDependence ["start", "page", "start"])) := eq_error_of_stopOf hstop
  exact ⟨hcycle, (cycles_are_paths loopSource {} none 5).1 _ hcycle⟩

end Renderer

end LayerTemplates
