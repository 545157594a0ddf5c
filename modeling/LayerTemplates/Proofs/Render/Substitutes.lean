/-
  LayerTemplates.Proofs.Render.Substitutes
  ────────────────────────────────────────
  A layer that is missing behaves like a layer that holds the substitute.

  What is missing amounts to nothing or to the substitute as it is; what holds null or a text is
  expanded.  The results may differ, but a walk makes nothing of a result except the text that is
  inserted and whether it counts as true.  So the plans of all layers are blind to the
  difference, and two renders that differ in it go side by side: they ask for the same names, keep
  results that look alike, and stop with the same errors.

  Main statements:
    * `DataSource.lookup_filled` — a source with values under names that it has no layer for.
    * `superficial_planWalk` — a layer makes of an answer its text and its truth only.
    * `Plan.run_matches` — a superficial plan ends the same with answers that look alike.
    * `planWalk_of_plain` — a text without placeholders is written as it is.
    * `resolve_matches` — renderers that plan alike resolve every name alike.
    * `missing_like_present` — what this means for missing layers.
-/
import LayerTemplates.Proofs.Render.Relevance

namespace LayerTemplates

/-! ## §1. Sources with more layers. -/

/-- A name that the source has no layer for becomes its last key, for there is none to take the
value. -/
theorem PatternSource.insert_of_lookup_eq_none {source : PatternSource} {name : String}
    (hmissing : source.lookup name = none) (value : Value) :
    (source.insert (.exact name) value).items = source.items ++ [(.exact name, value)] := by
  have hrefused : ∀ item ∈ source.items, item.1.accepts name = false := by
    unfold lookup at hmissing
    rw [Option.map_eq_none_iff, List.find?_eq_none] at hmissing
    exact fun item hitem => Bool.eq_false_iff.2 (hmissing item hitem)
  -- a key that is the same would match the name
  show insert.go (.exact name) value source.items = _
  generalize source.items = items at hrefused
  induction items with
  | nil => rfl
  | cons item rest ih =>
      have hother : item.1.same (.exact name) = false := by
        rcases item with ⟨key | p, held⟩
        · exact hrefused _ List.mem_cons_self
        · rfl
      rw [insert.go, hother, if_neg Bool.false_ne_true,
        ih fun later hlater => hrefused later (List.mem_cons_of_mem _ hlater)]
      rfl

namespace DataSource

/-- The source with a value under an exact name. -/
def insert (source : DataSource) (name : String) (value : Value) : DataSource :=
  match source with
  | .ordered fields => .ordered (setKey fields name value)
  | .unordered fields => .unordered (setKey fields name value)
  | .patterns source => .patterns (source.insert (.exact name) value)

/-- The source with the same value under each of some names. -/
def filled (source : DataSource) (names : List String) (value : Value) : DataSource :=
  names.foldl (fun source name => source.insert name value) source

/-- Inserting under a name that has no layer gives it one, and no other name. -/
theorem lookup_insert {source : DataSource} {name : String} (hmissing : source.lookup name = none)
    (value : Value) (other : String) :
    (source.insert name value).lookup other
      = if other = name then some ⟨name, value⟩ else source.lookup other := by
  cases source with
  | ordered fields | unordered fields =>
      show (List.lookup other (setKey fields name value)).map _ = _
      rw [lookup_setKey]
      by_cases hother : other = name
      · rw [if_pos hother, if_pos hother, hother]
        rfl
      · rw [if_neg hother, if_neg hother]
        rfl
  | patterns source =>
      show ((source.insert (.exact name) value).items.find? _).map _ = _
      rw [PatternSource.insert_of_lookup_eq_none hmissing, List.find?_append]
      by_cases hother : other = name
      · rw [if_pos hother, hother, Option.map_eq_none_iff.1 hmissing]
        simp [LayerKey.accepts, LayerKey.text]
      · rw [if_neg hother]
        have hkey : (LayerKey.exact name).accepts other = false :=
          beq_false_of_ne (Ne.symm hother)
        rw [List.find?_cons, hkey, List.find?_nil, Option.or_none]
        rfl

/-- **A source that is filled** has the value under the names, which had no layers before, and
what it had under every other name. -/
theorem lookup_filled {names : List String} (value : Value) (hnames : names.Nodup) :
    ∀ {source : DataSource}, (∀ name ∈ names, source.lookup name = none) → ∀ other,
      (source.filled names value).lookup other
        = if other ∈ names then some ⟨other, value⟩ else source.lookup other := by
  induction names with
  | nil =>
      intro source _ other
      rw [if_neg List.not_mem_nil]
      rfl
  | cons name names ih =>
      intro source hmissing other
      obtain ⟨hnew, hrest⟩ := List.nodup_cons.1 hnames
      have hinsert := lookup_insert (hmissing name List.mem_cons_self) value
      have hmissing' : ∀ later ∈ names, (source.insert name value).lookup later = none := by
        intro later hlater
        have hne : later ≠ name := fun heq => hnew (heq ▸ hlater)
        rw [hinsert, if_neg hne]
        exact hmissing later (List.mem_cons_of_mem _ hlater)
      show ((source.insert name value).filled names value).lookup other = _
      rw [ih hrest hmissing', hinsert]
      by_cases hother : other = name
      · subst hother
        rw [if_neg hnew, if_pos rfl, if_pos List.mem_cons_self]
      · simp only [List.mem_cons, hother, false_or, if_false]

end DataSource

/-! ## §2. Results that look alike. -/

/-- Results that are inserted as the same text and count alike in conditionals. -/
structure Rendered.LooksLike (a b : Rendered) : Prop where
  toText : a.toText = b.toText
  isTruthy : a.isTruthy = b.isTruthy

theorem Rendered.LooksLike.refl (a : Rendered) : a.LooksLike a := ⟨rfl, rfl⟩

/-- Nothing looks like null. -/
theorem Rendered.absent_looksLike_null : Rendered.absent.LooksLike (.data .null) := ⟨rfl, rfl⟩

/-- A plan that goes on alike after answers that look alike. -/
inductive Plan.Superficial {α : Type} : Plan α → Prop
  | done (result : α) : Superficial (.done result)
  | stop (e : RenderError) : Superficial (.stop e)
  | ask (name : String) {next : Rendered → Plan α}
      (same : ∀ a b : Rendered, a.LooksLike b → next a = next b)
      (goesOn : ∀ a, (next a).Superficial) : Superficial (.ask name next)

namespace Plan

variable {α β : Type}

/-- Plans that make the same of answers that look alike still do so one after the other. -/
theorem Superficial.bind {p : Plan α} {f : α → Plan β} (h : p.Superficial)
    (hf : ∀ a, (f a).Superficial) : (p >>= f).Superficial := by
  induction h with
  | done a => exact hf a
  | stop e => exact .stop e
  | ask name same goesOn ih =>
      exact .ask name (fun a b hab => congrArg (Plan.bind · f) (same a b hab)) ih

theorem superficial_ofExcept (e : Except RenderError α) : (ofExcept e).Superficial := by
  cases e with
  | ok a => exact .done a
  | error e => exact .stop e

/-- What is asked for to see its text or its truth only is asked superficially. -/
theorem superficial_query {f : Rendered → Plan α} (name : String)
    (same : ∀ a b : Rendered, a.LooksLike b → f a = f b) (goesOn : ∀ a, (f a).Superficial) :
    (query name >>= f).Superficial :=
  .ask name same goesOn

/-- A plan for a list is superficial if it is so for every element. -/
theorem superficial_foldlM {ι : Type} {f : β → ι → Plan β} (h : ∀ b i, (f b i).Superficial) :
    ∀ (l : List ι) (b : β), (l.foldlM f b).Superficial := by
  intro l
  induction l with
  | nil => exact fun b => .done b
  | cons i l ih =>
      intro b
      rw [List.foldlM_cons]
      exact (h b i).bind ih

end Plan

section Layer

variable (layer : ParsedLayer) (text : String)

/-- A placeholder makes text of an answer or asks whether it counts as true, and nothing else. -/
theorem superficial_planDirective (w : WalkState) (p : Placeholder) (d : Directive) :
    (planDirective layer text w p d).Superficial := by
  unfold planDirective
  refine (Plan.superficial_ofExcept _).bind fun _ => ?_
  cases d.operator with
  | insert =>
      dsimp only
      split
      · refine (Plan.superficial_ofExcept _).bind fun name => ?_
        refine Plan.superficial_query name (fun a b hab => ?_) fun a => .done _
        rw [hab.toText]
      · exact .done w
  | ifTrue | ifFalse =>
      dsimp only
      split
      · refine (Plan.superficial_ofExcept _).bind fun name => ?_
        refine Plan.superficial_query name (fun a b hab => ?_) fun a => .done _
        unfold takesFirst
        rw [hab.isTruthy]
      · exact .done _
  | otherwise => exact (Plan.superficial_ofExcept _).bind fun stack => .done _
  | endBlock => exact (Plan.superficial_ofExcept _).bind fun closed => .done _
  | comment => exact .done w

theorem superficial_planSegment (w : WalkState) (segment : Segment) :
    (planSegment layer text w segment).Superficial := by
  cases segment with
  | text id => exact .done _
  | placeholder p =>
      unfold planSegment
      dsimp only
      cases p.directive with
      | none => exact .done w
      | some d => exact superficial_planDirective layer text w p d

/-- **A layer makes of an answer its text and its truth only.** -/
theorem superficial_planWalk : (planWalk layer text).Superficial :=
  (Plan.superficial_foldlM (superficial_planSegment layer text) _ _).bind fun _ =>
    (Plan.superficial_ofExcept _).bind fun _ => .done _

end Layer

/-! ## §3. Runs side by side. -/

/-- Two runs end with related results or with the same halt. -/
inductive Ends {α : Type} (rel : α → α → Prop) : Except Halt α → Except Halt α → Prop
  | ok {a b : α} (related : rel a b) : Ends rel (.ok a) (.ok b)
  | error (halt : Halt) : Ends rel (.error halt) (.error halt)

/-- Runs that end alike in one sense end alike in a weaker one. -/
theorem Ends.mono {α : Type} {rel more : α → α → Prop} {x y : Except Halt α} (h : Ends rel x y)
    (himp : ∀ a b, rel a b → more a b) : Ends more x y := by
  cases h with
  | ok related => exact .ok (himp _ _ related)
  | error halt => exact .error halt

theorem Ends.eq {α : Type} {x y : Except Halt α} (h : Ends Eq x y) : y = x := by
  cases h with
  | ok related => rw [related]
  | error halt => rfl

/-- Two states that differ in the looks of the results that they keep at most. -/
structure RenderState.LooksLike (s t : RenderState) : Prop where
  fast : t.fast = s.fast
  inProgress : t.inProgress = s.inProgress
  visited : t.visited = s.visited
  cached : ∀ name, Option.Rel Rendered.LooksLike (s.cached name) (t.cached name)

namespace RenderState

variable {s t : RenderState}

theorem looksLike_fresh (fast : Bool) : LooksLike { fast } { fast } where
  fast := rfl
  inProgress := rfl
  visited := rfl
  cached _ := .none

/-- Entering a layer does not look at results. -/
theorem LooksLike.entered (h : s.LooksLike t) (name : String) :
    (s.entered name).LooksLike (t.entered name) where
  fast := h.fast
  inProgress := congrArg (· ++ [name]) h.inProgress
  visited := congrArg (·.push name) h.visited
  cached := h.cached

/-- Leaving one does not look at them either. -/
theorem LooksLike.leave (h : s.LooksLike t) (name : String) :
    (s.leave name).LooksLike (t.leave name) where
  fast := h.fast
  inProgress := congrArg (·.erase name) h.inProgress
  visited := h.visited
  cached := h.cached

/-- A result that is kept looks like the one that is kept on the other side. -/
theorem LooksLike.store (h : s.LooksLike t) (name : String) {a b : Rendered}
    (hab : a.LooksLike b) : (s.store name a).LooksLike (t.store name b) := by
  unfold RenderState.store
  rw [h.fast]
  by_cases hkeeps : s.fast = true
  · rw [if_pos hkeeps, if_pos hkeeps]
    refine ⟨rfl, h.inProgress, h.visited, fun other => ?_⟩
    show Option.Rel _ (List.lookup other ((name, a) :: s.cache))
      (List.lookup other ((name, b) :: t.cache))
    rw [List.lookup_cons, List.lookup_cons]
    split
    · exact .some hab
    · exact h.cached other
  · rw [if_neg hkeeps, if_neg hkeeps]
    exact h

/-- A layer that ends alike on both sides is left alike. -/
theorem LooksLike.left (h : s.LooksLike t) (name : String) {o o' : Except Halt Rendered}
    (ho : Ends Rendered.LooksLike o o') : (s.left name o).LooksLike (t.left name o') := by
  cases ho with
  | ok related => exact (h.leave name).store name related
  | error halt => exact h.leave name

end RenderState

/-- Two runs end alike, and leave states that look alike. -/
structure Matches {α : Type} (rel : α → α → Prop) (x y : Except Halt α × RenderState) : Prop where
  outcome : Ends rel x.1 y.1
  state : x.2.LooksLike y.2

/-- **A superficial plan ends the same** with resolvers whose answers look alike. -/
theorem Plan.run_matches {α : Type} {resolve resolve' : String → Run RenderState Rendered}
    (h : ∀ name s t, s.LooksLike t →
      Matches Rendered.LooksLike ((resolve name).outcome s) ((resolve' name).outcome t))
    {p : Plan α} (hp : p.Superficial) :
    ∀ s t, s.LooksLike t → Matches Eq ((p.run resolve).outcome s) ((p.run resolve').outcome t) := by
  induction hp with
  | done a => exact fun s t hst => ⟨.ok rfl, hst⟩
  | stop e => exact fun s t hst => ⟨.error _, hst⟩
  | @ask name next same goesOn ih =>
      intro s t hst
      rw [outcome_ask, outcome_ask]
      have hanswer := h name s t hst
      rcases ha : (resolve name).outcome s with ⟨o, s'⟩
      rcases hb : (resolve' name).outcome t with ⟨o', t'⟩
      rw [ha, hb] at hanswer
      obtain ⟨hends, hstate⟩ := hanswer
      cases hends with
      | error halt => exact ⟨.error halt, hstate⟩
      | @ok a b related =>
          have hnext := ih a s' t' hstate
          dsimp only
          rw [← same a b related]
          exact hnext

/-! ## §4. Renderers side by side. -/

namespace Renderer

variable {r r' : Renderer}

/-- Without getters all that a name plans is superficial: its text is that of the source. -/
theorem superficial_plan (hnone : r.getters = .none) (previous : List CallRecord)
    (name : String) : (r.plan previous name).Superficial := by
  rw [plan_eq hnone]
  split
  · exact .done _
  · exact (Plan.superficial_ofExcept _).bind fun layer => superficial_planWalk layer _
  · exact .done _

/-- Both renderers plan the same for a name, or results at once that look alike. -/
inductive PlansLike (r r' : Renderer) (name : String) : Prop
  | same (plan : ∀ previous, r'.plan previous name = r.plan previous name)
  | results {a b : Rendered} (plan : ∀ previous, r.plan previous name = .done a)
      (plan' : ∀ previous, r'.plan previous name = .done b) (looksLike : a.LooksLike b)

/-- Plans that are alike end alike. -/
theorem PlansLike.run_matches {name : String} (h : r.PlansLike r' name)
    (hnone : r.getters = .none) {resolve resolve' : String → Run RenderState Rendered}
    (hresolve : ∀ name s t, s.LooksLike t →
      Matches Rendered.LooksLike ((resolve name).outcome s) ((resolve' name).outcome t))
    (previous previous' : List CallRecord) {s t : RenderState} (hst : s.LooksLike t) :
    Matches Rendered.LooksLike (((r.plan previous name).run resolve).outcome s)
      (((r'.plan previous' name).run resolve').outcome t) := by
  cases h with
  | same plan =>
      have hrun := Plan.run_matches hresolve (superficial_plan hnone previous name) s t hst
      rw [plan, plan_eq hnone previous', ← plan_eq hnone previous]
      exact ⟨hrun.outcome.mono fun a b hab => hab ▸ .refl a, hrun.state⟩
  | results plan plan' looksLike =>
      rw [plan, plan']
      exact ⟨.ok looksLike, hst⟩

/-- Without getters there is no call to note. -/
theorem noted_of_none (hnone : r.getters = .none) (name : String) (s : RenderState) :
    r.noted name s = s := r.noted_eq_self (callOf?_eq_none hnone name) s

/-- **Renderers that plan alike resolve every name alike.** -/
theorem resolve_matches (hnone : r.getters = .none) (hnone' : r'.getters = .none)
    (hplans : ∀ name, r.PlansLike r' name) (depth : Nat) :
    ∀ name s t, s.LooksLike t →
      Matches Rendered.LooksLike ((r.resolve depth name).outcome s)
        ((r'.resolve depth name).outcome t) := by
  -- on the depth; what is kept looks alike, and so does what the plans come to
  induction depth with
  | zero => exact fun name s t hst => ⟨.error _, hst⟩
  | succ depth ih =>
      intro name s t hst
      rw [outcome_resolve, outcome_resolve, noted_of_none hnone, noted_of_none hnone']
      have hkept := hst.cached name
      cases hs : s.cached name with
      | some a =>
          rw [hs] at hkept
          cases ht : t.cached name with
          | none =>
              rw [ht] at hkept
              nomatch hkept
          | some b =>
              rw [ht] at hkept
              cases hkept with
              | some related => exact ⟨.ok related, hst⟩
      | none =>
          rw [hs] at hkept
          cases ht : t.cached name with
          | some b =>
              rw [ht] at hkept
              nomatch hkept
          | none =>
              dsimp only
              rw [hst.inProgress]
              by_cases hp : name ∈ s.inProgress
              · rw [if_pos hp, if_pos hp]
                exact ⟨.error _, hst⟩
              · rw [if_neg hp, if_neg hp]
                have hrun := (hplans name).run_matches hnone ih s.calls.toList t.calls.toList
                  (hst.entered name)
                exact ⟨hrun.outcome, hrun.state.left name hrun.outcome⟩

/-- A name for which both plan the same comes to the same, if nothing is kept or in progress. -/
theorem resolve_matches_same (hnone : r.getters = .none) (hnone' : r'.getters = .none)
    (hplans : ∀ name, r.PlansLike r' name) {name : String}
    (hplan : ∀ previous, r'.plan previous name = r.plan previous name) (depth : Nat) (fast : Bool) :
    Matches Eq ((r.resolve depth name).outcome { fast })
      ((r'.resolve depth name).outcome { fast }) := by
  cases depth with
  | zero => exact ⟨.error _, RenderState.looksLike_fresh fast⟩
  | succ depth =>
      have hkept : RenderState.cached { fast } name = none := rfl
      have hfree : name ∉ RenderState.inProgress { fast } := List.not_mem_nil
      have hstart := (RenderState.looksLike_fresh fast).entered name
      have hrun := Plan.run_matches (resolve_matches hnone hnone' hplans depth)
        (superficial_plan hnone [] name) _ _ hstart
      rw [outcome_resolve, outcome_resolve, hkept, noted_of_none hnone, noted_of_none hnone', hplan]
      dsimp only
      rw [if_neg hfree, if_neg hfree]
      exact ⟨hrun.outcome, hrun.state.left name (hrun.outcome.mono fun a b hab => hab ▸ .refl a)⟩

/-- **Renderers that plan alike render alike**, if they plan the same for the entry point. -/
theorem render_of_plansLike (hnone : r.getters = .none) (hnone' : r'.getters = .none)
    (hoptions : r'.options = r.options) (hplans : ∀ name, r.PlansLike r' name)
    (hentry : r.data.SameAt r'.data r.options.entryPoint) :
    r'.render.1 = r.render.1 ∧ r'.render.2.visited = r.render.2.visited := by
  have hmatches : Matches Eq (r.renderWithin r.depthLimit) (r'.renderWithin r.depthLimit) := by
    rw [renderWithin_eq, renderWithin_eq, refusal?_congr hoptions hentry, hoptions]
    cases r.refusal? with
    | some e => exact ⟨.error _, RenderState.looksLike_fresh _⟩
    | none =>
        have hsame := agreesAt_of_sameAt hnone hnone' hoptions hentry
        exact resolve_matches_same hnone hnone' hplans hsame.plan _ _
  have hends : (r'.renderWithin r.depthLimit).1 ≠ .error .tooDeep := by
    rw [hmatches.outcome.eq]
    exact render_ne_tooDeep hnone
  have hlimit : r'.render = r'.renderWithin r.depthLimit :=
    renderWithin_agree (render_ne_tooDeep hnone') hends
  rw [hlimit]
  exact ⟨hmatches.outcome.eq, hmatches.state.visited⟩

end Renderer

/-! ## §5. Texts without placeholders. -/

/-- A text in which the opening tag does not occur is accepted as one piece. -/
theorem parse_of_plain (name : String) {text : String} {tags : Tags}
    (hplain : ¬ tags.openTag.toList <:+: text.toList) :
    ∃ layer, ParsedLayer.parse name text tags = .ok layer
      ∧ layer.arena = (pushText {} text.toList 0).1
      ∧ layer.segments = (pushText {} text.toList 0).2 := by
  have havoids : Avoids tags.openTag.toList text.toList [] := by
    intro before after heq _ hprefix
    rw [List.append_nil] at hprefix
    refine hplain (heq ▸ ?_)
    exact hprefix.isInfix.trans (List.suffix_append before after).isInfix
  have hbreak : breakAt tags.openTag.toList text.toList = (text.toList, []) := by
    have hwhole := breakAt_eq havoids (Or.inl rfl)
    rwa [List.append_nil] at hwhole
  have hscan : scan text tags
      = { arena := (pushText {} text.toList 0).1, segments := (pushText {} text.toList 0).2 } := by
    unfold scan scanFrom
    rw [hbreak]
  unfold ParsedLayer.parse
  rw [hscan]
  unfold pushText
  split <;> exact ⟨_, rfl, rfl, rfl⟩

/-- **A text without placeholders is written as it is.** -/
theorem planWalk_of_plain {layer : ParsedLayer} {text : String}
    (harena : layer.arena = (pushText {} text.toList 0).1)
    (hsegments : layer.segments = (pushText {} text.toList 0).2) :
    planWalk layer text = .done (.text text) := by
  unfold planWalk
  rw [hsegments]
  by_cases hempty : text.toList = []
  · rw [String.toList_eq_nil_iff.1 hempty]
    rfl
  · have hpush : pushText {} text.toList 0
        = (({} : Arena).alloc (Lexeme.ofText text ⟨0, byteCount text.toList⟩), [.text 0]) := by
      unfold pushText
      rw [if_neg (by simpa using hempty), String.ofList_toList, Nat.zero_add]
      rfl
    rw [hpush] at harena ⊢
    have hvalue : (layer.arena.get 0).value = text := by
      rw [harena]
      rfl
    show Plan.done (Rendered.text ("" ++ (layer.arena.get 0).value)) = _
    rw [hvalue, String.empty_append]

/-! ## §6. Missing layers. -/

namespace Renderer

variable {r r' : Renderer}

/-- A template makes a difference to the entry point only. -/
theorem lookup_make_of_ne {options : RenderOptions} {name : String}
    (hname : name ≠ options.entryPoint) (data : DataSource) (template : Option String)
    (getters : GetterSet) :
    (make data options template getters).data.lookup name = data.lookup name := by
  unfold make Layered.lookup
  cases template with
  | none => rfl
  | some text => exact if_neg hname.symm

/-- What is missing plans to give the substitute. -/
theorem plan_of_missing {name : String} (hmissing : r.data.lookup name = none)
    (previous : List CallRecord) : r.plan previous name = .done r.substitute := by
  unfold plan
  rw [hmissing]

/-- A missing layer plans what one plans that holds the substitute, or its result looks alike. -/
theorem plansLike_of_missing {name : String} (hnone : r'.getters = .none)
    (hoptions : r'.options = r.options) (hmissing : r.data.lookup name = none)
    (hpresent : r'.data.lookup name = some ⟨name, r.options.missing.getD .null⟩)
    (hplain : ∀ text, r.options.missing = some (.string text) →
      ¬ r.options.tags.openTag.toList <:+: text.toList) : r.PlansLike r' name := by
  have hplan := plan_of_missing hmissing
  have hplan' := fun previous => plan_eq hnone previous name
  unfold substitute at hplan
  rw [hpresent, Option.map_some] at hplan'
  cases hvalue : r.options.missing with
  | none =>
      rw [hvalue] at hplan hplan'
      exact .results hplan hplan' Rendered.absent_looksLike_null
  | some value =>
      rw [hvalue] at hplan hplan'
      refine .same fun previous => Eq.trans ?_ (hplan previous).symm
      cases value with
      | string text =>
          obtain ⟨layer, hparse, harena, hsegments⟩ := parse_of_plain name (hplain text hvalue)
          have hok : r'.parse name text = .ok layer := by
            unfold parse
            rw [hoptions, hparse]
          rw [hplan']
          dsimp only [Option.getD_some]
          rw [hok]
          exact planWalk_of_plain harena hsegments
      | null | bool _ | number _ | array _ | object _ => exact hplan' previous

/-- **A missing layer behaves like a present one that holds the substitute.**  Where names have
no layer, a render ends the same and enters the same names, in the same order, as one of the
source with null under these names, or with the substitute if there is one, unless it is a text
with a placeholder.  It makes no difference what kind the source has, and whether results are
kept. -/
theorem missing_like_present (source : DataSource) (template : Option String)
    (options : RenderOptions) (names : List String) (hnames : names.Nodup)
    (hmissing : ∀ name ∈ names, source.lookup name = none) (hentry : options.entryPoint ∉ names)
    (hplain : ∀ text, options.missing = some (.string text) →
      ¬ options.tags.openTag.toList <:+: text.toList) :
    let present := source.filled names (options.missing.getD .null)
    let render := (make source options template .none).render
    let render' := (make present options template .none).render
    render'.1 = render.1 ∧ render'.2.visited = render.2.visited := by
  intro present render render'
  have hlookup := DataSource.lookup_filled (options.missing.getD .null) hnames hmissing
  have hsame : ∀ name, name ∉ names →
      (make source options template .none).data.SameAt
        (make present options template .none).data name := by
    intro name hname
    have hinner : present.lookup name = source.lookup name := by
      rw [hlookup, if_neg hname]
    unfold Layered.SameAt Layered.lookup make
    dsimp only
    rw [hinner]
  refine render_of_plansLike rfl rfl rfl (fun name => ?_) (hsame _ hentry)
  -- the names with a new layer plan alike, all others plan the same
  by_cases hname : name ∈ names
  · have hne : name ≠ options.entryPoint := fun heq => hentry (heq ▸ hname)
    refine plansLike_of_missing rfl rfl ?_ ?_ hplain
    · rw [lookup_make_of_ne hne]
      exact hmissing name hname
    · rw [lookup_make_of_ne hne, hlookup, if_pos hname]
      rfl
  · have hoptions : (make present options template .none).options
        = (make source options template .none).options := rfl
    have hagrees := agreesAt_of_sameAt rfl rfl hoptions (hsame name hname)
    exact .same hagrees.plan

/-- A layer that refers to two names in vain. -/
def sparseSource : DataSource :=
  .ordered [("start", .string "\x7b\x7bif title\x7d\x7d\x7b\x7b=notes\x7d\x7d\x7b\x7bend\x7d\x7d")]

/-- Options by which a text without a placeholder takes the place of missing layers. -/
def dashed : RenderOptions := { fast := true, missing := some (.string "-") }

theorem missing_like_present_sparseSource :
    let present := sparseSource.filled ["title", "notes"] (.string "-")
    ¬ dashed.tags.openTag.toList <:+: "-".toList
      ∧ (make present dashed none .none).render.1 = (make sparseSource dashed none .none).render.1
      ∧ (make present dashed none .none).render.2.visited
          = (make sparseSource dashed none .none).render.2.visited := by
  have hdash : ¬ dashed.tags.openTag.toList <:+: "-".toList := by decide
  have hmissing : ∀ name ∈ ["title", "notes"], sparseSource.lookup name = none := by
    intro name hname
    rcases List.mem_cons.1 hname with rfl | hlast
    · rfl
    · rw [List.mem_singleton.1 hlast]
      rfl
  have hplain : ∀ text, dashed.missing = some (.string text) →
      ¬ dashed.tags.openTag.toList <:+: text.toList := by
    intro text htext
    obtain rfl : "-" = text := Value.string.inj (Option.some.inj htext)
    exact hdash
  have hsubstitute : dashed.missing.getD .null = .string "-" := rfl
  have hsame := missing_like_present sparseSource none dashed ["title", "notes"] (by decide)
    hmissing (by decide) hplain
  rw [hsubstitute] at hsame
  exact ⟨hdash, hsame⟩

end Renderer

end LayerTemplates
