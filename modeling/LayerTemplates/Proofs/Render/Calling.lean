/-
  LayerTemplates.Proofs.Render.Calling
  ────────────────────────────────────
  When getters are called, which one, and with what.

  A getter is called when a layer is entered that has a text and a getter in charge of it, and
  only then.  So the calls of a run can be read off the layers it enters, one call for each of
  these, and a call knows the text of the source and nothing of what becomes of it.  What the
  getter gives is parsed and walked in place of that text, or it is an error, and then the run
  is over: no layer is entered afterwards, so no getter is called.  What it gives may depend on
  the calls before, so a refusal is told by the place of its call and not by the call.

  Main statements:
    * `GetterSet.find_eq_some_iff` — the getter in charge of a name.
    * `Renderer.outcome_expand_call` — what expanding a layer makes of the answer of its getter.
    * `Renderer.resolve_heeded` — a run heeds the first refusal of a getter.
    * `Renderer.getters_called` — all of it, for whole renders.
-/
import LayerTemplates.Proofs.Render.Displaying
import LayerTemplates.Proofs.Render.Restoring

namespace LayerTemplates

/-! ## §1. The getter in charge. -/

/-- The getter of a set that is in charge of a name: the one for every layer, or the first one
whose key matches. -/
inductive GetterSet.Chooses (name : String) : GetterSet → Getter → Prop
  | single (getter : Getter) : Chooses name (.single getter) getter
  | keyed {before after : List (LayerKey × Getter)} {key : LayerKey} {getter : Getter}
      (skipped : ∀ item ∈ before, item.1.accepts name = false)
      (accepted : key.accepts name = true) :
      Chooses name (.keyed (before ++ (key, getter) :: after)) getter

/-- **The getter in charge of a name** is the one that is found. -/
theorem GetterSet.find_eq_some_iff {s : GetterSet} {name : String} {getter : Getter} :
    s.find name = some getter ↔ s.Chooses name getter := by
  constructor
  · intro h
    cases s with
    | none => exact absurd h (by simp [find])
    | single other =>
        obtain rfl := Option.some.inj h
        exact .single other
    | keyed getters =>
        obtain ⟨⟨key, found⟩, hfound, rfl⟩ := Option.map_eq_some_iff.1 h
        obtain ⟨haccepted, before, after, rfl, hskipped⟩ := List.find?_eq_some_iff_append.1 hfound
        refine .keyed ?_ haccepted
        intro item hitem
        simpa using hskipped item hitem
  · intro h
    cases h with
    | single => rfl
    | @keyed before after key _ skipped accepted =>
        have hfound : (before ++ (key, getter) :: after).find? (fun item => item.1.accepts name)
            = some (key, getter) := by
          refine List.find?_eq_some_iff_append.2 ⟨accepted, before, after, rfl, ?_⟩
          intro item hitem
          simp [skipped item hitem]
        show Option.map Prod.snd _ = some getter
        rw [hfound]
        rfl

/-! ## §2. Calls. -/

namespace Renderer

variable (r : Renderer)

/-- What the getter in charge answers to a call, in view of the calls made before. -/
def answer? (previous : List CallRecord) (call : CallRecord) :
    Option (Except (List String) String) :=
  (r.getters.find call.name).map fun getter =>
    getter (r.callFor previous ⟨call.key, .string call.value⟩ call.name call.value)

variable {r} {name : String} {call : CallRecord}

/-- **What is called, and for what**: a layer that has a text and a getter in charge of it, with
the key under which it was found, its name and that text. -/
theorem callOf?_eq_some_iff :
    r.callOf? name = some call
      ↔ call.name = name ∧ r.data.lookup name = some ⟨call.key, .string call.value⟩
        ∧ ∃ getter, r.getters.Chooses name getter := by
  simp only [← GetterSet.find_eq_some_iff]
  unfold callOf?
  constructor
  · intro h
    split at h
    · next key value getter hlookup hfind =>
        obtain rfl := Option.some.inj h
        exact ⟨rfl, hlookup, getter, hfind⟩
    · exact absurd h (by simp)
  · rintro ⟨rfl, hlookup, getter, hfind⟩
    rw [hlookup, hfind]

/-- A call that a name takes is answered by the getter in charge. -/
theorem answer?_of_callOf? (h : r.callOf? name = some call) (previous : List CallRecord) :
    ∃ getter, r.getters.Chooses name getter
      ∧ r.answer? previous call
        = some (getter (r.callFor previous ⟨call.key, .string call.value⟩ name call.value)) := by
  obtain ⟨rfl, -, getter, hgetter⟩ := callOf?_eq_some_iff.1 h
  refine ⟨getter, hgetter, ?_⟩
  unfold answer?
  rw [GetterSet.find_eq_some_iff.2 hgetter]
  rfl

/-- What a name plans that takes a call depends on the answer. -/
theorem plan_of_callOf? (h : r.callOf? name = some call) (previous : List CallRecord) :
    r.plan previous name
      = match r.answer? previous call with
        | some (.ok text) => Plan.ofExcept (r.parse name text) >>= fun layer => planWalk layer text
        | some (.error messages) => .stop (.getterFailed name messages)
        | none => .done r.substitute := by
  obtain ⟨rfl, hlookup, getter, hgetter⟩ := callOf?_eq_some_iff.1 h
  have hfind := GetterSet.find_eq_some_iff.2 hgetter
  unfold plan answer? planText
  rw [hlookup, hfind]
  dsimp only [Option.map_some]
  rcases getter (r.callFor previous ⟨call.key, .string call.value⟩ call.name call.value)
    with messages | text <;> rfl

/-- **What expanding a layer makes of the answer of its getter**: the call is noted, and the text
that it answers is parsed and walked, or its messages are the error. -/
theorem outcome_expand_call (resolve : String → Run RenderState Rendered)
    (h : r.callOf? name = some call) (s : RenderState) :
    ∃ getter, r.getters.Chooses name getter ∧ (r.expand resolve name).outcome s
      = match getter (r.callFor s.calls.toList ⟨call.key, .string call.value⟩ name call.value) with
        | .ok text =>
            (Run.ofExcept (r.parse name text) >>= fun layer =>
              walk layer text resolve).outcome (s.noteCall call)
        | .error messages => (.error (.error (.getterFailed name messages)), s.noteCall call) := by
  obtain ⟨getter, hgetter, hanswer⟩ := answer?_of_callOf? h s.calls.toList
  refine ⟨getter, hgetter, ?_⟩
  rw [outcome_expand, plan_of_callOf? h, hanswer, r.noted_of_callOf? h]
  rcases getter (r.callFor s.calls.toList ⟨call.key, .string call.value⟩ name call.value)
    with messages | text
  · rfl
  · simp only [Plan.run_bind, Plan.run_ofExcept, run_planWalk]

/-! ## §3. Refusals. -/

/-- What came of further calls after those made before: each was answered with a text, or one was
refused, and then it was the last one, and its messages stopped the run. -/
inductive Heeded (r : Renderer) : List CallRecord → List CallRecord → Option Halt → Prop
  | nil (previous : List CallRecord) (stop : Option Halt) : Heeded r previous [] stop
  | answered {previous later : List CallRecord} {call : CallRecord} {text : String}
      {stop : Option Halt} (answer : r.answer? previous call = some (.ok text))
      (rest : Heeded r (previous ++ [call]) later stop) : Heeded r previous (call :: later) stop
  | refused {previous : List CallRecord} {call : CallRecord} {messages : List String}
      (refusal : r.answer? previous call = some (.error messages)) :
      Heeded r previous [call] (some (.error (.getterFailed call.name messages)))

/-- After calls that were answered with texts a run goes on. -/
theorem Heeded.append {previous calls more : List CallRecord} {stop : Option Halt}
    (h : Heeded r previous calls none) (h' : Heeded r (previous ++ calls) more stop) :
    Heeded r previous (calls ++ more) stop := by
  generalize hgoesOn : (none : Option Halt) = halt at h
  induction h with
  | nil previous halt => simpa using h'
  | answered answer _ ih => exact .answered answer (ih (by simpa using h') hgoesOn)
  | refused => exact absurd hgoesOn (by simp)

/-- **A refusal is heeded**: it is the last call, and what stops the run.  The call is found by its
place, since another one like it may have been answered. -/
theorem Heeded.last {before after : List CallRecord} {stop : Option Halt} {messages : List String} :
    ∀ {previous : List CallRecord}, Heeded r previous (before ++ call :: after) stop →
      r.answer? (previous ++ before) call = some (.error messages) →
        after = [] ∧ stop = some (.error (.getterFailed call.name messages)) := by
  -- on the calls before it, each of which was answered
  induction before with
  | nil =>
      intro previous h hrefusal
      rw [List.append_nil] at hrefusal
      rw [List.nil_append] at h
      cases h with
      | answered answer rest =>
          rw [hrefusal] at answer
          exact absurd (Option.some.inj answer) (by simp)
      | refused refusal =>
          rw [hrefusal] at refusal
          obtain rfl := Except.error.inj (Option.some.inj refusal)
          exact ⟨rfl, rfl⟩
  | cons first before ih =>
      intro previous h hrefusal
      rw [List.cons_append] at h
      generalize hlater : before ++ call :: after = later at h
      cases h with
      | answered answer rest => exact ih (hlater ▸ rest) (by simpa using hrefusal)
      | refused refusal => exact absurd hlater (by simp)

/-- The calls of a run that starts in one state and ends as told are heeded. -/
def Heeds (r : Renderer) {α : Type} (s : RenderState) (done : Except Halt α × RenderState) :
    Prop :=
  ∃ calls, done.2.calls.toList = s.calls.toList ++ calls
    ∧ Heeded r s.calls.toList calls (stopOf done.1)

theorem heeds_self {α : Type} (o : Except Halt α) (s : RenderState) : Heeds r s (o, s) :=
  ⟨[], by simp, .nil _ _⟩

/-- A plan heeds the refusals that its resolver heeds. -/
theorem run_heeds {α : Type} {resolve : String → Run RenderState Rendered}
    (h : ∀ name s, Heeds r s ((resolve name).outcome s)) (p : Plan α) :
    ∀ s, Heeds r s ((p.run resolve).outcome s) := by
  induction p with
  | done a => intro s; exact heeds_self _ s
  | stop e => intro s; exact heeds_self _ s
  | ask name next ih =>
      intro s
      obtain ⟨calls, hcalls, hheeded⟩ := h name s
      rw [Plan.outcome_ask]
      rcases ha : (resolve name).outcome s with ⟨halt | answer, s'⟩ <;> rw [ha] at hcalls hheeded
      · exact ⟨calls, hcalls, hheeded⟩
      · -- the name was answered, so none of the calls so far was refused
        obtain ⟨more, hmore, hrest⟩ := ih answer s'
        rw [hcalls] at hmore hrest
        exact ⟨calls ++ more, by rw [hmore, List.append_assoc], hheeded.append hrest⟩

variable (r)

/-- The call of a layer comes before those of its plan, and a refusal is all that there is. -/
theorem plan_heeds {resolve : String → Run RenderState Rendered}
    (h : ∀ name s, Heeds r s ((resolve name).outcome s)) (name : String) (s : RenderState) :
    Heeds r s (((r.plan s.calls.toList name).run resolve).outcome (r.noted name s)) := by
  cases hcall : r.callOf? name with
  | none =>
      rw [r.noted_eq_self hcall]
      exact run_heeds h _ s
  | some call =>
      have hnoted : (r.noted name s).calls.toList = s.calls.toList ++ [call] := by
        rw [r.noted_of_callOf? hcall]
        exact Array.toList_push
      obtain ⟨getter, -, hanswer⟩ := answer?_of_callOf? hcall s.calls.toList
      rcases hget : getter (r.callFor s.calls.toList ⟨call.key, .string call.value⟩ name call.value)
        with messages | text <;> rw [hget] at hanswer
      · have hplan : r.plan s.calls.toList name = .stop (.getterFailed call.name messages) := by
          rw [plan_of_callOf? hcall, hanswer, r.callOf?_name hcall]
        rw [hplan]
        exact ⟨[call], hnoted, .refused hanswer⟩
      · obtain ⟨calls, hcalls, hheeded⟩ :=
          run_heeds h (r.plan s.calls.toList name) (r.noted name s)
        rw [hnoted] at hcalls hheeded
        exact ⟨call :: calls, by rw [hcalls, List.append_assoc]; rfl, .answered hanswer hheeded⟩

/-- **A run heeds the first refusal of a getter.** -/
theorem resolve_heeded (depth : Nat) :
    ∀ (name : String) (s : RenderState), Heeds r s ((r.resolve depth name).outcome s) := by
  induction depth with
  | zero => intro name s; exact heeds_self _ s
  | succ depth ih =>
      intro name s
      rw [outcome_resolve]
      cases s.cached name with
      | some result => exact heeds_self _ s
      | none =>
          dsimp only
          by_cases hp : name ∈ s.inProgress
          · rw [if_pos hp]
            exact heeds_self _ s
          · rw [if_neg hp]
            obtain ⟨calls, hcalls, hheeded⟩ := r.plan_heeds ih name (s.entered name)
            rw [RenderState.entered_calls] at hcalls hheeded
            refine ⟨calls, ?_, hheeded⟩
            show (RenderState.left _ name _).calls.toList = _
            rw [RenderState.left_calls, hcalls]

/-! ## §4. Renders. -/

/-- The layer that a request enters shows a reference to a name; its text may be that of a
getter. -/
def Shows (q : Request) (name : String) : Prop :=
  q.Enters ∧ ∃ text layer, r.TextOf q.state.calls.toList q.name text
    ∧ ParsedLayer.parse q.name text r.options.tags = .ok layer
    ∧ layer.Displays text (r.resolve (q.depth - 1)) (r.noted q.name (q.state.entered q.name)) name

variable {r}

theorem Makes.shows {q q' : Request} (h : r.Makes q q') : r.Shows q q'.name := by
  cases h with
  | @intro depth name other s t uncached fresh asks =>
      exact ⟨⟨Nat.succ_ne_zero depth, uncached, fresh⟩, asks_plan asks⟩

/-- What a render visits is its entry point, or a layer that it enters shows it. -/
theorem shown_of_mem_visited {depth : Nat} {name : String}
    (h : name ∈ (r.renderWithin depth).2.visited.toList) :
    name = r.options.entryPoint ∨ ∃ q, r.Requested depth q ∧ r.Shows q name := by
  obtain ⟨q, ⟨haccepted, hmade⟩, -, rfl⟩ := (r.mem_visited_iff depth name).1 h
  rcases Relation.ReflTransGen.cases_tail hmade with rfl | ⟨q', hmade', hmakes⟩
  · exact Or.inl rfl
  · exact Or.inr ⟨q', ⟨haccepted, hmade'⟩, hmakes.shows⟩

/-- A request that finds a result kept leaves everything as it is. -/
theorem outcome_of_cached {q : Request} {result : Rendered} (hdepth : q.depth ≠ 0)
    (hc : q.state.cached q.name = some result) : q.outcome r = (.ok result, q.state) := by
  obtain ⟨depth, name, s⟩ := q
  obtain ⟨limit, rfl⟩ := Nat.exists_eq_succ_of_ne_zero hdepth
  unfold Request.outcome
  rw [outcome_resolve, show s.cached name = some result from hc]

variable (r)

/-- The calls of a render are those of the layers visited. -/
theorem renderWithin_calls (depth : Nat) :
    (r.renderWithin depth).2.calls.toList
      = (r.renderWithin depth).2.visited.toList.filterMap r.callOf? := by
  rw [renderWithin_eq]
  cases r.refusal? with
  | some e => rfl
  | none =>
      obtain ⟨names, hgrown⟩ :=
        r.resolve_grown depth r.options.entryPoint { fast := r.options.fast }
      dsimp only
      rw [hgrown.calls, hgrown.visited]
      simp

/-- The calls of a render are heeded. -/
theorem renderWithin_heeded (depth : Nat) :
    Heeded r [] (r.renderWithin depth).2.calls.toList (stopOf (r.renderWithin depth).1) := by
  rw [renderWithin_eq]
  cases r.refusal? with
  | some e => exact .nil _ _
  | none =>
      obtain ⟨calls, hcalls, hheeded⟩ :=
        r.resolve_heeded depth r.options.entryPoint { fast := r.options.fast }
      dsimp only
      rw [hcalls]
      exact hheeded

/-- Getters are called when and as they should be in a render. -/
structure CallsGetters (depth : Nat) : Prop where
  /-- The calls, in order, are those of the layers entered that take one. -/
  calls : (r.renderWithin depth).2.calls.toList
    = (r.renderWithin depth).2.visited.toList.filterMap r.callOf?
  /-- A layer takes a call if it has a text and a getter is in charge of it, and the call is for
  the key under which it was found, its name and that text. -/
  takes : ∀ name call, r.callOf? name = some call
    ↔ call.name = name ∧ r.data.lookup name = some ⟨call.key, .string call.value⟩
      ∧ ∃ getter, r.getters.Chooses name getter
  /-- Where a layer is entered that takes a call, the getter in charge is called once, before
  anything else, and what it answers in view of the calls so far is parsed and walked, or stops
  the layer. -/
  called : ∀ q, r.Requested depth q → q.Enters → ∀ call, r.callOf? q.name = some call →
    ∃ getter, r.getters.Chooses q.name getter ∧ q.expansion r
      = match getter (r.callFor q.state.calls.toList ⟨call.key, .string call.value⟩ q.name
            call.value) with
        | .ok text =>
            (Run.ofExcept (r.parse q.name text) >>= fun layer =>
              walk layer text (r.resolve (q.depth - 1))).outcome
                ((q.state.entered q.name).noteCall call)
        | .error messages =>
            (.error (.error (.getterFailed q.name messages)),
              (q.state.entered q.name).noteCall call)
  /-- A call that is refused, whatever was answered to others like it, is the last one, and its
  messages are the result of the render. -/
  refused : ∀ before call after messages,
    (r.renderWithin depth).2.calls.toList = before ++ call :: after →
      r.answer? before call = some (.error messages) →
        after = []
          ∧ (r.renderWithin depth).1 = .error (.error (.getterFailed call.name messages))
  /-- A result that is kept is used without a call, and without anything else. -/
  kept : ∀ q, r.Requested depth q → q.depth ≠ 0 → ∀ result,
    q.state.cached q.name = some result → q.outcome r = (.ok result, q.state)
  /-- A layer is called for that is the entry point, or that a layer refers to where text is
  written. -/
  shown : ∀ call ∈ (r.renderWithin depth).2.calls.toList,
    call.name = r.options.entryPoint ∨ ∃ q, r.Requested depth q ∧ r.Shows q call.name

/-- **Getters are called exactly when and as specified**: for every source, template, options and
getters, in either mode and whatever comes of the render.  The calls are those of the layers
entered that have a text and a getter, in this order, so missing layers and data take none; each
is for the key, the name and the text of the source, and goes to the first getter whose key
matches; one that is refused is the last, and its error is that of the render.  Getters may keep a
state, so equal calls may be answered with different texts, or with a text once and then with an
error. -/
theorem getters_called (data : DataSource) (options : RenderOptions) (template : Option String)
    (getters : GetterSet) (depth : Nat) :
    (make data options template getters).CallsGetters depth := by
  generalize make data options template getters = r
  refine ⟨r.renderWithin_calls depth, fun name call => callOf?_eq_some_iff, ?_, ?_, ?_, ?_⟩
  · intro q _ _ call hcall
    exact outcome_expand_call (r.resolve (q.depth - 1)) hcall (q.state.entered q.name)
  · intro before call after messages hcalls hrefusal
    have hheeded := r.renderWithin_heeded depth
    rw [hcalls] at hheeded
    obtain ⟨hlast, hstop⟩ := hheeded.last hrefusal
    exact ⟨hlast, eq_error_of_stopOf hstop⟩
  · intro q _ hdepth result hc
    exact outcome_of_cached hdepth hc
  · intro call hcall
    rw [r.renderWithin_calls depth, List.mem_filterMap] at hcall
    obtain ⟨name, hvisited, htakes⟩ := hcall
    rw [r.callOf?_name htakes]
    exact shown_of_mem_visited hvisited

/-- A getter that hands out the text of a layer once and refuses it from then on. -/
def onlyOnce : GetterSet :=
  .single fun call =>
    if call.previous.any (fun earlier => earlier.name == call.name) then .error ["no more"]
    else .ok call.value

/-- A layer that refers to another one twice. -/
def twofold : DataSource :=
  .ordered [("start", .string "\x7b\x7b=a\x7d\x7d\x7b\x7b=a\x7d\x7d"), ("a", .string "x")]

/-- Of two equal calls the first one is answered; the second one is refused, and ends the render. -/
theorem getters_called_onlyOnce :
    ∃ first again : CallRecord, again.name = "a"
      ∧ ((make twofold {} none onlyOnce).renderWithin 5).2.calls.toList = [first, again, again]
      ∧ ((make twofold {} none onlyOnce).renderWithin 5).1
        = .error (.error (.getterFailed "a" ["no more"])) := by
  let first : CallRecord := ⟨"start", "start", "\x7b\x7b=a\x7d\x7d\x7b\x7b=a\x7d\x7d"⟩
  let again : CallRecord := ⟨"a", "a", "x"⟩
  have hcalls : ((make twofold {} none onlyOnce).renderWithin 5).2.calls.toList
      = [first, again] ++ again :: [] := by decide +kernel
  have hrefusal : (make twofold {} none onlyOnce).answer? [first, again] again
      = some (.error ["no more"]) := by decide +kernel
  have hlast := (getters_called twofold {} none onlyOnce 5).refused _ _ _ _ hcalls hrefusal
  exact ⟨first, again, rfl, hcalls, hlast.2⟩

end Renderer

end LayerTemplates
