/-
  LayerTemplates.Proofs.Render.FirstMatch
  ───────────────────────────────────────
  Sources whose keys may be patterns are ordered maps in which the first match wins.

  Two keys are the same if they are of one kind and written alike.  Inserting under a key that
  is there replaces its value in place, so every key keeps the place of its first insertion and
  has the value of its last one.  A key is read back from its text, so the keys of a map stay
  apart when they are read, and a map without patterns is the same source as before.

  Main statements:
    * `PatternSource.items_insertAll` — what a sequence of insertions leaves.
    * `PatternSource.items_ofFieldsWith?` — reading the keys of a map keeps all its pairs.
    * `render_withData` — sources with the same layers are rendered alike.
    * `patterns_in_order` — all this, and what it means for lookups and renders.
-/
import LayerTemplates.Proofs.Render.Relevance

namespace LayerTemplates

/-! ## §1. Keys. -/

/-- An engine keeps the text of the expressions that it accepts.  Nothing else is asked of one:
what an expression matches, and which are valid, is its own affair. -/
def NamePattern.KeepsSource (compile : String → Option NamePattern) : Prop :=
  ∀ expr p, compile expr = some p → p.source = expr

theorem NamePattern.keepsSource_compile? : KeepsSource compile? := by
  intro expr p h
  obtain ⟨regex, -, rfl⟩ := Option.map_eq_some_iff.1 h
  rfl

section Engine

variable {compile : String → Option NamePattern}

namespace LayerKey

/-- What a key is written as: a name, or an expression. -/
def spelling : LayerKey → String ⊕ String
  | .exact name => .inl name
  | .pattern p => .inr p.source

theorem same_iff {key other : LayerKey} :
    key.same other = true ↔ key.spelling = other.spelling := by
  cases key <;> cases other <;> simp [same, spelling]

theorem same_self (key : LayerKey) : key.same key = true := same_iff.2 rfl

theorem same_comm (key other : LayerKey) : key.same other = other.same key := by
  rw [Bool.eq_iff_iff, same_iff, same_iff]
  exact eq_comm

/-- Keys that are the same are the same as the same keys. -/
theorem same_congr {key other : LayerKey} (h : key.same other = true) (third : LayerKey) :
    key.same third = other.same third := by
  rw [Bool.eq_iff_iff, same_iff, same_iff, same_iff.1 h]

/-- The expression of a key is what stands between its slashes, of which there are two. -/
theorem expression?_eq_some_iff {raw expr : String} :
    expression? raw = some expr ↔ raw = "/" ++ expr ++ "/" ∧ expr ≠ "" := by
  unfold expression?
  constructor
  · intro h
    split at h
    · next rest hraw =>
        split at h
        · next hbetween =>
            obtain ⟨hlast, hne⟩ := hbetween
            obtain rfl := Option.some.inj h
            constructor
            · have hrest := List.dropLast_append_getLast? _ hlast
              apply String.ext
              rw [hraw]
              simp [hrest]
            · intro hempty
              exact hne (by rw [← String.toList_ofList (l := rest.dropLast), hempty]; rfl)
        · exact absurd h (by simp)
    · exact absurd h (by simp)
  · rintro ⟨rfl, hne⟩
    have hchars : ("/" ++ expr ++ "/").toList = '/' :: (expr.toList ++ ['/']) := by
      simp
    rw [hchars]
    have hfilled : expr.toList ≠ [] := fun hnil => hne (String.toList_eq_nil_iff.1 hnil)
    simp [hfilled]

/-- A key that was read is written as it was. -/
theorem text_of_ofTextWith? (hkeeps : NamePattern.KeepsSource compile) {raw : String}
    {key : LayerKey} (h : ofTextWith? compile raw = some key) : key.text = raw := by
  unfold ofTextWith? at h
  split at h
  · next expr hexpr =>
      obtain ⟨p, hp, rfl⟩ := Option.map_eq_some_iff.1 h
      rw [(expression?_eq_some_iff.1 hexpr).1, ← hkeeps expr p hp]
      rfl
  · obtain rfl := Option.some.inj h
    rfl

/-- A key is read unless its expression is invalid. -/
theorem isSome_ofTextWith? {raw : String}
    (h : ∀ expr, raw = "/" ++ expr ++ "/" → expr ≠ "" → (compile expr).isSome) :
    (ofTextWith? compile raw).isSome := by
  unfold ofTextWith?
  cases hexpr : expression? raw with
  | none => rfl
  | some expr =>
      obtain ⟨hraw, hne⟩ := expression?_eq_some_iff.1 hexpr
      rw [Option.isSome_map]
      exact h expr hraw hne

/-- Keys that are the same have the same text. -/
theorem text_congr {key other : LayerKey} (h : key.same other = true) : key.text = other.text := by
  cases key <;> cases other <;> simp_all [same, text]

/-- A key without an expression is read as a name. -/
theorem ofTextWith?_of_plain {raw : String} (h : ∀ expr, expr ≠ "" → raw ≠ "/" ++ expr ++ "/") :
    ofTextWith? compile raw = some (.exact raw) := by
  unfold ofTextWith?
  cases hexpr : expression? raw with
  | none => rfl
  | some expr =>
      obtain ⟨hraw, hne⟩ := expression?_eq_some_iff.1 hexpr
      exact absurd hraw (h expr hne)

end LayerKey

/-! ## §2. Insertions. -/

namespace PatternSource

/-- The source that a sequence of insertions makes. -/
def insertAll (insertions : List (LayerKey × Value)) : PatternSource :=
  insertions.foldl (fun source insertion => source.insert insertion.1 insertion.2) {}

/-- The value that was inserted last under a key. -/
def lastValue? (insertions : List (LayerKey × Value)) (key : LayerKey) : Option Value :=
  (insertions.reverse.find? fun insertion => insertion.1.same key).map Prod.snd

/-- Whether one of the items has a key. -/
def hasKey (items : List (LayerKey × Value)) (key : LayerKey) : Bool :=
  items.any fun item => item.1.same key

theorem insertAll_concat (insertions : List (LayerKey × Value)) (key : LayerKey) (value : Value) :
    insertAll (insertions ++ [(key, value)]) = (insertAll insertions).insert key value := by
  unfold insertAll
  rw [List.foldl_concat]

theorem lastValue?_concat (insertions : List (LayerKey × Value)) (key other : LayerKey)
    (value : Value) :
    lastValue? (insertions ++ [(key, value)]) other
      = if key.same other then some value else lastValue? insertions other := by
  unfold lastValue?
  rw [List.reverse_concat, List.find?_cons]
  dsimp only
  cases key.same other <;> rfl

/-- **Inserting replaces the value of a key that is there**, in place. -/
theorem go_of_hasKey {key : LayerKey} (value : Value) :
    ∀ {items : List (LayerKey × Value)},
      items.Pairwise (fun item later => item.1.same later.1 = false) → hasKey items key = true →
        insert.go key value items
          = items.map fun item => if item.1.same key then (item.1, value) else item := by
  intro items hdistinct hkey
  -- up to the first item of the key; those behind it are of other keys
  induction items with
  | nil => exact absurd hkey (by simp [hasKey])
  | cons item rest ih =>
      obtain ⟨hfirst, hrest⟩ := List.pairwise_cons.1 hdistinct
      rw [insert.go, List.map_cons]
      by_cases hsame : item.1.same key = true
      · rw [if_pos hsame, if_pos hsame]
        congr 1
        refine ((List.map_congr_left fun other hother => ?_).trans (List.map_id rest)).symm
        rw [LayerKey.same_comm, ← LayerKey.same_congr hsame, hfirst other hother]
        rfl
      · rw [if_neg hsame, if_neg hsame]
        have hlater : hasKey rest key = true := by
          unfold hasKey at hkey ⊢
          rw [List.any_cons, Bool.or_eq_true] at hkey
          exact hkey.resolve_left hsame
        rw [ih hrest hlater]

/-- **Inserting adds a key that is not there** at the end. -/
theorem go_of_not_hasKey {key : LayerKey} (value : Value) :
    ∀ {items : List (LayerKey × Value)}, hasKey items key = false →
      insert.go key value items = items ++ [(key, value)] := by
  intro items hkey
  induction items with
  | nil => rfl
  | cons item rest ih =>
      unfold hasKey at hkey
      rw [List.any_cons, Bool.or_eq_false_iff] at hkey
      rw [insert.go, if_neg (by rw [hkey.1]; exact Bool.false_ne_true), ih hkey.2]
      rfl

/-- Of a list with one element more the last one is erased if an element that was kept before it
counts as the same. -/
theorem eraseDupsBy_concat {α : Type} (same : α → α → Bool) (a : α) :
    ∀ (l : List α),
      (l ++ [a]).eraseDupsBy same
        = if (l.eraseDupsBy same).any (same a) then l.eraseDupsBy same
          else l.eraseDupsBy same ++ [a] := by
  have hloop : ∀ (l kept : List α), List.eraseDupsBy.loop same (l ++ [a]) kept
      = if (List.eraseDupsBy.loop same l kept).any (same a) then List.eraseDupsBy.loop same l kept
        else List.eraseDupsBy.loop same l kept ++ [a] := by
    intro l
    induction l with
    | nil =>
        intro kept
        rw [List.nil_append, List.eraseDupsBy.loop, List.eraseDupsBy.loop, List.any_reverse]
        cases kept.any (same a) with
        | true => rfl
        | false => simp [List.eraseDupsBy.loop]
    | cons b l ih =>
        intro kept
        rw [List.cons_append, List.eraseDupsBy.loop, List.eraseDupsBy.loop]
        cases kept.any (same b) with
        | true => exact ih kept
        | false => exact ih (b :: kept)
  exact fun l => hloop l []

/-- **What a sequence of insertions leaves**: the different keys in the order in which they came
first, each with the value that came last. -/
theorem items_insertAll (insertions : List (LayerKey × Value)) :
    (insertAll insertions).items.map Prod.fst
        = (insertions.map Prod.fst).eraseDupsBy LayerKey.same
      ∧ (insertAll insertions).items.Pairwise (fun item later => item.1.same later.1 = false)
      ∧ ∀ item ∈ (insertAll insertions).items, lastValue? insertions item.1 = some item.2 := by
  -- on the insertions, the last one at a time
  induction insertions using List.reverseRecOn with
  | nil => exact ⟨rfl, .nil, fun item hitem => absurd hitem (by simp [insertAll])⟩
  | append_singleton insertions insertion ih =>
      obtain ⟨key, value⟩ := insertion
      obtain ⟨hkeys, hdistinct, hvalues⟩ := ih
      have hany : ((insertions.map Prod.fst).eraseDupsBy LayerKey.same).any key.same
          = hasKey (insertAll insertions).items key := by
        unfold hasKey
        rw [← hkeys, List.any_map]
        exact congrArg _ (funext fun item => LayerKey.same_comm _ _)
      rw [insertAll_concat, List.map_append, List.map_singleton, eraseDupsBy_concat, hany, ← hkeys]
      show (insert.go key value _).map Prod.fst = _ ∧ (insert.go key value _).Pairwise _
        ∧ ∀ item ∈ insert.go key value _, _
      cases hkey : hasKey (insertAll insertions).items key with
      | true =>
          have hfst : ∀ item : LayerKey × Value,
              (if item.1.same key then (item.1, value) else item).1 = item.1 := by
            intro item
            split <;> rfl
          rw [go_of_hasKey value hdistinct hkey, if_pos rfl]
          refine ⟨?_, ?_, ?_⟩
          · rw [List.map_map]
            exact List.map_congr_left fun item _ => hfst item
          · rw [List.pairwise_map]
            exact hdistinct.imp fun hdifferent => by rw [hfst, hfst]; exact hdifferent
          · intro item hitem
            obtain ⟨old, hold, rfl⟩ := List.mem_map.1 hitem
            rw [lastValue?_concat, hfst, LayerKey.same_comm]
            by_cases hsame : old.1.same key = true
            · rw [if_pos hsame, if_pos hsame]
            · rw [if_neg hsame, if_neg hsame]
              exact hvalues old hold
      | false =>
          have hnew : ∀ item ∈ (insertAll insertions).items, item.1.same key = false := by
            intro item hitem
            have hall := List.any_eq_false.1 hkey item hitem
            exact Bool.eq_false_iff.2 hall
          rw [go_of_not_hasKey value hkey, if_neg Bool.false_ne_true]
          refine ⟨by rw [List.map_append]; rfl, ?_, ?_⟩
          · rw [List.pairwise_append]
            refine ⟨hdistinct, List.pairwise_singleton _ _, fun item hitem later hlater => ?_⟩
            rw [List.mem_singleton.1 hlater]
            exact hnew item hitem
          · intro item hitem
            rw [lastValue?_concat]
            rcases List.mem_append.1 hitem with hold | hlast
            · rw [LayerKey.same_comm, hnew item hold, if_neg Bool.false_ne_true]
              exact hvalues item hold
            · rw [List.mem_singleton.1 hlast, if_pos (LayerKey.same_self key)]

/-- The layer found under a name is that of the first key inserted that matches it. -/
theorem lookup_insertAll (insertions : List (LayerKey × Value)) (name : String) :
    (insertAll insertions).lookup name
      = (((insertions.map Prod.fst).eraseDupsBy LayerKey.same).find? fun key =>
          key.accepts name).bind fun key =>
            (lastValue? insertions key).map fun value => { key := key.text, value } := by
  obtain ⟨hkeys, -, hvalues⟩ := items_insertAll insertions
  rw [← hkeys, List.find?_map]
  show ((insertAll insertions).items.find? fun item => item.1.accepts name).map _
    = (((insertAll insertions).items.find? fun item => item.1.accepts name).map Prod.fst).bind _
  cases hfound : (insertAll insertions).items.find? fun item => item.1.accepts name with
  | none => rfl
  | some item =>
      have hvalue := hvalues item (List.mem_of_find?_eq_some hfound)
      show some _ = (lastValue? insertions item.1).map _
      rw [hvalue]
      rfl

/-! ## §3. Maps that are read. -/

/-- **Reading the keys of a map keeps all its pairs** in their order: the keys are apart and each
is found again by reading its text. -/
theorem items_ofFieldsWith? (hkeeps : NamePattern.KeepsSource compile)
    {fields : List (String × Value)} (hkeys : (fields.map Prod.fst).Nodup)
    (hread : ∀ field ∈ fields, ∃ key, LayerKey.ofTextWith? compile field.1 = some key) :
    ∃ source, ofFieldsWith? compile fields = some source
      ∧ (source.items.map fun item => (item.1.text, item.2)) = fields
      ∧ ∀ item ∈ source.items, LayerKey.ofTextWith? compile item.1.text = some item.1 := by
  -- on the fields, the last one at a time; its key is none of those read before
  induction fields using List.reverseRecOn with
  | nil => exact ⟨{}, rfl, rfl, fun item hitem => absurd hitem (by simp)⟩
  | append_singleton fields field ih =>
      obtain ⟨raw, value⟩ := field
      rw [List.map_append, List.map_singleton] at hkeys
      obtain ⟨hdistinct, -, hapart⟩ := List.nodup_append.1 hkeys
      obtain ⟨source, hsource, hitems, hagain⟩ :=
        ih hdistinct fun field hfield => hread field (List.mem_append_left _ hfield)
      obtain ⟨key, hkey⟩ := hread (raw, value) (List.mem_append_right _ (List.mem_singleton_self _))
      have htext := LayerKey.text_of_ofTextWith? hkeeps hkey
      have hnew : hasKey source.items key = false := by
        refine List.any_eq_false.2 fun item hitem hsame => ?_
        have hfield : (item.1.text, item.2) ∈ fields := by
          rw [← hitems]
          exact List.mem_map.2 ⟨item, hitem, rfl⟩
        refine hapart item.1.text (List.mem_map.2 ⟨_, hfield, rfl⟩) raw
          (List.mem_singleton_self _) ?_
        rw [LayerKey.text_congr hsame, htext]
      have hgo := go_of_not_hasKey value hnew
      refine ⟨source.insert key value, ?_, ?_, ?_⟩
      · unfold ofFieldsWith? at hsource ⊢
        rw [List.foldlM_append, hsource, Option.bind_eq_bind, Option.bind_some, List.foldlM_cons]
        dsimp only
        rw [hkey]
        rfl
      · show (insert.go key value source.items).map _ = _
        rw [hgo, List.map_append, hitems, List.map_singleton, htext]
      · intro item hitem
        replace hitem : item ∈ insert.go key value source.items := hitem
        rw [hgo] at hitem
        rcases List.mem_append.1 hitem with hold | hlast
        · exact hagain item hold
        · rw [List.mem_singleton.1 hlast, htext]
          exact hkey

/-- Names are looked up as in a map. -/
theorem lookup_of_exact (name : String) :
    ∀ {items : List (LayerKey × Value)}, (∀ item ∈ items, item.1 = .exact item.1.text) →
      (PatternSource.mk items).lookup name
        = DataSource.lookupIn (items.map fun item => (item.1.text, item.2)) name := by
  intro items hexact
  unfold lookup DataSource.lookupIn
  dsimp only
  induction items with
  | nil => rfl
  | cons item rest ih =>
      obtain ⟨key, value⟩ := item
      have hkey : key = .exact key.text := hexact (key, value) List.mem_cons_self
      have haccepts : key.accepts name = (key.text == name) := by
        rw [hkey]
        rfl
      rw [List.find?_cons, List.map_cons, lookup_cons_eq]
      dsimp only
      rw [haccepts]
      by_cases hname : name = key.text
      · rw [if_pos hname, hname, beq_self_eq_true]
        rfl
      · rw [if_neg hname, beq_false_of_ne (Ne.symm hname)]
        exact ih fun other hother => hexact other (List.mem_cons_of_mem _ hother)

end PatternSource

end Engine

/-! ## §4. Sources that cannot be told apart. -/

namespace Layered

variable {source source' : DataSource}

theorem lookup_congr (h : ∀ name, source'.lookup name = source.lookup name)
    (template : Option Entry) (name : String) :
    lookup { template, inner := source' } name = lookup { template, inner := source } name := by
  unfold lookup
  dsimp only
  rw [h]

theorem entries_congr (h : source'.entries = source.entries) (template : Option Entry) :
    entries { template, inner := source' } = entries { template, inner := source } := by
  unfold entries
  dsimp only
  rw [h]

theorem texts_congr (h : source'.entries = source.entries) (template : Option Entry) :
    texts { template, inner := source' } = texts { template, inner := source } := by
  unfold texts
  dsimp only
  rw [h]

end Layered

/-- The getters know a source by its layers alone: by what it has under names, and by the list of
its entries. -/
def GetterSet.SeesLayers (s : GetterSet) : Prop :=
  ∀ (name : String) (getter : Getter), s.find name = some getter →
    ∀ (call : GetterCall) (data : Layered),
      (∀ other, data.lookup other = call.data.lookup other) → data.entries = call.data.entries →
        getter { call with data } = getter call

namespace Renderer

variable {r : Renderer} {data : Layered}

/-- A source with the same layers in its place expands every name alike. -/
theorem agreesAt_withData (hsees : r.getters.SeesLayers)
    (hlookup : ∀ other, data.lookup other = r.data.lookup other)
    (hentries : data.entries = r.data.entries) (name : String) :
    r.AgreesAt { r with data } name where
  -- only the call of a getter mentions the source
  plan previous := plan_congr (hlookup name) rfl rfl rfl fun getter hfind entry value =>
    hsees name getter hfind (r.callFor previous entry name value) data hlookup hentries
  callOf? := by
    unfold callOf?
    dsimp only
    rw [hlookup]

/-- **Sources with the same layers are rendered alike**, by getters too that know them by these
layers. -/
theorem render_withData (hsees : r.getters.SeesLayers)
    (hlookup : ∀ other, data.lookup other = r.data.lookup other)
    (hentries : data.entries = r.data.entries) (htexts : data.texts = r.data.texts) :
    ({ r with data } : Renderer).render = r.render := by
  have hlimit : ({ r with data } : Renderer).depthLimit = r.depthLimit := by
    unfold depthLimit textLength
    dsimp only
    rw [htexts]
  have hrefusal : ({ r with data } : Renderer).refusal? = r.refusal? := by
    unfold refusal?
    dsimp only
    rw [hlookup]
  unfold render
  rw [hlimit, renderWithin_eq, renderWithin_eq, hrefusal]
  cases r.refusal? with
  | some e => rfl
  | none =>
      exact resolve_congr _ _ _ fun x _ => agreesAt_withData hsees hlookup hentries x

/-! ## §5. Ordered maps with patterns. -/

/-- **A source of patterns is an ordered map in which the first match wins.**  A sequence of
insertions leaves the different keys in the order of their first insertion, each with the value of
its last one, and a name is answered by the first of these keys that matches it.  A map whose
expressions are valid keeps all its pairs in their order, whatever engine compiles them; without
expressions it has the same layers, and rendering it comes to the same. -/
theorem patterns_in_order :
    (∀ insertions : List (LayerKey × Value),
        let source := PatternSource.insertAll insertions
        let keys := (insertions.map Prod.fst).eraseDupsBy LayerKey.same
        source.items.map Prod.fst = keys
          ∧ source.items.Pairwise (fun item later => item.1.same later.1 = false)
          ∧ (∀ item ∈ source.items,
              PatternSource.lastValue? insertions item.1 = some item.2)
          ∧ ∀ name, source.lookup name
              = (keys.find? fun key => key.accepts name).bind fun key =>
                  (PatternSource.lastValue? insertions key).map fun value =>
                    { key := key.text, value })
      ∧ ∀ compile : String → Option NamePattern, NamePattern.KeepsSource compile →
          ∀ fields : List (String × Value), (fields.map Prod.fst).Nodup →
            (∀ expr, expr ≠ "" → "/" ++ expr ++ "/" ∈ fields.map Prod.fst →
              (compile expr).isSome) →
            ∃ source, PatternSource.ofFieldsWith? compile fields = some source
              ∧ source.entries = (DataSource.ordered fields).entries
              ∧ ((∀ expr, expr ≠ "" → "/" ++ expr ++ "/" ∉ fields.map Prod.fst) →
                  (∀ name, source.lookup name = (DataSource.ordered fields).lookup name)
                    ∧ ∀ options template getters, getters.SeesLayers →
                        (make (.patterns source) options template getters).render
                          = (make (.ordered fields) options template getters).render) := by
  constructor
  · intro insertions source keys
    obtain ⟨hkeys, hdistinct, hvalues⟩ := PatternSource.items_insertAll insertions
    exact ⟨hkeys, hdistinct, hvalues, PatternSource.lookup_insertAll insertions⟩
  · intro compile hkeeps fields hkeys hvalid
    -- valid expressions are all that reading the keys needs
    have hread : ∀ field ∈ fields, ∃ key, LayerKey.ofTextWith? compile field.1 = some key := by
      intro field hfield
      refine Option.isSome_iff_exists.1 (LayerKey.isSome_ofTextWith? fun expr hraw hne => ?_)
      exact hvalid expr hne (hraw ▸ List.mem_map_of_mem hfield)
    obtain ⟨source, hsource, hitems, hagain⟩ := PatternSource.items_ofFieldsWith? hkeeps hkeys hread
    have hentries : source.entries = (DataSource.ordered fields).entries := by
      show source.items.map _ = fields.map _
      rw [← hitems, List.map_map]
      rfl
    refine ⟨source, hsource, hentries, fun hplain => ?_⟩
    -- without expressions every key was read as a name, so lookups go by names
    have hexact : ∀ item ∈ source.items, item.1 = .exact item.1.text := by
      intro item hitem
      have hmem : item.1.text ∈ fields.map Prod.fst := by
        rw [← hitems, List.map_map]
        exact List.mem_map_of_mem hitem
      have hname : LayerKey.ofTextWith? compile item.1.text = some (.exact item.1.text) :=
        LayerKey.ofTextWith?_of_plain fun expr hne hraw => hplain expr hne (hraw ▸ hmem)
      exact Option.some.inj ((hagain item hitem).symm.trans hname)
    have hlookup : ∀ name, (DataSource.patterns source).lookup name
        = (DataSource.ordered fields).lookup name := by
      intro name
      show source.lookup name = _
      rw [PatternSource.lookup_of_exact name hexact, hitems]
      rfl
    replace hentries : (DataSource.patterns source).entries
        = (DataSource.ordered fields).entries := hentries
    refine ⟨hlookup, fun options template getters hsees => ?_⟩
    have hsame := @render_withData (make (.ordered fields) options template getters)
      (make (.patterns source) options template getters).data hsees
      (fun other => Layered.lookup_congr hlookup _ other)
    exact hsame (Layered.entries_congr hentries _) (Layered.texts_congr hentries _)

/-- A pattern that hides a key behind it, and whose value is replaced later. -/
def overlapping (numbered : LayerKey) : List (LayerKey × Value) :=
  [(numbered, .bool true), (.exact "part 1", .null), (numbered, .bool false)]

/-- Keys of slashes that are no expressions. -/
def slashes : List (String × Value) :=
  [("/", .string "\x7b\x7b='//'\x7d\x7d"), ("//", .string "twice"), ("a/", .null)]

/-- Layers for greetings, all but one under an expression. -/
def greetings : List (String × Value) :=
  [("start", .string "\x7b\x7b=greeting_en\x7d\x7d"), ("/^greeting_/", .string "Hi"),
    ("/name|title/", .null)]

theorem patterns_in_order_overlapping :
    (∃ numbered, LayerKey.ofText? "/^part/" = some numbered
        ∧ (PatternSource.insertAll (overlapping numbered)).lookup "part 1"
            = some ⟨"/^part/", .bool false⟩)
      ∧ (∃ source, PatternSource.ofFieldsWith? NamePattern.compile? greetings = some source
          ∧ source.entries = (DataSource.ordered greetings).entries)
      ∧ ∃ source, PatternSource.ofFieldsWith? NamePattern.compile? slashes = some source
          ∧ source.entries = (DataSource.ordered slashes).entries
          ∧ (make (.patterns source) { entryPoint := "/" } none .none).render
              = (make (.ordered slashes) { entryPoint := "/" } none .none).render := by
  obtain ⟨hinsert, hread⟩ := patterns_in_order
  replace hread := hread NamePattern.compile? NamePattern.keepsSource_compile?
  refine ⟨?_, ?_, ?_⟩
  · have hcompiled : (NamePattern.compile? "^part").map
        (fun numbered => (numbered.source, numbered.accepts "part 1")) = some ("^part", true) := by
      decide +kernel
    obtain ⟨numbered, hnumbered, hparts⟩ := Option.map_eq_some_iff.1 hcompiled
    obtain ⟨hsource, haccepts⟩ := Prod.mk.inj hparts
    have hkey : LayerKey.ofText? "/^part/" = some (.pattern numbered) := by
      unfold LayerKey.ofText? LayerKey.ofTextWith?
      rw [show LayerKey.expression? "/^part/" = some "^part" by decide]
      dsimp only
      rw [hnumbered]
      rfl
    obtain ⟨-, -, -, hlookup⟩ := hinsert (overlapping (.pattern numbered))
    refine ⟨.pattern numbered, hkey, ?_⟩
    rw [hlookup]
    simp [overlapping, List.eraseDupsBy, List.eraseDupsBy.loop, LayerKey.same, LayerKey.accepts,
      LayerKey.text, PatternSource.lastValue?, haccepts, hsource]
  · -- two of the keys are expressions, and both are valid
    have hvalid : ∀ expr, expr ≠ "" → "/" ++ expr ++ "/" ∈ greetings.map Prod.fst →
        (NamePattern.compile? expr).isSome := by
      intro expr hne hmem
      have hall : ∀ raw ∈ greetings.map Prod.fst, ∀ found ∈ LayerKey.expression? raw,
          (NamePattern.compile? found).isSome := by decide +kernel
      exact hall _ hmem expr (LayerKey.expression?_eq_some_iff.2 ⟨rfl, hne⟩)
    obtain ⟨source, hsource, hentries, -⟩ := hread greetings (by decide) hvalid
    exact ⟨source, hsource, hentries⟩
  · have hplain : ∀ expr, expr ≠ "" → "/" ++ expr ++ "/" ∉ slashes.map Prod.fst := by
      intro expr hne hmem
      have hnone : ∀ raw ∈ slashes.map Prod.fst, LayerKey.expression? raw = none := by decide
      have hsome := LayerKey.expression?_eq_some_iff.2 ⟨rfl, hne⟩
      rw [hnone _ hmem] at hsome
      exact absurd hsome (by simp)
    obtain ⟨source, hsource, hentries, hsame⟩ := hread slashes (by decide) fun expr hne hmem =>
      absurd hmem (hplain expr hne)
    have hsees : GetterSet.none.SeesLayers := fun name getter hfind =>
      absurd hfind (by simp [GetterSet.find])
    exact ⟨source, hsource, hentries, (hsame hplain).2 _ _ _ hsees⟩

end Renderer

end LayerTemplates
