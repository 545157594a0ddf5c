/-
  LayerTemplates.Proofs.Expression.Wiring
  ───────────────────────────────────────
  Arenas whose links are well founded.

  Three links lead on from a lexeme: to the next step of a path, to the first argument and to
  the next sibling.  Two lead back.  In a tidy arena all that lead on go to newer lexemes and
  all that lead back to older ones, and no lexeme is led to twice.  Linking a lexeme that was
  just allocated to an older one keeps an arena tidy, whatever the link is, and a lexeme is
  linked at most once, when it is the newest.

  Links that lead to newer lexemes come to an end, so following them for as many steps as there
  are lexemes is following them to the end: a chain of links is a trace, which no bound cuts.

  Main statements:
    * `Arena.Tidy.attach` — linking the newest lexeme keeps an arena tidy.
    * `Arena.Attaches.keeps` — and changes no link of another lexeme.
    * `Arena.Ahead.traced` — chains of links are followed to their end.
-/
import LayerTemplates.Proofs.Expression.Links
import LayerTemplates.Proofs.Expression.Locality

namespace LayerTemplates

/-! ## §1. Links. -/

/-- The links of a lexeme that lead on. -/
inductive Link where
  | child
  | firstArg
  | next
  deriving Repr, DecidableEq, Inhabited

namespace Lexeme

/-- Where a link of a lexeme leads. -/
def link (l : Lexeme) : Link → Option LexemeId
  | .child => l.child
  | .firstArg => l.firstArg
  | .next => l.next

/-- One of the two links that lead back leads to a lexeme. -/
def LeadsBack (l : Lexeme) (id : LexemeId) : Prop := l.parent = some id ∨ l.prev = some id

/-- The kind of a lexeme is none of its links. -/
theorem wires_grouped (kind : LexemeKind) (l : Lexeme) : (l.grouped kind).wires = l.wires := by
  unfold grouped
  split <;> rfl

variable {l l' : Lexeme}

theorem link_congr (h : l.wires = l'.wires) (link : Link) : l.link link = l'.link link := by
  simp only [wires, List.cons.injEq] at h
  cases link with
  | child => exact h.1
  | firstArg => exact h.2.1
  | next => exact h.2.2.1

theorem leadsBack_congr (h : l.wires = l'.wires) (id : LexemeId) :
    l.LeadsBack id ↔ l'.LeadsBack id := by
  simp only [wires, List.cons.injEq] at h
  unfold LeadsBack
  rw [h.2.2.2.1, h.2.2.2.2.1]

theorem Unlinked.link (h : l.Unlinked) (link : Link) : l.link link = none := by
  rw [link_congr h]
  cases link <;> rfl

theorem Unlinked.not_leadsBack (h : l.Unlinked) (id : LexemeId) : ¬ l.LeadsBack id := by
  rw [leadsBack_congr h]
  simp [LeadsBack]

end Lexeme

namespace Arena

/-- Of the lexemes from an index on: links that lead on go to newer lexemes of the arena, links
that lead back to older ones from the index on, and no lexeme is led to by two links. -/
structure Tidy (first : Nat) (a : Arena) : Prop where
  forward : ∀ link (j t : Nat), first ≤ j → (a.get j).link link = some t → j < t ∧ t < a.size
  back : ∀ j p : Nat, first ≤ j → (a.get j).LeadsBack p → first ≤ p ∧ p < j
  single : ∀ link link' (j j' t : Nat), first ≤ j → first ≤ j' →
    (a.get j).link link = some t → (a.get j').link link' = some t → link = link' ∧ j = j'

/-- Child links and sibling links of the first arena are the same in the second one. -/
def Keeps (a a' : Arena) : Prop :=
  ∀ (link : Link) (j t : Nat), link ≠ .firstArg →
    (a.get j).link link = some t → (a'.get j).link link = some t

/-- The second arena is the first one with a link from one lexeme to another, and of all lexemes
only the target may lead back to something else: to the source, or to what that leads back to. -/
structure Attaches (link : Link) (source target : Nat) (a a' : Arena) : Prop where
  size : a'.size = a.size
  links : ∀ other j, (a'.get j).link other
    = if other = link ∧ j = source then some target else (a.get j).link other
  back : ∀ j p, (a'.get j).LeadsBack p →
    (a.get j).LeadsBack p ∨ (j = target ∧ (p = source ∨ (a.get source).LeadsBack p))

variable {a a' a'' : Arena} {first source target : Nat} {link : Link}

/-! ## §2. Arenas that stay tidy. -/

/-- Beyond its lexemes an arena has no links. -/
theorem unlinked_of_size_le {id : Nat} (h : a.size ≤ id) : (a.get id).Unlinked := by
  rw [get_of_size_le h]
  rfl

/-- An arena is tidy from its end on. -/
theorem tidy_size (a : Arena) : a.Tidy a.size where
  forward link j t hj hlink := by
    rw [(unlinked_of_size_le hj).link] at hlink
    exact absurd hlink (by simp)
  back j p hj hback := absurd hback ((unlinked_of_size_le hj).not_leadsBack p)
  single link link' j j' t hj _ hlink _ := by
    rw [(unlinked_of_size_le hj).link] at hlink
    exact absurd hlink (by simp)

/-- Only links count, and that no lexeme is taken away. -/
theorem Tidy.congr (h : a.Tidy first) (hsize : a.size ≤ a'.size)
    (hwires : ∀ j, (a'.get j).wires = (a.get j).wires) : a'.Tidy first where
  forward link j t hj hlink := by
    rw [Lexeme.link_congr (hwires j)] at hlink
    have hold := h.forward link j t hj hlink
    omega
  back j p hj hback := h.back j p hj ((Lexeme.leadsBack_congr (hwires j) p).1 hback)
  single link link' j j' t hj hj' hlink hlink' := by
    rw [Lexeme.link_congr (hwires _)] at hlink hlink'
    exact h.single link link' j j' t hj hj' hlink hlink'

/-- Changes that leave links alone keep an arena tidy. -/
theorem Tidy.modify (h : a.Tidy first) (id : LexemeId) {f : Lexeme → Lexeme}
    (hf : ∀ l, (f l).wires = l.wires) : (a.modify id f).Tidy first := by
  apply h.congr
  · exact Nat.le_of_eq (size_modify a id f).symm
  · exact fun j => comp_get_modify a id j Lexeme.wires (hf _)

/-- A new lexeme has no links. -/
theorem wires_alloc {l : Lexeme} (hl : l.Unlinked) (j : Nat) :
    ((a.alloc l).get j).wires = (a.get j).wires := by
  rw [get_alloc]
  split
  · next hj => rw [hl, unlinked_of_size_le (Nat.le_of_eq hj.symm)]
  · rfl

theorem lt_size_alloc (h : source < a.size) (l : Lexeme) : source < (a.alloc l).size := by
  rw [size_alloc]
  omega

/-- A lexeme without links leads nowhere, and nothing leads to it yet. -/
theorem Tidy.alloc (h : a.Tidy first) {l : Lexeme} (hl : l.Unlinked) :
    (a.alloc l).Tidy first := by
  apply h.congr
  · rw [size_alloc]
    omega
  · exact wires_alloc hl

/-- **Linking the newest lexeme keeps an arena tidy.** -/
theorem Tidy.attach (h : a.Tidy first) (hattach : Attaches link source target a a')
    (hsource : first ≤ source) (hlt : source < target) (htarget : target < a.size)
    (hfree : ∀ other j, first ≤ j → (a.get j).link other ≠ some target) : a'.Tidy first where
  forward other j t hj hlink := by
    rw [hattach.size]
    rw [hattach.links] at hlink
    split at hlink
    · next hnew =>
        obtain rfl := Option.some.inj hlink
        rw [hnew.2]
        exact ⟨hlt, htarget⟩
    · exact h.forward other j t hj hlink
  back j p hj hback := by
    rcases hattach.back j p hback with hold | ⟨rfl, rfl | hsource'⟩
    · exact h.back j p hj hold
    · exact ⟨hsource, hlt⟩
    · have hp := h.back source p hsource hsource'
      exact ⟨hp.1, Nat.lt_trans hp.2 hlt⟩
  single other other' j j' t hj hj' hlink hlink' := by
    rw [hattach.links] at hlink hlink'
    -- the new link is the only one to the newest lexeme, and the others are those of before
    split at hlink <;> split at hlink'
    · next hnew hnew' => exact ⟨hnew.1.trans hnew'.1.symm, hnew.2.trans hnew'.2.symm⟩
    · obtain rfl := Option.some.inj hlink
      exact absurd hlink' (hfree other' j' hj')
    · obtain rfl := Option.some.inj hlink'
      exact absurd hlink (hfree other j hj)
    · exact h.single other other' j j' t hj hj' hlink hlink'

/-- Nothing leads to a lexeme that was just allocated. -/
theorem Tidy.free_alloc (h : a.Tidy first) {l : Lexeme} (hl : l.Unlinked) (link : Link) (j : Nat)
    (hj : first ≤ j) : ((a.alloc l).get j).link link ≠ some a.size := by
  intro hlink
  rw [Lexeme.link_congr (wires_alloc hl j)] at hlink
  have hold := h.forward link j a.size hj hlink
  omega

/-! ## §3. Links that are kept. -/

theorem Keeps.refl (a : Arena) : a.Keeps a := fun _ _ _ _ hlink => hlink

/-- Links that two changes keep one after the other they keep together. -/
theorem Keeps.trans (h : a.Keeps a') (h' : a'.Keeps a'') : a.Keeps a'' :=
  fun link j t hne hlink => h' link j t hne (h link j t hne hlink)

/-- Where all links are the same, all of them are kept. -/
theorem keeps_of_wires (h : ∀ j, (a'.get j).wires = (a.get j).wires) : a.Keeps a' := by
  intro link j t _ hlink
  rw [Lexeme.link_congr (h j)]
  exact hlink

theorem keeps_modify (a : Arena) (id : LexemeId) {f : Lexeme → Lexeme}
    (hf : ∀ l, (f l).wires = l.wires) : a.Keeps (a.modify id f) :=
  keeps_of_wires fun j => comp_get_modify a id j Lexeme.wires (hf _)

/-- **A new link replaces none**, but for the first argument of a function. -/
theorem Attaches.keeps (h : Attaches link source target a a')
    (hnone : link = .firstArg ∨ (a.get source).link link = none) : a.Keeps a' := by
  intro other j t hne hlink
  rw [h.links]
  split
  · next hnew =>
      obtain ⟨rfl, rfl⟩ := hnew
      rcases hnone with rfl | hnone
      · exact absurd rfl hne
      · rw [hnone] at hlink
        exact absurd hlink (by simp)
  · exact hlink

/-! ## §4. Linking. -/

/-- A change of the source that sets a link, and then one of the target that sets none. -/
theorem attaches_modify {f g : Lexeme → Lexeme} (hsource : source < a.size)
    (hf : ∀ l other, (f l).link other = if other = link then some target else l.link other)
    (hg : ∀ l other, (g l).link other = l.link other)
    (hfback : ∀ l p, (f l).LeadsBack p ↔ l.LeadsBack p)
    (hgback : ∀ l p, (g l).LeadsBack p → l.LeadsBack p ∨ p = source
      ∨ (a.get source).LeadsBack p) :
    Attaches link source target a ((a.modify source f).modify target g) where
  size := by rw [size_modify, size_modify]
  links := by
    intro other j
    rw [comp_get_modify _ target j (fun l => l.link other) (hg _ other)]
    by_cases hj : j = source
    · rw [hj, get_modify_self a f hsource, hf]
      simp
    · rw [get_modify_of_ne a f hj, if_neg fun hnew => hj hnew.2]
  back := by
    intro j p hback
    have hold : ∀ i, ((a.modify source f).get i).LeadsBack p → (a.get i).LeadsBack p := by
      intro i hi
      have hsame := comp_get_modify a source i (fun l => l.LeadsBack p)
        (propext (hfback (a.get source) p))
      rwa [hsame] at hi
    by_cases hj : j = target
    · by_cases hinside : target < (a.modify source f).size
      · rw [hj, get_modify_self _ g hinside] at hback
        rcases hgback _ p hback with hback | hback
        · exact Or.inl (hj ▸ hold target hback)
        · exact Or.inr ⟨hj, hback⟩
      · -- outside of the arena there is nothing to change
        have hout : (((a.modify source f).modify target g).get j).Unlinked :=
          unlinked_of_size_le (by rw [size_modify, hj]; exact Nat.le_of_not_lt hinside)
        exact absurd hback (hout.not_leadsBack p)
    · rw [get_modify_of_ne _ g hj] at hback
      exact Or.inl (hold j hback)

/-- The next step of a path is attached by its child link, and knows its parent. -/
theorem attaches_attachChild (hsource : source < a.size) :
    Attaches .child source target a (a.attachChild source target) := by
  unfold attachChild
  refine attaches_modify hsource ?_ ?_ (fun _ _ => Iff.rfl) ?_
  · intro l other
    cases other <;> rfl
  · intro l other
    cases other <;> rfl
  · rintro l p (hparent | hprev)
    · exact Or.inr (Or.inl (Option.some.inj hparent).symm)
    · exact Or.inl (Or.inr hprev)

/-- The first argument is attached by a link of its own, and knows its function. -/
theorem attaches_attachFirstArg (hsource : source < a.size) :
    Attaches .firstArg source target a (a.attachFirstArg source target) := by
  unfold attachFirstArg
  have hwires := Lexeme.wires_grouped .argument
  refine attaches_modify hsource ?_ ?_ (fun _ _ => Iff.rfl) ?_
  · intro l other
    cases other <;> rfl
  · intro l other
    rw [Lexeme.link_congr (hwires _)]
    cases other <;> rfl
  · intro l p hback
    rcases (Lexeme.leadsBack_congr (hwires _) p).1 hback with hparent | hprev
    · exact Or.inr (Or.inl (Option.some.inj hparent).symm)
    · exact Or.inl (Or.inr hprev)

/-- A sibling leads back to the one before it, and to the parent of that one. -/
theorem attaches_attachNext (hsource : source < a.size) :
    Attaches .next source target a (a.attachNext source target) := by
  have hparent : ((a.modify source fun l => { l with next := some target }).get source).parent
      = (a.get source).parent := comp_get_modify a source source Lexeme.parent rfl
  unfold attachNext
  dsimp only
  rw [hparent]
  refine attaches_modify hsource ?_ ?_ (fun _ _ => Iff.rfl) ?_
  · intro l other
    cases other <;> rfl
  · intro l other
    cases other <;> rfl
  · rintro l p (hsame | hprev)
    · exact Or.inr (Or.inr (Or.inl hsame))
    · exact Or.inr (Or.inl (Option.some.inj hprev).symm)

/-! ## §5. Following links. -/

/-- Links are followed from a lexeme to the last one: every lexeme on the way is in the arena,
and the last one has no such link. -/
inductive Traced (a : Arena) (link : Link) : Nat → List Nat → Prop
  | last {id : Nat} (inside : id < a.size) (ends : (a.get id).link link = none) :
      Traced a link id [id]
  | step {id following : Nat} {ids : List Nat} (inside : id < a.size)
      (leads : (a.get id).link link = some following) (rest : Traced a link following ids) :
      Traced a link id (id :: ids)

/-- From an index on, a link leads to newer lexemes in front of another index. -/
def Ahead (a : Arena) (first bound : Nat) (link : Link) : Prop :=
  ∀ j t : Nat, first ≤ j → (a.get j).link link = some t → j < t ∧ t < bound

/-- In a tidy arena every link leads to newer lexemes inside it. -/
theorem Tidy.ahead (h : a.Tidy first) (link : Link) : a.Ahead first a.size link :=
  fun j t hj hlink => h.forward link j t hj hlink

/-- **A chain of links is followed to its end**, if there are enough steps. -/
theorem Ahead.traced {bound : Nat} (h : a.Ahead first bound link) (hbound : bound ≤ a.size)
    (fuel : Nat) :
    ∀ id : Nat, first ≤ id → id < bound → bound ≤ id + fuel →
      a.Traced link id (a.chain (fun l => l.link link) fuel id) := by
  -- on the number of steps; each gets closer to the bound
  induction fuel with
  | zero =>
      intro id _ hid hfuel
      omega
  | succ fuel ih =>
      intro id hfirst hid hfuel
      unfold chain
      cases hlink : (a.get id).link link with
      | none => exact .last (by omega) hlink
      | some following =>
          have hnext := h id following hfirst hlink
          exact .step (by omega) hlink (ih following (by omega) hnext.2 (by omega))

namespace Traced

variable {id j : Nat} {ids : List Nat}

/-- Links that lead to newer lexemes are traced among these. -/
theorem between {bound : Nat} (h : a.Traced link id ids) (hahead : a.Ahead first bound link)
    (hid : first ≤ id) (hlt : id < bound) : ∀ j ∈ ids, id ≤ j ∧ j < bound := by
  induction h with
  | last =>
      intro j hj
      obtain rfl := List.mem_singleton.1 hj
      exact ⟨Nat.le_refl _, hlt⟩
  | @step id following ids _ leads _ ih =>
      intro j hj
      have hnext := hahead id following hid leads
      rcases List.mem_cons.1 hj with rfl | hj
      · exact ⟨Nat.le_refl _, hlt⟩
      · have hrest := ih (by omega) hnext.2 j hj
        omega

/-- A trace starts with its first lexeme. -/
theorem exists_cons (h : a.Traced link id ids) : ∃ rest, ids = id :: rest := by
  cases h with
  | last => exact ⟨[], rfl⟩
  | step => exact ⟨_, rfl⟩

/-- A trace ends with its last lexeme. -/
theorem exists_append (h : a.Traced link id ids) :
    ∀ default, ∃ before, ids = before ++ [ids.getLastD default] := by
  induction h with
  | last => exact fun _ => ⟨[], rfl⟩
  | @step id _ _ _ _ _ ih =>
      intro default
      obtain ⟨before, hbefore⟩ := ih id
      rw [List.getLastD_cons]
      exact ⟨id :: before, congrArg (id :: ·) hbefore⟩

/-- The last lexeme of a trace leads nowhere. -/
theorem ends_last (h : a.Traced link id ids) :
    ∀ default, (a.get (ids.getLastD default)).link link = none := by
  induction h with
  | last _ ends => exact fun _ => ends
  | @step id _ _ _ _ _ ih =>
      intro default
      rw [List.getLastD_cons]
      exact ih id

end Traced

/-- The end of a path is found, and it is newer than its start. -/
theorem Ahead.deepest {bound id : Nat} (h : a.Ahead first bound .child) (hbound : bound ≤ a.size)
    (hfirst : first ≤ id) (hid : id < bound) :
    id ≤ a.deepest id ∧ a.deepest id < bound ∧ (a.get (a.deepest id)).child = none := by
  have htraced : a.Traced .child id (a.chain Lexeme.child a.size id) :=
    h.traced hbound a.size id hfirst hid (by omega)
  have hends := htraced.ends_last id
  unfold Arena.deepest
  generalize a.chain Lexeme.child a.size id = ids at htraced hends ⊢
  obtain ⟨before, hbefore⟩ := htraced.exists_append id
  have hmem : ids.getLastD id ∈ ids := by
    generalize ids.getLastD id = last at hbefore
    simp [hbefore]
  have hbetween := htraced.between h hfirst hid _ hmem
  exact ⟨hbetween.1, hbetween.2, hends⟩

end Arena

end LayerTemplates
