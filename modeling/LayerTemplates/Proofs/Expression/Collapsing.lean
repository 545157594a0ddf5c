/-
  LayerTemplates.Proofs.Expression.Collapsing
  ───────────────────────────────────────────
  Which bodies have the same structure.

  What stands in square brackets and what follows them is one path, and a step that counts levels
  upwards or is called has the same kind behind a dot as in brackets.  So two things of the tokens
  are lost: where square brackets close, and whether such a step stood in brackets.  Nothing else
  is: what is kept of the tokens can be read off the structure, and the structure can be read off
  what is kept.

  Main statements:
    * `Laid.kept` — what is kept of the tokens of a body is told by the shape of its chains.
    * `Shape.decodes` — no other shape tells the same tokens.
    * `alike_iff_keptTokens` — two bodies without an issue have the same structure if and only if
      the same is kept of their tokens.
-/
import LayerTemplates.Proofs.Expression.Likeness
import LayerTemplates.Proofs.Expression.Tokens
import LayerTemplates.Proofs.Expression.Walking

namespace LayerTemplates

/-! ## §1. What is kept. -/

/-- The tokens start with an argument list. -/
def StartsCall (ts : List Token) : Prop := ts.head? = some (.delimiter (.opening .round))

instance (ts : List Token) : Decidable (StartsCall ts) :=
  inferInstanceAs (Decidable (ts.head? = some (.delimiter (.opening .round))))

/-- What the structure of expressions keeps of their tokens.  No square bracket is closed, and
before an operand that counts levels upwards or is called a dot stands for an opening one. -/
def keptTokens : List Token → List Token
  | [] => []
  | .closer .square :: rest => keptTokens rest
  | .delimiter (.opening .square) :: .operand o :: rest =>
      .delimiter (if o.form = .relative ∨ StartsCall (keptTokens rest) then .dot
          else .opening .square)
        :: .operand o :: keptTokens rest
  | token :: rest => token :: keptTokens rest

/-- The argument list of a function; other steps have none. -/
def callTokens (kind : LexemeKind) (arguments : List Token) : List Token :=
  if kind = .function then .delimiter (.opening .round) :: (arguments ++ [.closer .round]) else []

/-- What is kept before a step that is not the first. -/
def joint (kind : LexemeKind) : Token :=
  .delimiter (if kind = .element then .opening .square else .dot)

mutual

/-- What is kept of the steps of a path after the first. -/
def Shape.laterTokens : Shape → List Token
  | .nothing => []
  | .lexeme o kind arguments child _ =>
      joint kind :: .operand o
        :: (callTokens kind (arguments.listTokens [] [.delimiter .comma]) ++ child.laterTokens)

/-- What is kept of a path and of its siblings, with tokens before the path and before each
sibling. -/
def Shape.listTokens : Shape → List Token → List Token → List Token
  | .nothing, _, _ => []
  | .lexeme o kind arguments child next, before, between =>
      before ++ .operand o
        :: (callTokens kind (arguments.listTokens [] [.delimiter .comma])
          ++ (child.laterTokens ++ next.listTokens between between))

end

/-- What is kept of the argument list of a step. -/
def Step.callTokens (s : Step) : List Token :=
  LayerTemplates.callTokens s.kind (s.arguments.listTokens [] [.delimiter .comma])

variable {escape : Char}

theorem Step.Uncalled.callTokens {s : Step} (h : s.Uncalled) : s.callTokens = [] := if_neg h.1

theorem Shape.listTokens_of_ne_nothing {shape : Shape} (h : shape ≠ .nothing)
    (before between : List Token) :
    shape.listTokens before between = before ++ shape.listTokens [] between := by
  cases shape with
  | nothing => exact absurd rfl h
  | lexeme o kind arguments child next => rfl

/-! ## §2. What is kept of chains. -/

/-- Of the tokens behind a step a path is kept, and others behind it.  The path starts with what
became of the step. -/
def Keeps (behind : List Token) (s : Step) (ts : List Token) (steps : List Step) : Prop :=
  ∃ t later, steps = t :: later ∧ s.Grows t
    ∧ s.callTokens ++ keptTokens ts
      = t.callTokens ++ ((Shape.path later .nothing).laterTokens ++ behind)

/-- No argument list starts where the steps of a path go on. -/
theorem not_startsCall_later {behind : List Token} (h : ¬ StartsCall behind) (child : Shape) :
    ¬ StartsCall (child.laterTokens ++ behind) := by
  cases child with
  | nothing => exact h
  | lexeme o kind arguments child next =>
      show ¬ (some (joint kind) = _)
      unfold joint
      split <;> simp

theorem joint_of_dot {o : Operand} {t : Step} (h : (o.step .plain).Grows t) :
    joint t.kind = .delimiter .dot := by
  refine congrArg Token.delimiter (if_neg ?_)
  rcases h.kind with hkind | hkind <;> rw [hkind]
  · show o.kindIn .plain ≠ .element
    unfold Operand.kindIn
    split <;> simp
  · simp

/-- An opening square bracket is kept before an element only. -/
theorem joint_of_square {o : Operand} {t : Step} (h : (o.step .element).Grows t)
    {later behind : List Token} (hlater : ¬ StartsCall (later ++ behind)) :
    .delimiter (if o.form = .relative ∨ StartsCall (t.callTokens ++ (later ++ behind)) then .dot
      else .opening .square) = joint t.kind := by
  have hcall : StartsCall (t.callTokens ++ (later ++ behind)) ↔ t.kind = .function := by
    unfold Step.callTokens callTokens
    split
    · next hkind => exact iff_of_true rfl hkind
    · next hkind => exact iff_of_false hlater hkind
  have helement : t.kind = .element ↔ ¬ (o.form = .relative ∨ t.kind = .function) := by
    rcases h.kind with hkind | hkind
    · rw [hkind]
      show o.kindIn .element = .element ↔ ¬ (_ ∨ o.kindIn .element = .function)
      unfold Operand.kindIn
      by_cases hform : o.form = .relative <;> simp [hform]
    · rw [hkind]
      simp
  unfold joint
  rw [← hcall] at helement
  by_cases hkind : t.kind = .element
  · rw [if_neg (helement.1 hkind), if_pos hkind]
  · rw [if_pos (not_not.1 fun h => hkind (helement.2 h)), if_neg hkind]

/-- A path with a step before it. -/
theorem Keeps.join {o : Operand} {group : LexemeKind} {behind ts us : List Token} {s : Step}
    {steps : List Step} (hgroup : group ≠ .function) (h : Keeps behind (o.step group) ts steps)
    (hjoint : ∀ t later, (o.step group).Grows t
      → keptTokens ts = t.callTokens ++ ((Shape.path later .nothing).laterTokens ++ behind)
      → keptTokens us = joint t.kind :: .operand o :: keptTokens ts) :
    Keeps behind s us (s :: steps) := by
  obtain ⟨t, later, rfl, grows, kept⟩ := h
  rw [(o.step_uncalled hgroup).callTokens, List.nil_append] at kept
  refine ⟨s, t :: later, rfl, .refl s, ?_⟩
  rw [hjoint t later grows kept, kept, show o = t.operand from grows.operand.symm]
  simp only [Shape.path, Shape.laterTokens, Step.callTokens, List.cons_append, List.append_assoc]

/-- What is kept of what characters stand for. -/
def Part.Kept : Part → List Token → Prop
  | .suffixes s passed last, ts =>
      ∀ us steps behind, ¬ StartsCall behind → Keeps behind last us steps →
        Keeps behind s (ts ++ us) (passed ++ steps)
  | .arguments shape, ts =>
      ∀ us, ¬ StartsCall (keptTokens us) →
        keptTokens (ts ++ us) = shape.listTokens [] [.delimiter .comma] ++ keptTokens us

/-- What is kept of an operand with its suffixes. -/
theorem kept_chain {o : Operand} {group : LexemeKind} {passed : List Step} {last : Step}
    {ts us between behind : List Token} {next : Shape} (hgroup : group ≠ .function)
    (h : Part.Kept (.suffixes (o.step group) passed last) ts) (hus : ¬ StartsCall (keptTokens us))
    (hnext : keptTokens us = next.listTokens between between ++ behind) :
    keptTokens (.operand o :: (ts ++ us))
      = (Shape.path (passed ++ [last]) next).listTokens [] between ++ behind := by
  obtain ⟨t, later, hsteps, grows, kept⟩ :=
    h us [last] (keptTokens us) hus ⟨last, [], rfl, .refl last, rfl⟩
  rw [(o.step_uncalled hgroup).callTokens, List.nil_append] at kept
  show .operand o :: keptTokens (ts ++ us) = _
  rw [hsteps, kept, hnext, show o = t.operand from grows.operand.symm]
  simp only [Shape.path, Shape.listTokens, Step.callTokens, List.cons_append, List.nil_append,
    List.append_assoc]

/-- **What is kept of what is drawn.** -/
theorem Draws.kept {part : Part} {x : List Char} {ts : List Token} (h : Draws escape part x ts) :
    part.Kept ts := by
  -- along the derivation; behind the last step may stand what makes more of it
  induction h with
  | done => exact fun _ _ _ _ hkeeps => hkeeps
  | dot _ _ _ _ ih =>
      intro us steps behind hbehind hkeeps
      refine (ih us steps behind hbehind hkeeps).join plain_ne_function ?_
      intro t later grows _
      rw [joint_of_dot grows]
      rfl
  | @square s inner last o passed more _ _ _ _ _ _ ts us' _ _ _ _ _ _ ihinside ih =>
      intro us steps behind hbehind hkeeps
      have hrest := ih us steps behind hbehind hkeeps
      -- the closing bracket is dropped, so the path inside goes on with what follows it
      have hclosed : Keeps behind inner (.closer .square :: (us' ++ us)) (more ++ steps) := hrest
      have hinside := ihinside _ _ behind hbehind hclosed
      rw [show s :: (passed ++ more) ++ steps = s :: (passed ++ (more ++ steps)) by simp]
      refine hinside.join (by simp) ?_
      intro t later grows kept
      rw [← joint_of_square grows (not_startsCall_later hbehind _), ← kept]
      simp [keptTokens]
  | call uncalled _ _ _ ih =>
      intro us steps behind hbehind hkeeps
      obtain ⟨t, later, hsteps, grows, kept⟩ := ih us steps behind hbehind hkeeps
      refine ⟨t, later, hsteps, grows.of_call, ?_⟩
      rw [uncalled.callTokens, ← kept]
      rfl
  | @round s last passed shape _ _ _ ts us' uncalled _ _ _ ihinside ih =>
      intro us steps behind hbehind hkeeps
      have harguments := ihinside (.closer .round :: (us' ++ us)) (by simp [StartsCall, keptTokens])
      obtain ⟨t, later, hsteps, grows, kept⟩ := ih us steps behind hbehind hkeeps
      refine ⟨t, later, hsteps, grows.of_call, ?_⟩
      rw [uncalled.callTokens, ← kept]
      show keptTokens (.delimiter (.opening .round) :: (ts ++ .closer .round :: us' ++ us)) = _
      rw [List.append_assoc, List.cons_append]
      show .delimiter (.opening .round) :: keptTokens (ts ++ .closer .round :: (us' ++ us)) = _
      rw [harguments]
      simp [Step.callTokens, callTokens, Step.call, keptTokens]
  | argument _ _ _ _ ih =>
      intro us hus
      exact kept_chain (by simp) ih hus rfl
  | @more o last passed shape _ _ _ _ _ ts us' _ _ _ _ rest ih ihrest =>
      intro us hus
      have hne : shape ≠ .nothing := by
        rintro rfl
        exact nomatch rest.link?_arguments 0
      rw [List.cons_append, List.append_assoc]
      refine kept_chain (by simp) ih (by simp [StartsCall, keptTokens]) ?_
      rw [Shape.listTokens_of_ne_nothing hne]
      exact congrArg (Token.delimiter .comma :: ·) (ihrest us hus)

/-- The tokens of the first chain of several. -/
theorem kept_cons {o : Operand} {passed : List Step} {last : Step} {x : List Char}
    {ts : List Token} {chains : List Chain}
    (tail : Draws escape (.suffixes (o.step .plain) passed last) x ts)
    (hothers : keptTokens (chains.flatMap Chain.tokens) = (Chain.shape chains).listTokens [] [])
    (hstart : ¬ StartsCall (keptTokens (chains.flatMap Chain.tokens))) :
    keptTokens ((Chain.of o ts passed last :: chains).flatMap Chain.tokens)
      = (Chain.shape (.of o ts passed last :: chains)).listTokens [] [] := by
  have hkept := kept_chain plain_ne_function tail.kept hstart
    (hothers.trans (List.append_nil _).symm)
  rw [List.append_nil] at hkept
  exact hkept

theorem Strung.kept {m : List Char} {chains : List Chain} (h : Strung escape m chains) :
    keptTokens (chains.flatMap Chain.tokens) = (Chain.shape chains).listTokens [] []
      ∧ ¬ StartsCall (keptTokens (chains.flatMap Chain.tokens)) := by
  induction h with
  | nil => exact ⟨rfl, by simp [StartsCall, keptTokens]⟩
  | cons _ _ _ tail _ ih =>
      exact ⟨kept_cons tail ih.1 ih.2, by simp [StartsCall, keptTokens, Chain.of]⟩

/-- **What is kept of the tokens of a body** is told by the shape of its chains. -/
theorem Laid.kept {body : List Char} {chains : List Chain} (h : Laid escape body chains) :
    keptTokens (tokens escape body) = (Chain.shape chains).listTokens [] [] := by
  rw [h.tokens_eq]
  cases h with
  | sign | comment => rfl
  | insert _ _ _ tail others _ =>
      exact congrArg (Token.operand (.sign '=') :: ·) (kept_cons tail others.kept.1 others.kept.2)
  | operands _ _ _ tail _ others _ => exact kept_cons tail others.kept.1 others.kept.2

/-! ## §3. The shape is told by what is kept. -/

/-- The token goes on with a path. -/
def Token.isSuffix : Token → Bool
  | .delimiter .dot | .delimiter (.opening _) => true
  | _ => false

/-- A path does not go on with the tokens. -/
def EndsPath (ts : List Token) : Prop := ∀ t, ts.head? = some t → t.isSuffix = false

/-- Neither does a list of paths; an argument list ends with its closing bracket. -/
def EndsList (ts : List Token) : Prop := ∀ t, ts.head? = some t → t = .closer .round

/-- What stands between paths. -/
def Separates (ts : List Token) : Prop := ts = [] ∨ ts = [.delimiter .comma]

theorem EndsList.endsPath {ts : List Token} (h : EndsList ts) : EndsPath ts := by
  intro t ht
  rw [h t ht]
  rfl

/-- Steps, if there are any, go on with a path. -/
theorem EndsPath.ne_later {ts us : List Token} (h : EndsPath ts) (o : Operand) (kind : LexemeKind)
    (arguments child next : Shape) :
    (Shape.lexeme o kind arguments child next).laterTokens ++ us ≠ ts := by
  rintro rfl
  have hsuffix := h (joint kind) rfl
  unfold joint at hsuffix
  split at hsuffix <;> exact absurd hsuffix (by decide)

/-- A path, if there is one, goes on with a list. -/
theorem EndsList.ne_list {ts us before between : List Token} (h : EndsList ts)
    (hbefore : Separates before) (o : Operand) (kind : LexemeKind)
    (arguments child next : Shape) :
    (Shape.lexeme o kind arguments child next).listTokens before between ++ us ≠ ts := by
  rintro rfl
  rcases hbefore with rfl | rfl
  · exact nomatch h (.operand o) rfl
  · exact nomatch h (.delimiter .comma) rfl

/-- The siblings of a path do not go on with it. -/
theorem endsPath_list {shape : Shape} {ts between : List Token} (hbetween : Separates between)
    (h : EndsList ts) : EndsPath (shape.listTokens between between ++ ts) := by
  cases shape with
  | nothing => exact h.endsPath
  | lexeme o kind arguments child next =>
      intro t ht
      rcases hbetween with rfl | rfl
      · obtain rfl : Token.operand o = t := Option.some.inj ht
        rfl
      · obtain rfl : Token.delimiter .comma = t := Option.some.inj ht
        rfl

/-- Steps of the same path or list that are told by the same tokens are the same, whatever stands
behind them. -/
structure Shape.Decodes (escape : Char) (shape : Shape) : Prop where
  later {shape' : Shape} {ts us : List Token} (fits : shape.Fits escape .step)
    (fits' : shape'.Fits escape .step) (ends : EndsPath ts) (ends' : EndsPath us)
    (same : shape.laterTokens ++ ts = shape'.laterTokens ++ us) : shape = shape' ∧ ts = us
  list {site : Site} {shape' : Shape} {before between ts us : List Token} (nested : site ≠ .step)
    (fits : shape.Fits escape site) (fits' : shape'.Fits escape site)
    (separates : Separates before) (separates' : Separates between) (ends : EndsList ts)
    (ends' : EndsList us)
    (same : shape.listTokens before between ++ ts = shape'.listTokens before between ++ us) :
    shape = shape' ∧ ts = us

theorem Step.startsCall_iff (s : Step) {child : Shape} {ts : List Token} (h : EndsPath ts) :
    StartsCall (s.callTokens ++ (child.laterTokens ++ ts)) ↔ s.kind = .function := by
  unfold Step.callTokens LayerTemplates.callTokens
  split
  · next hkind => exact iff_of_true rfl hkind
  · next hkind =>
      refine iff_of_false (not_startsCall_later (fun hcall => ?_) child) hkind
      exact absurd (h _ hcall) (by decide)

/-- A step with the steps behind it is told by its argument list and theirs. -/
theorem Shape.Decodes.called {site : Site} (s s' : Step) {child child' : Shape}
    {ts us : List Token} (harguments : s.arguments.Decodes escape) (hchild : child.Decodes escape)
    (hs : s.Fits escape site) (hs' : s'.Fits escape site) (hfits : child.Fits escape .step)
    (hfits' : child'.Fits escape .step) (hts : EndsPath ts) (hus : EndsPath us)
    (hsame : s.callTokens ++ (child.laterTokens ++ ts)
      = s'.callTokens ++ (child'.laterTokens ++ us)) :
    (s.kind = .function ↔ s'.kind = .function) ∧ s.arguments = s'.arguments ∧ child = child'
      ∧ ts = us := by
  have hcalled : s.kind = .function ↔ s'.kind = .function := by
    rw [← s.startsCall_iff hts, ← s'.startsCall_iff hus, hsame]
  refine ⟨hcalled, ?_⟩
  unfold Step.callTokens callTokens at hsame
  -- a closing bracket ends the arguments; without a call nothing stands before the next step
  by_cases hkind : s.kind = .function
  · rw [if_pos hkind, if_pos (hcalled.1 hkind)] at hsame
    simp only [List.cons_append, List.append_assoc, List.cons.injEq, true_and,
      List.nil_append] at hsame
    have hclosed : ∀ ts : List Token, EndsList (.closer .round :: ts) :=
      fun ts t ht => (Option.some.inj ht).symm
    obtain ⟨hlist, hrest⟩ := harguments.list (by simp) hs.list hs'.list (.inl rfl) (.inr rfl)
      (hclosed _) (hclosed _) hsame
    exact ⟨hlist, hchild.later hfits hfits' hts hus (List.cons.inj hrest).2⟩
  · have hkind' : s'.kind ≠ .function := fun h => hkind (hcalled.2 h)
    rw [if_neg hkind, if_neg hkind', List.nil_append, List.nil_append] at hsame
    exact ⟨(hs.uncalled hkind).1.trans (hs'.uncalled hkind').1.symm,
      hchild.later hfits hfits' hts hus hsame⟩

/-- So is its kind: of what is not called only an element has a bracket before it. -/
theorem Step.Fits.kind_eq {site : Site} {s s' : Step} (hs : s.Fits escape site)
    (hs' : s'.Fits escape site) (hoperand : s.operand = s'.operand)
    (hcalled : s.kind = .function ↔ s'.kind = .function)
    (hjoint : site = .step → joint s.kind = joint s'.kind) : s.kind = s'.kind := by
  by_cases hkind : s.kind = .function
  · rw [hkind, hcalled.1 hkind]
  · obtain ⟨-, group, hgroup, hin⟩ := hs.uncalled hkind
    obtain ⟨-, group', hgroup', hin'⟩ := hs'.uncalled fun h => hkind (hcalled.2 h)
    rw [← hoperand] at hin'
    unfold Operand.kindIn at hin hin'
    split at hin
    · next hform => rw [hin, hin', if_pos hform]
    · next hform =>
        rw [if_neg hform] at hin'
        rw [hin, hin'] at hjoint ⊢
        cases site with
        | root => exact hgroup.trans hgroup'.symm
        | argument => exact hgroup.trans hgroup'.symm
        | step =>
            have hsame := hjoint rfl
            rcases hgroup with rfl | rfl <;> rcases hgroup' with rfl | rfl <;>
              first | rfl | exact absurd hsame (by decide)

/-- **No other shape tells the same tokens.** -/
theorem Shape.decodes (shape : Shape) : shape.Decodes escape := by
  induction shape with
  | nothing =>
      constructor
      · intro shape' ts us _ _ hts _ hsame
        cases shape' with
        | nothing => exact ⟨rfl, hsame⟩
        | lexeme => exact absurd hsame.symm (hts.ne_later _ _ _ _ _)
      · intro site shape' before between ts us _ _ _ hbefore _ hts _ hsame
        cases shape' with
        | nothing => exact ⟨rfl, hsame⟩
        | lexeme => exact absurd hsame.symm (hts.ne_list hbefore _ _ _ _ _)
  | lexeme o kind arguments child next iharguments ihchild ihnext =>
      constructor
      · intro shape' ts us hfits hfits' hts hus hsame
        cases shape' with
        | nothing => exact absurd hsame (hus.ne_later _ _ _ _ _)
        | lexeme o' kind' arguments' child' next' =>
            -- a step has no sibling, and its kind is told by what stands before it
            obtain rfl := hfits.2.2.2.1 rfl
            obtain rfl := hfits'.2.2.2.1 rfl
            simp only [laterTokens, List.cons_append, List.append_assoc, List.cons.injEq,
              Token.operand.injEq] at hsame
            obtain ⟨hjoint, rfl, hbehind⟩ := hsame
            obtain ⟨hcalled, rfl, rfl, rfl⟩ := Decodes.called ⟨o, kind, arguments⟩
              ⟨o, kind', arguments'⟩ iharguments ihchild hfits.first hfits'.first
              hfits.2.2.1 hfits'.2.2.1 hts hus hbehind
            obtain rfl := hfits.first.kind_eq hfits'.first rfl hcalled fun _ => hjoint
            exact ⟨rfl, rfl⟩
      · intro site shape' before between ts us hnested hfits hfits' hbefore hbetween hts hus hsame
        cases shape' with
        | nothing => exact absurd hsame (hus.ne_list hbefore _ _ _ _ _)
        | lexeme o' kind' arguments' child' next' =>
            simp only [listTokens, List.cons_append, List.append_assoc, List.append_cancel_left_eq,
              List.cons.injEq, Token.operand.injEq] at hsame
            obtain ⟨rfl, hbehind⟩ := hsame
            obtain ⟨hcalled, rfl, rfl, hrest⟩ := Decodes.called ⟨o, kind, arguments⟩
              ⟨o, kind', arguments'⟩ iharguments ihchild hfits.first hfits'.first
              hfits.2.2.1 hfits'.2.2.1 (endsPath_list hbetween hts) (endsPath_list hbetween hus)
              hbehind
            -- the siblings stand behind the whole path
            obtain ⟨rfl, rfl⟩ := ihnext.list hnested hfits.2.2.2.2 hfits'.2.2.2.2 hbetween hbetween
              hts hus hrest
            obtain rfl := hfits.first.kind_eq hfits'.first rfl hcalled fun h => absurd h hnested
            exact ⟨rfl, rfl⟩

/-! ## §4. Bodies. -/

theorem Chain.fits_shape {chains : List Chain} (h : ∀ c ∈ chains, Fitting escape .root c.steps) :
    (Chain.shape chains).Fits escape .root := by
  induction chains with
  | nil => trivial
  | cons c others ih =>
      rw [List.forall_mem_cons] at h
      exact h.1.path (by simp) (ih h.2)

/-- The chains of a body fit, but for the sign of a comment. -/
theorem Laid.fits_or_comment {body : List Char} {chains : List Chain} (h : Laid escape body chains) :
    (Chain.shape chains).Fits escape .root ∨ chains = [.sign '#'] := by
  have hsign : Fitting escape .root (Chain.sign '=').steps := by
    refine .steps (Operand.step_fits (p := ['=']) ?_ rfl) (by simp)
    exact .word (by simp) (List.forall_mem_singleton.2 (by decide))
  cases h with
  | sign => exact .inl (Chain.fits_shape (List.forall_mem_singleton.2 hsign))
  | insert _ _ head tail others _ =>
      refine .inl (Chain.fits_shape (List.forall_mem_cons.2 ⟨hsign, ?_⟩))
      exact List.forall_mem_cons.2 ⟨Chain.fits head tail, others.fits⟩
  | operands _ head _ tail _ others _ =>
      exact .inl (Chain.fits_shape (List.forall_mem_cons.2 ⟨Chain.fits head tail, others.fits⟩))
  | comment => exact .inr rfl

/-- No operand is spelled as the sign of a comment. -/
theorem not_spelling_comment {p : List Char} : ¬ Spelling escape p (.sign '#') := by
  intro h
  generalize ho : Operand.sign '#' = o at h
  cases h with
  | word nonempty chars =>
      have hp : "#".toList = p := by
        rw [← String.toList_ofList (l := p)]
        exact congrArg (fun o => String.toList (Operand.value o)) ho
      exact absurd (chars '#' (by rw [← hp]; simp)) (by decide)
  | literal => exact nomatch congrArg Operand.quote ho
  | ancestor => exact nomatch congrArg Operand.form ho

/-- A shape with the sign of a comment first does not fit. -/
theorem Shape.Fits.ne_comment {shape : Shape} (h : shape.Fits escape .root) :
    shape.listTokens [] [] ≠ (Chain.shape [.sign '#']).listTokens [] [] := by
  cases shape with
  | nothing => exact fun hsame => nomatch hsame
  | lexeme o kind arguments child next =>
      intro hsame
      have hoperand : Token.operand o = .operand (.sign '#') := (List.cons.inj hsame).1
      obtain rfl : o = .sign '#' := Token.operand.inj hoperand
      exact not_spelling_comment h.1.choose_spec

/-- **The shape of a body is told by what is kept of its tokens**, and tells it. -/
theorem Laid.shape_eq_iff {body body' : List Char} {chains chains' : List Chain}
    (h : Laid escape body chains) (h' : Laid escape body' chains') :
    Chain.shape chains = Chain.shape chains'
      ↔ keptTokens (tokens escape body) = keptTokens (tokens escape body') := by
  rw [h.kept, h'.kept]
  refine ⟨fun hshape => by rw [hshape], fun hsame => ?_⟩
  -- the sign of a comment is the only operand that is spelled in no way
  rcases h.fits_or_comment with hfits | rfl <;> rcases h'.fits_or_comment with hfits' | rfl
  · refine ((Chain.shape chains).decodes.list (by simp) hfits hfits' (.inl rfl) (.inl rfl)
      (by simp [EndsList]) (by simp [EndsList]) (congrArg (· ++ []) hsame)).1
  · exact absurd hsame hfits.ne_comment
  · exact absurd hsame.symm hfits'.ne_comment
  · rfl

/-- What shows the same shape has alike siblings. -/
theorem Arena.Shows.alike_heads {a a' : Arena} {shape : Shape} :
    ∀ {place place' : Place} {id id' : Nat}, a.Shows place id shape → a'.Shows place' id' shape →
      List.Forall₂ (fun r r' => a.Alike a' (some r) (some r')) (shape.heads id)
        (shape.heads id') := by
  induction shape with
  | nothing => intros; exact .nil
  | lexeme o kind arguments child next _ _ ih =>
      intro place place' id id' h h'
      exact .cons (h.alike h') (ih h.2.2.2 h'.2.2.2)

/-- What is read of two laid out bodies is alike if the same is kept of their tokens, and only
then. -/
theorem Laid.alike_iff {body body' : List Char} {chains chains' : List Chain} {a a' : Arena}
    {e e' : Expression} (h : Laid escape body chains) (h' : Laid escape body' chains')
    (hholds : e.Holds a chains) (hholds' : e'.Holds a' chains') :
    List.Forall₂ (fun r r' => a.Alike a' (some r) (some r')) e.roots e'.roots
      ↔ keptTokens (tokens escape body) = keptTokens (tokens escape body') := by
  rw [hholds.roots, hholds'.roots, ← h.shape_eq_iff h']
  constructor
  · intro halike
    obtain ⟨others, hfirst⟩ := List.head?_eq_some_iff.1 (h.first 0).2
    obtain ⟨others', hfirst'⟩ := List.head?_eq_some_iff.1 (h'.first 0).2
    rw [hfirst, hfirst'] at halike
    have hboth := (List.forall₂_cons.1 halike).1
    refine Arena.Alike.shape_eq hholds.shows hholds'.shows ?_
    rw [(h.first 0).1, (h'.first 0).1]
    exact hboth
  · intro hshape
    have hshows' := hholds'.shows
    rw [← hshape] at hshows'
    rw [Chain.rootsFrom_eq chains (fun c hc => (h.straight c hc).1),
      Chain.rootsFrom_eq chains' (fun c hc => (h'.straight c hc).1), ← hshape]
    exact hholds.shows.alike_heads hshows'

/-- **Bodies have the same structure if the same is kept of their tokens, and only then.**  The
roots of two bodies without an issue are alike one by one if and only if the bodies have the same
tokens, but for where square brackets close and for whether what counts levels upwards or is called
stands behind a dot or in square brackets. -/
theorem alike_iff_keptTokens (body body' : String) (escape : Char)
    (hclean : (Expression.read body escape).2.issues = [])
    (hclean' : (Expression.read body' escape).2.issues = []) :
    List.Forall₂
        (fun r r' => (Expression.read body escape).1.Alike (Expression.read body' escape).1
          (some r) (some r'))
        (Expression.read body escape).2.roots (Expression.read body' escape).2.roots
      ↔ keptTokens (tokens escape body.toList) = keptTokens (tokens escape body'.toList) := by
  obtain ⟨chains, hlaid, hholds⟩ := read_holds hclean
  obtain ⟨chains', hlaid', hholds'⟩ := read_holds hclean'
  exact hlaid.alike_iff hlaid' hholds hholds'

/-- Brackets that close earlier, and a dot before a call and before what counts levels upwards. -/
theorem alike_keptTokens_brackets :
    let read := Expression.read "f(a[b.c], d) x[^1] y[g(z)]" '\\'
    let read' := Expression.read "f( a[b].c,d ) x.^1 y.g(z)" '\\'
    read.2.issues = [] ∧ read'.2.issues = []
      ∧ List.Forall₂ (fun r r' => read.1.Alike read'.1 (some r) (some r')) read.2.roots
        read'.2.roots := by
  intro read read'
  have hclean : read.2.issues = [] := by decide +kernel
  have hclean' : read'.2.issues = [] := by decide +kernel
  exact ⟨hclean, hclean', (alike_iff_keptTokens _ _ _ hclean hclean').2 (by decide +kernel)⟩

/-- **What stands in square brackets cannot be told from what follows them**, so the tokens of a
body are not all told by its structure: those of two bodies differ in where a bracket closes. -/
theorem tokens_not_told :
    ¬ ∀ (escape : Char) (body body' : String),
      (Expression.read body escape).2.issues = [] → (Expression.read body' escape).2.issues = [] →
      (Expression.read body escape).2.comment = none →
      (Expression.read body' escape).2.comment = none →
      List.Forall₂
          (fun r r' => (Expression.read body escape).1.Alike (Expression.read body' escape).1
            (some r) (some r'))
          (Expression.read body escape).2.roots (Expression.read body' escape).2.roots →
      tokens escape body.toList = tokens escape body'.toList := by
  intro htold
  have hclean : (Expression.read "a[b.c]" '\\').2.issues = [] := by decide +kernel
  have hclean' : (Expression.read "a[b].c" '\\').2.issues = [] := by decide +kernel
  obtain ⟨chains, hlaid, hholds⟩ := read_holds hclean
  obtain ⟨chains', hlaid', hholds'⟩ := read_holds hclean'
  have halike := (hlaid.alike_iff hlaid' hholds hholds').2 (by decide +kernel)
  have hsame := htold '\\' "a[b.c]" "a[b].c" hclean hclean' (by decide +kernel)
    (by decide +kernel) halike
  exact absurd hsame (by decide +kernel)

end LayerTemplates
