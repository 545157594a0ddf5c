/-
  LayerTemplates.Proofs.Expression.Remaining
  ──────────────────────────────────────────
  Whatever is accepted is a body of the grammar.

  For every configuration it is said in terms of the grammar what may remain to be read: the
  rest of the operand, the suffixes of its chain, and for every open bracket what closes it.
  If what remains after a step is of this kind, then so is what remained before it, with the
  character of the step in front.

  Main statements:
    * `Config.remaining_step` — one character.
    * `Config.remaining_of_accepts` — what is accepted may remain.
    * `isBody_of_accepts` — whatever is accepted from the start is a body.
-/
import LayerTemplates.Proofs.Expression.Acceptor

namespace LayerTemplates

namespace Config

/-! ## §1. What may remain. -/

/-- What may follow a chain with all its suffixes inside the open brackets. -/
def Beyond (escape : Char) : List Bracket → Bool → List Char → Prop
  | [], _, u => ∃ m t, Separated escape m ∧ Ending t ∧ u = m ++ t
  | .square :: outer, inside, u =>
      ∃ b x v after, Blanks b ∧ Written escape (.suffixes inside) x after
        ∧ Beyond escape outer after v ∧ u = b ++ ']' :: (x ++ v)
  | .round :: outer, _, u =>
      ∃ b x v after, Blanks b ∧ Written escape (.suffixes true) x after
        ∧ Beyond escape outer after v
        ∧ (u = b ++ ')' :: (x ++ v)
          ∨ ∃ args inside, Written escape .arguments args inside
            ∧ u = b ++ ',' :: (args ++ ')' :: (x ++ v)))

/-- What may follow an operand: suffixes, and what may follow them. -/
def Follows (escape : Char) (lead : Option (List Char)) (groups : List Bracket) (called : Bool)
    (rest : List Char) : Prop :=
  ∃ x u after, Written escape (.suffixes called) x after ∧ Beyond escape groups after u
    ∧ rest = x ++ u
    ∧ (groups = [] → namesOperator lead = true → ∀ c, x.head? = some c → isBlank c = false)

/-- What may remain where an operand has to come. -/
def Operand (escape : Char) (groups : List Bracket) (rest : List Char) : Prop :=
  ∃ b p t, Blanks b ∧ Primary escape p ∧ Follows escape none groups false t
    ∧ rest = b ++ (p ++ t)

/-- What may remain between operands.  After blanks it does not matter which they were. -/
def Awaits (escape : Char) (s : Config) (rest : List Char) : Prop :=
  match s.pending with
  | .start => s.groups = [] → IsBody escape rest
  | .adjacent => Follows escape s.lead s.groups s.called rest
  | .blank => ∀ b, b ≠ [] → Blanks b → Follows escape s.lead s.groups s.called (b ++ rest)
  | .delimiter d =>
      Operand escape s.groups rest
        ∨ d = .opening .round ∧ ∃ b t outer, Blanks b ∧ s.groups = .round :: outer
          ∧ Follows escape none outer true t ∧ rest = b ++ ')' :: t

/-- What may remain to be read. -/
def Remaining (escape : Char) (s : Config) (rest : List Char) : Prop :=
  match s.reading with
  | .between => s.Awaits escape rest
  | .word =>
      ∃ w t, (∀ c ∈ w, isLexemeChar c = true)
        ∧ Follows escape (s.lead.map (· ++ w)) s.groups s.called t ∧ rest = w ++ t
  | .literal quote false filled =>
      quote ≠ escape ∧ ∃ w value t, LiteralText escape quote w value
        ∧ (filled = true ∨ value ≠ []) ∧ Follows escape s.lead s.groups s.called t
        ∧ rest = w ++ quote :: t
  | .literal quote true _ =>
      quote ≠ escape ∧ ∃ c w value t, LiteralText escape quote w value
        ∧ Follows escape s.lead s.groups s.called t ∧ rest = c :: (w ++ quote :: t)
  | .number filled =>
      ∃ digits t, (∀ c ∈ digits, c.isDigit = true) ∧ (filled = true ∨ digits ≠ [])
        ∧ Follows escape s.lead s.groups s.called t ∧ rest = digits ++ t
  | .comment => s.groups = [] ∧ (s.pending = .adjacent ∨ s.pending = .blank)

variable {escape : Char} {s s' : Config} {lead : Option (List Char)} {groups : List Bracket}
  {called : Bool} {b rest : List Char}

/-! ## §2. After an operand. -/

/-- What may follow a leading operator may follow any operand, which is held to less: its first
suffix may come after blanks. -/
theorem Follows.unled (h : Follows escape lead groups called rest) :
    Follows escape none groups called rest := by
  obtain ⟨x, u, after, hx, hu, hrest, -⟩ := h
  exact ⟨x, u, after, hx, hu, hrest, fun _ hn => absurd hn (by simp [namesOperator])⟩

/-- What follows a chain follows an operand without suffixes. -/
theorem Beyond.follows (h : Beyond escape groups called rest) :
    Follows escape lead groups called rest :=
  ⟨[], rest, called, .done, h, rfl, fun _ _ _ hc => absurd hc (by simp)⟩

/-- Blanks before a symbol keep a suffix apart only where no keyword leads. -/
theorem apart_of_blanks {c : Char} {x : List Char}
    (hlead : groups = [] → namesOperator lead = true → b = []) (hc : isBlank c = false) :
    groups = [] → namesOperator lead = true → ∀ d, (b ++ c :: x).head? = some d →
      isBlank d = false := by
  intro hg hn d hd
  rw [hlead hg hn] at hd
  obtain rfl := Option.some.inj hd
  exact hc

/-- A dot and an operand behind it make a suffix; blanks may come before it, but not behind an
operator that leads the body. -/
theorem follows_dot (hb : Blanks b) (hlead : groups = [] → namesOperator lead = true → b = [])
    (h : Operand escape groups rest) : Follows escape lead groups called (b ++ '.' :: rest) := by
  obtain ⟨b', p, t, hb', hp, ⟨x, v, after, hx, hv, rfl, -⟩, rfl⟩ := h
  refine ⟨_, v, after, Written.dot hb hb' hp hx, hv, by simp, ?_⟩
  exact apart_of_blanks hlead (by decide)

/-- A square bracket and an operand make a suffix once the bracket is closed, which the rest is
known to do. -/
theorem follows_square (hb : Blanks b) (hlead : groups = [] → namesOperator lead = true → b = [])
    (h : Operand escape (.square :: groups) rest) :
    Follows escape lead groups called (b ++ '[' :: rest) := by
  obtain ⟨b', p, t, hb', hp, ⟨x, u, inside, hx, hu, rfl, -⟩, rfl⟩ := h
  obtain ⟨b'', y, v, after, hb'', hy, hv, rfl⟩ := hu
  refine ⟨_, v, after, Written.square hb hb' (Written.chain hp hx) hb'' hy, hv, by simp, ?_⟩
  exact apart_of_blanks hlead (by decide)

/-- An empty argument list is a suffix, and it may be the only one of its operand. -/
theorem follows_call (hb : Blanks b) (hlead : groups = [] → namesOperator lead = true → b = [])
    {b' t : List Char} (hb' : Blanks b') (h : Follows escape none groups true t) :
    Follows escape lead groups false (b ++ '(' :: (b' ++ ')' :: t)) := by
  obtain ⟨x, v, after, hx, hv, rfl, -⟩ := h
  refine ⟨_, v, after, Written.call hb hb' hx, hv, by simp, ?_⟩
  exact apart_of_blanks hlead (by decide)

/-- What follows an operand in an argument list is the rest of the arguments, the bracket that
closes them, and what follows it. -/
theorem Operand.arguments (h : Operand escape (.round :: groups) rest) :
    ∃ args inside x v after, Written escape .arguments args inside
      ∧ Written escape (.suffixes true) x after ∧ Beyond escape groups after v
      ∧ rest = args ++ ')' :: (x ++ v) := by
  obtain ⟨b', p, t, hb', hp, ⟨x, u, inside, hx, hu, rfl, -⟩, rfl⟩ := h
  obtain ⟨b'', y, v, after, hb'', hy, hv, hrest⟩ := hu
  rcases hrest with rfl | ⟨args, last, hargs, rfl⟩
  · exact ⟨_, inside, y, v, after, Written.argument hb' (Written.chain hp hx) hb'', hy, hv,
      by simp⟩
  · exact ⟨_, last, y, v, after, Written.more hb' (Written.chain hp hx) hb'' hargs, hy, hv,
      by simp⟩

/-- An argument list that starts with an operand is a suffix of an operand that has none yet. -/
theorem follows_round (hb : Blanks b) (hlead : groups = [] → namesOperator lead = true → b = [])
    (h : Operand escape (.round :: groups) rest) :
    Follows escape lead groups false (b ++ '(' :: rest) := by
  obtain ⟨args, inside, x, v, after, hargs, hx, hv, rfl⟩ := h.arguments
  refine ⟨_, v, after, Written.round hb hargs hx, hv, by simp, ?_⟩
  exact apart_of_blanks hlead (by decide)

/-- A comma inside an argument list leads to one more argument. -/
theorem follows_comma (hb : Blanks b) (h : Operand escape (.round :: groups) rest) :
    Follows escape lead (.round :: groups) called (b ++ ',' :: rest) := by
  obtain ⟨args, inside, x, v, after, hargs, hx, hv, rfl⟩ := h.arguments
  exact Beyond.follows ⟨b, x, v, after, hb, hx, hv, Or.inr ⟨args, inside, hargs, rfl⟩⟩

/-- A closing bracket ends the suffix that its opening bracket has started, and more suffixes may
follow it. -/
theorem follows_close (hb : Blanks b) (closer : Bracket)
    (h : Follows escape none groups (called || closer == .round) rest) :
    Follows escape lead (closer :: groups) called (b ++ closer.closeSymbol :: rest) := by
  obtain ⟨x, v, after, hx, hv, rfl, -⟩ := h
  cases closer with
  | square =>
      rw [show (called || Bracket.square == Bracket.round) = called from Bool.or_false called] at hx
      exact Beyond.follows ⟨b, x, v, after, hb, hx, hv, rfl⟩
  | round =>
      rw [show (called || Bracket.round == Bracket.round) = true from Bool.or_true called] at hx
      exact Beyond.follows ⟨b, x, v, after, hb, hx, hv, Or.inl rfl⟩

/-! ## §3. One character. -/

/-- After an operand it is enough to look at what may follow it, with any blanks in front that
were read. -/
theorem awaits_of_follows (hp : s.pending = .adjacent ∨ s.pending = .blank)
    (h : ∀ b, Blanks b → (s.pending = .adjacent → b = []) →
      Follows escape s.lead s.groups s.called (b ++ rest)) : s.Awaits escape rest := by
  unfold Awaits
  rcases hp with hp | hp
  · rw [hp]
    exact h [] Blanks.nil fun _ => rfl
  · rw [hp]
    exact fun b _ hb => h b hb fun ha => absurd (ha.symm.trans hp) (by simp)

/-- Before a dot or an opening bracket that is in place stands an operand, with blanks behind it or
not. -/
theorem awaits_delimit {d : Delimiter} (hd : d ≠ .comma) (h : s.delimit d = some s')
    (ha : s'.Awaits escape rest) : s.Awaits escape (d.symbol :: rest) := by
  unfold delimit at h
  split at h
  case isFalse => exact absurd h (by simp)
  case isTrue hplace =>
    refine awaits_of_follows (hplace.imp_right And.left) fun b hb hadjacent => ?_
    -- where a keyword leads, the machine lets a delimiter stand next to it only
    have hlead : s.groups = [] → namesOperator s.lead = true → b = [] := by
      intro hg hn
      rcases hplace with hp | ⟨-, hfree⟩
      · exact hadjacent hp
      · exact absurd ⟨hg, hn⟩ hfree
    cases d with
    | comma => exact absurd rfl hd
    | dot =>
        obtain rfl := Option.some.inj h
        rcases ha with hoperand | ⟨hround, -⟩
        · exact follows_dot hb hlead hoperand
        · exact absurd hround (by simp)
    | opening bracket =>
        cases bracket with
        | square =>
            obtain rfl := Option.some.inj h
            rcases ha with hoperand | ⟨hround, -⟩
            · exact follows_square hb hlead hoperand
            · exact absurd hround (by simp)
        | round =>
            unfold delimited at h
            dsimp only at h
            split at h
            case isTrue => exact absurd h (by simp)
            case isFalse hcalled =>
              obtain rfl := Option.some.inj h
              rw [Bool.eq_false_iff.2 hcalled]
              rcases ha with hoperand | ⟨-, b', t, outer, hb', hg, ht, rfl⟩
              · exact follows_round hb hlead hoperand
              · obtain rfl := List.tail_eq_of_cons_eq hg
                exact follows_call hb hlead hb' ht

/-- Before a comma that is in place stands an argument. -/
theorem awaits_comma (h : s.comma = some s') (ha : s'.Awaits escape rest) :
    s.Awaits escape (',' :: rest) := by
  unfold comma at h
  split at h
  case isFalse => exact absurd h (by simp)
  case isTrue hplace =>
    obtain rfl := Option.some.inj h
    refine awaits_of_follows hplace.1 fun b hb _ => ?_
    obtain ⟨outer, hg⟩ := List.head?_eq_some_iff.1 hplace.2
    rcases ha with hoperand | ⟨hround, -⟩
    · rw [hg]
      exact follows_comma hb (hg ▸ hoperand)
    · exact absurd hround (by simp)

/-- Before a closing bracket stands what it closes, or an argument list that is empty. -/
theorem awaits_close {closer : Bracket} (h : s.close closer = some s')
    (ha : s'.Awaits escape rest) : s.Awaits escape (closer.closeSymbol :: rest) := by
  unfold close at h
  split at h
  case h_1 => exact absurd h (by simp)
  case h_2 bracket outer hg =>
    split at h
    case isFalse => exact absurd h (by simp)
    case isTrue hplace =>
      obtain rfl := Option.some.inj h
      obtain ⟨rfl, hp⟩ := hplace
      have hfollows : Follows escape s.lead outer (s.called || bracket == .round) rest := ha
      rcases hp with hp | hp | ⟨hp, rfl⟩
      · refine awaits_of_follows (Or.inl hp) fun b hb _ => ?_
        rw [hg]
        exact follows_close hb bracket hfollows.unled
      · refine awaits_of_follows (Or.inr hp) fun b hb _ => ?_
        rw [hg]
        exact follows_close hb bracket hfollows.unled
      · -- nothing was read since the bracket opened: the argument list is empty
        unfold Awaits
        rw [hp]
        rw [show (s.called || Bracket.round == Bracket.round) = true from Bool.or_true _]
          at hfollows
        exact Or.inr ⟨rfl, [], rest, outer, Blanks.nil, hg, hfollows.unled, rfl⟩

/-- An operand with what may follow it may remain wherever the machine starts one. -/
theorem awaits_begin {reading : Phase} {word : Option (List Char)} {c : Char}
    {p t cs : List Char} (h : s.begin reading word = some s') (hp : Primary escape p)
    (hsign : s.pending = .start → p.head? ≠ some '=') (hcs : c :: cs = p ++ t)
    (hfollows : Follows escape lead s.groups false t)
    (hlead : s.pending = .start → IsKeyword p → namesOperator lead = true) :
    s.Awaits escape (c :: cs) := by
  rw [hcs]
  unfold Awaits
  unfold begin at h
  -- the place of the operand says which rule it is the head of
  cases hpending : s.pending with
  | start =>
      intro hg
      rw [hg] at hfollows
      obtain ⟨x, u, after, hx, ⟨m, t', hm, ht', rfl⟩, rfl, hapart⟩ := hfollows
      exact IsBody.operands Blanks.nil hp (hsign hpending) hx
        (fun hkeyword => hapart rfl (hlead hpending hkeyword)) hm ht'
  | adjacent =>
      rw [hpending] at h
      exact absurd h (by simp)
  | blank =>
      rw [hpending] at h
      dsimp only at h
      split at h
      case isFalse => exact absurd h (by simp)
      case isTrue hg =>
        intro b hne hb
        rw [hg] at hfollows ⊢
        obtain ⟨x, u, after, hx, ⟨m, t', hm, ht', rfl⟩, rfl, -⟩ := hfollows
        refine Beyond.follows ⟨_, t', Separated.cons hne hb (Written.chain hp hx) hm, ht', ?_⟩
        simp
  | delimiter d => exact Or.inl ⟨[], p, t, Blanks.nil, hp, hfollows.unled, rfl⟩

/-- Starting an operand changes what is being read, and at the start of the body the operand leads
it. -/
theorem begin_eq {reading : Phase} {word : Option (List Char)}
    (h : s.begin reading word = some s') :
    ∃ lead, s' = { s with reading, called := false, lead }
      ∧ (s.pending = .start → lead = word) := by
  unfold begin at h
  split at h
  · exact ⟨word, (Option.some.inj h).symm, fun _ => rfl⟩
  · next hp =>
      split at h
      · exact ⟨none, (Option.some.inj h).symm, fun hs => absurd (hp.symm.trans hs) (by simp)⟩
      · exact absurd h (by simp)
  · exact absurd h (by simp)
  · next d hp =>
      exact ⟨none, (Option.some.inj h).symm, fun hs => absurd (hp.symm.trans hs) (by simp)⟩

/-- The characters of a word may remain where its first one starts an operand. -/
theorem awaits_word {c : Char} (hc : isLexemeChar c = true)
    (hsign : s.pending = .start → c ≠ '=') (h : s.begin .word (some [c]) = some s')
    (ha : s'.Remaining escape rest) : s.Awaits escape (c :: rest) := by
  obtain ⟨lead, rfl, hlead⟩ := begin_eq h
  obtain ⟨w, t, hw, hfollows, rfl⟩ := ha
  refine awaits_begin h (Primary.word (List.cons_ne_nil c w) (List.forall_mem_cons.2 ⟨hc, hw⟩)) ?_
    rfl hfollows ?_
  · intro hstart heq
    exact hsign hstart (Option.some.inj heq)
  · intro hstart hkeyword
    -- the word of the machine is the whole word, since nothing was read before it
    obtain ⟨operator, hop⟩ := ofKeyword?_of_isKeyword hkeyword
    rw [hlead hstart]
    show (Operator.ofKeyword? (String.ofList ([c] ++ w))).isSome = true
    rw [List.singleton_append, hop]
    rfl

/-- All keywords start with one of three letters. -/
theorem not_isKeyword_of_head {c : Char} {p : List Char}
    (hc : c.toLower ≠ 'i' ∧ c.toLower ≠ 'u' ∧ c.toLower ≠ 'e') : ¬ IsKeyword (c :: p) := by
  intro h
  unfold IsKeyword at h
  simp only [List.map_cons, List.mem_cons, List.not_mem_nil, or_false] at h
  obtain ⟨hi, hu, he⟩ := hc
  rcases h with h | h | h | h
  · exact hi (List.head_eq_of_cons_eq h)
  · exact hu (List.head_eq_of_cons_eq h)
  · exact he (List.head_eq_of_cons_eq h)
  · exact he (List.head_eq_of_cons_eq h)

/-- A literal may remain where its quote starts an operand. -/
theorem awaits_literal {c : Char} (hc : isQuote c = true)
    (h : s.begin (.literal c false false) none = some s') (ha : s'.Remaining escape rest) :
    s.Awaits escape (c :: rest) := by
  obtain ⟨lead, rfl, hlead⟩ := begin_eq h
  obtain ⟨hne, w, value, t, hw, hvalue, hfollows, rfl⟩ := ha
  have hsome : value ≠ [] := hvalue.resolve_left (by simp)
  -- a quote is neither the insert sign nor the first letter of a keyword
  have hquotes : (quotes.all fun q =>
      decide (q ≠ '=' ∧ q.toLower ≠ 'i' ∧ q.toLower ≠ 'u' ∧ q.toLower ≠ 'e')) = true := by
    decide
  obtain ⟨hsign, hhead⟩ :=
    of_decide_eq_true (List.all_eq_true.1 hquotes c (List.contains_iff_mem.1 hc))
  refine awaits_begin h (Primary.literal hc hne hw hsome) (fun _ heq => ?_) (by simp) hfollows
    fun _ hkeyword => ?_
  · exact hsign (Option.some.inj heq)
  · exact absurd hkeyword (not_isKeyword_of_head hhead)

/-- A caret with its digits may remain where it starts an operand. -/
theorem awaits_number (h : s.begin (.number false) none = some s')
    (ha : s'.Remaining escape rest) : s.Awaits escape ('^' :: rest) := by
  obtain ⟨lead, rfl, hlead⟩ := begin_eq h
  obtain ⟨digits, t, hdigits, hsome, hfollows, rfl⟩ := ha
  refine awaits_begin h (Primary.ancestor (hsome.resolve_left (by simp)) hdigits) (fun _ => by simp)
    rfl hfollows fun _ hkeyword => ?_
  exact absurd hkeyword (not_isKeyword_of_head (by decide))

/-- A blank in front of a body. -/
theorem isBody_blank {c : Char} (hc : isBlank c = true) (h : IsBody escape rest) :
    IsBody escape (c :: rest) := by
  cases h with
  | sign before ending => exact IsBody.sign (before.cons hc) ending
  | insert before behind first others ending =>
      exact IsBody.insert (before.cons hc) behind first others ending
  | operands before head unsigned tail apart others ending =>
      exact IsBody.operands (before.cons hc) head unsigned tail apart others ending
  | comment before => exact IsBody.comment (before.cons hc)

/-- Between operands a blank may stand in front of whatever may remain behind it. -/
theorem awaits_blank {c : Char} (hc : isBlank c = true) (ha : s.spaced.Awaits escape rest) :
    s.Awaits escape (c :: rest) := by
  have hone : Blanks [c] := Blanks.cons hc Blanks.nil
  -- the blank goes to the blanks that what may remain starts with
  unfold Awaits spaced at *
  cases hp : s.pending with
  | start =>
      rw [hp, if_neg (by simp)] at ha
      rw [hp] at ha
      exact fun hg => isBody_blank hc (ha hg)
  | adjacent =>
      rw [hp, if_pos rfl] at ha
      exact ha [c] (by simp) hone
  | blank =>
      rw [hp, if_neg (by simp)] at ha
      rw [hp] at ha
      intro b _ hb
      have hmore := ha (b ++ [c]) (by simp) (hb.append hone)
      rw [List.append_assoc] at hmore
      exact hmore
  | delimiter d =>
      rw [hp, if_neg (by simp)] at ha
      rw [hp] at ha
      rcases ha with ⟨b, p, t, hb, hprimary, ht, rfl⟩ | ⟨hd, b, t, outer, hb, hg, ht, rfl⟩
      · exact Or.inl ⟨c :: b, p, t, hb.cons hc, hprimary, ht, rfl⟩
      · exact Or.inr ⟨hd, c :: b, t, outer, hb.cons hc, hg, ht, rfl⟩

/-- A blank less in front of an ending. -/
theorem ending_of_blank {c : Char} {t : List Char} (h : Ending (c :: t)) (hc : isBlank c = true) :
    Ending t := by
  generalize hs : c :: t = s at h
  cases h with
  | blanks hb =>
      subst hs
      exact Ending.blanks fun d hd => hb d (List.mem_cons_of_mem _ hd)
  | @comment b text hb =>
      cases b with
      | nil =>
          rw [List.head_eq_of_cons_eq hs] at hc
          exact absurd hc (by decide)
      | cons d b =>
          rw [List.tail_eq_of_cons_eq hs]
          exact Ending.comment fun d hd => hb d (List.mem_cons_of_mem _ hd)

/-- What may follow the insert sign makes it a body: nothing belongs to the sign. -/
theorem isBody_sign (h : Follows escape (some ['=']) [] false (' ' :: rest)) :
    IsBody escape ('=' :: rest) := by
  obtain ⟨x, u, after, hx, ⟨m, t, hm, ht, rfl⟩, hrest, hapart⟩ := h
  -- the sign names an operator, so a suffix would have to touch it
  have hnone : x = [] := by
    cases x with
    | nil => rfl
    | cons c x =>
        have hc := hapart rfl (by decide) c rfl
        rw [← List.head_eq_of_cons_eq hrest] at hc
        exact absurd hc (by decide)
  subst hnone
  rw [List.nil_append] at hrest
  cases hm with
  | nil =>
      rw [List.nil_append] at hrest
      subst hrest
      exact IsBody.sign Blanks.nil (ending_of_blank ht (by decide))
  | @cons called b y m nonempty blanks head others =>
      cases b with
      | nil => exact absurd rfl nonempty
      | cons c b =>
          obtain rfl : rest = b ++ (y ++ (m ++ t)) := by
            simpa using List.tail_eq_of_cons_eq hrest
          exact IsBody.insert Blanks.nil (fun d hd => blanks d (List.mem_cons_of_mem _ hd)) head
            others ht

/-- A leading sign is an operand of its own, and what follows it follows an operand. -/
theorem awaits_sign (hp : s.pending = .start) (ha : Awaits escape (s.signed '=') rest) :
    s.Awaits escape ('=' :: rest) := by
  unfold Awaits
  rw [hp]
  intro hg
  have hblank : Blanks [' '] := Blanks.cons (by decide) Blanks.nil
  have hfollows : Follows escape (some ['=']) s.groups false ([' '] ++ rest) :=
    ha [' '] (by simp) hblank
  rw [hg] at hfollows
  exact isBody_sign hfollows

/-- A comment may follow an operand outside brackets, and it may be all of a body. -/
theorem awaits_comment (hg : s.groups = [])
    (hp : s.pending = .start ∨ s.pending = .adjacent ∨ s.pending = .blank) :
    s.Awaits escape ('#' :: rest) := by
  rcases hp with hp | hp
  · unfold Awaits
    rw [hp]
    exact fun _ => IsBody.comment Blanks.nil
  · refine awaits_of_follows hp fun b hb _ => ?_
    rw [hg]
    exact Beyond.follows ⟨[], _, Separated.nil, Ending.comment hb, rfl⟩

theorem reading_delimit {d : Delimiter} (h : s.delimit d = some s') : s'.reading = s.reading := by
  unfold delimit delimited at h
  split at h
  case isFalse => exact absurd h (by simp)
  case isTrue =>
    split at h
    · exact (congrArg reading (Option.some.inj h)).symm
    · split at h
      · exact absurd h (by simp)
      · exact (congrArg reading (Option.some.inj h)).symm
    · exact (congrArg reading (Option.some.inj h)).symm
    · exact (congrArg reading (Option.some.inj h)).symm

theorem reading_comma (h : s.comma = some s') : s'.reading = s.reading := by
  unfold comma at h
  split at h
  · exact (congrArg reading (Option.some.inj h)).symm
  · exact absurd h (by simp)

theorem reading_close {closer : Bracket} (h : s.close closer = some s') :
    s'.reading = s.reading := by
  unfold close at h
  split at h
  · exact absurd h (by simp)
  · split at h
    · exact (congrArg reading (Option.some.inj h)).symm
    · exact absurd h (by simp)

/-- Between operands nothing of an operand remains. -/
theorem Remaining.awaits (h : s.Remaining escape rest) (hr : s.reading = .between) :
    s.Awaits escape rest := by
  unfold Remaining at h
  rw [hr] at h
  exact h

/-- Between operands. -/
theorem awaits_between {c : Char} (hr : s.reading = .between) (h : s.between c = some s')
    (ha : s'.Remaining escape rest) : s.Awaits escape (c :: rest) := by
  unfold between at h
  by_cases hblank : isBlank c = true
  · rw [if_pos hblank] at h
    obtain rfl := Option.some.inj h
    exact awaits_blank hblank (ha.awaits (by rw [spaced_reading, hr]))
  rw [if_neg hblank] at h
  by_cases hsign : c = '=' ∧ s.pending = .start
  · rw [if_pos hsign] at h
    obtain rfl := Option.some.inj h
    rw [hsign.1] at ha ⊢
    exact awaits_sign hsign.2 (ha.awaits hr)
  rw [if_neg hsign] at h
  by_cases hcomment : c = '#'
  · rw [if_pos hcomment] at h
    obtain rfl := Option.some.inj h
    rw [hcomment]
    by_cases hstart : s.pending = .start
    · rw [if_pos hstart] at ha
      exact awaits_comment ha.1 (Or.inl hstart)
    · rw [if_neg hstart] at ha
      exact awaits_comment ha.1 (Or.inr ha.2)
  rw [if_neg hcomment] at h
  by_cases hdot : c = '.'
  · rw [if_pos hdot] at h
    rw [hdot]
    exact awaits_delimit (by simp) h (ha.awaits ((reading_delimit h).trans hr))
  rw [if_neg hdot] at h
  by_cases hsquare : c = '['
  · rw [if_pos hsquare] at h
    rw [hsquare]
    exact awaits_delimit (by simp) h (ha.awaits ((reading_delimit h).trans hr))
  rw [if_neg hsquare] at h
  by_cases hround : c = '('
  · rw [if_pos hround] at h
    rw [hround]
    exact awaits_delimit (by simp) h (ha.awaits ((reading_delimit h).trans hr))
  rw [if_neg hround] at h
  by_cases hcomma : c = ','
  · rw [if_pos hcomma] at h
    rw [hcomma]
    exact awaits_comma h (ha.awaits ((reading_comma h).trans hr))
  rw [if_neg hcomma] at h
  by_cases hsquared : c = ']'
  · rw [if_pos hsquared] at h
    rw [hsquared]
    exact awaits_close h (ha.awaits ((reading_close h).trans hr))
  rw [if_neg hsquared] at h
  by_cases hrounded : c = ')'
  · rw [if_pos hrounded] at h
    rw [hrounded]
    exact awaits_close h (ha.awaits ((reading_close h).trans hr))
  rw [if_neg hrounded] at h
  by_cases hcaret : c = '^'
  · rw [if_pos hcaret] at h
    rw [hcaret]
    exact awaits_number h ha
  rw [if_neg hcaret] at h
  by_cases hquote : isQuote c = true
  · rw [if_pos hquote] at h
    exact awaits_literal hquote h ha
  · rw [if_neg hquote] at h
    -- what is none of the characters above is a character of a word
    have hlexeme : isLexemeChar c = true := by
      unfold isLexemeChar isPunctuation
      simp [hblank, hquote, hdot, hcomma, hsquare, hsquared, hround, hrounded, hcaret, hcomment]
    exact awaits_word hlexeme (fun hs heq => hsign ⟨heq, hs⟩) h ha

/-! ## §4. All characters. -/

/-- What may remain after an operand that ends here may follow the operand. -/
theorem follows_ended {c : Char} (h : s.ended.between c = some s')
    (ha : s'.Remaining escape rest) : Follows escape s.lead s.groups s.called (c :: rest) :=
  awaits_between (s := s.ended) rfl h ha

/-- A word goes on with a character of words, or it has ended before. -/
theorem remaining_word {c : Char} (hr : s.reading = .word) (h : s.step escape c = some s')
    (ha : s'.Remaining escape rest) : s.Remaining escape (c :: rest) := by
  unfold step at h
  unfold Remaining
  rw [hr] at h ⊢
  dsimp only at h ⊢
  by_cases hc : isLexemeChar c = true
  · rw [if_pos hc] at h
    obtain rfl := Option.some.inj h
    obtain ⟨w, t, hw, hfollows, rfl⟩ := ha
    refine ⟨c :: w, t, List.forall_mem_cons.2 ⟨hc, hw⟩, ?_, rfl⟩
    rw [← lead_append]
    exact hfollows
  · rw [if_neg hc] at h
    refine ⟨[], c :: rest, fun d hd => absurd hd (by simp), ?_, rfl⟩
    rw [lead_nil]
    exact follows_ended h ha

/-- A literal goes on, escapes its next character or ends with its quote. -/
theorem remaining_literal {quote c : Char} {escaping filled : Bool}
    (hr : s.reading = .literal quote escaping filled) (h : s.step escape c = some s')
    (ha : s'.Remaining escape rest) : s.Remaining escape (c :: rest) := by
  unfold step at h
  unfold Remaining
  rw [hr] at h ⊢
  cases escaping with
  | true =>
      obtain rfl := Option.some.inj h
      obtain ⟨hne, w, value, t, hw, -, hfollows, rfl⟩ := ha
      exact ⟨hne, c, w, value, t, hw, hfollows, rfl⟩
  | false =>
      dsimp only at h ⊢
      by_cases hescape : c = escape
      · rw [if_pos hescape] at h
        obtain rfl := Option.some.inj h
        obtain ⟨hne, d, w, value, t, hw, hfollows, rfl⟩ := ha
        refine ⟨hne, c :: d :: w, d :: value, t, ?_, Or.inr (by simp), hfollows, rfl⟩
        rw [hescape]
        exact hw.escaped
      rw [if_neg hescape] at h
      by_cases hquote : c = quote
      · -- the quote closes the literal, so it is not the escape character
        rw [if_pos hquote] at h
        by_cases hfilled : filled = true
        · rw [if_pos hfilled] at h
          obtain rfl := Option.some.inj h
          refine ⟨hquote ▸ hescape, [], [], rest, .nil, Or.inl hfilled, ha, ?_⟩
          rw [hquote, List.nil_append]
        · rw [if_neg hfilled] at h
          exact absurd h (by simp)
      · rw [if_neg hquote] at h
        obtain rfl := Option.some.inj h
        obtain ⟨hne, w, value, t, hw, -, hfollows, rfl⟩ := ha
        exact ⟨hne, c :: w, c :: value, t, hw.plain hescape hquote, Or.inr (by simp),
          hfollows, rfl⟩

/-- The digits behind a caret go on, or they have ended and there was one. -/
theorem remaining_number {c : Char} {filled : Bool} (hr : s.reading = .number filled)
    (h : s.step escape c = some s') (ha : s'.Remaining escape rest) :
    s.Remaining escape (c :: rest) := by
  unfold step at h
  unfold Remaining
  rw [hr] at h ⊢
  dsimp only at h ⊢
  by_cases hc : c.isDigit = true
  · rw [if_pos hc] at h
    obtain rfl := Option.some.inj h
    obtain ⟨digits, t, hdigits, -, hfollows, rfl⟩ := ha
    exact ⟨c :: digits, t, List.forall_mem_cons.2 ⟨hc, hdigits⟩, Or.inr (by simp), hfollows, rfl⟩
  · rw [if_neg hc] at h
    by_cases hfilled : filled = true
    · rw [if_pos hfilled] at h
      exact ⟨[], c :: rest, fun d hd => absurd hd (by simp), Or.inl hfilled,
        follows_ended h ha, rfl⟩
    · rw [if_neg hfilled] at h
      exact absurd h (by simp)

/-- **One character.**  What may remain after it may remain before it with the character in
front. -/
theorem remaining_step {c : Char} (h : s.step escape c = some s')
    (ha : s'.Remaining escape rest) : s.Remaining escape (c :: rest) := by
  cases hr : s.reading with
  | between =>
      unfold step at h
      unfold Remaining
      rw [hr] at h ⊢
      exact awaits_between hr h ha
  | word => exact remaining_word hr h ha
  | literal quote escaping filled => exact remaining_literal hr h ha
  | number filled => exact remaining_number hr h ha
  | comment =>
      unfold step at h
      rw [hr] at h
      obtain rfl := Option.some.inj h
      unfold Remaining at ha ⊢
      rw [hr] at ha ⊢
      exact ha

/-- Where a body may end, nothing may remain. -/
theorem remaining_nil (h : s.Complete) : s.Remaining escape [] := by
  obtain ⟨hg, hend⟩ := h
  have hblanks : ∀ {b : List Char} {lead : Option (List Char)}, Blanks b →
      Follows escape lead s.groups s.called b := by
    intro b lead hb
    rw [hg]
    exact Beyond.follows ⟨[], b, .nil, .blanks hb, rfl⟩
  unfold Remaining
  cases hr : s.reading with
  | between =>
      rw [hr] at hend
      refine awaits_of_follows hend fun b hb _ => ?_
      rw [List.append_nil]
      exact hblanks hb
  | word =>
      exact ⟨[], [], fun c hc => absurd hc (by simp), hblanks Blanks.nil, rfl⟩
  | literal quote escaping filled =>
      rw [hr] at hend
      exact absurd hend (by simp)
  | number filled =>
      rw [hr] at hend
      exact ⟨[], [], fun c hc => absurd hc (by simp), Or.inl hend, hblanks Blanks.nil, rfl⟩
  | comment =>
      rw [hr] at hend
      exact ⟨hg, hend⟩

/-- **What is accepted may remain.** -/
theorem remaining_of_accepts (rest : List Char) :
    ∀ s : Config, s.Accepts escape rest → s.Remaining escape rest := by
  -- from the end of the body to its start
  induction rest with
  | nil => intro s h; exact remaining_nil h
  | cons c rest ih =>
      intro s h
      obtain ⟨s', hstep, h'⟩ := h
      exact remaining_step hstep (ih s' h')

end Config

/-- **Whatever is accepted from the start is a body.** -/
theorem isBody_of_accepts {escape : Char} {body : List Char}
    (h : Config.Accepts escape {} body) : IsBody escape body :=
  Config.remaining_of_accepts body {} h rfl

end LayerTemplates
