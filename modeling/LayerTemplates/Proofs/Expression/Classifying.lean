/-
  LayerTemplates.Proofs.Expression.Classifying
  ────────────────────────────────────────────
  The operator of a placeholder, as its body names it.

  A body names an operator with its first characters: with a sign, or with a keyword that no
  suffix follows at once.  Which it is the lexer asks when it meets a suffix, and the directive
  asks of the links in the end.  Both agree with the characters: what follows a keyword after a
  blank is refused as a suffix, and a keyword with a suffix of its own gets a link or another kind.

  Main statements:
    * `Laid.operator?_eq` — the first chain of a body names the operator that the body names.
    * `classify_read` — the directive has the operator that the body names, and an insert sign was
      left out if it names none.
-/
import LayerTemplates.Proofs.Expression.Tokens
import LayerTemplates.Proofs.Expression.Walking

namespace LayerTemplates

/-! ## §1. Bodies that name an operator. -/

/-- The operator whose keyword a word is, in capitals or not; signs are no words. -/
def wordOperator? (word : List Char) : Option Operator :=
  [Operator.ifTrue, .ifFalse, .otherwise, .endBlock].find? fun operator =>
    operator.keyword.toList == word.map Char.toLower

/-- The symbols with which suffixes start. -/
def isSuffixSymbol (c : Char) : Bool := c == '.' || c == '[' || c == '('

/-- The operator that a body names: with its first character, or with a bare word that no suffix
follows at once. -/
def namedOperator? (body : List Char) : Option Operator :=
  let rest := body.dropWhile isBlank
  let behind := rest.dropWhile isLexemeChar
  if rest.head? = some '=' then some .insert
  else if rest.head? = some '#' then some .comment
  else if behind.head?.any isSuffixSymbol then none
  else wordOperator? (rest.takeWhile isLexemeChar)

/-- The operator that an operand names: a bare word. -/
def Operand.operator? (o : Operand) : Option Operator :=
  if o.form = .plain ∧ o.quote = none then Operator.ofKeyword? o.value else none

/-- The operator that the steps of a path name: a bare word without a path or arguments. -/
def Chain.operator? : List Step → Option Operator
  | [s] => if s.kind = .plain then s.operand.operator? else none
  | _ => none

variable {escape : Char}

/-- A word that is no sign names the operator whose keyword it is. -/
theorem ofKeyword?_eq_wordOperator? {w : List Char} (hinsert : w ≠ ['=']) (hcomment : w ≠ ['#']) :
    Operator.ofKeyword? (String.ofList w) = wordOperator? w := by
  -- the two signs have no capitals, so only the sign itself folds to one
  have hsign : ∀ sign : Char, sign.toNat < 'a'.toNat → w ≠ [sign] → [sign] ≠ w.map Char.toLower := by
    intro sign hsign hne hw
    obtain ⟨c, rfl, hc⟩ := List.map_eq_singleton_iff.1 hw.symm
    exact hne (congrArg (fun c => [c]) (eq_of_toLower_eq hc hsign))
  let names : Operator → Bool := fun operator => operator.keyword.toList == w.map Char.toLower
  have hfirst : ¬ names .insert = true := fun h => hsign '=' (by decide) hinsert (beq_iff_eq.1 h)
  have hlast : ¬ names .comment = true := fun h => hsign '#' (by decide) hcomment (beq_iff_eq.1 h)
  unfold Operator.ofKeyword?
  rw [String.toList_ofList]
  show List.find? names (.insert :: ([.ifTrue, .ifFalse, .otherwise, .endBlock] ++ [.comment]))
    = List.find? names [.ifTrue, .ifFalse, .otherwise, .endBlock]
  rw [List.find?_cons_of_neg hfirst, List.find?_append, List.find?_cons_of_neg hlast,
    List.find?_nil, Option.or_none]

/-! ## §2. Chains that name an operator. -/

theorem Operand.operator?_step (o : Operand) :
    Chain.operator? [o.step .plain] = o.operator? := by
  show (if o.kindIn .plain = .plain then o.operator? else none) = o.operator?
  unfold Operand.kindIn Operand.operator?
  by_cases hform : o.form = .relative <;> simp [hform]

/-- A chain that goes on names no operator. -/
theorem Chain.operator?_of_later {s : Step} {later : List Step} (h : later ≠ []) :
    Chain.operator? (s :: later) = none := by
  cases later with
  | nil => exact absurd rfl h
  | cons => rfl

/-- Neither does a function. -/
theorem Chain.operator?_of_function {s : Step} {later : List Step} (h : s.kind = .function) :
    Chain.operator? (s :: later) = none := by
  cases later with
  | nil => exact if_neg (by rw [h]; simp)
  | cons => rfl

/-- An operand names its operator only if it has no suffix. -/
theorem Draws.operator?_eq {o : Operand} {passed : List Step} {last : Step} {x : List Char}
    {ts : List Token} (h : Draws escape (.suffixes (o.step .plain) passed last) x ts) :
    Chain.operator? (passed ++ [last]) = if x = [] then o.operator? else none := by
  cases h with
  | done =>
      rw [if_pos rfl]
      exact o.operator?_step
  | dot | square =>
      rw [if_neg (by simp)]
      exact Chain.operator?_of_later (by simp)
  | call _ _ _ rest | round _ _ _ rest =>
      obtain ⟨t, later, hsteps, hgrows⟩ := rest.grows
      rw [if_neg (by simp), hsteps]
      exact Chain.operator?_of_function (hgrows.kind.elim id id)

theorem Stops.dropWhile {rest : List Char} (h : Stops rest) :
    rest.dropWhile isLexemeChar = rest := by
  cases rest with
  | nil => rfl
  | cons c rest => exact List.dropWhile_cons_of_neg (by rw [h c rfl]; simp)

theorem Stops.takeWhile {rest : List Char} (h : Stops rest) :
    rest.takeWhile isLexemeChar = [] := by
  cases rest with
  | nil => rfl
  | cons c rest => exact List.takeWhile_cons_of_neg (by rw [h c rfl]; simp)

/-- What spells an operand names the operator that the operand is, unless a suffix follows at
once. -/
theorem Spelling.namedOperator? {p rest : List Char} {o : Operand} (h : Spelling escape p o)
    (hunsigned : p.head? ≠ some '=') (hrest : Stops rest) {b : List Char} (hb : Blanks b) :
    namedOperator? (b ++ (p ++ rest))
      = if rest.head?.any isSuffixSymbol then none else o.operator? := by
  obtain ⟨c, later, hp, hblank, hcomment⟩ := h.leading
  have hskip : (b ++ (p ++ rest)).dropWhile isBlank = p ++ rest := by
    rw [List.dropWhile_append_of_pos hb, hp, List.cons_append,
      List.dropWhile_cons_of_neg (by rw [hblank]; simp)]
  have hfirst : (p ++ rest).head? = p.head? := by
    rw [hp]
    rfl
  have hnumber : p.head? ≠ some '#' := by
    rw [hp]
    exact fun hsame => hcomment (Option.some.inj hsame)
  unfold LayerTemplates.namedOperator?
  dsimp only
  rw [hskip, hfirst, if_neg hunsigned, if_neg hnumber]
  -- an operand that is no word names nothing, whatever stands behind its first characters
  have hwordless {c₁ c₂ : Prop} [Decidable c₁] [Decidable c₂] (ho : o.operator? = none) :
      (if c₁ then none else wordOperator? []) = if c₂ then none else o.operator? := by
    rw [ho, show wordOperator? [] = none by decide, ite_self, ite_self]
  cases h with
  | word nonempty chars =>
      have hword : ({ value := String.ofList p } : Operand).operator? = wordOperator? p := by
        refine (if_pos ⟨rfl, rfl⟩).trans (ofKeyword?_eq_wordOperator? ?_ ?_) <;> rintro rfl
        · exact hunsigned rfl
        · exact hnumber rfl
      rw [List.dropWhile_append_of_pos chars, List.takeWhile_append_of_pos chars,
        hrest.dropWhile, hrest.takeWhile, List.append_nil, hword]
  | @literal quote s value opens closes inner nonempty =>
      have hstops : Stops (quote :: (s ++ [quote]) ++ rest) := by
        refine stops_blanks .nil ?_
        unfold isLexemeChar
        rw [opens]
        simp
      rw [hstops.takeWhile]
      exact hwordless (if_neg fun h => nomatch h.2)
  | @ancestor digits nonempty chars =>
      have hstops : Stops ('^' :: digits ++ rest) := stops_blanks .nil (by decide)
      rw [hstops.takeWhile]
      exact hwordless (if_neg fun h => nomatch h.1)

/-- An operand without a keyword names nothing. -/
theorem Spelling.operator?_eq_none {p : List Char} {o : Operand} (h : Spelling escape p o)
    (hunsigned : p.head? ≠ some '=') (hkeyword : ¬ IsKeyword p) : o.operator? = none := by
  unfold Operand.operator?
  split
  · next hplain =>
      rw [← Option.not_isSome_iff_eq_none]
      exact fun hnames => hkeyword (h.isKeyword hunsigned hplain.1 hplain.2 hnames)
  · rfl

/-- Suffixes start with a symbol or with a blank. -/
theorem Draws.head?_eq {s last : Step} {passed : List Step} {x : List Char} {ts : List Token}
    (h : Draws escape (.suffixes s passed last) x ts) (hne : x ≠ []) :
    ∃ c later, x = c :: later ∧ (isBlank c = true ∨ isSuffixSymbol c = true) := by
  have hblanks {b rest : List Char} {c : Char} (hb : Blanks b) (hc : isSuffixSymbol c = true) :
      ∃ d later, b ++ c :: rest = d :: later ∧ (isBlank d = true ∨ isSuffixSymbol d = true) := by
    cases b with
    | nil => exact ⟨c, rest, rfl, .inr hc⟩
    | cons d b => exact ⟨d, _, rfl, .inl (hb d List.mem_cons_self)⟩
  cases h with
  | done => exact absurd rfl hne
  | dot before => exact hblanks before rfl
  | square before => exact hblanks before rfl
  | call _ before => exact hblanks before rfl
  | round _ before => exact hblanks before rfl

theorem not_isSuffixSymbol_of_isBlank {c : Char} (h : isBlank c = true) :
    isSuffixSymbol c = false := by
  have hblanks : (blanks.all fun c => !isSuffixSymbol c) = true := by decide
  have hc := List.all_eq_true.1 hblanks c (List.contains_iff_mem.1 h)
  rwa [Bool.not_eq_true'] at hc

/-- No suffix stands behind blanks, unless it stands behind the blanks. -/
theorem Blanks.not_suffix {b rest : List Char} (hb : Blanks b)
    (hrest : rest.head?.any isSuffixSymbol = false) :
    (b ++ rest).head?.any isSuffixSymbol = false := by
  cases b with
  | nil => exact hrest
  | cons c b => exact not_isSuffixSymbol_of_isBlank (hb c List.mem_cons_self)

/-- What stands behind a chain is no suffix. -/
theorem Strung.not_suffix {m t : List Char} {chains : List Chain} (h : Strung escape m chains)
    (ht : Ending t) : (m ++ t).head?.any isSuffixSymbol = false := by
  cases h with
  | nil =>
      cases ht with
      | blanks hb => exact List.append_nil t ▸ hb.not_suffix rfl
      | comment hb => exact hb.not_suffix rfl
  | @cons o last passed b p x m ts chains nonempty blanks =>
      obtain ⟨c, b, rfl⟩ := List.exists_cons_of_ne_nil nonempty
      exact not_isSuffixSymbol_of_isBlank (blanks c List.mem_cons_self)

theorem namedOperator?_insert {b rest : List Char} (hb : Blanks b) :
    namedOperator? (b ++ '=' :: rest) = some .insert := by
  unfold namedOperator?
  rw [List.dropWhile_append_of_pos hb]
  rfl

theorem namedOperator?_comment {b rest : List Char} (hb : Blanks b) :
    namedOperator? (b ++ '#' :: rest) = some .comment := by
  unfold namedOperator?
  rw [List.dropWhile_append_of_pos hb]
  rfl

/-- **The first chain of a body names the operator that the body names.** -/
theorem Laid.operator?_eq {body : List Char} {chains : List Chain} (h : Laid escape body chains) :
    ∃ c others, chains = c :: others ∧ Chain.operator? c.steps = namedOperator? body := by
  cases h with
  | sign before ending => exact ⟨_, _, rfl, (namedOperator?_insert before).symm ▸ by decide⟩
  | insert before => exact ⟨_, _, rfl, (namedOperator?_insert before).symm ▸ by decide⟩
  | comment before => exact ⟨_, _, rfl, (namedOperator?_comment before).symm ▸ by decide⟩
  | @operands o last passed b p x m t ts chains before head unsigned tail apart others ending =>
      refine ⟨_, _, rfl, ?_⟩
      rw [head.namedOperator? unsigned (tail.stops (others.stops ending.stops)) before]
      show Chain.operator? (passed ++ [last]) = _
      rw [tail.operator?_eq]
      by_cases hx : x = []
      · rw [if_pos hx, hx, List.nil_append, others.not_suffix ending]
        rfl
      · obtain ⟨c, later, rfl, hc⟩ := tail.head?_eq hx
        rw [if_neg hx]
        rcases hc with hblank | hsymbol
        · -- behind a keyword stands no blank before a suffix, so the word is none
          have hnone : o.operator? = none := head.operator?_eq_none unsigned fun hkeyword =>
            absurd hblank (by rw [apart hkeyword c rfl]; simp)
          rw [hnone, ite_self]
        · exact (if_pos hsymbol).symm

/-- A chain that names an operator is one step without arguments. -/
theorem Laid.alone {body : List Char} {c : Chain} {others : List Chain}
    (h : Laid escape body (c :: others)) {operator : Operator}
    (hnames : Chain.operator? c.steps = some operator) :
    ∃ s, c.steps = [s] ∧ s.kind = .plain ∧ s.arguments = .nothing := by
  unfold Chain.operator? at hnames
  split at hnames
  · next s hsteps =>
      split at hnames
      · next hkind =>
          refine ⟨s, hsteps, hkind, ?_⟩
          obtain ⟨signs, others', hchains, hfits, rfl | ⟨sign, rfl, -⟩⟩ := h.fits
          · rw [List.nil_append] at hchains
            have hc := hfits c (hchains ▸ List.mem_cons_self)
            rw [hsteps] at hc
            cases hc with
            | steps first _ => exact (first.uncalled (by rw [hkind]; simp)).1
          · obtain rfl := (List.cons.inj hchains).1
            obtain rfl := (List.cons.inj hsteps).1
            rfl
      · exact nomatch hnames
  · exact nomatch hnames

/-! ## §3. Directives. -/

theorem Directive.classify_some {a : Arena} {first : Nat} {operator : Operator}
    (h : a.operatorAt? first = some operator) (others : List Nat) :
    classify a (first :: others)
      = some { operator, explicit := true, parts := others.length + 1, target := others.head? } := by
  simp only [classify, h]

theorem Directive.classify_none {a : Arena} {first : Nat} (h : a.operatorAt? first = none)
    (others : List Nat) :
    classify a (first :: others)
      = some { operator := .insert, explicit := false, parts := others.length + 2,
               target := some first } := by
  simp only [classify, h]

/-- A root names the operator that its steps name. -/
theorem Arena.Shows.operatorAt? {a : Arena} {place : Place} {id : Nat} {steps : List Step}
    {next : Shape} (h : a.Shows place id (.path steps next)) (hne : steps ≠ []) :
    a.operatorAt? id = Chain.operator? steps := by
  cases steps with
  | nil => exact absurd rfl hne
  | cons s later =>
      have hchild := h.child_eq
      cases later with
      | nil =>
          have hoperand := h.operand_eq
          unfold Arena.operatorAt?
          dsimp only
          rw [h.kind_eq, show (a.get id).value = s.operand.value from congrArg Operand.value hoperand,
            show (a.get id).form = s.operand.form from congrArg Operand.form hoperand,
            show (a.get id).quote = s.operand.quote from congrArg Operand.quote hoperand,
            show (a.get id).child = none from hchild]
          show _ = if s.kind = .plain then s.operand.operator? else none
          unfold Operand.operator?
          by_cases hkind : s.kind = .plain <;> simp [hkind]
      | cons t later =>
          refine if_neg fun hbare => ?_
          rw [hchild] at hbare
          exact nomatch hbare.2.2.2

/-- **The directive has the operator that the body names.**  In whatever chains a body without an
issue is laid out, these are what was read; the directive counts them, and an insert sign that was
left out.  An operator that was written stands alone, and it works on the chain behind it. -/
theorem classify_read (body : String) (escape : Char)
    (hclean : (Expression.read body escape).2.issues = []) :
    let a := (Expression.read body escape).1
    let e := (Expression.read body escape).2
    (∃ chains, Laid escape body.toList chains) ∧
    ∀ chains, Laid escape body.toList chains →
      e.Holds a chains ∧
      (∀ operator, namedOperator? body.toList = some operator →
        Directive.classify a e.roots
            = some { operator, explicit := true, parts := chains.length, target := e.roots[1]? }
          ∧ ∃ first, e.roots.head? = some first ∧ (a.get first).child = none
            ∧ (a.get first).firstArg = none ∧ (a.get first).kind = .plain) ∧
      (namedOperator? body.toList = none →
        ∃ first, e.roots.head? = some first
          ∧ Directive.classify a e.roots
            = some { operator := .insert, explicit := false, parts := chains.length + 1,
                     target := some first }) := by
  intro a e
  refine ⟨(read_holds hclean).imp fun _ h => h.1, fun chains hlaid => ⟨hlaid.holds, ?_⟩⟩
  have hholds := hlaid.holds
  obtain ⟨c, others, rfl, hnamed⟩ := hlaid.operator?_eq
  -- of what was read only the first root counts, and it shows the first chain
  have hne : c.steps ≠ [] := (hlaid.straight c List.mem_cons_self).1
  have hroots : e.roots = Chain.rootsFrom 0 (c :: others) := hholds.roots
  have hfirst : a.Shows { role := .root } 0 (.path c.steps (Chain.shape others)) := hholds.shows
  have hoperator : a.operatorAt? 0 = namedOperator? body.toList :=
    (hfirst.operatorAt? hne).trans hnamed
  rw [hroots, Chain.rootsFrom]
  constructor
  · intro operator hnames
    obtain ⟨s, hsteps, hkind, hnone⟩ := hlaid.alone (hnamed.trans hnames)
    rw [hsteps, Shape.path] at hfirst
    refine ⟨?_, 0, rfl, hfirst.child_eq, ?_, hfirst.kind_eq.trans hkind⟩
    · rw [Directive.classify_some (hoperator.trans hnames), Chain.length_rootsFrom,
        List.head?_eq_getElem?]
      rfl
    · rw [hfirst.firstArg_eq, hnone]
      rfl
  · intro hnone
    refine ⟨0, rfl, ?_⟩
    rw [Directive.classify_none (hoperator.trans hnone), Chain.length_rootsFrom]
    rfl

/-- A keyword in capitals before a path that starts with a keyword. -/
theorem classify_read_keyword :
    let read := Expression.read " UNLESS if.x" '\\'
    read.2.issues = []
      ∧ Directive.classify read.1 read.2.roots
        = some { operator := .ifFalse, explicit := true, parts := 2, target := some 1 } := by
  intro read
  have hclean : read.2.issues = [] := by decide +kernel
  obtain ⟨⟨chains, hlaid⟩, hall⟩ := classify_read " UNLESS if.x" '\\' hclean
  obtain ⟨hholds, hexplicit, -⟩ := hall chains hlaid
  have hroots : read.2.roots = [0, 1] := by decide +kernel
  have hlength : chains.length = 2 := by
    rw [← Chain.length_rootsFrom chains 0, ← hholds.roots]
    exact congrArg List.length hroots
  have hdirective := (hexplicit .ifFalse (by decide +kernel)).1
  rw [hlength, show (Expression.read " UNLESS if.x" '\\').2.roots[1]? = some 1
    from congrArg (fun roots : List Nat => roots[1]?) hroots] at hdirective
  exact ⟨hclean, hdirective⟩

end LayerTemplates
