/-
  LayerTemplates.Proofs.Expression.Drawing
  ────────────────────────────────────────
  What the grammar of placeholder bodies stands for.

  The rules are those of `Written`, `Separated` and `IsBody`, and every rule says what it reads:
  the tokens, and the steps of the paths.  Suffixes go on from a step.  A dot passes it, square
  brackets pass it and go on where the path inside them ends, and an argument list makes a
  function of it.  So in the end of a chain its steps are those that were passed and the last one,
  and the chains of a body are told with the byte offset at which each of them starts.

  Main statements:
    * `Written.drawn` — whatever is written in the grammar stands for something.
    * `IsBody.laid` — so does every body.
-/
import LayerTemplates.Proofs.Expression.Accepting
import LayerTemplates.Proofs.Expression.Shape

namespace LayerTemplates

/-! ## §1. Tokens. -/

/-- What bodies are made of, apart from blanks and comments. -/
inductive Token where
  | operand (operand : Operand)
  | delimiter (delimiter : Delimiter)
  | closer (bracket : Bracket)
  deriving Repr, DecidableEq, Inhabited

/-- The operand in quotes of some kind; raw quotes make a plain word of it. -/
def Operand.inQuotes (quote : Char) (value : String) : Operand :=
  { value, form := if quote = rawQuote then .plain else .quoted, quote := some quote }

/-- Quotes do not count levels. -/
theorem Operand.kindIn_inQuotes (quote : Char) (value : String) (group : LexemeKind) :
    (inQuotes quote value).kindIn group = group := by
  refine if_neg ?_
  unfold inQuotes
  by_cases hraw : quote = rawQuote <;> simp [hraw]

/-- How an operand is spelled. -/
inductive Spelling (escape : Char) : List Char → Operand → Prop
  | word {w : List Char} (nonempty : w ≠ []) (chars : ∀ c ∈ w, isLexemeChar c = true) :
      Spelling escape w { value := String.ofList w }
  | literal {quote : Char} {s value : List Char} (opens : isQuote quote = true)
      (closes : quote ≠ escape) (inner : LiteralText escape quote s value) (nonempty : value ≠ []) :
      Spelling escape (quote :: (s ++ [quote])) (.inQuotes quote (String.ofList value))
  | ancestor {digits : List Char} (nonempty : digits ≠ [])
      (chars : ∀ c ∈ digits, c.isDigit = true) :
      Spelling escape ('^' :: digits) { value := String.ofList digits, form := .relative }

variable {escape : Char}

/-- Whatever the grammar takes for an operand spells one. -/
theorem Primary.spelling {p : List Char} (h : Primary escape p) : ∃ o, Spelling escape p o := by
  cases h with
  | word nonempty chars => exact ⟨_, .word nonempty chars⟩
  | literal opens closes inner nonempty => exact ⟨_, .literal opens closes inner nonempty⟩
  | ancestor nonempty chars => exact ⟨_, .ancestor nonempty chars⟩

/-! ## §2. Steps of a chain. -/

/-- The step has no argument list. -/
def Step.Uncalled (s : Step) : Prop := s.kind ≠ .function ∧ s.arguments = .nothing

/-- The step has an argument list or not. -/
def Step.Called (s : Step) : Bool → Prop
  | true => s.kind = .function
  | false => s.Uncalled

/-- The step with an argument list. -/
def Step.call (s : Step) (arguments : Shape) : Step := { s with kind := .function, arguments }

theorem plain_ne_function : LexemeKind.plain ≠ .function := by simp

/-- An operand that gets its kind from a group is no function yet. -/
theorem Operand.step_uncalled (o : Operand) {group : LexemeKind} (hgroup : group ≠ .function) :
    (o.step group).Uncalled := by
  refine ⟨?_, rfl⟩
  show o.kindIn group ≠ .function
  unfold Operand.kindIn
  split
  · simp
  · exact hgroup

/-- What characters can stand for. -/
inductive Part where
  /-- Suffixes: from a step on some are passed, and one is the last. -/
  | suffixes (start : Step) (passed : List Step) (last : Step)
  /-- What stands in an argument list that is not empty. -/
  | arguments (shape : Shape)

/-- What characters stand for, and their tokens. -/
inductive Draws (escape : Char) : Part → List Char → List Token → Prop
  | done {s : Step} : Draws escape (.suffixes s [] s) [] []
  | dot {s last : Step} {o : Operand} {passed : List Step} {b b' p x : List Char}
      {ts : List Token} (before : Blanks b) (behind : Blanks b') (step : Spelling escape p o)
      (rest : Draws escape (.suffixes (o.step .plain) passed last) x ts) :
      Draws escape (.suffixes s (s :: passed) last) (b ++ '.' :: (b' ++ (p ++ x)))
        (.delimiter .dot :: .operand o :: ts)
  /-- The path goes on after the bracket where it ends inside. -/
  | square {s inner last : Step} {o : Operand} {passed more : List Step}
      {b b' b'' p x y : List Char} {ts us : List Token} (before : Blanks b) (behind : Blanks b')
      (head : Spelling escape p o)
      (inside : Draws escape (.suffixes (o.step .element) passed inner) x ts) (close : Blanks b'')
      (rest : Draws escape (.suffixes inner more last) y us) :
      Draws escape (.suffixes s (s :: (passed ++ more)) last)
        (b ++ '[' :: (b' ++ (p ++ (x ++ (b'' ++ ']' :: y)))))
        (.delimiter (.opening .square) :: .operand o :: (ts ++ .closer .square :: us))
  | call {s last : Step} {passed : List Step} {b b' x : List Char} {ts : List Token}
      (uncalled : s.Uncalled) (before : Blanks b) (behind : Blanks b')
      (rest : Draws escape (.suffixes (s.call .nothing) passed last) x ts) :
      Draws escape (.suffixes s passed last) (b ++ '(' :: (b' ++ ')' :: x))
        (.delimiter (.opening .round) :: .closer .round :: ts)
  | round {s last : Step} {passed : List Step} {shape : Shape} {b args x : List Char}
      {ts us : List Token} (uncalled : s.Uncalled) (before : Blanks b)
      (inside : Draws escape (.arguments shape) args ts)
      (rest : Draws escape (.suffixes (s.call shape) passed last) x us) :
      Draws escape (.suffixes s passed last) (b ++ '(' :: (args ++ ')' :: x))
        (.delimiter (.opening .round) :: (ts ++ .closer .round :: us))
  | argument {o : Operand} {last : Step} {passed : List Step} {b b' p x : List Char}
      {ts : List Token} (before : Blanks b) (head : Spelling escape p o)
      (inside : Draws escape (.suffixes (o.step .argument) passed last) x ts)
      (behind : Blanks b') :
      Draws escape (.arguments (.path (passed ++ [last]) .nothing)) (b ++ (p ++ (x ++ b')))
        (.operand o :: ts)
  | more {o : Operand} {last : Step} {passed : List Step} {shape : Shape}
      {b b' p x args : List Char} {ts us : List Token} (before : Blanks b)
      (head : Spelling escape p o)
      (inside : Draws escape (.suffixes (o.step .argument) passed last) x ts)
      (behind : Blanks b') (rest : Draws escape (.arguments shape) args us) :
      Draws escape (.arguments (.path (passed ++ [last]) shape))
        (b ++ (p ++ (x ++ (b' ++ ',' :: args)))) (.operand o :: (ts ++ .delimiter .comma :: us))

/-- What is written in a form stands for something, wherever it may stand. -/
def Drawn (escape : Char) : Form → List Char → Bool → Prop
  | .chain, x, after =>
      ∃ p y o, x = p ++ y ∧ Spelling escape p o ∧ ∀ group : LexemeKind, group ≠ .function →
        ∃ passed last ts, Draws escape (.suffixes (o.step group) passed last) y ts
          ∧ last.Called after
  | .suffixes called, x, after =>
      ∀ s : Step, s.Called called →
        ∃ passed last ts, Draws escape (.suffixes s passed last) x ts ∧ last.Called after
  | .arguments, x, _ => ∃ shape ts, Draws escape (.arguments shape) x ts

/-- **Whatever is written in the grammar stands for something.** -/
theorem Written.drawn {form : Form} {x : List Char} {after : Bool}
    (h : Written escape form x after) : Drawn escape form x after := by
  -- on the rules; suffixes go on from a step, so they are drawn from every step that admits them
  induction h with
  | chain head tail ih =>
      obtain ⟨o, ho⟩ := head.spelling
      exact ⟨_, _, o, rfl, ho, fun group hgroup => ih _ (o.step_uncalled hgroup)⟩
  | done => exact fun s hs => ⟨[], s, [], .done, hs⟩
  | dot before behind step rest ih =>
      intro s _
      obtain ⟨o, ho⟩ := step.spelling
      obtain ⟨passed, last, ts, hdraws, hlast⟩ := ih _ (o.step_uncalled plain_ne_function)
      exact ⟨_, _, _, .dot before behind ho hdraws, hlast⟩
  | square before behind inner close rest ih₁ ih₂ =>
      intro s _
      obtain ⟨p, y, o, rfl, ho, hinner⟩ := ih₁
      obtain ⟨passed, last, ts, hdraws, hlast⟩ := hinner .element (by simp)
      obtain ⟨more, last', us, hrest, hlast'⟩ := ih₂ last hlast
      rw [List.append_assoc]
      exact ⟨_, _, _, .square before behind ho hdraws close hrest, hlast'⟩
  | call before behind rest ih =>
      intro s hs
      obtain ⟨passed, last, ts, hdraws, hlast⟩ := ih (s.call .nothing) rfl
      exact ⟨_, _, _, .call hs before behind hdraws, hlast⟩
  | round before inner rest ih₁ ih₂ =>
      intro s hs
      obtain ⟨shape, ts, hargs⟩ := ih₁
      obtain ⟨passed, last, us, hdraws, hlast⟩ := ih₂ (s.call shape) rfl
      exact ⟨_, _, _, .round hs before hargs hdraws, hlast⟩
  | argument before inner behind ih =>
      obtain ⟨p, y, o, rfl, ho, hinner⟩ := ih
      obtain ⟨passed, last, ts, hdraws, -⟩ := hinner .argument (by simp)
      rw [List.append_assoc]
      exact ⟨_, _, .argument before ho hdraws behind⟩
  | more before inner behind rest ih₁ ih₂ =>
      obtain ⟨p, y, o, rfl, ho, hinner⟩ := ih₁
      obtain ⟨passed, last, ts, hdraws, -⟩ := hinner .argument (by simp)
      obtain ⟨shape, us, hrest⟩ := ih₂
      rw [List.append_assoc]
      exact ⟨_, _, .more before ho hdraws behind hrest⟩

/-- Suffixes start with a blank or a symbol. -/
theorem Draws.stops {s last : Step} {passed : List Step} {x rest : List Char} {ts : List Token}
    (h : Draws escape (.suffixes s passed last) x ts) (hrest : Stops rest) :
    Stops (x ++ rest) := by
  cases h with
  | done => exact hrest
  | dot before _ _ _ =>
      rw [List.append_assoc]
      exact stops_blanks before (by decide)
  | square before _ _ _ _ _ =>
      rw [List.append_assoc]
      exact stops_blanks before (by decide)
  | call _ before _ _ =>
      rw [List.append_assoc]
      exact stops_blanks before (by decide)
  | round _ before _ _ =>
      rw [List.append_assoc]
      exact stops_blanks before (by decide)

/-- A step, or what an argument list made of it. -/
structure Step.Grows (s t : Step) : Prop where
  operand : t.operand = s.operand
  kind : t.kind = s.kind ∨ t.kind = .function

theorem Step.Grows.refl (s : Step) : s.Grows s := ⟨rfl, .inl rfl⟩

/-- What has grown from a step with an argument list has grown from the step. -/
theorem Step.Grows.of_call {s t : Step} {arguments : Shape} (h : (s.call arguments).Grows t) :
    s.Grows t := ⟨h.operand, .inr (h.kind.elim id id)⟩

/-- The first step of a path is what became of the step from which it goes on. -/
theorem Draws.grows {s last : Step} {passed : List Step} {x : List Char} {ts : List Token}
    (h : Draws escape (.suffixes s passed last) x ts) :
    ∃ t later, passed ++ [last] = t :: later ∧ s.Grows t := by
  generalize hpart : Part.suffixes s passed last = part at h
  induction h generalizing s passed last with
  | done | dot | square =>
      cases hpart
      exact ⟨_, _, rfl, .refl _⟩
  | call _ _ _ _ ih =>
      cases hpart
      obtain ⟨t, later, hsteps, hgrows⟩ := ih rfl
      exact ⟨t, later, hsteps, hgrows.of_call⟩
  | round _ _ _ _ _ ih =>
      cases hpart
      obtain ⟨t, later, hsteps, hgrows⟩ := ih rfl
      exact ⟨t, later, hsteps, hgrows.of_call⟩
  | argument | more => exact nomatch hpart

/-! ## §3. Bodies. -/

/-- A top-level chain of a body: its tokens and its steps. -/
structure Chain where
  tokens : List Token
  steps : List Step
  deriving Repr, DecidableEq, Inhabited

/-- A leading sign is an operand of its own. -/
def Operand.sign (c : Char) : Operand := { value := String.singleton c }

/-- A leading sign counts as a chain. -/
def Chain.sign (c : Char) : Chain :=
  { tokens := [.operand (.sign c)], steps := [(Operand.sign c).step .plain] }

/-- The chain of an operand with its suffixes. -/
def Chain.of (o : Operand) (ts : List Token) (passed : List Step) (last : Step) : Chain :=
  { tokens := .operand o :: ts, steps := passed ++ [last] }

/-- Chains with blanks before each of them. -/
inductive Strung (escape : Char) : List Char → List Chain → Prop
  | nil : Strung escape [] []
  | cons {o : Operand} {last : Step} {passed : List Step} {b p x t : List Char} {ts : List Token}
      {chains : List Chain} (nonempty : b ≠ []) (blanks : Blanks b) (head : Spelling escape p o)
      (tail : Draws escape (.suffixes (o.step .plain) passed last) x ts)
      (rest : Strung escape t chains) :
      Strung escape (b ++ (p ++ (x ++ t))) (.of o ts passed last :: chains)

/-- A body without a fault is laid out in chains: blanks stand between them, nothing need stand
after an insert sign, and a comment may stand at the end. -/
inductive Laid (escape : Char) : List Char → List Chain → Prop
  | sign {b t : List Char} (before : Blanks b) (ending : Ending t) :
      Laid escape (b ++ '=' :: t) [.sign '=']
  | insert {o : Operand} {last : Step} {passed : List Step} {b b' p x m t : List Char}
      {ts : List Token} {chains : List Chain} (before : Blanks b) (behind : Blanks b')
      (head : Spelling escape p o)
      (tail : Draws escape (.suffixes (o.step .plain) passed last) x ts)
      (others : Strung escape m chains) (ending : Ending t) :
      Laid escape (b ++ '=' :: (b' ++ (p ++ (x ++ (m ++ t)))))
        (.sign '=' :: .of o ts passed last :: chains)
  | operands {o : Operand} {last : Step} {passed : List Step} {b p x m t : List Char}
      {ts : List Token} {chains : List Chain} (before : Blanks b) (head : Spelling escape p o)
      (unsigned : p.head? ≠ some '=')
      (tail : Draws escape (.suffixes (o.step .plain) passed last) x ts)
      (apart : IsKeyword p → ∀ c, x.head? = some c → isBlank c = false)
      (others : Strung escape m chains) (ending : Ending t) :
      Laid escape (b ++ (p ++ (x ++ (m ++ t)))) (.of o ts passed last :: chains)
  | comment {b text : List Char} (before : Blanks b) :
      Laid escape (b ++ '#' :: text) [.sign '#']

/-- The chains of a body follow one another as the grammar has them. -/
theorem Separated.strung {m : List Char} (h : Separated escape m) :
    ∃ chains, Strung escape m chains := by
  induction h with
  | nil => exact ⟨[], .nil⟩
  | cons nonempty blanks head _ ih =>
      obtain ⟨p, x, o, rfl, ho, hdrawn⟩ := head.drawn
      obtain ⟨passed, last, ts, hdraws, -⟩ := hdrawn .plain plain_ne_function
      obtain ⟨chains, hrest⟩ := ih
      rw [List.append_assoc]
      exact ⟨_, .cons nonempty blanks ho hdraws hrest⟩

/-- **Every body is laid out in chains.** -/
theorem IsBody.laid {body : List Char} (h : IsBody escape body) :
    ∃ chains, Laid escape body chains := by
  cases h with
  | sign before ending => exact ⟨_, .sign before ending⟩
  | insert before behind first others ending =>
      obtain ⟨p, x, o, rfl, ho, hdrawn⟩ := first.drawn
      obtain ⟨passed, last, ts, hdraws, -⟩ := hdrawn .plain plain_ne_function
      obtain ⟨chains, hchains⟩ := others.strung
      rw [List.append_assoc]
      exact ⟨_, .insert before behind ho hdraws hchains ending⟩
  | operands before head unsigned tail apart others ending =>
      obtain ⟨o, ho⟩ := head.spelling
      obtain ⟨passed, last, ts, hdraws, -⟩ := tail.drawn _ (o.step_uncalled plain_ne_function)
      obtain ⟨chains, hchains⟩ := others.strung
      exact ⟨_, .operands before ho unsigned hdraws apart hchains ending⟩
  | comment before => exact ⟨_, .comment before⟩

end LayerTemplates
