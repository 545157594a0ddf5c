/-
  LayerTemplates.Proofs.Expression.Accepting
  ──────────────────────────────────────────
  Every body of the grammar is accepted.

  What is written in the grammar takes the machine from where it may stand to where it ends,
  and what follows is accepted from there.  An operand ends only when the character after it
  is seen, so what follows must not go on with the operand.

  Main statements:
    * `Config.accepts_primary` — an operand is read where one is in place.
    * `Config.accepts_written` — so are chains, suffixes and arguments.
    * `IsBody.accepts` — the machine accepts every body.
-/
import LayerTemplates.Proofs.Expression.Acceptor

namespace LayerTemplates

/-! ## §1. Character classes. -/

theorem isLexemeChar_of_isDigit {c : Char} (h : c.isDigit = true) : isLexemeChar c = true := by
  -- a digit is none of the listed characters, so it is in none of the three other classes
  have hblanks : (blanks.all fun b => !b.isDigit) = true := by decide
  have hquotes : (quotes.all fun q => !q.isDigit) = true := by decide
  have hblank : isBlank c = false := by
    cases hb : isBlank c with
    | false => rfl
    | true =>
        have hdigit := List.all_eq_true.1 hblanks c (List.contains_iff_mem.1 hb)
        rw [h] at hdigit
        exact absurd hdigit (by simp)
  have hquote : isQuote c = false := by
    cases hq : isQuote c with
    | false => rfl
    | true =>
        have hdigit := List.all_eq_true.1 hquotes c (List.contains_iff_mem.1 hq)
        rw [h] at hdigit
        exact absurd hdigit (by simp)
  have hpunctuation : isPunctuation c = false := by
    unfold isPunctuation
    simp only [Bool.or_eq_false_iff, beq_eq_false_iff_ne]
    refine ⟨⟨⟨⟨⟨⟨⟨?_, ?_⟩, ?_⟩, ?_⟩, ?_⟩, ?_⟩, ?_⟩, ?_⟩ <;>
      (rintro rfl; exact absurd h (by decide))
  unfold isLexemeChar
  rw [hblank, hquote, hpunctuation]
  rfl

/-- What follows does not go on with a bare word. -/
def Stops (rest : List Char) : Prop := ∀ c, rest.head? = some c → isLexemeChar c = false

theorem isLexemeChar_of_isBlank {c : Char} (h : isBlank c = true) : isLexemeChar c = false := by
  unfold isLexemeChar
  rw [h]
  rfl

/-- A symbol stops an operand, with blanks before it or without. -/
theorem stops_blanks {b rest : List Char} {c : Char} (hb : Blanks b)
    (hc : isLexemeChar c = false) : Stops (b ++ c :: rest) := by
  intro d hd
  cases b with
  | nil =>
      obtain rfl := Option.some.inj hd
      exact hc
  | cons b₀ b =>
      obtain rfl := Option.some.inj hd
      exact isLexemeChar_of_isBlank (hb _ List.mem_cons_self)

/-- Suffixes start with a blank or a symbol. -/
theorem Written.stops {escape : Char} {called after : Bool} {x rest : List Char}
    (h : Written escape (.suffixes called) x after) (hrest : Stops rest) : Stops (x ++ rest) := by
  cases h with
  | done => exact hrest
  | dot before _ _ _ =>
      rw [List.append_assoc]
      exact stops_blanks before (by decide)
  | square before _ _ _ _ =>
      rw [List.append_assoc]
      exact stops_blanks before (by decide)
  | call before _ _ =>
      rw [List.append_assoc]
      exact stops_blanks before (by decide)
  | round before _ _ =>
      rw [List.append_assoc]
      exact stops_blanks before (by decide)

theorem Ending.stops {t : List Char} (h : Ending t) : Stops t := by
  cases h with
  | blanks hb =>
      intro c hc
      exact isLexemeChar_of_isBlank (hb c (List.mem_of_mem_head? hc))
  | comment hb => exact stops_blanks hb (by decide)

theorem Separated.stops {escape : Char} {m rest : List Char} (h : Separated escape m)
    (hrest : Stops rest) : Stops (m ++ rest) := by
  cases h with
  | nil => exact hrest
  | @cons called b s t nonempty blanks head rest =>
      cases b with
      | nil => exact absurd rfl nonempty
      | cons b₀ b =>
          intro c hc
          obtain rfl := Option.some.inj hc
          exact isLexemeChar_of_isBlank (blanks _ List.mem_cons_self)

/-! ## §2. Blanks and symbols. -/

namespace Config

variable {escape : Char} {s s' : Config} {c : Char} {b rest : List Char}

theorem accepts_between (hr : s.reading = .between) (h : s.between c = some s')
    (ha : Accepts escape s' rest) : Accepts escape s (c :: rest) := by
  refine ⟨s', ?_, ha⟩
  unfold step
  rw [hr]
  exact h

theorem between_blank (h : isBlank c = true) : s.between c = some s.spaced := by
  unfold between
  rw [if_pos h]

theorem spaced_spaced : s.spaced.spaced = s.spaced := by
  unfold spaced
  by_cases h : s.pending = .adjacent
  · rw [if_pos h]
    rfl
  · rw [if_neg h, if_neg h]

theorem spaced_of_ne (h : s.pending ≠ .adjacent) : s.spaced = s := by
  unfold spaced
  rw [if_neg h]

theorem spaced_of_eq (h : s.pending = .adjacent) : s.spaced = { s with pending := .blank } := by
  unfold spaced
  rw [if_pos h]

/-- After the first blank the others change nothing. -/
theorem accepts_blanks_spaced (hr : s.reading = .between) (hb : Blanks b)
    (ha : Accepts escape s.spaced rest) : Accepts escape s.spaced (b ++ rest) := by
  induction b with
  | nil => exact ha
  | cons c b ih =>
      have hc := hb c List.mem_cons_self
      refine accepts_between (by rw [spaced_reading, hr]) (between_blank hc) ?_
      rw [spaced_spaced]
      exact ih fun d hd => hb d (List.mem_cons_of_mem _ hd)

/-- Blanks are passed over; after an operand they are noted. -/
theorem accepts_blanks (hr : s.reading = .between) (hb : Blanks b)
    (ha : Accepts escape (if b = [] then s else s.spaced) rest) :
    Accepts escape s (b ++ rest) := by
  cases b with
  | nil => exact ha
  | cons c b =>
      rw [if_neg (List.cons_ne_nil c b)] at ha
      refine accepts_between hr (between_blank (hb c List.mem_cons_self)) ?_
      exact accepts_blanks_spaced hr (fun d hd => hb d (List.mem_cons_of_mem _ hd)) ha

/-- Where blanks make no difference to the machine, they may be left out. -/
theorem accepts_blanks_of_ne (hr : s.reading = .between) (hp : s.pending ≠ .adjacent)
    (hb : Blanks b) (ha : Accepts escape s rest) : Accepts escape s (b ++ rest) := by
  refine accepts_blanks hr hb ?_
  rw [spaced_of_ne hp]
  split <;> exact ha

/-- A symbol that is in place after an operand, and after blanks as well if there are any. -/
theorem accepts_symbol (hr : s.reading = .between) (hp : s.pending = .adjacent) (hb : Blanks b)
    (h : s.between c = some s')
    (hspaced : b ≠ [] → { s with pending := .blank }.between c = some s')
    (ha : Accepts escape s' rest) : Accepts escape s (b ++ c :: rest) := by
  refine accepts_blanks hr hb ?_
  -- only with blanks before it the symbol meets `blank` in place of `adjacent`
  by_cases hnil : b = []
  · rw [if_pos hnil]
    exact accepts_between hr h ha
  · rw [if_neg hnil, spaced_of_eq hp]
    exact accepts_between hr (hspaced hnil) ha

/-- A delimiter is in place after an operand. -/
theorem delimit_of_adjacent (hp : s.pending = .adjacent) (d : Delimiter) :
    s.delimit d = s.delimited d := by
  unfold delimit
  rw [if_pos (Or.inl hp)]

/-- It is in place after blanks as well, unless a keyword leads. -/
theorem delimit_of_blank (hlead : namesOperator s.lead = false) (d : Delimiter) :
    { s with pending := .blank }.delimit d = s.delimited d := by
  unfold delimit
  rw [if_pos (Or.inr ⟨rfl, fun h => by rw [hlead] at h; exact absurd h.2 (by simp)⟩)]
  cases d with
  | opening bracket => cases bracket <;> rfl
  | dot | comma => rfl

/-- A delimiter and the blanks before it. -/
theorem accepts_delimiter (hr : s.reading = .between) (hp : s.pending = .adjacent)
    (hb : Blanks b) (hlead : namesOperator s.lead = true → b = []) {d : Delimiter}
    (hsymbol : ∀ t : Config, t.between c = t.delimit d) (h : s.delimited d = some s')
    (ha : Accepts escape s' rest) : Accepts escape s (b ++ c :: rest) := by
  refine accepts_symbol hr hp hb ?_ ?_ ha
  · rw [hsymbol, delimit_of_adjacent hp, h]
  · intro hnil
    have hname : namesOperator s.lead = false := by
      cases hn : namesOperator s.lead with
      | false => rfl
      | true => exact absurd (hlead hn) hnil
    rw [hsymbol, delimit_of_blank hname, h]

/-- A closing bracket and the blanks before it. -/
theorem accepts_close (hr : s.reading = .between) (hp : s.pending = .adjacent) (hb : Blanks b)
    {closer : Bracket} {outer : List Bracket} (hg : s.groups = closer :: outer)
    (hsymbol : ∀ t : Config, t.between c = t.close closer)
    (ha : Accepts escape
      { s with groups := outer, pending := .adjacent, called := s.called || closer == .round }
      rest) : Accepts escape s (b ++ c :: rest) := by
  refine accepts_symbol hr hp hb ?_ ?_ ha
  · rw [hsymbol]
    unfold close
    rw [hg]
    exact if_pos ⟨rfl, Or.inl hp⟩
  · intro _
    rw [hsymbol]
    unfold close
    dsimp only
    rw [hg]
    exact if_pos ⟨rfl, Or.inr (Or.inl rfl)⟩

/-- A comma and the blanks before it. -/
theorem accepts_comma (hr : s.reading = .between) (hp : s.pending = .adjacent) (hb : Blanks b)
    {outer : List Bracket} (hg : s.groups = .round :: outer)
    (ha : Accepts escape { s with pending := .delimiter .comma } rest) :
    Accepts escape s (b ++ ',' :: rest) := by
  have hround : s.groups.head? = some .round := by
    rw [hg]
    rfl
  refine accepts_symbol hr hp hb ?_ ?_ ha
  · show s.comma = _
    unfold comma
    exact if_pos ⟨Or.inl hp, hround⟩
  · intro _
    show comma _ = _
    unfold comma
    exact if_pos ⟨Or.inr rfl, hround⟩

/-! ## §3. Primaries. -/

/-- A word or a number that is ended by what follows. -/
theorem accepts_word_ended (hr : s.reading = .word) (hstop : Stops rest)
    (ha : Accepts escape s.ended rest) : Accepts escape s rest := by
  cases rest with
  | nil =>
      -- the end of the body ends the word as well
      refine ⟨ha.1, ?_⟩
      rw [hr]
      trivial
  | cons c rest =>
      obtain ⟨s', hs', ha'⟩ := ha
      refine ⟨s', ?_, ha'⟩
      unfold step
      rw [hr]
      dsimp only
      rw [if_neg (by rw [hstop c rfl]; simp)]
      exact hs'

theorem accepts_number_ended (hr : s.reading = .number true) (hstop : Stops rest)
    (ha : Accepts escape s.ended rest) : Accepts escape s rest := by
  cases rest with
  | nil =>
      refine ⟨ha.1, ?_⟩
      rw [hr]
  | cons c rest =>
      -- a digit is a lexeme character, and what follows starts with none
      have hdigit : c.isDigit ≠ true := by
        intro h
        have hlexeme := isLexemeChar_of_isDigit h
        rw [hstop c rfl] at hlexeme
        exact absurd hlexeme (by simp)
      obtain ⟨s', hs', ha'⟩ := ha
      refine ⟨s', ?_, ha'⟩
      unfold step
      rw [hr]
      dsimp only
      rw [if_neg hdigit, if_pos rfl]
      exact hs'

/-- More characters of a word. -/
theorem accepts_word (w : List Char) :
    ∀ s : Config, s.reading = .word → (∀ c ∈ w, isLexemeChar c = true) →
      Accepts escape { s with lead := s.lead.map (· ++ w) } rest →
        Accepts escape s (w ++ rest) := by
  -- on the word, for every machine: a character goes to the end of the word that leads
  induction w with
  | nil =>
      intro s _ _ ha
      rw [lead_nil] at ha
      exact ha
  | cons c w ih =>
      intro s hr hw ha
      refine ⟨{ s with lead := s.lead.map (· ++ [c]) }, ?_, ?_⟩
      · unfold step
        rw [hr]
        dsimp only
        rw [if_pos (hw c List.mem_cons_self)]
      · refine ih _ hr (fun d hd => hw d (List.mem_cons_of_mem _ hd)) ?_
        rw [← lead_append] at ha
        exact ha

/-- More digits. -/
theorem accepts_digits (digits : List Char) :
    ∀ s : Config, s.reading = .number true → (∀ c ∈ digits, c.isDigit = true) →
      Accepts escape s rest → Accepts escape s (digits ++ rest) := by
  induction digits with
  | nil => intro s _ _ ha; exact ha
  | cons c digits ih =>
      intro s hr hdigits ha
      have hstep : s.step escape c = some s := by
        unfold step
        rw [hr]
        dsimp only
        rw [if_pos (hdigits c List.mem_cons_self), ← hr]
      exact ⟨s, hstep, ih s hr (fun d hd => hdigits d (List.mem_cons_of_mem _ hd)) ha⟩

/-- The text of a literal. -/
theorem accepts_literalText {quote : Char} {w value : List Char}
    (h : LiteralText escape quote w value) :
    ∀ (s : Config) (filled : Bool), s.reading = .literal quote false filled →
      Accepts escape { s with reading := .literal quote false (filled || !value.isEmpty) } rest →
        Accepts escape s (w ++ rest) := by
  -- along the text; from the first character on the literal has a value
  induction h with
  | nil =>
      intro s filled hr ha
      have hsame : { s with reading := .literal quote false (filled || !([] : List Char).isEmpty) }
          = s := by
        rw [show (filled || !([] : List Char).isEmpty) = filled by simp, ← hr]
      rw [hsame] at ha
      exact ha
  | @plain c w value notEscape notQuote _ ih =>
      intro s filled hr ha
      refine ⟨{ s with reading := .literal quote false true }, ?_, ?_⟩
      · unfold step
        rw [hr]
        dsimp only
        rw [if_neg notEscape, if_neg notQuote]
      · refine ih _ true rfl ?_
        simpa using ha
  | @escaped c w value _ ih =>
      intro s filled hr ha
      refine ⟨{ s with reading := .literal quote true filled }, ?_,
        { s with reading := .literal quote false true }, rfl, ?_⟩
      · unfold step
        rw [hr]
        dsimp only
        rw [if_pos rfl]
      · refine ih _ true rfl ?_
        simpa using ha

/-- An operand is in place. -/
def Ready (s : Config) : Prop :=
  s.pending = .start ∨ (s.pending = .blank ∧ s.groups = []) ∨ ∃ d, s.pending = .delimiter d

/-- Where an operand is in place, one is started; only at the start it may lead the body. -/
theorem begin_of_ready (h : s.Ready) (reading : Phase) (word : Option (List Char)) :
    ∃ lead, s.begin reading word = some { s with reading, called := false, lead }
      ∧ (lead = none ∨ s.pending = .start ∧ lead = word) := by
  unfold begin
  rcases h with hp | ⟨hp, hg⟩ | ⟨d, hp⟩
  · rw [hp]
    exact ⟨word, rfl, Or.inr ⟨rfl, rfl⟩⟩
  · rw [hp]
    dsimp only
    rw [if_pos hg]
    exact ⟨none, rfl, Or.inl rfl⟩
  · rw [hp]
    exact ⟨none, rfl, Or.inl rfl⟩

theorem between_word (hc : isLexemeChar c = true) (hsign : s.pending = .start → c ≠ '=') :
    s.between c = s.begin .word (some [c]) := by
  have hblank := not_isBlank_of_isLexemeChar hc
  have hquote := not_isQuote_of_isLexemeChar hc
  have hne : ∀ d, isLexemeChar d = false → c ≠ d := by
    rintro d hd rfl
    rw [hc] at hd
    exact absurd hd (by simp)
  -- the tests of `between` in their order, each of which asks for another character
  unfold between
  rw [if_neg (by rw [hblank]; simp), if_neg (fun h => hsign h.2 h.1), if_neg (hne '#' (by decide)),
    if_neg (hne '.' (by decide)), if_neg (hne '[' (by decide)), if_neg (hne '(' (by decide)),
    if_neg (hne ',' (by decide)), if_neg (hne ']' (by decide)), if_neg (hne ')' (by decide)),
    if_neg (hne '^' (by decide)), if_neg (by rw [hquote]; simp)]

theorem between_quote (hc : isQuote c = true) :
    s.between c = s.begin (.literal c false false) none := by
  have hmem : c ∈ quotes := List.contains_iff_mem.1 hc
  unfold quotes at hmem
  simp only [List.mem_cons, List.not_mem_nil, or_false] at hmem
  rcases hmem with rfl | rfl | rfl <;> rfl

/-- What an operand leaves behind. -/
def read (s : Config) (lead : Option (List Char)) : Config :=
  { s with reading := .between, pending := .adjacent, called := false, lead }

/-- **An operand is read where one is in place.**  It leads the body at the start only, and then
it names an operator only if it is a keyword. -/
theorem accepts_primary (hr : s.reading = .between) (hready : s.Ready) {p : List Char}
    (hp : Primary escape p) (hsign : s.pending = .start → p.head? ≠ some '=')
    (hstop : Stops rest)
    (ha : ∀ lead, (namesOperator lead = true → s.pending = .start ∧ IsKeyword p) →
      Accepts escape (s.read lead) rest) : Accepts escape s (p ++ rest) := by
  cases hp with
  | word nonempty chars =>
      cases p with
      | nil => exact absurd rfl nonempty
      | cons c w =>
          have hc := chars c List.mem_cons_self
          obtain ⟨lead, hbegin, hlead⟩ := begin_of_ready hready .word (some [c])
          have hne : s.pending = .start → c ≠ '=' := fun h heq => hsign h (by rw [heq]; rfl)
          rw [List.cons_append]
          refine accepts_between hr ((between_word hc hne).trans hbegin) ?_
          refine accepts_word w _ rfl (fun d hd => chars d (List.mem_cons_of_mem _ hd)) ?_
          refine accepts_word_ended rfl hstop (ha _ fun hname => ?_)
          rcases hlead with rfl | ⟨hstart, rfl⟩
          · exact absurd hname (by simp [namesOperator])
          · -- the two signs name operators as well, but no word of the grammar is one here
            refine ⟨hstart, ?_⟩
            obtain ⟨operator, hop⟩ := Option.isSome_iff_exists.1 hname
            refine isKeyword_of_ofKeyword? hop ?_ ?_
            · intro heq
              exact hne hstart (List.head_eq_of_cons_eq heq)
            · intro heq
              rw [List.head_eq_of_cons_eq heq] at hc
              exact absurd hc (by decide)
  | @literal quote w value opens closes inner nonempty =>
      obtain ⟨lead, hbegin, hlead⟩ := begin_of_ready hready (.literal quote false false) none
      have hnone : lead = none := by
        rcases hlead with h | ⟨_, h⟩ <;> exact h
      rw [List.cons_append, List.append_assoc]
      refine accepts_between hr ((between_quote opens).trans hbegin) ?_
      refine accepts_literalText inner _ false rfl ?_
      -- the closing quote
      refine ⟨s.read none, ?_, ha none fun h => absurd h (by simp [namesOperator])⟩
      unfold step
      dsimp only
      rw [if_neg closes, if_pos rfl, if_pos (by simpa using nonempty), hnone]
      rfl
  | @ancestor digits nonempty chars =>
      cases digits with
      | nil => exact absurd rfl nonempty
      | cons c digits =>
          obtain ⟨lead, hbegin, hlead⟩ := begin_of_ready hready (.number false) none
          have hnone : lead = none := by
            rcases hlead with h | ⟨_, h⟩ <;> exact h
          -- the caret, the first digit, and the others
          refine accepts_between hr hbegin
            ⟨{ s with reading := .number true, called := false, lead }, ?_, ?_⟩
          · unfold step
            dsimp only
            rw [if_pos (chars c List.mem_cons_self)]
          · refine accepts_digits digits _ rfl
              (fun d hd => chars d (List.mem_cons_of_mem _ hd)) ?_
            refine accepts_number_ended rfl hstop ?_
            rw [hnone]
            exact ha none fun h => absurd h (by simp [namesOperator])

/-! ## §4. Chains. -/

/-- The machine after an operand. -/
def afterOperand (called : Bool) (lead : Option (List Char)) (groups : List Bracket) : Config :=
  { reading := .between, pending := .adjacent, called, lead, groups }

/-- Characters of a form take the machine from where they may stand to where they end.  A word
that leads the body leads it no longer once a suffix follows. -/
def Reads (escape : Char) : Form → List Char → Bool → Prop
  | .chain, x, after =>
      ∀ (s : Config) (rest : List Char), s.reading = .between → s.Ready → s.pending ≠ .start →
        Stops rest →
        (∀ lead, namesOperator lead = false →
          Accepts escape (afterOperand after lead s.groups) rest) →
        Accepts escape s (x ++ rest)
  | .suffixes called, x, after =>
      ∀ (lead : Option (List Char)) (groups : List Bracket) (rest : List Char),
        (namesOperator lead = true → ∀ c, x.head? = some c → isBlank c = false) → Stops rest →
        (∀ lead', (namesOperator lead' = true → lead' = lead ∧ x = []) →
          Accepts escape (afterOperand after lead' groups) rest) →
        Accepts escape (afterOperand called lead groups) (x ++ rest)
  | .arguments, x, _ =>
      ∀ (s : Config) (outer : List Bracket) (rest : List Char), s.reading = .between →
        (∃ d, s.pending = .delimiter d) → s.groups = .round :: outer →
        (∀ lead, namesOperator lead = false → Accepts escape (afterOperand true lead outer) rest) →
        Accepts escape s (x ++ ')' :: rest)

/-- A suffix that starts with a blank does not follow a keyword. -/
theorem eq_nil_of_apart {lead : Option (List Char)} {x : List Char} (hb : Blanks b)
    (h : namesOperator lead = true → ∀ d, (b ++ x).head? = some d → isBlank d = false)
    (hname : namesOperator lead = true) : b = [] := by
  cases b with
  | nil => rfl
  | cons d b =>
      have hblank := hb d List.mem_cons_self
      rw [h hname d rfl] at hblank
      exact absurd hblank (by simp)

/-- Where no keyword leads, none leads after suffixes either. -/
theorem Reads.suffixes {called after : Bool} {x : List Char}
    (h : Reads escape (.suffixes called) x after) {lead : Option (List Char)}
    {groups : List Bracket} (hname : namesOperator lead = false) (hstop : Stops rest)
    (ha : ∀ lead, namesOperator lead = false →
      Accepts escape (afterOperand after lead groups) rest) :
    Accepts escape (afterOperand called lead groups) (x ++ rest) := by
  refine h lead groups rest (fun hn => ?_) hstop fun lead' hlead' => ha lead' ?_
  · rw [hname] at hn
    exact absurd hn (by simp)
  · refine Bool.eq_false_iff.2 fun hn => ?_
    rw [(hlead' hn).1, hname] at hn
    exact absurd hn (by simp)

/-- So what follows suffixes may ask for more of a keyword that leads. -/
theorem Reads.tail {called after : Bool} {x : List Char}
    (h : Reads escape (.suffixes called) x after) {lead : Option (List Char)}
    {groups : List Bracket} (hname : namesOperator lead = false) (hstop : Stops rest)
    {P : Option (List Char) → Prop}
    (ha : ∀ lead, (namesOperator lead = true → P lead) →
      Accepts escape (afterOperand after lead groups) rest) :
    Accepts escape (afterOperand called lead groups) (x ++ rest) := by
  refine h.suffixes hname hstop fun lead hlead => ha lead fun hn => ?_
  rw [hlead] at hn
  exact absurd hn (by simp)

/-- An operand away from the start leads nothing. -/
theorem accepts_primary_of_ne_start (hr : s.reading = .between) (hready : s.Ready)
    (hstart : s.pending ≠ .start) {p : List Char} (hp : Primary escape p) (hstop : Stops rest)
    (ha : ∀ lead, namesOperator lead = false →
      Accepts escape (afterOperand false lead s.groups) rest) : Accepts escape s (p ++ rest) := by
  refine accepts_primary hr hready hp (fun h => absurd h hstart) hstop fun lead hlead => ?_
  exact ha lead (Bool.eq_false_iff.2 fun hn => hstart (hlead hn).1)

/-- The machine after a delimiter. -/
theorem ready_delimiter (d : Delimiter) (called : Bool) (lead : Option (List Char))
    (groups : List Bracket) :
    Ready { reading := .between, pending := .delimiter d, called, lead, groups } :=
  Or.inr (Or.inr ⟨d, rfl⟩)

/-- **What is written in a form is read.** -/
theorem accepts_written {form : Form} {x : List Char} {after : Bool}
    (h : Written escape form x after) : Reads escape form x after := by
  -- on the derivation; each rule is read symbol by symbol, with its parts by induction
  induction h with
  | chain head tail ih =>
      intro s rest hr hready hstart hstop ha
      rw [List.append_assoc]
      refine accepts_primary_of_ne_start hr hready hstart head (tail.stops hstop)
        fun lead hlead => ?_
      exact ih.suffixes hlead hstop ha
  | @done called =>
      intro lead groups rest hapart hstop ha
      exact ha lead fun _ => ⟨rfl, rfl⟩
  | @dot called after b b' p x before behind step tail ih =>
      intro lead groups rest hapart hstop ha
      simp only [List.append_assoc, List.cons_append]
      refine accepts_delimiter rfl rfl before (eq_nil_of_apart before hapart) (fun _ => rfl)
        (show delimited _ .dot = some _ from rfl) ?_
      refine accepts_blanks_of_ne rfl (by simp) behind ?_
      refine accepts_primary_of_ne_start rfl (ready_delimiter _ _ _ _) (by simp) step
        (tail.stops hstop) fun lead hlead => ?_
      exact ih.tail hlead hstop ha
  | @square called inside after b b' b'' x y before behind inner close tail ih₁ ih₂ =>
      intro lead groups rest hapart hstop ha
      simp only [List.append_assoc, List.cons_append]
      refine accepts_delimiter rfl rfl before (eq_nil_of_apart before hapart) (fun _ => rfl)
        (show delimited _ (.opening .square) = some _ from rfl) ?_
      refine accepts_blanks_of_ne rfl (by simp) behind ?_
      refine ih₁ _ _ rfl (ready_delimiter _ _ _ _) (by simp) (stops_blanks close (by decide))
        fun lead hlead => ?_
      -- what stands in square brackets is innermost from here on
      refine accepts_close rfl rfl close rfl (fun _ => rfl) ?_
      show Accepts escape (afterOperand (inside || false) lead groups) _
      rw [Bool.or_false]
      exact ih₂.tail hlead hstop ha
  | @call after b b' x before behind tail ih =>
      intro lead groups rest hapart hstop ha
      simp only [List.append_assoc, List.cons_append]
      refine accepts_delimiter rfl rfl before (eq_nil_of_apart before hapart) (fun _ => rfl)
        (show delimited _ (.opening .round) = some _ from rfl) ?_
      refine accepts_blanks_of_ne rfl (by simp) behind ?_
      refine accepts_between rfl
        (show between _ ')' = some (afterOperand true none groups) from rfl) ?_
      exact ih.tail rfl hstop ha
  | @round inside after b args x before inner tail ih₁ ih₂ =>
      intro lead groups rest hapart hstop ha
      simp only [List.append_assoc, List.cons_append]
      refine accepts_delimiter rfl rfl before (eq_nil_of_apart before hapart) (fun _ => rfl)
        (show delimited _ (.opening .round) = some _ from rfl) ?_
      refine ih₁ _ groups _ rfl ⟨_, rfl⟩ rfl fun lead hlead => ?_
      exact ih₂.tail hlead hstop ha
  | @argument inside b b' x before inner behind ih =>
      intro s outer rest hr hp hg ha
      obtain ⟨d, hp⟩ := hp
      simp only [List.append_assoc]
      refine accepts_blanks_of_ne hr (by rw [hp]; simp) before ?_
      refine ih s _ hr (Or.inr (Or.inr ⟨d, hp⟩)) (by rw [hp]; simp)
        (stops_blanks behind (by decide)) fun lead hlead => ?_
      rw [hg]
      -- what stands in an argument list is not; its owner has a list now
      refine accepts_close rfl rfl behind rfl (fun _ => rfl) ?_
      show Accepts escape (afterOperand (inside || true) lead outer) _
      rw [Bool.or_true]
      exact ha lead hlead
  | @more inside after b b' x args before inner behind tail ih₁ ih₂ =>
      intro s outer rest hr hp hg ha
      obtain ⟨d, hp⟩ := hp
      simp only [List.append_assoc, List.cons_append]
      refine accepts_blanks_of_ne hr (by rw [hp]; simp) before ?_
      refine ih₁ s _ hr (Or.inr (Or.inr ⟨d, hp⟩)) (by rw [hp]; simp)
        (stops_blanks behind (by decide)) fun lead hlead => ?_
      rw [hg]
      refine accepts_comma rfl rfl behind rfl ?_
      exact ih₂ _ outer rest rfl ⟨_, rfl⟩ rfl ha

/-! ## §5. Bodies. -/

theorem accepts_comment (text : List Char) :
    ∀ s : Config, s.reading = .comment → s.Complete → Accepts escape s text := by
  induction text with
  | nil => intro s _ hc; exact hc
  | cons c text ih =>
      intro s hr hc
      refine ⟨s, ?_, ih s hr hc⟩
      unfold step
      rw [hr]

/-- A body may end after an operand, with a comment or without. -/
theorem accepts_ending {t : List Char} (ht : Ending t) (hr : s.reading = .between)
    (hg : s.groups = []) (hp : s.pending = .adjacent ∨ s.pending = .blank) :
    Accepts escape s t := by
  have hspaced : s.spaced.pending = .adjacent ∨ s.spaced.pending = .blank := by
    rcases hp with hp | hp
    · rw [spaced_of_eq hp]
      exact Or.inr rfl
    · rw [spaced_of_ne (by rw [hp]; simp)]
      exact Or.inr hp
  -- with blanks or without, the machine still waits for an operand or the end
  have hany : ∀ u : Config, u = s ∨ u = s.spaced →
      u.reading = .between ∧ u.groups = [] ∧ (u.pending = .adjacent ∨ u.pending = .blank) := by
    rintro u (rfl | rfl)
    · exact ⟨hr, hg, hp⟩
    · exact ⟨by rw [spaced_reading, hr], by rw [spaced_groups, hg], hspaced⟩
  cases ht with
  | blanks hb =>
      rw [← List.append_nil t]
      refine accepts_blanks hr hb ?_
      obtain ⟨hr', hg', hp'⟩ := hany (if t = [] then s else s.spaced) (by split <;> simp)
      refine ⟨hg', ?_⟩
      rw [hr']
      exact hp'
  | @comment b text hb =>
      refine accepts_blanks hr hb ?_
      obtain ⟨hr', hg', hp'⟩ := hany (if b = [] then s else s.spaced) (by split <;> simp)
      have hstart : (if b = [] then s else s.spaced).pending ≠ .start := by
        rcases hp' with hp' | hp' <;> rw [hp'] <;> simp
      refine accepts_between hr' rfl (accepts_comment text _ rfl ?_)
      rw [if_neg hstart]
      exact ⟨hg', hp'⟩

/-- Chains that are set apart may follow an operand, and then the body may end. -/
theorem accepts_separated {m t : List Char} (hm : Separated escape m) (ht : Ending t) :
    ∀ s : Config, s.reading = .between → s.groups = [] →
      (s.pending = .adjacent ∨ s.pending = .blank) → Accepts escape s (m ++ t) := by
  induction hm with
  | nil => intro s hr hg hp; exact accepts_ending ht hr hg hp
  | @cons called b x m nonempty blanks head others ih =>
      intro s hr hg hp
      rw [List.append_assoc, List.append_assoc]
      refine accepts_blanks hr blanks ?_
      rw [if_neg nonempty]
      have hspaced : s.spaced.pending = .blank := by
        rcases hp with hp | hp
        · rw [spaced_of_eq hp]
        · rw [spaced_of_ne (by rw [hp]; simp), hp]
      refine accepts_written head s.spaced _ (by rw [spaced_reading, hr])
        (Or.inr (Or.inl ⟨hspaced, by rw [spaced_groups, hg]⟩)) (by rw [hspaced]; simp)
        (others.stops ht.stops) fun lead _ => ?_
      exact ih _ rfl (by rw [spaced_groups, hg]; rfl) (Or.inl rfl)

end Config

/-- **The machine accepts every body.** -/
theorem IsBody.accepts {escape : Char} {body : List Char} (h : IsBody escape body) :
    Config.Accepts escape {} body := by
  have hskip : ∀ {b rest : List Char}, Blanks b → Config.Accepts escape {} rest →
      Config.Accepts escape {} (b ++ rest) := fun hb ha =>
    Config.accepts_blanks_of_ne rfl (by simp) hb ha
  cases h with
  | sign before ending =>
      refine hskip before (Config.accepts_between rfl rfl ?_)
      exact Config.accepts_ending ending rfl rfl (Or.inr rfl)
  | insert before behind first others ending =>
      refine hskip before (Config.accepts_between rfl rfl ?_)
      refine Config.accepts_blanks_of_ne rfl (by simp) behind ?_
      refine Config.accepts_written first _ _ rfl (Or.inr (Or.inl ⟨rfl, rfl⟩)) (by simp)
        (others.stops ending.stops) fun lead _ => ?_
      exact Config.accepts_separated others ending _ rfl rfl (Or.inl rfl)
  | operands before head unsigned tail apart others ending =>
      have hstop := others.stops ending.stops
      refine hskip before (Config.accepts_primary rfl (Or.inl rfl) head (fun _ => unsigned)
        (tail.stops hstop) fun lead hlead => ?_)
      refine Config.accepts_written tail lead [] _ (fun hn => apart (hlead hn).2) hstop
        fun lead' _ => ?_
      exact Config.accepts_separated others ending _ rfl rfl (Or.inl rfl)
  | comment before =>
      refine hskip before (Config.accepts_between rfl rfl ?_)
      exact Config.accepts_comment _ _ rfl ⟨rfl, Or.inr rfl⟩

end LayerTemplates
