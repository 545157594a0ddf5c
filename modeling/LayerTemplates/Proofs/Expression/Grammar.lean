/-
  LayerTemplates.Proofs.Expression.Grammar
  ────────────────────────────────────────
  The grammar of placeholder bodies.

  A body is a list of chains with blanks between them, perhaps after an insert sign and
  perhaps before a comment.  A chain is a primary with suffixes; what stands in brackets is
  written in chains again.  Two things are not context free and are part of the rules here:
  the innermost lexeme of a chain has one argument list at most, and a keyword that leads a
  body takes no suffix after a blank.

  Main statement:
    * `isKeyword_of_ofKeyword?` — among words the keywords are those of four operators.
-/
import LayerTemplates.Expression.Lexer

namespace LayerTemplates

/-! ## §1. Primaries. -/

/-- Nothing but blanks. -/
def Blanks (s : List Char) : Prop := ∀ c ∈ s, isBlank c = true

theorem Blanks.nil : Blanks [] := fun _ hc => absurd hc (by simp)

/-- Blanks grow by one blank in front. -/
theorem Blanks.cons {c : Char} {s : List Char} (hc : isBlank c = true) (hs : Blanks s) :
    Blanks (c :: s) :=
  List.forall_mem_cons.2 ⟨hc, hs⟩

theorem Blanks.append {s t : List Char} (hs : Blanks s) (ht : Blanks t) : Blanks (s ++ t) :=
  List.forall_mem_append.2 ⟨hs, ht⟩

/-- What is written between the quotes of a literal, and the value that it stands for.  The
escape character makes the next one literal, whatever it is. -/
inductive LiteralText (escape quote : Char) : List Char → List Char → Prop
  | nil : LiteralText escape quote [] []
  | plain {c : Char} {s value : List Char} (notEscape : c ≠ escape) (notQuote : c ≠ quote)
      (rest : LiteralText escape quote s value) : LiteralText escape quote (c :: s) (c :: value)
  | escaped {c : Char} {s value : List Char} (rest : LiteralText escape quote s value) :
      LiteralText escape quote (escape :: c :: s) (c :: value)

/-- A bare word, a quoted literal or the digits after a caret.  A literal whose quote is the
escape character cannot be closed. -/
inductive Primary (escape : Char) : List Char → Prop
  | word {w : List Char} (nonempty : w ≠ []) (chars : ∀ c ∈ w, isLexemeChar c = true) :
      Primary escape w
  | literal {quote : Char} {s value : List Char} (opens : isQuote quote = true)
      (closes : quote ≠ escape) (inner : LiteralText escape quote s value) (nonempty : value ≠ []) :
      Primary escape (quote :: (s ++ [quote]))
  | ancestor {digits : List Char} (nonempty : digits ≠ [])
      (chars : ∀ c ∈ digits, c.isDigit = true) : Primary escape ('^' :: digits)

/-! ## §2. Chains. -/

/-- The forms that chains are made of. -/
inductive Form where
  | chain
  /-- What follows a primary, whose innermost lexeme has an argument list already or not. -/
  | suffixes (called : Bool)
  /-- What stands in an argument list that is not empty. -/
  | arguments
  deriving Repr, DecidableEq, Inhabited

/-- The characters are of the form, and in the end the innermost lexeme of the chain has an
argument list or not.  The next step of a path is innermost, and so is what stands in square
brackets; what stands in an argument list is not. -/
inductive Written (escape : Char) : Form → List Char → Bool → Prop
  | chain {p x : List Char} {called : Bool} (head : Primary escape p)
      (tail : Written escape (.suffixes false) x called) : Written escape .chain (p ++ x) called
  | done {called : Bool} : Written escape (.suffixes called) [] called
  | dot {called after : Bool} {b b' p x : List Char} (before : Blanks b) (behind : Blanks b')
      (step : Primary escape p) (rest : Written escape (.suffixes false) x after) :
      Written escape (.suffixes called) (b ++ '.' :: (b' ++ (p ++ x))) after
  | square {called inside after : Bool} {b b' b'' s x : List Char} (before : Blanks b)
      (behind : Blanks b') (inner : Written escape .chain s inside) (close : Blanks b'')
      (rest : Written escape (.suffixes inside) x after) :
      Written escape (.suffixes called) (b ++ '[' :: (b' ++ (s ++ (b'' ++ ']' :: x)))) after
  /-- An empty argument list. -/
  | call {after : Bool} {b b' x : List Char} (before : Blanks b) (behind : Blanks b')
      (rest : Written escape (.suffixes true) x after) :
      Written escape (.suffixes false) (b ++ '(' :: (b' ++ ')' :: x)) after
  | round {inside after : Bool} {b args x : List Char} (before : Blanks b)
      (inner : Written escape .arguments args inside)
      (rest : Written escape (.suffixes true) x after) :
      Written escape (.suffixes false) (b ++ '(' :: (args ++ ')' :: x)) after
  | argument {inside : Bool} {b b' s : List Char} (before : Blanks b)
      (inner : Written escape .chain s inside) (behind : Blanks b') :
      Written escape .arguments (b ++ (s ++ b')) inside
  | more {inside after : Bool} {b b' s args : List Char} (before : Blanks b)
      (inner : Written escape .chain s inside) (behind : Blanks b')
      (rest : Written escape .arguments args after) :
      Written escape .arguments (b ++ (s ++ (b' ++ ',' :: args))) after

/-! ## §3. Bodies. -/

/-- Chains with blanks before each of them. -/
inductive Separated (escape : Char) : List Char → Prop
  | nil : Separated escape []
  | cons {called : Bool} {b s t : List Char} (nonempty : b ≠ []) (blanks : Blanks b)
      (head : Written escape .chain s called) (rest : Separated escape t) :
      Separated escape (b ++ (s ++ t))

/-- Blanks, and perhaps a comment after them. -/
inductive Ending : List Char → Prop
  | blanks {b : List Char} (blanks : Blanks b) : Ending b
  | comment {b text : List Char} (blanks : Blanks b) : Ending (b ++ '#' :: text)

/-- The word names an operator, in capitals or not. -/
def IsKeyword (w : List Char) : Prop :=
  w.map Char.toLower
    ∈ ["if".toList, "unless".toList, "else".toList, "end".toList]

/-- A body without a fault. -/
inductive IsBody (escape : Char) : List Char → Prop
  | sign {b t : List Char} (before : Blanks b) (ending : Ending t) :
      IsBody escape (b ++ '=' :: t)
  | insert {called : Bool} {b b' s m t : List Char} (before : Blanks b) (behind : Blanks b')
      (first : Written escape .chain s called) (others : Separated escape m) (ending : Ending t) :
      IsBody escape (b ++ '=' :: (b' ++ (s ++ (m ++ t))))
  /-- The first chain does not start with the insert sign, and no blank stands between a keyword
  and a suffix of its own. -/
  | operands {called : Bool} {b p x m t : List Char} (before : Blanks b)
      (head : Primary escape p) (unsigned : p.head? ≠ some '=')
      (tail : Written escape (.suffixes false) x called)
      (apart : IsKeyword p → ∀ c, x.head? = some c → isBlank c = false)
      (others : Separated escape m) (ending : Ending t) :
      IsBody escape (b ++ (p ++ (x ++ (m ++ t))))
  | comment {b text : List Char} (before : Blanks b) : IsBody escape (b ++ '#' :: text)

/-! ## §4. Keywords. -/

/-- Folding changes capitals only, and makes small letters of them. -/
theorem eq_of_toLower_eq {c d : Char} (h : c.toLower = d) (hd : d.toNat < 'a'.toNat) : c = d := by
  unfold Char.toLower at h
  split at h
  · next hcapital =>
      -- a capital and 32 is at least 97, the code of the first small letter
      have hlow : 65 ≤ c.val.toNat := UInt32.le_iff_toNat_le.1 hcapital.1
      have hhigh : c.val.toNat ≤ 90 := UInt32.le_iff_toNat_le.1 hcapital.2
      have hval : c.val + ('a'.val - 'A'.val) = d.val := congrArg Char.val h
      have hsum : (c.val.toNat + 32) % 2 ^ 32 = d.val.toNat := by
        rw [← hval, UInt32.toNat_add]
        rfl
      have hsmall : d.val.toNat < 97 := hd
      omega
  · exact h

/-- **A word that names an operator is the keyword of one**, unless it is a sign. -/
theorem isKeyword_of_ofKeyword? {w : List Char} {operator : Operator}
    (h : Operator.ofKeyword? (String.ofList w) = some operator) (hinsert : w ≠ ['='])
    (hcomment : w ≠ ['#']) : IsKeyword w := by
  unfold Operator.ofKeyword? at h
  have hfolded := List.find?_some h
  rw [String.toList_ofList, beq_iff_eq] at hfolded
  -- the two signs have no capitals, so only the sign itself folds to one
  have hsign : ∀ sign : Char, sign.toNat < 'a'.toNat → w.map Char.toLower = [sign] →
      w = [sign] := by
    intro sign hsign hw
    obtain ⟨c, rfl, hc⟩ := List.map_eq_singleton_iff.1 hw
    rw [eq_of_toLower_eq hc hsign]
  unfold IsKeyword
  cases operator with
  | insert => exact absurd (hsign '=' (by decide) hfolded.symm) hinsert
  | comment => exact absurd (hsign '#' (by decide) hfolded.symm) hcomment
  | ifTrue | ifFalse | otherwise | endBlock =>
      rw [← hfolded]
      decide

/-- A keyword of the grammar, in letters of any case, is one that the lexer takes for an
operator. -/
theorem ofKeyword?_of_isKeyword {w : List Char} (h : IsKeyword w) :
    ∃ operator, Operator.ofKeyword? (String.ofList w) = some operator := by
  have hfind : ∀ folded ∈ ["if".toList, "unless".toList, "else".toList, "end".toList],
      ((Operator.all.find? fun operator => operator.keyword.toList == folded)).isSome = true := by
    decide
  unfold Operator.ofKeyword?
  rw [String.toList_ofList]
  exact Option.isSome_iff_exists.1 (hfind _ h)

end LayerTemplates
