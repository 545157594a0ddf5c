/-
  LayerTemplates.Lexeme.Arena
  ───────────────────────────
  Lexemes and the arena that owns them.

  A lexeme is one operand of a placeholder, or one stretch of literal text.  Its
  neighbours are named by their index in the arena: `child` goes to the next step of
  a path, `firstArg` to the first argument, `next` to the following sibling; `parent`
  and `prev` lead back.  The links are plain data here; `Arena.deepest`, `siblings`
  and `path` follow them for at most as many steps as the arena has lexemes, which
  is enough for every chain of links without a loop.

  Main statements:
    * `size_alloc`, `size_modify` — allocation adds one lexeme, linking adds none.
-/
namespace LayerTemplates

/-! ## §1. Lexemes. -/

/-- A lexeme is named by its index in allocation order. -/
abbrev LexemeId := Nat

/-- A half-open range of byte offsets. -/
structure Span where
  start : Nat
  stop : Nat
  deriving Repr, DecidableEq, Inhabited

/-- How a lexeme was written. -/
inductive LexemeForm where
  /-- A bare word, or a raw-quoted literal after its closing quote. -/
  | plain
  /-- A literal in single or double quotes. -/
  | quoted
  /-- The digits after `^`. -/
  | relative
  /-- Literal text between placeholders. -/
  | text
  deriving Repr, DecidableEq, Inhabited

/-- What part a lexeme plays in its expression. -/
inductive LexemeKind where
  | plain
  /-- It stands inside square brackets. -/
  | element
  /-- It owns an argument list. -/
  | function
  /-- It stands in an argument list. -/
  | argument
  /-- It counts levels upwards. -/
  | ancestor
  deriving Repr, DecidableEq, Inhabited

/-- How a lexeme was attached to its neighbours. -/
inductive Role where
  | root
  | sibling
  | firstArg
  | child
  deriving Repr, DecidableEq, Inhabited

/-- One operand of a placeholder, or one stretch of literal text. -/
structure Lexeme where
  value : String := ""
  form : LexemeForm := .plain
  kind : LexemeKind := .plain
  role : Role := .root
  /-- The character that opened a quoted literal. -/
  quote : Option Char := none
  /-- Where the lexeme stands in the layer text. -/
  span : Span := ⟨0, 0⟩
  child : Option LexemeId := none
  firstArg : Option LexemeId := none
  next : Option LexemeId := none
  parent : Option LexemeId := none
  prev : Option LexemeId := none
  deriving Repr, DecidableEq, Inhabited

/-- An operand that starts at a byte offset and has no characters yet. -/
def Lexeme.startingAt (form : LexemeForm) (start : Nat) : Lexeme :=
  { form, span := ⟨start, start⟩ }

/-- A stretch of literal text with the range it covers. -/
def Lexeme.ofText (value : String) (span : Span) : Lexeme :=
  { value, form := .text, span }

/-- A lexeme of no other kind takes the kind of the group it stands in. -/
def Lexeme.grouped (kind : LexemeKind) (l : Lexeme) : Lexeme :=
  if l.kind = .plain then { l with kind } else l

/-! ## §2. The arena. -/

/-- The owner of every lexeme of one layer, in allocation order. -/
structure Arena where
  lexemes : Array Lexeme := #[]
  deriving Repr, DecidableEq, Inhabited

namespace Arena

/-- The number of lexemes. -/
def size (a : Arena) : Nat := a.lexemes.size

/-- Whether there is no lexeme. -/
def isEmpty (a : Arena) : Bool := a.lexemes.isEmpty

/-- The lexeme with an index; an index outside the arena has an empty lexeme. -/
def get (a : Arena) (id : LexemeId) : Lexeme := a.lexemes[id]?.getD {}

/-- Adds a lexeme; its index is the size that the arena had. -/
def alloc (a : Arena) (lexeme : Lexeme) : Arena := ⟨a.lexemes.push lexeme⟩

/-- Changes one lexeme in place. -/
def modify (a : Arena) (id : LexemeId) (f : Lexeme → Lexeme) : Arena :=
  ⟨a.lexemes.modify id f⟩

@[simp] theorem size_alloc (a : Arena) (l : Lexeme) : (a.alloc l).size = a.size + 1 := by
  simp [size, alloc]

@[simp] theorem size_modify (a : Arena) (id : LexemeId) (f : Lexeme → Lexeme) :
    (a.modify id f).size = a.size := by
  simp [size, modify]

/-- A new lexeme gets the size of the arena for its index, and the others keep theirs. -/
theorem get_alloc (a : Arena) (l : Lexeme) (id : LexemeId) :
    (a.alloc l).get id = if id = a.size then l else a.get id := by
  by_cases h : id = a.lexemes.size <;> simp [get, alloc, size, Array.getElem?_push, h]

/-- A change at one index leaves the lexemes at all others alone. -/
theorem get_modify_of_ne (a : Arena) {id j : LexemeId} (f : Lexeme → Lexeme) (h : j ≠ id) :
    (a.modify id f).get j = a.get j := by
  simp [get, modify, Array.getElem?_modify, Ne.symm h]

/-- Inside the arena a change is made; outside there is nothing to change. -/
theorem get_modify_self (a : Arena) {id : LexemeId} (f : Lexeme → Lexeme) (h : id < a.size) :
    (a.modify id f).get id = f (a.get id) := by
  have h' : id < a.lexemes.size := h
  simp [get, modify, Array.getElem_modify, h']

/-! ## §3. Linking. -/

/-- Makes `child` the next step of the path that ends in `parent`. -/
def attachChild (a : Arena) (parent child : LexemeId) : Arena :=
  (a.modify parent fun l => { l with child := some child }).modify child fun l =>
    { l with parent := some parent, role := .child }

/-- Makes `arg` the first argument of `function`. -/
def attachFirstArg (a : Arena) (function arg : LexemeId) : Arena :=
  (a.modify function fun l => { l with firstArg := some arg, kind := .function }).modify arg
    fun l => { l with parent := some function, role := .firstArg }.grouped .argument

/-- Makes `next` the sibling after `prev`; both have the same parent. -/
def attachNext (a : Arena) (prev next : LexemeId) : Arena :=
  let linked := a.modify prev fun l => { l with next := some next }
  let parent := (linked.get prev).parent
  linked.modify next fun l => { l with prev := some prev, parent, role := .sibling }

/-! ## §4. Following links. -/

/-- The lexemes on a chain of links, the first one included, for at most `fuel` further
steps. -/
def chain (a : Arena) (link : Lexeme → Option LexemeId) : Nat → LexemeId → List LexemeId
  | 0, id => [id]
  | fuel + 1, id =>
      match link (a.get id) with
      | some following => id :: a.chain link fuel following
      | none => [id]

/-- The innermost lexeme of the path that starts at `id`. -/
def deepest (a : Arena) (id : LexemeId) : LexemeId :=
  (a.chain Lexeme.child a.size id).getLastD id

/-- The sibling chain that starts at `id`. -/
def siblings (a : Arena) (id : LexemeId) : List LexemeId := a.chain Lexeme.next a.size id

/-- The values along the path that starts at `id`. -/
def path (a : Arena) (id : LexemeId) : List String :=
  (a.chain Lexeme.child a.size id).map fun step => (a.get step).value

end Arena

end LayerTemplates
