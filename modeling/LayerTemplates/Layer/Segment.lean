/-
  LayerTemplates.Layer.Segment
  ────────────────────────────
  The text of a layer as segments: literal text and placeholders, in source order.

  Literal text ends at the first place where the opening tag stands.  A placeholder
  ends at the first place after its opening tag where the closing tag stands and no
  quoted literal is open.  A placeholder that the end of the text cuts off is kept as
  the last segment and reported.
-/
import LayerTemplates.Expression.Lexer

namespace LayerTemplates

/-! ## §1. Tags and segments. -/

/-- The tags around a placeholder, and the escape character of its quoted literals. -/
structure Tags where
  openTag : String := "\x7b\x7b"
  closeTag : String := "\x7d\x7d"
  escape : Char := '\\'
  deriving Repr, DecidableEq, Inhabited

/-- A placeholder of a layer. -/
structure Placeholder where
  /-- Its source text with the tags; of an unterminated one the first characters. -/
  entry : String
  span : Span
  /-- The first lexemes of its expressions. -/
  roots : List LexemeId
  comment : Option String
  terminated : Bool
  /-- What it tells the renderer, once its expressions are classified. -/
  directive : Option Directive := none
  deriving Repr, DecidableEq, Inhabited

/-- A piece of a layer. -/
inductive Segment where
  | text (id : LexemeId)
  | placeholder (placeholder : Placeholder)
  deriving Repr, DecidableEq, Inhabited

/-- The pieces of a layer with the arena of their lexemes and the faults found. -/
structure Scanned where
  arena : Arena
  segments : List Segment := []
  faults : List Fault := []
  deriving Repr, DecidableEq, Inhabited

/-! ## §2. Cutting. -/

/-- The number of bytes that characters take. -/
def byteCount (chars : List Char) : Nat := chars.foldr (fun c count => c.utf8Size + count) 0

/-- The characters before the first place where `tag` stands, and the rest from there.
At the very end nothing stands, not even the empty tag. -/
def breakAt (tag : List Char) : List Char → List Char × List Char
  | [] => ([], [])
  | c :: rest =>
      if tag.isPrefixOf (c :: rest) then ([], c :: rest)
      else
        let (before, after) := breakAt tag rest
        (c :: before, after)

/-- The two parts make up the text. -/
theorem breakAt_append (tag chars : List Char) :
    (breakAt tag chars).1 ++ (breakAt tag chars).2 = chars := by
  induction chars with
  | nil => rfl
  | cons c rest ih =>
    unfold breakAt
    split
    · rfl
    · simpa using ih

/-- The body of a placeholder as far as it was read. -/
structure Body where
  lexer : Lexer
  /-- The characters of the body. -/
  chars : List Char
  /-- The text from the closing tag on; none where the closing tag is missing. -/
  closing : Option (List Char)

/-- Feeds characters to the lexer up to the closing tag. -/
def readBody (closeTag : List Char) (lx : Lexer) (position : Nat) : List Char → Body
  | [] => { lexer := lx, chars := [], closing := none }
  | c :: rest =>
      if !lx.inLiteral && closeTag.isPrefixOf (c :: rest) then
        { lexer := lx, chars := [], closing := some (c :: rest) }
      else
        let body := readBody closeTag (lx.feed c position) (position + c.utf8Size) rest
        { body with chars := c :: body.chars }

/-! ## §3. Scanning. -/

/-- Characters of an unterminated placeholder that stand for all of it. -/
def excerptLength : Nat := 16

/-- The segment of a placeholder whose closing tag was found, and its faults. -/
def closedPlaceholder (tags : Tags) (start : Nat) (body : Body) : Placeholder × List Fault :=
  let entry := tags.openTag ++ String.ofList body.chars ++ tags.closeTag
  let stop := start + tags.openTag.utf8ByteSize + byteCount body.chars
  let expression := body.lexer.finish stop
  ({ entry
     span := ⟨start, stop + tags.closeTag.utf8ByteSize⟩
     roots := expression.roots
     comment := expression.comment
     terminated := true },
   expression.issues.map fun issue => issue.toFault entry start)

/-- The segment of a placeholder that the end of the text cuts off, and its faults. -/
def openPlaceholder (tags : Tags) (start : Nat) (body : Body) : Placeholder × List Fault :=
  let entry := String.ofList ((tags.openTag.toList ++ body.chars).take excerptLength) ++ "..."
  let expression := body.lexer.abandon
  ({ entry
     span := ⟨start, start + tags.openTag.utf8ByteSize + byteCount body.chars⟩
     roots := expression.roots
     comment := expression.comment
     terminated := false },
   (expression.issues.map fun issue => issue.toFault entry start)
     ++ [{ cause := .openPlaceholder tags.openTag, placeholder := some entry }])

/-- Adds the lexeme and the segment of a stretch of literal text, if there is any. -/
def pushText (arena : Arena) (chars : List Char) (start : Nat) : Arena × List Segment :=
  if chars.isEmpty then (arena, [])
  else
    (arena.alloc (Lexeme.ofText (String.ofList chars) ⟨start, start + byteCount chars⟩),
     [.text arena.size])

/-- Scans the rest of a text, which starts at the byte offset `position`, for at most
`fuel` placeholders. -/
def scanFrom (tags : Tags) : Nat → Nat → List Char → Arena → Scanned
  | 0, _, _, arena => { arena }
  | fuel + 1, position, chars, arena =>
      let (before, after) := breakAt tags.openTag.toList chars
      let (arena, texts) := pushText arena before position
      let start := position + byteCount before
      match after with
      | [] => { arena, segments := texts }
      | _ :: _ =>
          let body := readBody tags.closeTag.toList { arena, escape := tags.escape }
            (start + tags.openTag.utf8ByteSize) (after.drop tags.openTag.length)
          match body.closing with
          | none =>
              let (placeholder, faults) := openPlaceholder tags start body
              { arena := body.lexer.arena
                segments := texts ++ [.placeholder placeholder]
                faults }
          | some closing =>
              let (placeholder, faults) := closedPlaceholder tags start body
              let rest := scanFrom tags fuel placeholder.span.stop
                (closing.drop tags.closeTag.length) body.lexer.arena
              { rest with
                segments := texts ++ .placeholder placeholder :: rest.segments
                faults := faults ++ rest.faults }

/-- Scans the text of a layer.  Every placeholder takes at least one character, unless
both tags are empty, so there are at most as many placeholders as characters. -/
def scan (text : String) (tags : Tags) : Scanned :=
  scanFrom tags (text.length + 1) 0 text.toList {}

end LayerTemplates
