import EightBit.Text.Line

namespace EightBit.Text

/-!
# Edits of a text

An edit cuts a text into characters that it keeps and stretches that it replaces. A
character that is kept stands further back by as many bytes as the edit has added in
front of it.
-/

/-- A character that an edit keeps, or a stretch that it replaces. -/
inductive Piece where
  | kept (character : Char)
  | replaced (old new : List Char)
  deriving Repr, DecidableEq

namespace Piece

/-- What stands at a piece before the edit. -/
def old : Piece → List Char
  | .kept character => [character]
  | .replaced old _ => old

/-- What stands at a piece after the edit. -/
def new : Piece → List Char
  | .kept character => [character]
  | .replaced _ new => new

end Piece

/-- The pieces of a text that is edited, in order. -/
abbrev Edit :=
  List Piece

namespace Edit

/-- The text before an edit. -/
def original (edit : Edit) : List Char :=
  edit.flatMap Piece.old

/-- The text after an edit. -/
def edited (edit : Edit) : List Char :=
  edit.flatMap Piece.new

/-- The edit that keeps a whole text. -/
def keeping (text : List Char) : Edit :=
  text.map .kept

/-- The edit that replaces one stretch of a text. -/
def replacing (before old new behind : List Char) : Edit :=
  keeping before ++ .replaced old new :: keeping behind

/-- Number of bytes that an edit adds, less those that it takes away. -/
def added : Edit → Int
  | [] => 0
  | piece :: rest =>
      (byteLength piece.new : Int) - byteLength piece.old + added rest

@[simp] theorem original_nil :
    original [] = [] :=
  rfl

@[simp] theorem edited_nil :
    edited [] = [] :=
  rfl

@[simp] theorem original_cons
    (piece : Piece)
    (rest : Edit) :
    original (piece :: rest) = piece.old ++ original rest :=
  rfl

@[simp] theorem edited_cons
    (piece : Piece)
    (rest : Edit) :
    edited (piece :: rest) = piece.new ++ edited rest :=
  rfl

@[simp] theorem original_append (first second : Edit) :
    original (first ++ second) = original first ++ original second :=
  List.flatMap_append

@[simp] theorem edited_append (first second : Edit) :
    edited (first ++ second) = edited first ++ edited second :=
  List.flatMap_append

@[simp] theorem original_keeping (text : List Char) :
    original (keeping text) = text := by
  induction text with
  | nil =>
      rfl
  | cons character rest inductionHypothesis =>
      exact congrArg (character :: ·) inductionHypothesis

@[simp] theorem edited_keeping (text : List Char) :
    edited (keeping text) = text := by
  induction text with
  | nil =>
      rfl
  | cons character rest inductionHypothesis =>
      exact congrArg (character :: ·) inductionHypothesis

@[simp] theorem keeping_append (first second : List Char) :
    keeping (first ++ second) = keeping first ++ keeping second :=
  List.map_append

theorem original_append_kept
    (front : Edit)
    (character : Char)
    (rest : Edit) :
    original (front ++ .kept character :: rest) =
      original front ++ character :: original rest :=
  original_append front (.kept character :: rest)

theorem edited_append_kept
    (front : Edit)
    (character : Char)
    (rest : Edit) :
    edited (front ++ .kept character :: rest) =
      edited front ++ character :: edited rest :=
  edited_append front (.kept character :: rest)

/-- The bytes that an edit adds are those that it makes a text longer by. -/
theorem byteLength_edited (edit : Edit) :
    (byteLength (edited edit) : Int) =
      byteLength (original edit) + added edit := by
  induction edit with
  | nil =>
      rfl
  | cons piece rest inductionHypothesis =>
      rw [edited_cons, original_cons, byteLength_append, byteLength_append,
        added]
      omega

end Edit

end EightBit.Text
