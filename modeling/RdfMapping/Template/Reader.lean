import RdfMapping.Template.Basic

/-!
# Reading templates

Reading has two steps. The first cuts the text into single characters and slots
and stops at the first violation of the syntax. The second joins the characters
into texts, drops empty slots and numbers the others; it cannot fail.
-/

namespace RdfMapping.Template

/-- What a template text may get wrong, with the place counted in bytes of its UTF-8 form. -/
inductive Violation where
  | unclosedSlot
  /-- A backslash before a character it cannot stand before, or before the end of the text. -/
  | invalidEscape (found : Option Char) (offset : Nat)
  | nestedSlot (offset : Nat)
  deriving DecidableEq, Repr

/-- A piece of a template text, unescaped. -/
inductive Piece where
  | char (c : Char)
  | slot (expression : List Char)
  deriving DecidableEq, Repr

mutual

/-- Outside of slots. A closing brace stands for itself here. -/
def readText (offset : Nat) : List Char → Except Violation (List Piece)
  | [] => .ok []
  | c :: rest =>
    if c = escapeMark then match rest with
      | [] => .error (.invalidEscape none offset)
      | e :: rest =>
        if isMark e then
          (readText (offset + c.utf8Size + e.utf8Size) rest).map (Piece.char e :: ·)
        else .error (.invalidEscape (some e) offset)
    else if c = openMark then readSlot (offset + c.utf8Size) [] rest
    else (readText (offset + c.utf8Size) rest).map (Piece.char c :: ·)

/-- Inside a slot; `done` holds the expression so far in reverse. -/
def readSlot (offset : Nat) (done : List Char) : List Char → Except Violation (List Piece)
  | [] => .error .unclosedSlot
  | c :: rest =>
    if c = escapeMark then match rest with
      | [] => .error (.invalidEscape none offset)
      | e :: rest =>
        if isMark e then readSlot (offset + c.utf8Size + e.utf8Size) (e :: done) rest
        else .error (.invalidEscape (some e) offset)
    else if c = openMark then .error (.nestedSlot offset)
    else if c = closeMark then
      (readText (offset + c.utf8Size) rest).map (Piece.slot done.reverse :: ·)
    else readSlot (offset + c.utf8Size) (c :: done) rest

end

/-- A text segment, unless it would be empty; the characters come in reverse. -/
def textSegment (done : List Char) : List Segment :=
  if done.isEmpty then [] else [.text (String.ofList done.reverse)]

/-- Joins pieces into segments, numbering slots from `next` on. -/
def assemble (next : Nat) (done : List Char) : List Piece → List Segment
  | [] => textSegment done
  | .char c :: rest => assemble next (c :: done) rest
  | .slot expression :: rest =>
    if expression.isEmpty then assemble next done rest
    else textSegment done ++
      .slot ⟨next, String.ofList expression⟩ :: assemble (next + 1) [] rest

def read (text : String) : Except Violation Template :=
  (readText 0 text.toList).map fun pieces => ⟨assemble 0 [] pieces⟩

/-- What is wrong with `template`, in words. -/
def Violation.message (template : String) : Violation → String
  | .unclosedSlot => "unclosed expression in template '" ++ template ++ "'"
  | .invalidEscape found offset =>
    "invalid escape sequence '\\" ++ (match found with
      | some c => c.toString
      | none => "") ++ "' at offset " ++ toString offset ++ " in template '" ++ template ++ "'"
  | .nestedSlot offset =>
    "unescaped '\x7b' inside expression at offset " ++ toString offset ++ " in template '"
      ++ template ++ "'"

end RdfMapping.Template
