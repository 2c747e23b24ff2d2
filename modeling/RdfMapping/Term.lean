import RdfMapping.OrderedSet
import RdfMapping.Vocabulary

/-!
# RDF terms

IRIs, blank nodes and literals, with a total order and a written form of one
line. The order puts IRIs before blank nodes before literals and then compares
texts by code point.
-/

namespace RdfMapping

/-- The three kinds of RDF term. -/
inductive TermKind where
  | iri
  | blankNode
  | literal
  deriving DecidableEq, Repr

namespace TermKind

/-- The name of a kind in rule graphs. -/
def name : TermKind → String
  | .iri => "Iri"
  | .blankNode => "BlankNode"
  | .literal => "Literal"

/-- The name of a kind in prose. -/
def describe : TermKind → String
  | .iri => "IRI"
  | .blankNode => "blank node"
  | .literal => "literal"

def ofName? (s : String) : Option TermKind :=
  [iri, blankNode, literal].find? fun k => k.name = s

/-- The kind that an IRI of either vocabulary stands for. -/
def ofIri? (iri : String) : Option TermKind :=
  if iri = Vocabulary.iri ∨ iri = Vocabulary.r2rmlIri then some .iri
  else if iri = Vocabulary.blankNode ∨ iri = Vocabulary.r2rmlBlankNode then some .blankNode
  else if iri = Vocabulary.literal ∨ iri = Vocabulary.r2rmlLiteral then some .literal
  else none

end TermKind

inductive Term where
  | iri (iri : String)
  | blankNode (label : String)
  | literal (value : String) (datatype language : Option String)
  deriving DecidableEq, Repr, Inhabited

namespace Term

def kind : Term → TermKind
  | .iri _ => .iri
  | .blankNode _ => .blankNode
  | .literal .. => .literal

def iri? : Term → Option String
  | .iri s => some s
  | _ => none

/-- The IRI, the label or the value of the literal. -/
def lexical : Term → String
  | .iri s => s
  | .blankNode label => label
  | .literal value _ _ => value

def datatype? : Term → Option String
  | .literal _ datatype _ => datatype
  | _ => none

def language? : Term → Option String
  | .literal _ _ language => language
  | _ => none

def plain (value : String) : Term := .literal value none none

def rank : Term → Nat
  | .iri _ => 0
  | .blankNode _ => 1
  | .literal .. => 2

instance : Ord Term where
  compare := compareLex (compareOn rank) <| compareLex (compareOn lexical) <|
    compareLex (compareOn datatype?) (compareOn language?)

instance : Std.TransOrd Term :=
  inferInstanceAs (Std.TransCmp (compareLex (compareOn rank) <| compareLex (compareOn lexical) <|
    compareLex (compareOn datatype?) (compareOn language?)))

instance : Std.LawfulEqOrd Term where
  eq_of_compare {a b} h := by
    change compareLex (compareOn rank) (compareLex (compareOn lexical)
      (compareLex (compareOn datatype?) (compareOn language?))) a b = .eq at h
    simp only [compareLex, compareOn, Ordering.then_eq_eq, Std.LawfulEqCmp.compare_eq_iff_eq] at h
    obtain ⟨hr, hl, hd, hg⟩ := h
    cases a <;> cases b <;> simp_all [rank, lexical, datatype?, language?]

def escapeChar (c : Char) : List Char :=
  if c = '"' then ['\\', '"']
  else if c = '\\' then ['\\', '\\']
  else if c = '\n' then ['\\', 'n']
  else if c = '\r' then ['\\', 'r']
  else [c]

def quoted (value : String) : String :=
  "\"" ++ String.ofList (value.toList.flatMap escapeChar) ++ "\""

/-- A literal with both a language and a datatype is written with its language. -/
def text : Term → String
  | .iri s => "<" ++ s ++ ">"
  | .blankNode label => "_:" ++ label
  | .literal value datatype language => quoted value ++ match language, datatype with
    | some tag, _ => "@" ++ tag
    | none, some type => "^^<" ++ type ++ ">"
    | none, none => ""

def isLabelChar (c : Char) : Bool := c.isAlphanum || c = '_' || c = '-'

/-- The blank node of a lexical form: its label characters behind a fixed word. -/
def blankLabel (lexical : String) : String :=
  match lexical.toList.filter isLabelChar with
  | [] => "bnode"
  | cs => "bnode-" ++ String.ofList cs

end Term

end RdfMapping
