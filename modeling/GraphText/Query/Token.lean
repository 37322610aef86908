-- Tokens: pieces of a query. The kinds are keywords, punctuation, bindings, graph values, and
-- the two that end a query. A cursor says where in the query a piece starts or ends.
import GraphText.Query.Keyword
import GraphText.Text.Quoted

namespace GraphText

/-- The signs that stand alone. -/
inductive Punctuation where
  | openBrace | closeBrace | openParen | closeParen
  | dot | semicolon | comma
  | less | greater | equals
  deriving DecidableEq, Repr

namespace Punctuation

/-- Every sign. -/
def all : List Punctuation :=
  [openBrace, closeBrace, openParen, closeParen, dot, semicolon, comma, less, greater, equals]

/-- The character of a sign. -/
def char : Punctuation → Char
  | openBrace => '{'
  | closeBrace => '}'
  | openParen => '('
  | closeParen => ')'
  | dot => '.'
  | semicolon => ';'
  | comma => ','
  | less => '<'
  | greater => '>'
  | equals => '='

/-- The sign that a character is. -/
def ofChar? (c : Char) : Option Punctuation := all.find? fun p => p.char = c

theorem mem_all (p : Punctuation) : p ∈ all := by cases p <;> decide

theorem ofChar?_eq_some_iff {c : Char} {p : Punctuation} : ofChar? c = some p ↔ p.char = c := by
  constructor
  · intro h
    simpa using List.find?_some h
  · rintro rfl
    cases p <;> rfl

theorem ofChar?_eq_none_iff {c : Char} : ofChar? c = none ↔ c ∉ all.map char := by
  simp [ofChar?]

end Punctuation

/-- The kind of a token. -/
inductive TokenType where
  | error
  | eof
  | keyword (k : Keyword)
  | binding
  | node
  | literal
  | predicate
  | punctuation (p : Punctuation)
  deriving DecidableEq, Repr

namespace TokenType

/-- Every kind. -/
def all : List TokenType :=
  [error, eof] ++ Keyword.all.map keyword ++ [binding, node, literal, predicate]
    ++ Punctuation.all.map punctuation

def isKeyword : TokenType → Bool
  | keyword _ => true
  | _ => false

/-- The kind of the keyword that a word spells. -/
def ofWord? (w : Text) : Option TokenType := (Keyword.ofWord? w).map keyword

def isPunctuation : TokenType → Bool
  | punctuation _ => true
  | _ => false

/-- Nothing follows a token of this kind. -/
def isTerminal : TokenType → Bool
  | error | eof => true
  | _ => false

theorem isTerminal_iff {k : TokenType} : k.isTerminal = true ↔ k = .eof ∨ k = .error := by
  cases k <;> simp [isTerminal]

/-- The name that messages show. -/
def name : TokenType → String
  | error => "ERROR"
  | eof => "EOF"
  | keyword .select => "QUERY"
  | keyword .from' => "FROM"
  | keyword .where' => "WHERE"
  | keyword .as' => "AS"
  | keyword .type => "TYPE"
  | keyword .id => "ID"
  | keyword .at' => "AT"
  | keyword .before => "BEFORE"
  | keyword .after => "AFTER"
  | keyword .between => "BETWEEN"
  | keyword .count => "COUNT"
  | keyword .distinct => "DISTINCT"
  | keyword .sum => "SUM"
  | keyword .group => "GROUP"
  | keyword .by' => "BY"
  | keyword .order => "ORDER"
  | keyword .having => "HAVING"
  | keyword .asc => "ASC"
  | keyword .desc => "DESC"
  | keyword .limit => "LIMIT"
  | keyword .not => "NOT"
  | keyword .and => "AND"
  | keyword .or => "OR"
  | binding => "BINDING"
  | node => "NODE"
  | literal => "LITERAL"
  | predicate => "PREDICATE"
  | punctuation .openBrace => "LEFT_BRACKET"
  | punctuation .closeBrace => "RIGHT_BRACKET"
  | punctuation .openParen => "LEFT_PARENT"
  | punctuation .closeParen => "RIGHT_PARENT"
  | punctuation .dot => "DOT"
  | punctuation .semicolon => "SEMICOLON"
  | punctuation .comma => "COMMA"
  | punctuation .less => "LT"
  | punctuation .greater => "GT"
  | punctuation .equals => "EQ"

theorem mem_all (t : TokenType) : t ∈ all := by
  cases t with
  | keyword k => simp [all, Keyword.mem_all]
  | punctuation p => simp [all, Punctuation.mem_all]
  | _ => simp [all]

end TokenType

/-! ## Pieces -/

/-- A piece of a query. Only an error carries a message. -/
structure Token where
  type : TokenType
  text : Text
  message : Option Text
  offset : Nat
  deriving DecidableEq

namespace Token

def isError (t : Token) : Bool := t.type = .error

def isEof (t : Token) : Bool := t.type = .eof

/-- The token in one line: its kind, its quoted text, and its message if it has one. -/
def display (t : Token) : Text :=
  let shown := t.type.name.toList ++ ['('] ++ t.text.quoted ++ [')']
  match t.message with
  | some m => shown ++ ": ".toList ++ m
  | none => shown

/-- The byte behind the token. -/
def finish (t : Token) : Nat := t.offset + t.text.byteLength

end Token

/-! ## Places

The line, the column in characters, and the position in bytes. All three count from zero. -/

/-- A place in a text. -/
structure Cursor where
  line : Nat
  column : Nat
  position : Nat
  deriving DecidableEq, Repr

namespace Cursor

/-- The place before the first character. -/
def start : Cursor := ⟨0, 0, 0⟩

/-- The place behind one more character. A line end starts a new line. -/
def step (k : Cursor) (c : Char) : Cursor :=
  if c = '\n' then ⟨k.line + 1, 0, k.position + c.utf8Size⟩
  else ⟨k.line, k.column + 1, k.position + c.utf8Size⟩

/-- The place behind a text. -/
def past (k : Cursor) (t : Text) : Cursor := t.foldl step k

@[simp] theorem past_nil (k : Cursor) : k.past [] = k := rfl

@[simp] theorem past_cons (k : Cursor) (c : Char) (t : Text) :
    k.past (c :: t) = (k.step c).past t := rfl

theorem past_append (k : Cursor) (s t : Text) : k.past (s ++ t) = (k.past s).past t := by
  simp [past]

theorem position_past (k : Cursor) (t : Text) :
    (k.past t).position = k.position + t.byteLength := by
  induction t generalizing k with
  | nil => simp
  | cons c r ih =>
    rw [past_cons, ih, Text.byteLength_cons]
    unfold step
    split <;> simp only <;> omega

end Cursor

end GraphText
