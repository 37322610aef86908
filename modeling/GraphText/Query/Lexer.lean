-- The lexer: a query as a run of tokens. Every token but the last takes part of the
-- text away, and an error or the end of the query is the last one.
import GraphText.Query.Lexeme
import GraphText.Text.Number

namespace GraphText

/-- A lexer between two tokens: the text that is left, the place behind the last token,
and whether the last token has been given. -/
structure Lexer where
  rest : Text
  cursor : Cursor
  ended : Bool
  deriving DecidableEq

namespace Lexer

/-- The lexer in front of a query. -/
def ofText (s : Text) : Lexer := ⟨s, .start, false⟩

/-- The message of a fault, with the place behind the text at fault. -/
def report (k : Cursor) (f : Fault) : Text :=
  "[lexer:".toList ++ natText k.line ++ [':'] ++ natText k.column ++ "] ".toList ++ f.message

/-- The lexeme behind the blanks. -/
def lexeme (l : Lexer) : Lexeme := .ofText (l.rest.dropWhile isBlank)

/-- The place of the next lexeme. -/
def front (l : Lexer) : Cursor := l.cursor.past (l.rest.takeWhile isBlank)

/-- The next token. -/
def token (l : Lexer) : Token where
  type := l.lexeme.type
  text := l.lexeme.text
  message :=
    match l.lexeme.found with
    | .ok _ => none
    | .error f => some (report (l.front.past l.lexeme.text) f)
  offset := l.front.position

/-- The lexer behind the next token. -/
def advance (l : Lexer) : Lexer :=
  ⟨l.lexeme.rest, l.front.past l.lexeme.text, l.lexeme.type.isTerminal⟩

/-- The next token and the lexer behind it, until the last token has been given. -/
def next? (l : Lexer) : Option (Token × Lexer) :=
  if l.ended then none else some (l.token, l.advance)

/-- How much there is left to do. -/
def fuel (l : Lexer) : Nat := if l.ended then 0 else l.rest.length + 1

theorem fuel_advance (l : Lexer) (h : l.ended = false) : l.advance.fuel < l.fuel := by
  have blanks := (List.dropWhile_suffix isBlank (l := l.rest)).length_le
  cases last : l.lexeme.type.isTerminal with
  | true => simp [advance, fuel, h, last]
  | false =>
    have shorter : l.lexeme.rest.length < _ := Lexeme.rest_length _ last
    simp only [advance, fuel, h, last, Bool.false_eq_true, if_false]
    omega

theorem fuel_next {l l' : Lexer} {t : Token} (h : l.next? = some (t, l')) :
    l'.fuel < l.fuel := by
  unfold next? at h
  split at h
  · simp at h
  · rename_i going
    simp only [Option.some.injEq, Prod.mk.injEq] at h
    rw [← h.2]
    exact l.fuel_advance (by simpa using going)

/-- Every token that is left, and the lexer behind the last one. -/
def drain (l : Lexer) : List Token × Lexer :=
  if _h : l.ended then ([], l)
  else
    let (ts, last) := l.advance.drain
    (l.token :: ts, last)
termination_by l.fuel
decreasing_by exact l.fuel_advance (by simpa using _h)

/-- Every token that is left. -/
def tokens (l : Lexer) : List Token := l.drain.1

end Lexer

/-- The tokens of a query. -/
def tokenize (s : Text) : List Token := (Lexer.ofText s).tokens

end GraphText
