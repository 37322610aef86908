-- Lexers that start at another place. A place is counted on from the one where the text
-- starts, so a lexer that starts further on gives the same tokens, with every offset and
-- every place in a message counted on.
import GraphText.Proofs.Markers
import GraphText.Proofs.Numerals
import GraphText.Proofs.TokenPartition
import Mathlib.Data.List.Induction

namespace GraphText

/-! ## Places -/

namespace Cursor

/-- The place that stands at the second in a text whose start stands at the first. A line
that does not start in the text has columns in front of it. -/
def add (k c : Cursor) : Cursor :=
  ⟨k.line + c.line, if c.line = 0 then k.column + c.column else c.column,
    k.position + c.position⟩

theorem step_add (k c : Cursor) (x : Char) : (k.add c).step x = k.add (c.step x) := by
  unfold step add
  by_cases newline : x = '\n'
  · simp [newline, Nat.add_assoc]
  · by_cases first : c.line = 0
    · simp [newline, first, Nat.add_assoc]
    · simp [newline, first, Nat.add_assoc]

theorem past_add (k c : Cursor) (t : Text) : (k.add c).past t = k.add (c.past t) := by
  induction t generalizing c with
  | nil => rfl
  | cons x r ih => rw [past_cons, past_cons, step_add, ih]

/-! ## Counts -/

theorem past_concat (k : Cursor) (t : Text) (c : Char) : k.past (t ++ [c]) = (k.past t).step c := by
  rw [past_append]
  rfl

end Cursor

/-- The place behind a text that starts the query: its line ends, the characters behind the
last of them, and its bytes. -/
def Text.place (t : Text) : Cursor :=
  ⟨t.count '\n', (t.reverse.takeWhile (· ≠ '\n')).length, t.byteLength⟩

/-- A cursor counts what it has passed. -/
theorem Cursor.past_start (t : Text) : start.past t = t.place := by
  induction t using List.reverseRecOn with
  | nil => rfl
  | append_singleton t c ih =>
    rw [past_concat, ih]
    unfold step Text.place
    by_cases newline : c = '\n'
    · simp [newline]
    · simp [newline]

/-! ## Messages -/

theorem natText_injective {m n : Nat} (h : natText m = natText n) : m = n := by
  rw [← digitsValue_natText m, ← digitsValue_natText n, h]

/-- A number ends where a character that is no digit comes. -/
theorem natText_append_injective {m n : Nat} {c : Char} {s t : Text} (other : isDigit c = false)
    (h : natText m ++ c :: s = natText n ++ c :: t) : m = n ∧ s = t := by
  have outside : ∀ k, c ∉ natText k := by
    intro k mem
    rw [allDigits_natText k c mem] at other
    cases other
  have front := congrArg (List.takeWhile (· ≠ c)) h
  have back := congrArg (List.dropWhile (· ≠ c)) h
  rw [(Text.takeWhile_ne (outside m)).1, (Text.takeWhile_ne (outside n)).1] at front
  rw [(Text.takeWhile_ne (outside m)).2, (Text.takeWhile_ne (outside n)).2] at back
  exact ⟨natText_injective front, (List.cons.inj back).2⟩

namespace Lexer

/-- A report tells its line, its column and its words. -/
theorem report_injective {k c : Cursor} {f g : Fault} (h : report k f = report c g) :
    k.line = c.line ∧ k.column = c.column ∧ f.message = g.message := by
  have close : "] ".toList = [']', ' '] := rfl
  unfold report at h
  rw [close] at h
  simp only [List.append_assoc, List.cons_append, List.nil_append] at h
  have numbers := List.append_cancel_left h
  obtain ⟨line, columns⟩ := natText_append_injective (by decide) numbers
  obtain ⟨column, words⟩ := natText_append_injective (by decide) columns
  exact ⟨line, column, (List.cons.inj words).2⟩

theorem report_congr {k c : Cursor} {f g : Fault} (line : k.line = c.line)
    (column : k.column = c.column) (words : f.message = g.message) : report k f = report c g := by
  unfold report
  rw [line, column, words]

/-- What a report says tells what it says further on. -/
theorem report_add {k c d : Cursor} {f g : Fault} (h : report c f = report d g) :
    report (k.add c) f = report (k.add d) g := by
  obtain ⟨line, column, words⟩ := report_injective h
  refine report_congr ?_ ?_ words
  · unfold Cursor.add
    rw [line]
  · unfold Cursor.add
    rw [line, column]

end Lexer

/-! ## Tokens -/

/-- The second token is the first one in a text whose start stands at the given place. -/
structure Token.Moved (k : Cursor) (t u : Token) : Prop where
  type : u.type = t.type
  text : u.text = t.text
  offset : u.offset = k.position + t.offset
  message : (t.message = none ∧ u.message = none) ∨
    ∃ c f, t.message = some (Lexer.report c f) ∧ u.message = some (Lexer.report (k.add c) f)

/-- A token is moved to one token only. -/
theorem Token.Moved.unique {k : Cursor} {t u v : Token} (hu : t.Moved k u) (hv : t.Moved k v) :
    u = v := by
  have message : u.message = v.message := by
    rcases hu.message with ⟨silent, uSilent⟩ | ⟨c, f, faulty, uFaulty⟩
    · rcases hv.message with ⟨-, vSilent⟩ | ⟨d, g, faulty, -⟩
      · rw [uSilent, vSilent]
      · rw [silent] at faulty
        cases faulty
    · rcases hv.message with ⟨silent, -⟩ | ⟨d, g, faulty', vFaulty⟩
      · rw [silent] at faulty
        cases faulty
      · rw [uFaulty, vFaulty]
        exact congrArg _ (Lexer.report_add (Option.some.inj (faulty.symm.trans faulty')))
  obtain ⟨type, text, uMessage, offset⟩ := u
  obtain ⟨type', text', vMessage, offset'⟩ := v
  simp only [Token.mk.injEq]
  exact ⟨hu.type.trans hv.type.symm, hu.text.trans hv.text.symm, message,
    hu.offset.trans hv.offset.symm⟩

namespace Lexer

/-! ## Lexers -/

/-- The lexer in a text whose start stands at the given place. -/
def placed (k : Cursor) (l : Lexer) : Lexer := ⟨l.rest, k.add l.cursor, l.ended⟩

variable {l : Lexer} {k : Cursor}

theorem front_placed : (l.placed k).front = k.add l.front := Cursor.past_add k l.cursor _

theorem advance_placed : (l.placed k).advance = l.advance.placed k := by
  unfold advance
  rw [front_placed, Cursor.past_add]
  rfl

theorem moved_token_placed : l.token.Moved k (l.placed k).token := by
  refine ⟨rfl, rfl, ?_, ?_⟩
  · change (l.placed k).front.position = _
    rw [front_placed]
    rfl
  · cases found : l.lexeme.found with
    | ok t =>
      have found' : (l.placed k).lexeme.found = .ok t := found
      refine .inl ⟨?_, ?_⟩
      · simp only [token, found]
      · simp only [token, found']
    | error f =>
      have found' : (l.placed k).lexeme.found = .error f := found
      refine .inr ⟨l.front.past l.lexeme.text, f, ?_, ?_⟩
      · simp only [token, found]
      · simp only [token, found', front_placed, Cursor.past_add]
        rfl

/-- A lexer that starts further on gives the same tokens further on. -/
theorem moved_tokens_placed (k : Cursor) (l : Lexer) :
    l.tokens.Forall₂ (Token.Moved k) (l.placed k).tokens := by
  cases ended : l.ended with
  | true =>
    have ended' : (l.placed k).ended = true := ended
    rw [tokens_of_ended ended, tokens_of_ended ended']
    exact .nil
  | false =>
    have goesOn : (l.placed k).ended = false := ended
    rw [tokens_of_not_ended ended, tokens_of_not_ended goesOn, advance_placed]
    exact .cons moved_token_placed (moved_tokens_placed k l.advance)
termination_by l.fuel
decreasing_by exact l.fuel_advance ended

/-- The tokens of a query that starts at a place behind another text. -/
theorem moved_tokenize (k : Cursor) (s : Text) :
    (tokenize s).Forall₂ (Token.Moved k) (⟨s, k, false⟩ : Lexer).tokens :=
  moved_tokens_placed k (.ofText s)

end Lexer
end GraphText
