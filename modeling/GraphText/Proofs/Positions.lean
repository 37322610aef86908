-- Where a scanner stands. Whatever it has done, its counts are those of the text in front of
-- it, a step back undoes no more than the last character, and a look at the next one undoes
-- itself. After each call it stands at the end of the token that the call gave.
import GraphText.Proofs.Places
import GraphText.Proofs.Scanning

namespace GraphText

/-! ## Readers on the way -/

namespace Reader

/-- The second reader comes of the first one by reading, stepping back and cutting tokens
off, in any order. -/
inductive Leads (r : Reader) : Reader → Prop
  | here : Leads r r
  | read {q : Reader} : Leads r q → Leads r q.read
  | back {q : Reader} : Leads r q → Leads r q.back
  | cut {q : Reader} : Leads r q → Leads r q.cut

/-- What the counts are at a place of a query, and what a step back does there. -/
structure BacksExactly (s : Text) (r : Reader) : Prop where
  back : ∃ before last after, s = before ++ last ++ after ∧ last.length ≤ 1 ∧
    r.cursor = (before ++ last).place ∧ r.width = last.byteLength ∧
    r.back.cursor = before.place
  again : r.back.back.cursor = r.back.cursor
  look : r.look.cursor = r.cursor

variable {r q : Reader} {before last after s : Text}

theorem Stands.backsExactly (h : r.Stands before last after) (input : r.input = s) :
    r.BacksExactly s := by
  refine ⟨⟨before, last, after, ?_, h.length_le, ?_, h.width, ?_⟩, ?_, ?_⟩
  · rw [← input]
    exact h.input
  · rw [h.cursor, Cursor.past_start]
  · rw [h.back.cursor, Cursor.past_start, List.append_nil]
  · rw [h.back.back.cursor, h.back.cursor]
  · rw [h.look.cursor, h.cursor, List.append_nil]

namespace Leads

theorem input_eq (h : r.Leads q) : q.input = r.input := by
  induction h with
  | here => rfl
  | @read q _ ih =>
    rw [← ih]
    unfold Reader.read
    split <;> rfl
  | back _ ih => exact ih
  | cut _ ih => exact ih

/-- What has been read and what is left is kept track of all the way. -/
theorem exists_stands (h : (ofText s).Leads q) :
    ∃ before last after, q.Stands before last after := by
  induction h with
  | here => exact ⟨[], [], s, stands_ofText s⟩
  | read _ ih =>
    obtain ⟨before, last, after, stands⟩ := ih
    cases after with
    | nil => exact ⟨_, _, _, stands.read_nil⟩
    | cons c after => exact ⟨_, _, _, stands.read_cons⟩
  | back _ ih =>
    obtain ⟨before, last, after, stands⟩ := ih
    exact ⟨_, _, _, stands.back⟩
  | cut _ ih =>
    obtain ⟨before, last, after, stands⟩ := ih
    exact ⟨_, _, _, stands.cut⟩

theorem backsExactly (h : (ofText s).Leads q) : q.BacksExactly s := by
  obtain ⟨before, last, after, stands⟩ := h.exists_stands
  exact stands.backsExactly h.input_eq

theorem look (h : r.Leads q) : r.Leads q.look := h.read.back

theorem accept (h : r.Leads q) (m : Char) : r.Leads (q.accept m).2 := by
  unfold Reader.accept
  split
  · exact h.look
  · split
    · exact h.read
    · exact h.look

theorem consume (h : r.Leads q) (marker : Text) : r.Leads (q.consume marker).2 := by
  induction marker generalizing q with
  | nil => exact h
  | cons m ms ih =>
    rw [Reader.consume]
    split
    · exact ih (h.accept m)
    · exact h.accept m

theorem readWhile (h : r.Leads q) (p : Char → Bool) : r.Leads (q.readWhile p) := by
  fun_induction Reader.readWhile p q with
  | case1 => exact h.look
  | case2 _ _ _ _ ih => exact ih h.read
  | case3 => exact h.look

theorem readOver (h : r.Leads q) (d : Char) : r.Leads (q.readOver d).2 := by
  fun_induction Reader.readOver d q with
  | case1 | case2 => exact h.read
  | case3 _ _ _ _ ih => exact ih h.read

theorem readEscaped (h : r.Leads q) (d : Char) : r.Leads (q.readEscaped d) := by
  unfold Reader.readEscaped
  split
  · exact h.look.read
  · exact h.look

theorem readToQuote (h : r.Leads q) : r.Leads q.readToQuote.2 := by
  fun_induction Reader.readToQuote q with
  | case1 => exact h.read
  | case2 _ _ ih => exact ih (h.read.readEscaped '"')
  | case3 => exact h.look
  | case4 _ _ _ _ _ ih => exact ih h.read

theorem readNode (h : r.Leads q) (opened : Bool) : r.Leads (q.readNode opened).2 := by
  fun_induction Reader.readNode opened q with
  | case1 => exact h.read
  | case2 _ _ _ ih => exact ih (h.read.readEscaped '<')
  | case3 _ _ _ _ ih => exact ih h.read
  | case4 => exact h.read
  | case5 _ _ _ _ _ _ _ ih => exact ih h.read

end Leads
end Reader

/-! ## Scanners on the way -/

namespace Scanner

open Reader (Leads)

variable {r q : Reader} {m m' : Scanner} {t : Token}

theorem leads_scanToken (h : r.Leads q) : r.Leads (scanToken q).reader := by
  fun_induction scanToken q with
  | case1 | case8 => exact h.look.cut
  | case2 => exact h.look.read
  | case3 | case4 | case5 => exact h.look
  | case6 => exact h.look.read.cut
  | case7 _ _ _ _ _ _ _ _ _ ih => exact ih h.look.read.cut

theorem leads_scanNode (h : r.Leads q) : r.Leads (scanNode q).reader := by
  have way := h.readNode false
  unfold scanNode
  split <;> rename_i last found
  all_goals
    rw [found] at way
    exact way.cut

theorem leads_scanPredicate (h : r.Leads q) : r.Leads (scanPredicate q).reader := by
  have id := h.read.readToQuote
  unfold scanPredicate
  split <;> rename_i found
  · rw [found] at id
    exact id.cut
  rw [found] at id
  have mark := id.consume Lexeme.anchorMarker
  split <;> rename_i agrees
  · rw [agrees] at mark
    exact mark.cut
  rw [agrees] at mark
  have last := mark.readOver ']'
  split <;> rename_i closes
  all_goals
    rw [closes] at last
    exact last.cut

theorem leads_scanLiteral (h : r.Leads q) : r.Leads (scanLiteral q).reader := by
  have value := h.read.readToQuote
  unfold scanLiteral
  split <;> rename_i found
  · rw [found] at value
    exact value.cut
  rw [found] at value
  have mark := value.consume Lexeme.typeMarker
  split <;> rename_i agrees
  · rw [agrees] at mark
    exact mark.cut
  rw [agrees] at mark
  dsimp only
  split
  all_goals exact (mark.readWhile isLetterOrNumeral).cut

/-- A state does nothing with the text but read, step back and cut. -/
theorem leads_step (h : r.Leads m.reader) : r.Leads m.step.reader := by
  unfold step
  cases m.state with
  | token => exact leads_scanToken h
  | space => exact (h.readWhile isBlank).cut
  | binding =>
    dsimp only [scanBinding]
    split
    all_goals exact (h.readWhile isLetter).cut
  | keyword =>
    dsimp only [scanKeyword]
    split
    · exact (h.readWhile isLetter).cut
    · exact (h.readWhile (!isBlank ·)).cut
  | node => exact leads_scanNode h
  | quoted =>
    dsimp only [scanQuoted]
    split
    · exact h
    · split
      · exact h
      · exact h.cut
  | predicate => exact leads_scanPredicate h
  | literal => exact leads_scanLiteral h
  | done => exact h

theorem leads_steps (h : r.Leads m.reader) (k : Nat) : r.Leads (step^[k] m).reader := by
  induction k generalizing m with
  | zero => exact h
  | succ k ih => exact ih (leads_step h)

theorem leads_next? (h : r.Leads m.reader) (next : m.next? = some (t, m')) :
    r.Leads m'.reader := by
  fun_induction next? m with
  | case1 =>
    cases next
    exact h
  | case2 => cases next
  | case3 m _ _ ih => exact ih (leads_step h) next

theorem leads_calls (h : r.Leads m.reader) (n : Nat) : r.Leads (calls next? n m).2.reader := by
  induction n generalizing m with
  | zero => exact h
  | succ n ih =>
    cases next : m.next? with
    | none =>
      rw [calls_of_none next]
      exact h
    | some p =>
      rw [calls, next]
      exact ih (leads_next? h next)

end Scanner

/-! ## Lexers on the way -/

namespace Lexer

/-- A lexer stands behind the last token that it has given. -/
theorem position_calls (l : Lexer) (n : Nat) : (calls next? n l).2.cursor.position =
    (calls next? n l).1.getLast?.elim l.cursor.position Token.finish := by
  induction n generalizing l with
  | zero => rfl
  | succ n ih =>
    cases ended : l.ended with
    | true =>
      rw [calls_of_none (next?_of_ended ended)]
      rfl
    | false =>
      obtain ⟨gap, -, -, -, finish⟩ := l.exists_gap
      rw [calls, next?_of_not_ended ended]
      dsimp only
      rw [ih, finish, List.getLast?_cons]
      cases (calls next? n l.advance).1.getLast? <;> rfl

/-- After a token that ends the query no call changes anything. -/
theorem ended_calls {l : Lexer} {n : Nat}
    (h : ∃ t ∈ (calls next? n l).1, t.type.isTerminal = true) :
    (calls next? n l).2.ended = true := by
  induction n generalizing l with
  | zero => simp [calls] at h
  | succ n ih =>
    cases ended : l.ended with
    | true =>
      rw [calls_of_none (next?_of_ended ended)]
      exact ended
    | false =>
      rw [calls, next?_of_not_ended ended] at h ⊢
      obtain ⟨t, mem, ending⟩ := h
      rcases List.mem_cons.1 mem with rfl | later
      · have stops : l.advance.ended = true := ending
        dsimp only
        rw [calls_of_none (next?_of_ended stops)]
        exact ending
      · exact ih ⟨t, later, ending⟩

end Lexer

/-! ## Positions -/

/-- A scanner gives the tokens of the query one by one. It stands behind the last one that it
has given, with the counts of the text up to there, and a lexer stands at the same place.
Behind a token that ends the query nothing changes any more. An error reports the counts of
the text up to its end. Within a call too a scanner only ever reads, steps back and cuts, and
wherever that leads, the counts are exact and a step back undoes one character at most. -/
structure ExactPositions (s : Text) : Prop where
  given : ∀ n, (calls Scanner.next? n (.ofText s)).1 = (tokenize s).take n
  place : ∀ n, ∃ before after, s = before ++ after ∧
    (calls Scanner.next? n (.ofText s)).2.reader.cursor = before.place ∧
    before.byteLength = (calls Scanner.next? n (.ofText s)).1.getLast?.elim 0 Token.finish
  lexer : ∀ n, (calls Lexer.next? n (.ofText s)).2.cursor =
    (calls Scanner.next? n (.ofText s)).2.reader.cursor
  ended : ∀ n k, (∃ t ∈ (calls Scanner.next? n (.ofText s)).1, t.type.isTerminal = true) →
    calls Scanner.next? (n + k) (.ofText s) = calls Scanner.next? n (.ofText s)
  error : ∀ t ∈ tokenize s, t.type = .error → ∃ before after f, s = before ++ after ∧
    before.byteLength = t.finish ∧ t.message = some (Lexer.report before.place f)
  reached : ∀ n k, (Reader.ofText s).Leads
    (Scanner.step^[k] (calls Scanner.next? n (.ofText s)).2).reader
  back : ∀ r, (Reader.ofText s).Leads r → r.BacksExactly s

theorem exists_report_of_error {s : Text} {t : Token} (mem : t ∈ tokenize s)
    (error : t.type = .error) : ∃ before after f, s = before ++ after ∧
      before.byteLength = t.finish ∧ t.message = some (Lexer.report before.place f) := by
  obtain ⟨done, q, rfl, -, rfl⟩ := exists_lexeme_of_mem_tokenize mem
  obtain ⟨f, found⟩ := Lexeme.exists_fault_of_type error
  refine ⟨done ++ (Lexeme.ofText q).text, (Lexeme.ofText q).rest, f, ?_, ?_, ?_⟩
  · rw [List.append_assoc, Lexeme.ofText_append]
  · rw [Text.byteLength_append]
    rfl
  · rw [← Cursor.past_start]
    simp only [Lexeme.tokenBehind, found]

theorem exactPositions (s : Text) : ExactPositions s := by
  have follows := (Scanner.follows_ofText s).calls
  have reached : ∀ n, (Reader.ofText s).Leads (calls Scanner.next? n (.ofText s)).2.reader :=
    fun n => Scanner.leads_calls (m := .ofText s) .here n
  have lexer : ∀ n, (calls Lexer.next? n (.ofText s)).2.cursor =
      (calls Scanner.next? n (.ofText s)).2.reader.cursor := by
    intro n
    obtain ⟨read, place, cursor⟩ := (follows n).2.place
    rw [cursor, place.cursor_eq, List.append_nil]
  refine ⟨?_, ?_, lexer, ?_, ?_, fun n => Scanner.leads_steps (reached n),
    fun r way => way.backsExactly⟩
  · intro n
    rw [(follows n).1]
    exact (Lexer.calls_next? _ n).1
  · intro n
    obtain ⟨read, place, cursor⟩ := (follows n).2.place
    refine ⟨read, (calls Lexer.next? n (.ofText s)).2.rest, ?_, ?_, ?_⟩
    · have input := place.input_eq
      rw [(reached n).input_eq, List.append_nil] at input
      exact input
    · rw [← lexer, cursor, Cursor.past_start]
    · have position := Lexer.position_calls (.ofText s) n
      rw [cursor, Cursor.past_start, ← (follows n).1] at position
      exact position
  · intro n k ending
    rw [(follows n).1] at ending
    have last := (follows n).2.next?_eq_none (Lexer.next?_of_ended (Lexer.ended_calls ending))
    rw [calls_add, calls_of_none last, List.append_nil]
  · exact fun t mem error => exists_report_of_error mem error

/-- A binding on the second line is four characters wide with the blanks in front of it. -/
example : (calls Lexer.next? 2 (.ofText "select\n  ?x".toList)).2.cursor = ⟨1, 4, 11⟩ := by
  decide

end GraphText
