-- The scanner and the lexer. From the place where a lexeme starts, the states of the scanner
-- hand over to each other until the token of that lexeme has been made. So both give the same
-- tokens, and between two tokens they stand at the same place.
import GraphText.Proofs.LexemeEnds
import GraphText.Proofs.Reading
import GraphText.Proofs.TokenPartition
import GraphText.Query.Scanner

namespace GraphText

/-! ## Tokens of lexemes -/

/-- The token of a lexeme that starts behind the text. -/
def Lexeme.tokenBehind (x : Lexeme) (done : Text) : Token where
  type := x.type
  text := x.text
  message :=
    match x.found with
    | .ok _ => none
    | .error f => some (Lexer.report (Cursor.start.past (done ++ x.text)) f)
  offset := done.byteLength

theorem Lexer.token_eq {l : Lexer} {read : Text} (h : l.cursor = Cursor.start.past read) :
    l.token = l.lexeme.tokenBehind (read ++ l.rest.takeWhile isBlank) := by
  have front : l.front = Cursor.start.past (read ++ l.rest.takeWhile isBlank) := by
    rw [Cursor.past_append, ← h]
    rfl
  have place : l.front.position = (read ++ l.rest.takeWhile isBlank).byteLength := by
    rw [front, Cursor.position_past]
    exact Nat.zero_add _
  unfold token Lexeme.tokenBehind
  rewrite [place, front, ← Cursor.past_append]
  rfl

/-- Every token is that of a lexeme that stands in the text. -/
theorem Lexer.exists_lexeme_of_mem_tokens {l : Lexer} {read : Text} {t : Token}
    (h : l.cursor = Cursor.start.past read) (mem : t ∈ l.tokens) :
    ∃ done q, read ++ l.rest = done ++ q ∧ (∀ c ∈ q.head?, isBlank c = false) ∧
      t = (Lexeme.ofText q).tokenBehind done := by
  cases ended : l.ended with
  | true =>
    rw [tokens_of_ended ended] at mem
    cases mem
  | false =>
    rw [tokens_of_not_ended ended] at mem
    have whole : read ++ l.rest = read ++ l.rest.takeWhile isBlank ++ l.rest.dropWhile isBlank := by
      rw [List.append_assoc, List.takeWhile_append_dropWhile]
    rcases List.mem_cons.1 mem with rfl | later
    · exact ⟨_, _, whole, Text.head?_dropWhile_isBlank l.rest, token_eq h⟩
    · have cursor : l.advance.cursor =
          Cursor.start.past (read ++ l.rest.takeWhile isBlank ++ l.lexeme.text) := by
        rw [Cursor.past_append, Cursor.past_append, ← h]
        rfl
      have parts : l.lexeme.text ++ l.advance.rest = l.rest.dropWhile isBlank :=
        Lexeme.ofText_append _
      rw [whole, ← parts, ← List.append_assoc]
      exact exists_lexeme_of_mem_tokens cursor later
termination_by l.fuel
decreasing_by exact l.fuel_advance ended

theorem exists_lexeme_of_mem_tokenize {s : Text} {t : Token} (mem : t ∈ tokenize s) :
    ∃ done q, s = done ++ q ∧ (∀ c ∈ q.head?, isBlank c = false) ∧
      t = (Lexeme.ofText q).tokenBehind done :=
  @Lexer.exists_lexeme_of_mem_tokens (.ofText s) [] t rfl mem

/-- The token at a place is that of the lexeme that stands there. -/
theorem eq_tokenBehind_of_mem_tokenize {before rest : Text} {t : Token}
    (mem : t ∈ tokenize (before ++ rest)) (here : t.offset = before.byteLength) :
    t = (Lexeme.ofText rest).tokenBehind before := by
  obtain ⟨done, q, whole, -, rfl⟩ := exists_lexeme_of_mem_tokenize mem
  have same : done.byteLength = before.byteLength := here
  have behind : q = rest := by
    rw [← Text.fromByte_append done q, ← whole, same, Text.fromByte_append]
  subst behind
  rw [List.append_cancel_right whole]

namespace Scanner

variable {s : Scanner} {r : Reader} {done token after q : Text} {x : Lexeme}

/-- What a scanner does after a token of this kind. -/
def stateAfter (k : TokenType) : ScanState := if k.isTerminal then .done else .space

/-- The next call gives the token of the lexeme, which starts behind the text, and leaves the
reader behind it. -/
def Makes (s : Scanner) (done : Text) (x : Lexeme) : Prop :=
  ∃ r, s.next? = some (x.tokenBehind done, ⟨r, stateAfter x.type, none⟩) ∧
    r.At (done ++ x.text) [] x.rest

theorem next?_of_pending {t : Token} {state : ScanState} :
    (⟨r, state, some t⟩ : Scanner).next? = some (t, ⟨r, state, none⟩) := by
  rw [next?]

theorem next?_step (empty : s.pending = none) (more : s.state ≠ .done) :
    s.next? = s.step.next? := by
  rw [next?.eq_1 s]
  split
  · rename_i made
    rw [empty] at made
    cases made
  · rw [dif_neg more]

theorem makes_of_step (empty : s.pending = none) (more : s.state ≠ .done)
    (h : s.step.Makes done x) : s.Makes done x := by
  obtain ⟨r, next, place⟩ := h
  exact ⟨r, (next?_step empty more).trans next, place⟩

theorem makes_emit {k : TokenType} (h : r.At done token after) :
    (emit r k (stateAfter k)).Makes done ⟨.ok k, token, after⟩ := by
  refine ⟨r.cut, ?_, h.cut⟩
  unfold emit
  rw [next?_of_pending, h.text_eq, h.start]
  rfl

theorem makes_fail {f : Fault} (h : r.At done token after) :
    (fail r f).Makes done ⟨.error f, token, after⟩ := by
  refine ⟨r.cut, ?_, h.cut⟩
  unfold fail
  rw [next?_of_pending, h.text_eq, h.start, h.cursor_eq]
  rfl

/-! ## States -/

theorem makes_scanBinding (h : r.At done ['?'] q) :
    (scanBinding r).Makes done (Lexeme.binding q) := by
  have name := h.readWhile isLetter
  have length : (r.readWhile isLetter).cursor.position - (r.readWhile isLetter).start =
      '?'.utf8Size + Text.byteLength (q.takeWhile isLetter) := by
    rw [name.position_eq, name.start, Nat.add_sub_cancel_left]
    rfl
  have parts := List.takeWhile_append_dropWhile (p := isLetter) (l := q)
  unfold scanBinding Lexeme.binding
  dsimp only
  rw [length]
  cases letters : q.takeWhile isLetter with
  | nil =>
    rw [letters] at name parts
    rw [Text.byteLength_nil, Nat.add_zero, if_pos rfl, List.isEmpty_nil, if_pos rfl]
    rw [List.nil_append] at parts
    rw [parts] at name
    exact makes_fail name
  | cons c w =>
    have longer : 0 < Text.byteLength (c :: w) := Text.byteLength_pos (List.cons_ne_nil c w)
    rw [letters] at name
    rw [if_neg (by omega), if_neg (by simp)]
    exact makes_emit name

theorem makes_scanKeyword (h : r.At done [] q) :
    (scanKeyword r).Makes done (Lexeme.word q) := by
  unfold scanKeyword Lexeme.word
  rw [h.ahead_eq]
  cases Keyword.ofWord? (q.takeWhile isLetter) with
  | some k => exact makes_emit (h.readWhile isLetter)
  | none => exact makes_fail (h.readWhile (!isBlank ·))

theorem makes_scanNode (h : r.At done [] q) : (scanNode r).Makes done (Lexeme.node q) := by
  unfold scanNode Lexeme.node
  cases closing : q.dropWhile (· ≠ '>') with
  | nil =>
    obtain ⟨last, endless, place⟩ := h.readNode_of_not_mem false (Text.not_mem_of_dropWhile closing)
    rw [endless]
    exact makes_fail place
  | cons c rest =>
    obtain ⟨rfl, parts, inner⟩ := Text.cut_of_dropWhile_ne closing
    rw [parts] at h
    obtain ⟨last, opens, place⟩ := h.readNode_append false inner
    rw [opens]
    dsimp only
    cases Lexeme.opensId (q.takeWhile (· ≠ '>')) with
    | true => exact makes_emit (k := .node) place
    | false => exact makes_fail (f := .nodeWithoutId) place

theorem makes_scanPredicate (h : r.At done [] ('"' :: q)) :
    (scanPredicate r).Makes done (Lexeme.predicate q) := by
  have search := h.read_cons.readToQuote
  unfold scanPredicate Lexeme.predicate
  cases cut : Lexeme.cutQuote q with
  | none =>
    rw [cut] at search
    obtain ⟨last, endless, place⟩ := search
    rw [endless]
    exact makes_fail place
  | some parts =>
    obtain ⟨id, tail⟩ := parts
    rw [cut] at search
    obtain ⟨quote, found, place⟩ := search
    obtain ⟨anchor, agrees, behind⟩ := place.consume Lexeme.anchorMarker
    rw [found]
    dsimp only
    rw [agrees]
    by_cases part : Lexeme.agreeing Lexeme.anchorMarker tail < Lexeme.anchorMarker.length
    · rw [decide_eq_false (Nat.not_le_of_lt part), if_pos part]
      exact makes_fail behind
    rw [decide_eq_true (Nat.le_of_not_lt part), if_neg part]
    have whole : '"' :: q = '"' :: id ++ tail.take (Lexeme.agreeing Lexeme.anchorMarker tail) ++
        tail.drop (Lexeme.agreeing Lexeme.anchorMarker tail) := by
      rw [List.append_assoc, List.take_append_drop, ← Lexeme.cutQuote_append cut]
      rfl
    cases closing : (tail.drop (Lexeme.agreeing Lexeme.anchorMarker tail)).dropWhile (· ≠ ']') with
    | nil =>
      obtain ⟨last, endless, end'⟩ := behind.readOver_of_not_mem (Text.not_mem_of_dropWhile closing)
      dsimp only
      rw [endless, whole]
      exact makes_fail end'
    | cons c rest =>
      obtain ⟨rfl, parts, inner⟩ := Text.cut_of_dropWhile_ne closing
      rw [parts] at behind
      obtain ⟨last, closed, end'⟩ := behind.readOver_append inner
      dsimp only
      rw [closed]
      exact makes_emit (k := .predicate) end'

theorem makes_scanLiteral (h : r.At done [] ('"' :: q)) :
    (scanLiteral r).Makes done (Lexeme.literal q) := by
  have search := h.read_cons.readToQuote
  unfold scanLiteral Lexeme.literal
  cases cut : Lexeme.cutQuote q with
  | none =>
    rw [cut] at search
    obtain ⟨last, endless, place⟩ := search
    rw [endless]
    exact makes_fail place
  | some parts =>
    obtain ⟨value, tail⟩ := parts
    rw [cut] at search
    obtain ⟨quote, found, place⟩ := search
    obtain ⟨mark, agrees, behind⟩ := place.consume Lexeme.typeMarker
    rw [found]
    dsimp only
    rw [agrees]
    by_cases part : Lexeme.agreeing Lexeme.typeMarker tail < Lexeme.typeMarker.length
    · rw [decide_eq_false (Nat.not_le_of_lt part), if_pos part]
      exact makes_fail behind
    rw [decide_eq_true (Nat.le_of_not_lt part), if_neg part]
    have last := behind.readWhile isLetterOrNumeral
    dsimp only
    rw [behind.position_eq, last.textFrom_eq]
    by_cases known : Text.lower ((tail.drop (Lexeme.agreeing Lexeme.typeMarker tail)).takeWhile
        isLetterOrNumeral) ∈ Lexeme.literalTags
    · rw [if_pos (List.contains_iff_mem.2 known), if_pos known]
      exact makes_emit (k := .literal) last
    · rw [if_neg (fun has => known (List.contains_iff_mem.1 has)), if_neg known]
      exact makes_fail last

theorem makes_scanQuoted (h : r.At done [] ('"' :: q)) :
    (⟨r, .quoted, none⟩ : Scanner).Makes done (Lexeme.quoted q) := by
  apply makes_of_step rfl (by simp)
  change (scanQuoted r).Makes done (Lexeme.quoted q)
  unfold scanQuoted Lexeme.quoted
  rw [h.ahead_eq]
  split
  · exact makes_of_step rfl (by simp) (makes_scanPredicate h)
  · split
    · exact makes_of_step rfl (by simp) (makes_scanLiteral h)
    · exact makes_fail h

theorem isBlank_punctuation (p : Punctuation) : isBlank p.char = false := by cases p <;> decide

/-- In front of a character that is not blank no blanks are left out. -/
theorem makes_solid {c : Char} (solid : isBlank c = false)
    (h : s.Makes done (.ofText (c :: q))) :
    s.Makes (done ++ (c :: q).takeWhile isBlank) (.ofText ((c :: q).dropWhile isBlank)) := by
  have stop : ¬ isBlank c = true := by simp [solid]
  rwa [List.takeWhile_cons_of_neg stop, List.dropWhile_cons_of_neg stop, List.append_nil]

/-- The scanner leaves the blanks out and makes the token of the lexeme behind them. -/
theorem makes_scanToken (h : r.At done [] q) :
    (scanToken r).Makes (done ++ q.takeWhile isBlank) (.ofText (q.dropWhile isBlank)) := by
  fun_induction scanToken r generalizing done q with
  | case1 r atEnd =>
    rw [h.look.next?_eq, List.head?_eq_none_iff] at atEnd
    subst atEnd
    rw [List.takeWhile_nil, List.append_nil]
    exact makes_emit (k := .eof) h.look
  | case2 r next =>
    obtain ⟨q, rfl⟩ := h.exists_of_look next
    apply makes_solid (by decide)
    exact makes_of_step rfl (by simp) (makes_scanBinding h.look.read_cons)
  | case3 r next =>
    obtain ⟨q, rfl⟩ := h.exists_of_look next
    apply makes_solid (by decide)
    exact makes_of_step rfl (by simp) (makes_scanNode h.look)
  | case4 r next =>
    obtain ⟨q, rfl⟩ := h.exists_of_look next
    apply makes_solid (by decide)
    exact makes_scanQuoted h.look
  | case5 r c next question slash quote letter =>
    obtain ⟨q, rfl⟩ := h.exists_of_look next
    have solid : isBlank c = false := by
      rw [← Bool.not_eq_true]
      intro blank
      rw [isLetter_of_isBlank blank] at letter
      cases letter
    apply makes_solid solid
    rw [Lexeme.ofText, if_neg question, if_neg slash, if_neg quote, if_pos letter]
    exact makes_of_step rfl (by simp) (makes_scanKeyword h.look)
  | case6 r c next question slash quote letter p sign =>
    obtain ⟨q, rfl⟩ := h.exists_of_look next
    have solid : isBlank c = false := by
      rw [← Punctuation.ofChar?_eq_some_iff.1 sign]
      exact isBlank_punctuation p
    apply makes_solid solid
    rw [Lexeme.ofText, if_neg question, if_neg slash, if_neg quote, if_neg letter, sign]
    exact makes_emit (k := .punctuation p) h.look.read_cons
  | case7 r c next _ _ _ _ _ blank ih =>
    obtain ⟨q, rfl⟩ := h.exists_of_look next
    rw [List.takeWhile_cons_of_pos blank, List.dropWhile_cons_of_pos blank]
    have more := ih h.look.read_cons.cut
    rwa [List.append_assoc] at more
  | case8 r c next question slash quote letter sign blank =>
    obtain ⟨q, rfl⟩ := h.exists_of_look next
    apply makes_solid (by simpa using blank)
    rw [Lexeme.ofText, if_neg question, if_neg slash, if_neg quote, if_neg letter, sign]
    exact makes_emit (k := .eof) h.look

/-! ## Calls -/

variable {m : Scanner} {l l' : Lexer} {t : Token}

/-- The scanner stands between two tokens, where the lexer stands. -/
structure Follows (m : Scanner) (l : Lexer) : Prop where
  pending : m.pending = none
  state : if l.ended then m.state = .done else m.state = .token ∨ m.state = .space
  place : ∃ read, m.reader.At read [] l.rest ∧ l.cursor = Cursor.start.past read

theorem follows_ofText (s : Text) : (ofText s).Follows (.ofText s) :=
  ⟨rfl, .inl rfl, [], Reader.at_ofText s, rfl⟩

/-- Blanks that have been left out behind a token are left out in front of the next one. -/
theorem makes_scanSpace (h : r.At done [] q) :
    (scanSpace r).Makes (done ++ q.takeWhile isBlank) (.ofText (q.dropWhile isBlank)) := by
  have solid := Text.cut_gap (s := []) (fun c mem => absurd mem List.not_mem_nil)
    (Text.head?_dropWhile_isBlank q)
  have made := makes_scanToken (h.readWhile isBlank).cut
  rw [← List.nil_append (q.dropWhile isBlank), solid.1, solid.2, List.append_nil,
    List.nil_append] at made
  exact makes_of_step rfl (by simp [scanSpace]) made

namespace Follows

theorem next?_eq_none (h : m.Follows l) (last : l.next? = none) : m.next? = none := by
  have done := h.state
  rw [if_pos (Lexer.ended_of_next_eq_none last)] at done
  rw [next?.eq_1 m]
  split
  · rename_i t made
    rw [h.pending] at made
    cases made
  · rw [dif_pos done]

/-- A call gives the token that the lexer gives, and both stand at the same place again. -/
theorem exists_next (h : m.Follows l) (goesOn : l.next? = some (t, l')) :
    ∃ m', m.next? = some (t, m') ∧ m'.Follows l' := by
  obtain ⟨read, place, cursor⟩ := h.place
  cases ended : l.ended with
  | true =>
    rw [Lexer.next?_of_ended ended] at goesOn
    cases goesOn
  | false =>
    have state := h.state
    rw [ended, if_neg (by simp)] at state
    rw [Lexer.next?_of_not_ended ended] at goesOn
    cases goesOn
    have made : m.Makes (read ++ l.rest.takeWhile isBlank) l.lexeme := by
      rcases state with token | space
      · apply makes_of_step h.pending (by simp [token])
        rw [step, token]
        exact makes_scanToken place
      · apply makes_of_step h.pending (by simp [space])
        rw [step, space]
        exact makes_scanSpace place
    obtain ⟨r, next, behind⟩ := made
    rw [← Lexer.token_eq cursor] at next
    refine ⟨_, next, rfl, ?_, _, behind, ?_⟩
    · change if l.lexeme.type.isTerminal = true then stateAfter l.lexeme.type = .done else _
      unfold stateAfter
      cases l.lexeme.type.isTerminal with
      | true => rfl
      | false => exact .inr rfl
    · rw [Cursor.past_append, Cursor.past_append, ← cursor]
      rfl

end Follows

end Scanner

/-- The tokens that so many calls give, and what is left behind them. A call that gives none
changes nothing. -/
def calls {α : Type} (next : α → Option (Token × α)) : Nat → α → List Token × α
  | 0, a => ([], a)
  | n + 1, a =>
    match next a with
    | some (t, b) => (t :: (calls next n b).1, (calls next n b).2)
    | none => ([], a)

theorem calls_of_none {α : Type} {next : α → Option (Token × α)} {a : α} (h : next a = none)
    (n : Nat) : calls next n a = ([], a) := by
  cases n with
  | zero => rfl
  | succ n => rw [calls, h]

/-- Calls go on where the calls before them have stopped. -/
theorem calls_add {α : Type} (next : α → Option (Token × α)) (m n : Nat) (a : α) :
    calls next (m + n) a = ((calls next m a).1 ++ (calls next n (calls next m a).2).1,
      (calls next n (calls next m a).2).2) := by
  induction m generalizing a with
  | zero => rw [Nat.zero_add]; rfl
  | succ m ih =>
    rw [Nat.succ_add]
    cases found : next a with
    | none => simp only [calls_of_none found, List.nil_append]
    | some p =>
      rw [calls, calls, found]
      simp only [ih, List.cons_append]

/-- The scanner gives the tokens that the lexer gives, and follows it. -/
theorem Scanner.Follows.calls {m : Scanner} {l : Lexer} (h : m.Follows l) (n : Nat) :
    (calls Scanner.next? n m).1 = (calls Lexer.next? n l).1 ∧
      (calls Scanner.next? n m).2.Follows (calls Lexer.next? n l).2 := by
  induction n generalizing m l with
  | zero => exact ⟨rfl, h⟩
  | succ n ih =>
    cases next : l.next? with
    | none =>
      rw [calls_of_none next, calls_of_none (h.next?_eq_none next)]
      exact ⟨rfl, h⟩
    | some p =>
      obtain ⟨t, l'⟩ := p
      obtain ⟨m', next', h'⟩ := h.exists_next next
      obtain ⟨tokens, follows⟩ := ih h'
      rw [GraphText.calls, GraphText.calls, next, next']
      exact ⟨congrArg (t :: ·) tokens, follows⟩

/-- The tokens that calls give and those that are left are all tokens. -/
theorem Lexer.calls_next? (l : Lexer) (n : Nat) :
    (calls next? n l).1 = l.tokens.take n ∧ (calls next? n l).2.tokens = l.tokens.drop n := by
  induction n generalizing l with
  | zero => exact ⟨rfl, rfl⟩
  | succ n ih =>
    cases next : l.next? with
    | none =>
      rw [calls_of_none next, tokens_of_ended (ended_of_next_eq_none next)]
      exact ⟨rfl, rfl⟩
    | some p =>
      obtain ⟨t, l'⟩ := p
      obtain ⟨given, left⟩ := ih l'
      rw [calls, next, tokens_of_next next]
      exact ⟨congrArg (t :: ·) given, left⟩

/-- Calls that bring a lexer to its end give all its tokens. -/
theorem Lexer.tokens_eq_calls {l : Lexer} {n : Nat} (h : (calls next? n l).2.ended = true) :
    l.tokens = (calls next? n l).1 := by
  obtain ⟨given, left⟩ := l.calls_next? n
  rw [tokens_of_ended h] at left
  rw [given, ← List.take_append_drop n l.tokens, ← left, List.append_nil, List.take_take,
    Nat.min_self]

end GraphText
