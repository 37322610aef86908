-- What a reader does to a query. What it has read and what is left always make up the query,
-- its counts are those of what it has read, and it can step back over the last character.
import GraphText.Proofs.Delimiters
import GraphText.Proofs.Markers
import GraphText.Query.Reader

namespace GraphText

@[simp] theorem Lexeme.agreeing_nil_left (t : Text) : agreeing [] t = 0 := by
  unfold agreeing
  rfl

@[simp] theorem Lexeme.agreeing_nil_right (marker : Text) : agreeing marker [] = 0 := by
  cases marker <;> rfl

namespace Reader

/-! ## One character -/

/-- The reader has read the first two texts and stands in front of the third. It can step
back over the second one, a character or none. -/
structure Stands (r : Reader) (before last after : Text) : Prop where
  input : r.input = before ++ last ++ after
  cursor : r.cursor = Cursor.start.past (before ++ last)
  width : r.width = last.byteLength
  lastLine : r.lastLine = (Cursor.start.past before).line
  lastColumn : r.lastColumn = (Cursor.start.past before).column
  length_le : last.length ≤ 1

variable {r : Reader} {before last after : Text} {c : Char}

theorem stands_ofText (s : Text) : (ofText s).Stands [] [] s :=
  ⟨rfl, rfl, rfl, rfl, rfl, Nat.zero_le 1⟩

namespace Stands

theorem position_eq (h : r.Stands before last after) :
    r.cursor.position = (before ++ last).byteLength := by
  rw [h.cursor, Cursor.position_past]
  exact Nat.zero_add _

theorem ahead_eq (h : r.Stands before last after) : r.ahead = after := by
  rw [ahead, h.input, h.position_eq]
  exact Text.fromByte_append _ _

theorem read_cons (h : r.Stands before last (c :: after)) :
    r.read.Stands (before ++ last) [c] after := by
  have next : r.next? = some c := by
    rw [next?, h.ahead_eq]
    rfl
  unfold read
  rw [next]
  refine ⟨?_, ?_, ?_, ?_, ?_, Nat.le_refl 1⟩
  · rw [List.append_assoc _ [c]]
    exact h.input
  · rw [Cursor.past_append, ← h.cursor]
    rfl
  · rw [Text.byteLength_cons, Text.byteLength_nil, Nat.add_zero]
  · rw [← h.cursor]
  · rw [← h.cursor]

theorem read_nil (h : r.Stands before last []) : r.read.Stands (before ++ last) [] [] := by
  have next : r.next? = none := by
    rw [next?, h.ahead_eq]
    rfl
  unfold read
  rw [next]
  refine ⟨?_, ?_, rfl, ?_, ?_, Nat.zero_le 1⟩
  · rw [List.append_nil]
    exact h.input
  · rw [List.append_nil]
    exact h.cursor
  · rw [← h.cursor]
  · rw [← h.cursor]

/-- Stepping back goes exactly to where the last character was read. -/
theorem back (h : r.Stands before last after) : r.back.Stands before [] (last ++ after) := by
  refine ⟨?_, ?_, rfl, h.lastLine, h.lastColumn, Nat.zero_le 1⟩
  · rw [List.append_nil, ← List.append_assoc]
    exact h.input
  · have place : r.cursor.position - r.width = (Cursor.start.past before).position := by
      rw [h.position_eq, h.width, Text.byteLength_append, Nat.add_sub_cancel,
        Cursor.position_past]
      exact (Nat.zero_add _).symm
    unfold Reader.back
    rw [h.lastLine, h.lastColumn, place, List.append_nil]

theorem cut (h : r.Stands before last after) : r.cut.Stands before last after :=
  ⟨h.input, h.cursor, h.width, h.lastLine, h.lastColumn, h.length_le⟩

theorem look (h : r.Stands before last after) : r.look.Stands (before ++ last) [] after := by
  cases after with
  | nil => exact h.read_nil.back
  | cons c after => exact h.read_cons.back

end Stands

/-! ## A token -/

/-- The token begins behind the first text, the second is what has been read of it, and the
third is left. -/
structure At (r : Reader) (done token after : Text) : Prop where
  start : r.start = done.byteLength
  stands : ∃ before last, before ++ last = done ++ token ∧ r.Stands before last after

theorem at_ofText (s : Text) : (ofText s).At [] [] s :=
  ⟨rfl, [], [], rfl, stands_ofText s⟩

@[simp] theorem start_read (r : Reader) : r.read.start = r.start := by
  unfold read
  split <;> rfl

@[simp] theorem start_look (r : Reader) : r.look.start = r.start := r.start_read

namespace At

variable {done token : Text}

theorem input_eq (h : r.At done token after) : r.input = done ++ token ++ after := by
  obtain ⟨before, last, read, stands⟩ := h.stands
  rw [← read]
  exact stands.input

theorem cursor_eq (h : r.At done token after) : r.cursor = Cursor.start.past (done ++ token) := by
  obtain ⟨before, last, read, stands⟩ := h.stands
  rw [← read]
  exact stands.cursor

theorem position_eq (h : r.At done token after) :
    r.cursor.position = done.byteLength + token.byteLength := by
  rw [h.cursor_eq, Cursor.position_past, Text.byteLength_append]
  exact Nat.zero_add _

theorem ahead_eq (h : r.At done token after) : r.ahead = after := by
  obtain ⟨before, last, -, stands⟩ := h.stands
  exact stands.ahead_eq

theorem next?_eq (h : r.At done token after) : r.next? = after.head? :=
  congrArg List.head? h.ahead_eq

theorem look (h : r.At done token after) : r.look.At done token after := by
  obtain ⟨before, last, read, stands⟩ := h.stands
  refine ⟨?_, before ++ last, [], ?_, stands.look⟩
  · rw [start_look]
    exact h.start
  · rw [List.append_nil]
    exact read

theorem exists_of_look (h : r.At done token after) (next : r.look.next? = some c) :
    ∃ rest, after = c :: rest := by
  rw [h.look.next?_eq] at next
  exact List.head?_eq_some_iff.1 next

/-- What has been read since a byte of the token is the rest of it. -/
theorem textFrom_eq {more : Text} (h : r.At done (token ++ more) after) :
    r.textFrom (done.byteLength + token.byteLength) = more := by
  rw [textFrom, h.input_eq, h.position_eq, ← Text.byteLength_append, ← List.append_assoc,
    List.append_assoc _ more, Text.fromByte_append, Text.byteLength_append, Text.byteLength_append,
    ← Nat.add_assoc, Nat.add_sub_cancel_left]
  exact Text.upToByte_append _ _

theorem text_eq (h : r.At done token after) : r.text = token := by
  have whole : r.At done ([] ++ token) after := h
  rw [text, h.start]
  exact whole.textFrom_eq

theorem read_cons (h : r.At done token (c :: after)) :
    r.read.At done (token ++ [c]) after := by
  obtain ⟨before, last, read, stands⟩ := h.stands
  refine ⟨?_, before ++ last, [c], ?_, stands.read_cons⟩
  · rw [start_read]
    exact h.start
  · rw [read, List.append_assoc]

theorem read_nil (h : r.At done token []) : r.read.At done token [] := by
  obtain ⟨before, last, read, stands⟩ := h.stands
  refine ⟨?_, before ++ last, [], ?_, stands.read_nil⟩
  · rw [start_read]
    exact h.start
  · rw [List.append_nil]
    exact read

theorem cut (h : r.At done token after) : r.cut.At (done ++ token) [] after := by
  obtain ⟨before, last, read, stands⟩ := h.stands
  refine ⟨?_, before, last, ?_, stands.cut⟩
  · rw [Text.byteLength_append, ← h.position_eq]
    rfl
  · rw [List.append_nil]
    exact read

/-! ## Several characters -/

theorem readWhile (h : r.At done token after) (p : Char → Bool) :
    (r.readWhile p).At done (token ++ after.takeWhile p) (after.dropWhile p) := by
  induction after generalizing r token with
  | nil =>
    rw [readWhile_eq, h.next?_eq, List.takeWhile_nil, List.append_nil]
    exact h.look
  | cons c after ih =>
    rw [readWhile_eq, h.next?_eq]
    dsimp only [List.head?_cons]
    by_cases pass : p c = true
    · rw [if_pos pass, List.takeWhile_cons_of_pos pass, List.dropWhile_cons_of_pos pass]
      have more := ih h.read_cons
      rwa [List.append_assoc] at more
    · rw [if_neg pass, List.takeWhile_cons_of_neg pass, List.dropWhile_cons_of_neg pass,
        List.append_nil]
      exact h.look

/-- A delimiter that does not stand in the text is searched to the end. -/
theorem readOver_of_not_mem {d : Char} (h : r.At done token after) (absent : d ∉ after) :
    ∃ q, r.readOver d = (false, q) ∧ q.At done (token ++ after) [] := by
  induction after generalizing r token with
  | nil =>
    rw [readOver_eq, h.next?_eq, List.append_nil]
    exact ⟨_, rfl, h.read_nil⟩
  | cons c after ih =>
    have other : c ≠ d := (List.ne_of_not_mem_cons absent).symm
    rw [readOver_eq, h.next?_eq]
    dsimp only [List.head?_cons]
    rw [if_neg other]
    have more := ih h.read_cons (List.not_mem_of_not_mem_cons absent)
    rwa [List.append_assoc] at more

theorem readOver_append {d : Char} {t : Text} (h : r.At done token (t ++ d :: after))
    (first : d ∉ t) :
    ∃ q, r.readOver d = (true, q) ∧ q.At done (token ++ t ++ [d]) after := by
  induction t generalizing r token with
  | nil =>
    rw [readOver_eq, h.next?_eq, List.append_nil]
    dsimp only [List.nil_append, List.head?_cons]
    rw [if_pos rfl]
    exact ⟨_, rfl, h.read_cons⟩
  | cons c t ih =>
    have other : c ≠ d := (List.ne_of_not_mem_cons first).symm
    rw [readOver_eq, h.next?_eq]
    dsimp only [List.cons_append, List.head?_cons]
    rw [if_neg other]
    have more := ih h.read_cons (List.not_mem_of_not_mem_cons first)
    rwa [List.append_assoc token] at more

theorem accept_nil {m : Char} (h : r.At done token []) :
    ∃ q, r.accept m = (false, q) ∧ q.At done token [] := by
  unfold accept
  rw [h.next?_eq]
  exact ⟨_, rfl, h.look⟩

theorem accept_cons {m : Char} (h : r.At done token (c :: after)) :
    if lowerChar c = lowerChar m then
      ∃ q, r.accept m = (true, q) ∧ q.At done (token ++ [c]) after
    else ∃ q, r.accept m = (false, q) ∧ q.At done token (c :: after) := by
  unfold accept
  rw [h.next?_eq]
  dsimp only [List.head?_cons]
  by_cases same : lowerChar c = lowerChar m
  · rw [if_pos same, if_pos same]
    exact ⟨_, rfl, h.read_cons⟩
  · rw [if_neg same, if_neg same]
    exact ⟨_, rfl, h.look⟩

/-- What is read of a marker is what agrees with it. -/
theorem consume (h : r.At done token after) (marker : Text) :
    ∃ q, r.consume marker = (decide (marker.length ≤ Lexeme.agreeing marker after), q) ∧
      q.At done (token ++ after.take (Lexeme.agreeing marker after))
        (after.drop (Lexeme.agreeing marker after)) := by
  induction marker generalizing r token after with
  | nil =>
    rw [Lexeme.agreeing_nil_left, List.take_zero, List.drop_zero, List.append_nil]
    exact ⟨r, rfl, h⟩
  | cons m ms ih =>
    rw [Reader.consume]
    cases after with
    | nil =>
      obtain ⟨q, refused, stays⟩ := h.accept_nil (m := m)
      rw [refused, Lexeme.agreeing_nil_right, List.take_zero, List.append_nil]
      exact ⟨q, rfl, stays⟩
    | cons c after =>
      have accept := h.accept_cons (m := m)
      rw [Lexeme.agreeing]
      by_cases same : lowerChar c = lowerChar m
      · rw [if_pos same] at accept ⊢
        obtain ⟨next, accepted, read⟩ := accept
        obtain ⟨q, whole, place⟩ := ih read
        rw [List.append_assoc] at place
        refine ⟨q, ?_, place⟩
        rw [accepted, if_pos rfl, whole]
        simp
      · rw [if_neg same] at accept ⊢
        obtain ⟨q, refused, stays⟩ := accept
        rw [refused, List.take_zero, List.append_nil]
        exact ⟨q, rfl, stays⟩

/-- A delimiter behind a backslash is read along with it. -/
theorem readEscaped_cons {d : Char} (h : r.At done token (d :: after)) :
    (r.readEscaped d).At done (token ++ [d]) after := by
  unfold Reader.readEscaped
  rw [h.next?_eq, List.head?_cons, if_pos rfl]
  exact h.look.read_cons

theorem readEscaped_of_ne {d : Char} (h : r.At done token after) (other : after.head? ≠ some d) :
    (r.readEscaped d).At done token after := by
  unfold Reader.readEscaped
  rw [h.next?_eq, if_neg other]
  exact h.look

/-! ## Quotes -/

/-- A search stops where the text is cut, or at its end. -/
def Searches (result : Bool × Reader) (done token after : Text) : Option (Text × Text) → Prop
  | none => ∃ q, result = (false, q) ∧ q.At done (token ++ after) []
  | some (x, y) => ∃ q, result = (true, q) ∧ q.At done (token ++ x) y

theorem Searches.behind {result : Bool × Reader} {u : Text} {cut : Option (Text × Text)}
    (h : Searches result done (token ++ u) after cut) :
    Searches result done token (u ++ after) (cut.map fun p => (u ++ p.1, p.2)) := by
  cases cut with
  | none =>
    obtain ⟨q, found, place⟩ := h
    rw [List.append_assoc] at place
    exact ⟨q, found, place⟩
  | some p =>
    obtain ⟨q, found, place⟩ := h
    rw [List.append_assoc] at place
    exact ⟨q, found, place⟩

theorem readToQuote_quote (h : r.At done token ('"' :: after)) :
    Searches r.readToQuote done token ('"' :: after) (some ([], '"' :: after)) := by
  rw [readToQuote_eq, h.next?_eq]
  refine ⟨_, rfl, ?_⟩
  rw [List.append_nil]
  exact h.look

theorem readToQuote_nil (h : r.At done token []) :
    Searches r.readToQuote done token [] none := by
  rw [readToQuote_eq, h.next?_eq]
  refine ⟨_, rfl, ?_⟩
  rw [List.append_nil]
  exact h.read_nil

theorem readToQuote_escaped (h : r.At done token ('\\' :: '"' :: after)) :
    ∃ q : Reader, r.readToQuote = q.readToQuote ∧ q.At done (token ++ ['\\', '"']) after := by
  have place := h.read_cons.readEscaped_cons
  rw [List.append_assoc] at place
  refine ⟨r.read.readEscaped '"', ?_, place⟩
  rw [readToQuote_eq, h.next?_eq]
  rfl

theorem readToQuote_cons {b : Char} (h : r.At done token (b :: after)) (other : b ≠ '"')
    (unescaping : ¬ (b = '\\' ∧ after.head? = some '"')) :
    ∃ q : Reader, r.readToQuote = q.readToQuote ∧ q.At done (token ++ [b]) after := by
  rw [readToQuote_eq, h.next?_eq]
  dsimp only [List.head?_cons]
  by_cases backslash : b = '\\'
  · rw [if_pos backslash]
    have unescaped : after.head? ≠ some '"' := fun quote => unescaping ⟨backslash, quote⟩
    exact ⟨_, rfl, h.read_cons.readEscaped_of_ne unescaped⟩
  · rw [if_neg backslash, if_neg other]
    exact ⟨_, rfl, h.read_cons⟩

/-- The search for a quote that counts skips escapes one by one. It stops where the text is
cut. -/
theorem readToQuote (h : r.At done token after) :
    Searches r.readToQuote done token after (Lexeme.cutQuote after) := by
  fun_induction Lexeme.cutQuote after generalizing r token with
  | case1 => exact h.readToQuote_nil
  | case2 => exact h.readToQuote_quote
  | case3 c other =>
    obtain ⟨q, next, place⟩ := h.readToQuote_cons other (by simp)
    rw [next]
    exact place.readToQuote_nil.behind (u := [c])
  | case4 c rest => exact h.readToQuote_quote
  | case5 b c rest _ escaped ih =>
    obtain ⟨rfl, rfl⟩ := escaped
    obtain ⟨q, next, place⟩ := h.readToQuote_escaped
    rw [next]
    exact (ih place).behind
  | case6 b c rest other unescaping ih =>
    obtain ⟨q, next, place⟩ := h.readToQuote_cons other (by simpa using unescaping)
    rw [next]
    exact (ih place).behind (u := [b])

/-! ## Nodes -/

theorem readNode_nil (h : r.At done token []) (opened : Bool) :
    ∃ q, r.readNode opened = (none, q) ∧ q.At done token [] := by
  rw [readNode_eq, h.next?_eq]
  exact ⟨_, rfl, h.read_nil⟩

theorem readNode_close (h : r.At done token ('>' :: after)) (opened : Bool) :
    ∃ q, r.readNode opened = (some opened, q) ∧ q.At done (token ++ ['>']) after := by
  rw [readNode_eq, h.next?_eq]
  exact ⟨_, rfl, h.read_cons⟩

theorem readNode_escaped (h : r.At done token ('\\' :: '<' :: after)) (opened : Bool) :
    ∃ q : Reader, r.readNode opened = q.readNode opened ∧
      q.At done (token ++ ['\\', '<']) after := by
  have place := h.read_cons.readEscaped_cons
  rw [List.append_assoc] at place
  refine ⟨r.read.readEscaped '<', ?_, place⟩
  rw [readNode_eq, h.next?_eq]
  rfl

theorem readNode_cons {b : Char} (h : r.At done token (b :: after)) (opened : Bool)
    (inner : b ≠ '>') (unescaping : ¬ (b = '\\' ∧ after.head? = some '<')) :
    ∃ q : Reader, r.readNode opened = q.readNode (opened || b = '<') ∧
      q.At done (token ++ [b]) after := by
  rw [readNode_eq, h.next?_eq]
  dsimp only [List.head?_cons]
  by_cases backslash : b = '\\'
  · rw [if_pos backslash]
    have unescaped : after.head? ≠ some '<' := fun bracket => unescaping ⟨backslash, bracket⟩
    refine ⟨_, ?_, h.read_cons.readEscaped_of_ne unescaped⟩
    simp [backslash]
  rw [if_neg backslash]
  by_cases bracket : b = '<'
  · rw [if_pos bracket]
    refine ⟨_, ?_, h.read_cons⟩
    simp [bracket]
  · rw [if_neg bracket, if_neg inner]
    refine ⟨_, ?_, h.read_cons⟩
    simp [bracket]

/-- Brackets that count are seen on the way to the closing bracket. -/
theorem readNode_append {body : Text} (h : r.At done token (body ++ '>' :: after))
    (opened : Bool) (inner : '>' ∉ body) :
    ∃ q, r.readNode opened = (some (opened || Lexeme.opensId body), q) ∧
      q.At done (token ++ body ++ ['>']) after := by
  fun_induction Lexeme.opensId body generalizing r token opened with
  | case1 =>
    rw [Bool.or_false, List.append_nil]
    exact h.readNode_close opened
  | case2 c =>
    obtain ⟨q, next, place⟩ := h.readNode_cons opened (by simpa [eq_comm] using inner)
      (by simp)
    rw [next]
    exact place.readNode_close _
  | case3 b c rest escaped ih =>
    obtain ⟨rfl, rfl⟩ := escaped
    obtain ⟨q, next, place⟩ := h.readNode_escaped opened
    rw [next]
    have more := ih place opened (by simpa using inner)
    rwa [List.append_assoc token] at more
  | case4 b c rest unescaping ih =>
    have inner' : '>' ∉ c :: rest := List.not_mem_of_not_mem_cons inner
    obtain ⟨q, next, place⟩ := h.readNode_cons opened
      (List.ne_of_not_mem_cons inner).symm (by simpa using unescaping)
    rw [next, ← Bool.or_assoc]
    have more := ih place (opened || b = '<') inner'
    rwa [List.append_assoc token] at more

theorem readNode_of_not_mem (h : r.At done token after) (opened : Bool) (absent : '>' ∉ after) :
    ∃ q, r.readNode opened = (none, q) ∧ q.At done (token ++ after) [] := by
  fun_induction Lexeme.opensId after generalizing r token opened with
  | case1 =>
    rw [List.append_nil]
    exact h.readNode_nil opened
  | case2 c =>
    obtain ⟨q, next, place⟩ := h.readNode_cons opened (by simpa [eq_comm] using absent)
      (by simp)
    rw [next]
    exact place.readNode_nil _
  | case3 b c rest escaped ih =>
    obtain ⟨rfl, rfl⟩ := escaped
    obtain ⟨q, next, place⟩ := h.readNode_escaped opened
    rw [next]
    have more := ih place opened (by simpa using absent)
    rwa [List.append_assoc token] at more
  | case4 b c rest unescaping ih =>
    obtain ⟨q, next, place⟩ := h.readNode_cons opened
      (List.ne_of_not_mem_cons absent).symm (by simpa using unescaping)
    rw [next]
    have more := ih place (opened || b = '<') (List.not_mem_of_not_mem_cons absent)
    rwa [List.append_assoc token] at more

end At

end Reader
end GraphText
