-- Queries behind one another. The tokens of a text are the same in front of a blank, and a
-- lexer that goes on behind it gives the tokens of what follows, counted on. An anchor that
-- follows a literal is the one thing that changes a token in front of it.
import GraphText.Proofs.LexemeEnds
import GraphText.Proofs.Places
import Mathlib.Data.List.Forall2

namespace GraphText

open Text (AllBlank IsGap)

/-! ## Runs of a lexer -/

namespace Lexer

open Text (StartsBlank)

variable {l m : Lexer} {ts : List Token} {x : Text}

/-- The first lexer gives these tokens, none of which ends the query, and is the second one
then. -/
inductive Gives : Lexer → List Token → Lexer → Prop
  | here {l : Lexer} : Gives l [] l
  | next {l m : Lexer} {ts : List Token} : l.ended = false → l.token.type.isTerminal = false →
      Gives l.advance ts m → Gives l (l.token :: ts) m

theorem Gives.tokens_eq (h : Gives l ts m) : l.tokens = ts ++ m.tokens := by
  induction h with
  | here => rfl
  | next goesOn _ _ ih => rw [tokens_of_not_ended goesOn, ih, List.cons_append]

/-- What has been read stands in front of what is left. -/
theorem Gives.exists_read (h : Gives l ts m) :
    ∃ read, l.rest = read ++ m.rest ∧ m.cursor = l.cursor.past read := by
  induction h with
  | here => exact ⟨[], rfl, rfl⟩
  | @next l m ts _ _ _ ih =>
    obtain ⟨read, rest, cursor⟩ := ih
    refine ⟨l.rest.takeWhile isBlank ++ l.lexeme.text ++ read, ?_, ?_⟩
    · have parts : l.lexeme.text ++ l.advance.rest = l.rest.dropWhile isBlank :=
        Lexeme.ofText_append _
      rw [List.append_assoc, ← rest, List.append_assoc, parts, List.takeWhile_append_dropWhile]
    · rw [cursor, Cursor.past_append, Cursor.past_append]
      rfl

/-- A lexer gives tokens until one ends the query. -/
theorem exists_gives (l : Lexer) (h : l.ended = false) : ∃ ts m, Gives l ts m ∧
    m.ended = false ∧ m.tokens = [m.token] ∧ m.token.type.isTerminal = true := by
  cases ending : l.token.type.isTerminal with
  | true =>
    have last : l.advance.tokens = [] := tokens_of_ended ending
    exact ⟨[], l, .here, h, by rw [tokens_of_not_ended h, last], ending⟩
  | false =>
    obtain ⟨ts, m, gives, more⟩ := exists_gives l.advance ending
    exact ⟨l.token :: ts, m, .next h ending gives, more⟩
termination_by l.fuel
decreasing_by exact l.fuel_advance h

/-- A run stops in front of its first literal. -/
theorem Gives.exists_first_literal (h : Gives l ts m) (present : ∃ t ∈ ts, t.type = .literal) :
    ∃ before k after, Gives l before k ∧ k.ended = false ∧ k.token.type = .literal ∧
      ts = before ++ k.token :: after ∧ ∀ t ∈ before, t.type ≠ .literal := by
  induction h with
  | here => simp at present
  | @next l m ts goesOn runsOn gives ih =>
    by_cases here : l.token.type = .literal
    · exact ⟨[], l, ts, .here, goesOn, here, rfl, by simp⟩
    · have later : ∃ t ∈ ts, t.type = .literal := by
        obtain ⟨t, mem, literal⟩ := present
        rcases List.mem_cons.1 mem with rfl | mem
        · exact absurd literal here
        · exact ⟨t, mem, literal⟩
      obtain ⟨before, k, after, gives, ready, literal, eq, fresh⟩ := ih later
      refine ⟨l.token :: before, k, after, .next goesOn runsOn gives, ready, literal, ?_, ?_⟩
      · rw [eq, List.cons_append]
      · intro t mem
        rcases List.mem_cons.1 mem with rfl | mem
        · exact here
        · exact fresh t mem

/-! ## Texts behind what is left -/

/-- The lexer with more text behind what is left. -/
def followedBy (l : Lexer) (x : Text) : Lexer := ⟨l.rest ++ x, l.cursor, l.ended⟩

/-- A lexer that does not end the query has more than blanks in front of it. -/
theorem exists_solid (h : l.token.type.isTerminal = false) :
    ∃ c q, l.rest.dropWhile isBlank = c :: q := by
  cases rest : l.rest.dropWhile isBlank with
  | nil =>
    have ending : l.token.type = .eof := by
      change (Lexeme.ofText (l.rest.dropWhile isBlank)).type = _
      rw [rest]
      rfl
    rw [ending] at h
    cases h
  | cons c q => exact ⟨c, q, rfl⟩

theorem lexeme_eq_of_goesOn (h : l.token.type.isTerminal = false) :
    l.lexeme = ⟨.ok l.token.type, l.token.text, l.advance.rest⟩ := by
  apply Lexeme.eq_of_type rfl
  rintro error
  change l.token.type = .error at error
  rw [error] at h
  cases h

/-- The text of a token that does not end the query starts with no blank. -/
theorem exists_head_text (h : l.token.type.isTerminal = false) :
    ∃ c, l.token.text.head? = some c ∧ isBlank c = false := by
  obtain ⟨c, v, named⟩ := List.exists_cons_of_ne_nil (l.fits_token.text h)
  have parts : l.token.text ++ l.advance.rest = l.rest.dropWhile isBlank :=
    Lexeme.ofText_append _
  refine ⟨c, by rw [named]; rfl, ?_⟩
  apply Text.head?_dropWhile_isBlank l.rest
  rw [← parts, named]
  rfl

theorem blanks_followedBy (h : l.token.type.isTerminal = false) (x : Text) :
    (l.followedBy x).rest.dropWhile isBlank = l.rest.dropWhile isBlank ++ x ∧
      (l.followedBy x).front = l.front := by
  obtain ⟨c, q, solid⟩ := exists_solid h
  have blank := Text.allBlank_takeWhile l.rest
  have first : ∀ d ∈ (l.rest.dropWhile isBlank ++ x).head?, isBlank d = false := by
    intro d mem
    apply Text.head?_dropWhile_isBlank l.rest
    rw [solid] at mem ⊢
    exact mem
  have more : (l.followedBy x).rest =
      l.rest.takeWhile isBlank ++ (l.rest.dropWhile isBlank ++ x) := by
    rw [← List.append_assoc, List.takeWhile_append_dropWhile]
    rfl
  obtain ⟨blanks, behind⟩ := Text.cut_gap blank first
  rw [← more] at blanks behind
  refine ⟨behind, ?_⟩
  unfold front
  rw [blanks]
  rfl

/-- A token that does not end the query is given in front of a blank too, unless it is a
literal and an anchor follows. -/
theorem step_followedBy (h : l.token.type.isTerminal = false) (gap : x.StartsBlank)
    (noAnchor : l.token.type = .literal → ¬ Lexeme.anchorMarker <:+: x) :
    (l.followedBy x).token = l.token ∧ (l.followedBy x).advance = l.advance.followedBy x := by
  obtain ⟨rest, front⟩ := blanks_followedBy h x
  have found := lexeme_eq_of_goesOn h
  have same : (l.followedBy x).lexeme =
      ⟨.ok l.token.type, l.token.text, l.advance.rest ++ x⟩ := by
    rw [lexeme, rest]
    exact Lexeme.ofText_append_of_blank gap found h noAnchor
  refine ⟨?_, ?_⟩
  · unfold token
    rw [same, front, found]
    rfl
  · unfold advance
    rw [same, front, found]
    rfl

/-- A run is the same in front of a blank, unless an anchor follows a literal of it. -/
theorem Gives.followedBy (h : Gives l ts m) (gap : x.StartsBlank)
    (noAnchor : (∃ t ∈ ts, t.type = .literal) → ¬ Lexeme.anchorMarker <:+: x) :
    Gives (l.followedBy x) ts (m.followedBy x) := by
  induction h with
  | here => exact .here
  | @next l m ts goesOn runsOn gives ih =>
    obtain ⟨token, advance⟩ := step_followedBy runsOn gap fun literal =>
      noAnchor ⟨l.token, List.mem_cons_self, literal⟩
    have more := ih fun ⟨t, mem, literal⟩ => noAnchor ⟨t, List.mem_cons_of_mem _ mem, literal⟩
    rw [← token] at runsOn ⊢
    rw [← advance] at more
    exact .next goesOn runsOn more

/-- A literal is an error in the same place once an anchor comes behind it. -/
theorem token_followedBy_of_anchor (h : l.token.type = .literal)
    (anchor : Lexeme.anchorMarker <:+: x) :
    (l.followedBy x).token.type = .error ∧ (l.followedBy x).token.offset = l.token.offset := by
  obtain ⟨rest, front⟩ := blanks_followedBy (by rw [h]; rfl) x
  refine ⟨?_, ?_⟩
  · change (Lexeme.ofText ((l.followedBy x).rest.dropWhile isBlank)).type = _
    rw [rest]
    exact Lexeme.type_ofText_append_of_anchor (Lexeme.eq_of_type h (by simp)) anchor
  · change (l.followedBy x).front.position = _
    rw [front]
    rfl

/-- Blanks in front of what is left only count on. -/
theorem tokens_gap_append {gap : Text} (blank : AllBlank gap) (x : Text) (c : Cursor) :
    (⟨gap ++ x, c, false⟩ : Lexer).tokens = (⟨x, c.past gap, false⟩ : Lexer).tokens := by
  have lexeme : (⟨gap ++ x, c, false⟩ : Lexer).lexeme =
      (⟨x, c.past gap, false⟩ : Lexer).lexeme := by
    unfold Lexer.lexeme
    rw [Text.dropWhile_isBlank_append blank]
  have front : (⟨gap ++ x, c, false⟩ : Lexer).front =
      (⟨x, c.past gap, false⟩ : Lexer).front := by
    unfold Lexer.front
    rw [List.takeWhile_append_of_pos blank, Cursor.past_append]
  have token : (⟨gap ++ x, c, false⟩ : Lexer).token =
      (⟨x, c.past gap, false⟩ : Lexer).token := by
    unfold Lexer.token
    rw [lexeme, front]
  have advance : (⟨gap ++ x, c, false⟩ : Lexer).advance =
      (⟨x, c.past gap, false⟩ : Lexer).advance := by
    unfold Lexer.advance
    rw [lexeme, front]
  rw [tokens_of_not_ended rfl, token, advance, ← tokens_of_not_ended rfl]

end Lexer

/-! ## Two queries -/

open Text (StartsBlank)

/-- The whole text is scanned: the tokens end behind its last byte. -/
def Text.IsScanned (a : Text) : Prop :=
  ∃ eof ∈ (tokenize a).getLast?, eof.type = .eof ∧ eof.offset = a.byteLength

variable {a b w x : Text}

/-- The lexer at the end of a text that is scanned has only blanks left. -/
theorem Text.IsScanned.exists_gives (h : a.IsScanned) : ∃ ts m, Lexer.Gives (.ofText a) ts m ∧
    tokenize a = ts ++ [m.token] ∧ m.token.type = .eof ∧ m.ended = false ∧ AllBlank m.rest ∧
    m.cursor.past m.rest = Cursor.start.past a := by
  obtain ⟨ts, m, gives, goesOn, last, -⟩ := (Lexer.ofText a).exists_gives rfl
  obtain ⟨eof, mem, type, offset⟩ := h
  have tokens : tokenize a = ts ++ [m.token] := by
    rw [← last]
    exact gives.tokens_eq
  rw [tokens, List.getLast?_concat, Option.mem_some] at mem
  subst mem
  obtain ⟨read, rest, cursor⟩ := gives.exists_read
  have whole : a = read ++ m.rest := rest
  refine ⟨ts, m, gives, tokens, type, goesOn, ?_, ?_⟩
  · -- The end stands behind the last byte, so nothing is left behind the blanks.
    have place : m.token.offset = m.front.position := rfl
    have parts := congrArg Text.byteLength
      (List.takeWhile_append_dropWhile (p := isBlank) (l := m.rest))
    have length := congrArg Text.byteLength whole
    rw [place, Lexer.front, Cursor.position_past, cursor, Cursor.position_past] at offset
    rw [Text.byteLength_append] at parts length
    have zero : (Lexer.ofText a).cursor.position = 0 := rfl
    have zeroBytes : Text.byteLength (m.rest.dropWhile isBlank) = 0 := by omega
    intro c mem
    by_contra solid
    have nonempty : m.rest.dropWhile isBlank ≠ [] := by
      rw [Ne, List.dropWhile_eq_nil_iff]
      intro all
      exact solid (all c mem)
    exact Nat.ne_of_gt (Text.byteLength_pos nonempty) zeroBytes
  · rw [cursor, ← Cursor.past_append, ← whole]
    rfl

/-- The tokens of two texts with a blank between them are those of the first without the end
and those of the second, unless an anchor in the second follows a literal in the first. -/
theorem tokenize_append (h : a.IsScanned) (gap : x.StartsBlank)
    (noAnchor : (∃ t ∈ tokenize a, t.type = .literal) → ¬ Lexeme.anchorMarker <:+: x) :
    tokenize (a ++ x) =
      (tokenize a).dropLast ++ (⟨x, Cursor.start.past a, false⟩ : Lexer).tokens := by
  obtain ⟨ts, m, gives, tokens, -, goesOn, blank, place⟩ := h.exists_gives
  have more := gives.followedBy gap fun ⟨t, mem, literal⟩ =>
    noAnchor ⟨t, by rw [tokens]; exact List.mem_append_left _ mem, literal⟩
  have left : m.followedBy x = ⟨m.rest ++ x, m.cursor, false⟩ := by rw [Lexer.followedBy, goesOn]
  have whole : tokenize (a ++ x) = ts ++ (m.followedBy x).tokens := more.tokens_eq
  rw [whole, left, Lexer.tokens_gap_append blank, place, tokens, List.dropLast_concat]

/-- An anchor behind a literal makes the first literal an error, and that ends the query. -/
theorem tokenize_append_of_anchor (h : a.IsScanned) (gap : x.StartsBlank)
    (present : ∃ t ∈ tokenize a, t.type = .literal) (anchor : Lexeme.anchorMarker <:+: x) :
    ∃ before first after fault, tokenize a = before ++ first :: after ∧
      first.type = .literal ∧ (∀ t ∈ before, t.type ≠ .literal) ∧ after ≠ [] ∧
      tokenize (a ++ x) = before ++ [fault] ∧ fault.type = .error ∧
      fault.offset = first.offset := by
  obtain ⟨ts, m, gives, tokens, eof, -⟩ := h.exists_gives
  have inside : ∃ t ∈ ts, t.type = .literal := by
    obtain ⟨t, mem, literal⟩ := present
    rw [tokens] at mem
    rcases List.mem_append.1 mem with mem | last
    · exact ⟨t, mem, literal⟩
    · rw [List.mem_singleton.1 last, eof] at literal
      cases literal
  obtain ⟨before, k, after, front, ready, literal, rfl, fresh⟩ := gives.exists_first_literal inside
  obtain ⟨type, offset⟩ := Lexer.token_followedBy_of_anchor literal anchor
  have more := (front.followedBy gap fun ⟨t, mem, early⟩ => absurd early (fresh t mem)).tokens_eq
  have goesOn : (k.followedBy x).ended = false := ready
  have ending : (k.followedBy x).advance.ended = true := by
    change (k.followedBy x).token.type.isTerminal = true
    rw [type]
    rfl
  have ends : (k.followedBy x).tokens = [(k.followedBy x).token] := by
    rw [Lexer.tokens_of_not_ended goesOn, Lexer.tokens_of_ended ending]
  refine ⟨before, k.token, after ++ [m.token], (k.followedBy x).token, ?_, literal, fresh, ?_, ?_,
    type, offset⟩
  · rw [tokens, List.append_assoc, List.cons_append]
  · simp
  · rw [← ends]
    exact more

/-! ## Predicates and literals -/

namespace Lexer

theorem rest_advance_suffix (l : Lexer) : l.advance.rest <:+ l.rest.dropWhile isBlank :=
  ⟨l.lexeme.text, Lexeme.ofText_append _⟩

/-- A predicate has an anchor, so one stands in what was left before it. -/
theorem anchor_of_mem_tokens {l : Lexer} {t : Token} (h : t ∈ l.tokens)
    (kind : t.type = .predicate) : Lexeme.anchorMarker <:+: l.rest := by
  have blanks := (List.dropWhile_suffix isBlank (l := l.rest)).isInfix
  cases ended : l.ended with
  | true =>
    rw [tokens_of_ended ended] at h
    cases h
  | false =>
    rw [tokens_of_not_ended ended] at h
    rcases List.mem_cons.1 h with rfl | later
    · have found : l.lexeme = ⟨.ok .predicate, l.lexeme.text, l.lexeme.rest⟩ :=
        Lexeme.eq_of_type kind (by simp)
      obtain ⟨q, -, anchor, -⟩ := Lexeme.ofText_eq_predicate_iff.1 found
      exact (Text.occursIn_iff.1 anchor).trans blanks
    · have inside := anchor_of_mem_tokens later kind
      exact inside.trans (l.rest_advance_suffix.isInfix.trans blanks)
termination_by l.fuel
decreasing_by exact l.fuel_advance ended

/-- No anchor stands behind a literal, so no predicate does. -/
theorem pairwise_tokens (l : Lexer) :
    l.tokens.Pairwise fun t u => t.type = .literal → u.type ≠ .predicate := by
  cases ended : l.ended with
  | true =>
    rw [tokens_of_ended ended]
    exact List.Pairwise.nil
  | false =>
    rw [tokens_of_not_ended ended]
    refine List.pairwise_cons.2 ⟨?_, pairwise_tokens l.advance⟩
    intro u mem literal predicate
    have found : l.lexeme = ⟨.ok .literal, l.lexeme.text, l.lexeme.rest⟩ :=
      Lexeme.eq_of_type literal (by simp)
    obtain ⟨q, -, noAnchor, -⟩ := Lexeme.ofText_eq_literal_iff.1 found
    have inside := (anchor_of_mem_tokens mem predicate).trans l.rest_advance_suffix.isInfix
    rw [← Text.occursIn_iff, noAnchor] at inside
    cases inside
termination_by l.fuel
decreasing_by exact l.fuel_advance ended

end Lexer

/-- The tokens of the text are those of its front without the end and those of its back,
counted on from where the back starts. -/
def LexesApart (a x : Text) : Prop :=
  ∃ ts, (tokenize x).Forall₂ (Token.Moved (Cursor.start.past a)) ts ∧
    tokenize (a ++ x) = (tokenize a).dropLast ++ ts

/-- With blanks between them, two texts lex apart if and only if no literal stands in the
first or no anchor in the second. If one of each does, the first literal is an error that
ends the query. So no predicate ever follows a literal. -/
theorem tokenize_append_gap :
    (∀ a w b : Text, a.IsScanned → IsGap w →
      (LexesApart a (w ++ b) ↔
        (∀ t ∈ tokenize a, t.type ≠ .literal) ∨ ¬ Lexeme.anchorMarker <:+: b) ∧
      ((∃ t ∈ tokenize a, t.type = .literal) → Lexeme.anchorMarker <:+: b →
        ∃ first last, (tokenize a).find? (fun t => t.type = .literal) = some first ∧
          (tokenize (a ++ (w ++ b))).getLast? = some last ∧ last.type = .error ∧
          last.offset = first.offset)) ∧
    ∀ s : Text,
      (tokenize s).Pairwise fun t u => t.type = .literal → u.type ≠ .predicate := by
  refine ⟨?_, fun s => (Lexer.ofText s).pairwise_tokens⟩
  intro a w b scanned gap
  have starts := gap.startsBlank_append b
  have late : (∃ t ∈ tokenize a, t.type = .literal) → Lexeme.anchorMarker <:+: b →
      ∃ before first after fault, tokenize a = before ++ first :: after ∧
        first.type = .literal ∧ (∀ t ∈ before, t.type ≠ .literal) ∧ after ≠ [] ∧
        tokenize (a ++ (w ++ b)) = before ++ [fault] ∧ fault.type = .error ∧
        fault.offset = first.offset := by
    intro literal anchor
    exact tokenize_append_of_anchor scanned starts literal
      ((Lexeme.anchor_infix_gap_append_iff gap.2 b).2 anchor)
  refine ⟨⟨?_, ?_⟩, ?_⟩
  · rintro ⟨ts, -, apart⟩
    by_contra both
    rw [not_or, not_not] at both
    have literal : ∃ t ∈ tokenize a, t.type = .literal := by simpa using both.1
    obtain ⟨before, first, after, fault, tokens, kind, -, more, fails, error, -⟩ :=
      late literal both.2
    -- The literal is a token of both, and the error stands in its place.
    rw [fails, tokens, List.dropLast_append_of_ne_nil (List.cons_ne_nil _ _),
      List.dropLast_cons_of_ne_nil more, List.append_assoc] at apart
    obtain ⟨same, -⟩ := List.cons.inj (List.append_cancel_left apart)
    rw [same, kind] at error
    cases error
  · intro either
    refine ⟨_, Lexer.moved_tokenize _ _, tokenize_append scanned starts ?_⟩
    rintro ⟨t, mem, literal⟩ anchor
    rcases either with clear | noAnchor
    · exact clear t mem literal
    · exact noAnchor ((Lexeme.anchor_infix_gap_append_iff gap.2 b).1 anchor)
  · intro literal anchor
    obtain ⟨before, first, after, fault, tokens, kind, fresh, -, fails, error, offset⟩ :=
      late literal anchor
    refine ⟨first, fault, ?_, ?_, error, offset⟩
    · rw [tokens, List.find?_append, List.find?_eq_none.2 (by simpa using fresh)]
      simp [kind]
    · rw [fails, List.getLast?_concat]

/-- The same literal in front of a node and in front of a predicate. -/
theorem tokenize_append_gap_of_late_anchor : ∃ a w : Text, a.IsScanned ∧ IsGap w ∧
    LexesApart a (w ++ "/u<a>".toList) ∧ ¬ LexesApart a (w ++ "\"p\"@[]".toList) ∧
    ∃ last, (tokenize (a ++ (w ++ "\"p\"@[]".toList))).getLast? = some last ∧
      last.type = .error ∧ last.offset = 0 := by
  let a : Text := "\"x\"^^type:text".toList
  let l := Lexer.ofText a
  have tokens : tokenize a = [l.token, l.advance.token] := by
    have first : l.ended = false := rfl
    have second : l.advance.ended = false := rfl
    have third : l.advance.advance.ended = true := rfl
    change l.tokens = _
    rw [Lexer.tokens_of_not_ended first, Lexer.tokens_of_not_ended second,
      Lexer.tokens_of_ended third]
  have literal : l.token.type = .literal := rfl
  have scanned : a.IsScanned := by
    refine ⟨l.advance.token, ?_, rfl, rfl⟩
    rw [tokens]
    rfl
  have gap : IsGap [' '] := by decide
  have node : ¬ Lexeme.anchorMarker <:+: "/u<a>".toList := by
    rw [← Text.occursIn_iff]
    decide
  have predicate : Lexeme.anchorMarker <:+: "\"p\"@[]".toList := by
    rw [← Text.occursIn_iff]
    decide
  have present : ∃ t ∈ tokenize a, t.type = .literal := by
    rw [tokens]
    exact ⟨l.token, List.mem_cons_self, literal⟩
  obtain ⟨apart, -⟩ := tokenize_append_gap.1 a [' '] "/u<a>".toList scanned gap
  obtain ⟨together, ends⟩ := tokenize_append_gap.1 a [' '] "\"p\"@[]".toList scanned gap
  refine ⟨a, [' '], scanned, gap, apart.2 (.inr node), ?_, ?_⟩
  · rw [together, not_or, not_not]
    exact ⟨fun clear => present.elim fun t mem => clear t mem.1 mem.2, predicate⟩
  · obtain ⟨first, last, found, getLast, error, offset⟩ := ends present predicate
    refine ⟨last, getLast, error, ?_⟩
    rw [tokens, List.find?_cons_of_pos (by simp [literal])] at found
    rw [offset, ← Option.some.inj found]
    rfl

end GraphText
