-- The tokens of a query. They stand in the text in turn with nothing but blanks in front
-- of each, and the first token that can end the query is the last one.
import GraphText.Proofs.Blanks
import GraphText.Query.Lexer

namespace GraphText

open Text (AllBlank)

/-- No token starts with the character, and it is no blank either. -/
def StartsNothing (c : Char) : Prop :=
  isBlank c = false ∧ isLetter c = false ∧ c ∉ Punctuation.all.map Punctuation.char ∧
    c ∉ ['?', '/', '"']

/-! ## The kinds of lexemes -/

namespace Lexeme

variable {s q : Text} {t : TokenType}

theorem found_binding (h : (binding q).found = .ok t) : t = .binding := by
  unfold binding at h
  split at h
  · cases h
  · cases h
    rfl

theorem found_word (h : (word s).found = .ok t) : ∃ k, t = .keyword k := by
  unfold word at h
  split at h
  · rename_i k _
    cases h
    exact ⟨k, rfl⟩
  · cases h

theorem found_node (h : (node s).found = .ok t) : t = .node := by
  unfold node at h
  split at h
  · cases h
  · dsimp only at h
    split at h
    · cases h
      rfl
    · cases h

theorem found_predicate (h : (predicate q).found = .ok t) : t = .predicate := by
  unfold predicate at h
  split at h
  · cases h
  · dsimp only at h
    split at h
    · cases h
    · split at h
      · cases h
      · cases h
        rfl

theorem found_literal (h : (literal q).found = .ok t) : t = .literal := by
  unfold literal at h
  split at h
  · cases h
  · dsimp only at h
    split at h
    · cases h
    · split at h
      · cases h
        rfl
      · cases h

/-- Where a quote opens a predicate, where it opens a literal, and what else there is. -/
theorem found_quoted (h : (quoted q).found = .ok t) :
    (t = .predicate ∧ Text.occursIn anchorMarker ('"' :: q) = true ∧ quoted q = predicate q) ∨
      (t = .literal ∧ Text.occursIn anchorMarker ('"' :: q) = false ∧
        Text.occursIn typeMarker ('"' :: q) = true ∧ quoted q = literal q) := by
  unfold quoted at h ⊢
  split at h
  · rename_i anchor
    rw [if_pos anchor]
    exact .inl ⟨found_predicate h, anchor, rfl⟩
  · rename_i noAnchor
    rw [if_neg noAnchor]
    split at h
    · rename_i type
      rw [if_pos type]
      exact .inr ⟨found_literal h, by simpa using noAnchor, type, rfl⟩
    · cases h

/-- A slash starts a node and a quote one of the two quoted forms. What starts nothing ends
the query. -/
theorem cases_of_found (h : (ofText s).found = .ok t) :
    (∃ q, s = '/' :: q ∧ t = .node) ∨ (∃ q, s = '"' :: q ∧ (quoted q).found = .ok t) ∨
      t = .binding ∨ (∃ k, t = .keyword k) ∨ (∃ p, t = .punctuation p) ∨
      t = .eof ∧ ofText s = ⟨.ok .eof, [], s⟩ ∧ ∀ c ∈ s.head?, isLetter c = false ∧
        c ∉ Punctuation.all.map Punctuation.char ∧ c ∉ ['?', '/', '"'] := by
  cases s with
  | nil =>
    cases h
    exact .inr (.inr (.inr (.inr (.inr ⟨rfl, rfl, by simp⟩))))
  | cons c q =>
    rw [ofText] at h ⊢
    by_cases question : c = '?'
    · rw [if_pos question] at h
      exact .inr (.inr (.inl (found_binding h)))
    rw [if_neg question] at h ⊢
    by_cases slash : c = '/'
    · rw [if_pos slash] at h
      exact .inl ⟨q, by rw [slash], found_node h⟩
    rw [if_neg slash] at h ⊢
    by_cases quote : c = '"'
    · rw [if_pos quote] at h
      exact .inr (.inl ⟨q, by rw [quote], h⟩)
    rw [if_neg quote] at h ⊢
    by_cases letter : isLetter c = true
    · rw [if_pos letter] at h
      exact .inr (.inr (.inr (.inl (found_word h))))
    rw [if_neg letter] at h ⊢
    cases sign : Punctuation.ofChar? c with
    | some p =>
      rw [sign] at h
      cases h
      exact .inr (.inr (.inr (.inr (.inl ⟨p, rfl⟩))))
    | none =>
      rw [sign] at h
      cases h
      refine .inr (.inr (.inr (.inr (.inr ⟨rfl, rfl, ?_⟩))))
      rintro x ⟨⟩
      exact ⟨by simpa using letter, Punctuation.ofChar?_eq_none_iff.1 sign,
        by simp [question, slash, quote]⟩

/-- No error is found: it is a fault. -/
theorem exists_fault_of_type (h : (ofText s).type = .error) : ∃ f, (ofText s).found = .error f := by
  cases found : (ofText s).found with
  | error f => exact ⟨f, rfl⟩
  | ok t =>
    rw [type, found] at h
    subst h
    rcases cases_of_found found with ⟨q, -, kind⟩ | ⟨q, -, found'⟩ | kind | ⟨k, kind⟩ |
      ⟨p, kind⟩ | ⟨kind, -⟩
    · cases kind
    · rcases found_quoted found' with ⟨kind, -⟩ | ⟨kind, -⟩ <;> cases kind
    · cases kind
    · cases kind
    · cases kind
    · cases kind

/-- If a kind was found, it is one that does not end the query. -/
def GoesOn (x : Lexeme) : Prop := ∀ t, x.found = .ok t → t.isTerminal = false

/-- A text without blanks in front ends the query only where no token can start. -/
theorem goesOn_or_eof (solid : ∀ c ∈ s.head?, isBlank c = false) :
    (ofText s).GoesOn ∨ (ofText s = ⟨.ok .eof, [], s⟩ ∧ ∀ c ∈ s.head?, StartsNothing c) := by
  by_cases ending : (ofText s).found = .ok .eof
  · rcases cases_of_found ending with ⟨q, -, kind⟩ | ⟨q, -, found⟩ | kind | ⟨k, kind⟩ |
      ⟨p, kind⟩ | ⟨-, whole, starts⟩
    · cases kind
    · rcases found_quoted found with ⟨kind, -⟩ | ⟨kind, -⟩ <;> cases kind
    · cases kind
    · cases kind
    · cases kind
    · exact .inr ⟨whole, fun c mem => ⟨solid c mem, starts c mem⟩⟩
  · refine .inl ?_
    intro t h
    rcases cases_of_found h with ⟨q, -, rfl⟩ | ⟨q, -, found⟩ | rfl | ⟨k, rfl⟩ | ⟨p, rfl⟩ | ⟨rfl, -⟩
    · rfl
    · rcases found_quoted found with ⟨rfl, -⟩ | ⟨rfl, -⟩ <;> rfl
    · rfl
    · rfl
    · rfl
    · exact absurd h ending

end Lexeme

/-! ## One token -/

/-- What holds of a token with this text behind it: only an error has a message, only an
error and the end can be empty, and the end takes nothing and stands where no token can
start. -/
structure Token.Fits (t : Token) (rest : Text) : Prop where
  message : t.message.isSome = true ↔ t.type = .error
  text : t.type.isTerminal = false → t.text ≠ []
  eof : t.type = .eof → t.text = [] ∧ ∀ c ∈ rest.head?, StartsNothing c

namespace Lexer

theorem fits_token (l : Lexer) : l.token.Fits l.advance.rest := by
  have solid := Text.head?_dropWhile_isBlank l.rest
  have text : l.token.type.isTerminal = false → l.token.text ≠ [] := Lexeme.text_ne_nil _
  rcases Lexeme.goesOn_or_eof solid with goes | ⟨ending, starts⟩
  · cases found : l.lexeme.found with
    | ok t =>
      have type : l.token.type = t := by simp only [token, Lexeme.type, found]
      have message : l.token.message = none := by simp only [token, found]
      have runsOn := goes t found
      refine ⟨?_, text, ?_⟩
      · rw [message, type]
        refine ⟨?_, ?_⟩
        · simp
        · rintro rfl
          cases runsOn
      · rw [type]
        rintro rfl
        cases runsOn
    | error f =>
      have type : l.token.type = .error := by simp only [token, Lexeme.type, found]
      refine ⟨?_, text, ?_⟩
      · simp only [token, found, Option.isSome_some, true_iff]
        exact type
      · rw [type]
        simp
  · change l.lexeme = _ at ending
    have type : l.token.type = .eof := by simp only [token, ending, Lexeme.type]
    refine ⟨?_, text, ?_⟩
    · rw [type]
      simp [token, ending]
    · intro _
      simp only [token, advance, ending]
      exact ⟨trivial, starts⟩

/-- A call takes blanks and the text of the token away and goes on behind them. -/
theorem exists_gap (l : Lexer) : ∃ gap, AllBlank gap ∧
    l.rest = gap ++ l.token.text ++ l.advance.rest ∧
    l.token.offset = l.cursor.position + gap.byteLength ∧
    l.advance.cursor.position = l.token.finish := by
  refine ⟨l.rest.takeWhile isBlank, Text.allBlank_takeWhile l.rest, ?_, ?_, ?_⟩
  · have parts : l.token.text ++ l.advance.rest = l.rest.dropWhile isBlank :=
      Lexeme.ofText_append _
    rw [List.append_assoc, parts, List.takeWhile_append_dropWhile]
  · exact Cursor.position_past _ _
  · exact Cursor.position_past _ _

theorem tokens_of_ended {l : Lexer} (h : l.ended = true) : l.tokens = [] := by
  rw [tokens, drain, dif_pos h]

theorem tokens_of_not_ended {l : Lexer} (h : l.ended = false) :
    l.tokens = l.token :: l.advance.tokens := by
  rw [tokens, drain, dif_neg (by simp [h])]
  rfl

theorem next?_of_ended {l : Lexer} (h : l.ended = true) : l.next? = none := by
  rw [next?, if_pos h]

theorem next?_of_not_ended {l : Lexer} (h : l.ended = false) :
    l.next? = some (l.token, l.advance) := by
  rw [next?, if_neg (by simp [h])]

theorem tokens_of_next {l l' : Lexer} {t : Token} (h : l.next? = some (t, l')) :
    l.tokens = t :: l'.tokens := by
  unfold next? at h
  split at h
  · cases h
  · rename_i goesOn
    cases h
    exact tokens_of_not_ended (by simpa using goesOn)

theorem ended_of_next_eq_none {l : Lexer} (h : l.next? = none) : l.ended = true := by
  unfold next? at h
  split at h
  · rename_i ended
    exact ended
  · cases h

/-- Every token of a run is the next one of some lexer on the way. -/
theorem exists_of_mem_tokens {l : Lexer} {t : Token} (h : t ∈ l.tokens) :
    ∃ k : Lexer, t = k.token := by
  cases ended : l.ended with
  | true =>
    rw [tokens_of_ended ended] at h
    cases h
  | false =>
    rw [tokens_of_not_ended ended] at h
    rcases List.mem_cons.1 h with rfl | later
    · exact ⟨l, rfl⟩
    · exact exists_of_mem_tokens later
termination_by l.fuel
decreasing_by exact l.fuel_advance ended

end Lexer

/-! ## Every token -/

/-- The tokens stand in the text in turn, with blanks in front of each, and the first one
that ends the query is the last. The text starts at the given byte. -/
inductive Tiles : Nat → Text → List Token → Prop
  | last {n : Nat} {gap rest : Text} {t : Token} : AllBlank gap →
      t.offset = n + gap.byteLength → t.Fits rest → t.type.isTerminal = true →
      Tiles n (gap ++ t.text ++ rest) [t]
  | cons {n : Nat} {gap rest : Text} {t : Token} {ts : List Token} : AllBlank gap →
      t.offset = n + gap.byteLength → t.Fits rest → t.type.isTerminal = false →
      Tiles t.finish rest ts → Tiles n (gap ++ t.text ++ rest) (t :: ts)

/-- What a lexer gives tiles what is left to it. -/
theorem Lexer.tiles_tokens (l : Lexer) (h : l.ended = false) :
    Tiles l.cursor.position l.rest l.tokens := by
  obtain ⟨gap, blank, rest, offset, finish⟩ := l.exists_gap
  rw [tokens_of_not_ended h, rest]
  cases ending : l.token.type.isTerminal with
  | true =>
    have ended : l.advance.ended = true := ending
    rw [tokens_of_ended ended]
    exact .last blank offset l.fits_token ending
  | false =>
    have more := tiles_tokens l.advance ending
    rw [finish] at more
    exact .cons blank offset l.fits_token ending more
termination_by l.fuel
decreasing_by exact l.fuel_advance h

/-! ## What tiles a text -/

/-- The byte with this number belongs to a blank character of the text. -/
def Text.BlankAt (s : Text) (n : Nat) : Prop :=
  ∃ (before : Text) (c : Char) (after : Text), s = before ++ c :: after ∧ isBlank c = true ∧
    before.byteLength ≤ n ∧ n < before.byteLength + c.utf8Size

theorem Text.blankAt_of_lt {gap : Text} (blank : AllBlank gap) (r : Text) {n : Nat}
    (h : n < gap.byteLength) : (gap ++ r).BlankAt n := by
  induction gap generalizing n with
  | nil => simp at h
  | cons c gap ih =>
    rw [byteLength_cons] at h
    by_cases here : n < c.utf8Size
    · exact ⟨[], c, gap ++ r, rfl, blank c List.mem_cons_self, by simp, by simpa using here⟩
    · obtain ⟨before, b, after, eq, isBlank, from', upTo⟩ :=
        ih (n := n - c.utf8Size) (fun x hx => blank x (List.mem_cons_of_mem _ hx)) (by omega)
      refine ⟨c :: before, b, after, by simp [eq], isBlank, ?_, ?_⟩
      · rw [byteLength_cons]
        omega
      · rw [byteLength_cons]
        omega

theorem Text.BlankAt.append_left {s : Text} {n : Nat} (h : s.BlankAt n) (r : Text) :
    (r ++ s).BlankAt (r.byteLength + n) := by
  obtain ⟨before, c, after, rfl, blank, from', upTo⟩ := h
  refine ⟨r ++ before, c, after, by simp, blank, ?_, ?_⟩
  · rw [byteLength_append]
    omega
  · rw [byteLength_append]
    omega

namespace Tiles

variable {n : Nat} {s : Text} {ts : List Token}

theorem length_le (h : Tiles n s ts) : ts.length ≤ s.length + 1 := by
  induction h with
  | last => simp
  | cons blank offset fits goesOn more ih =>
    have nonempty := List.length_pos_iff.2 (fits.text goesOn)
    simp only [List.length_cons, List.length_append]
    omega

theorem exists_last (h : Tiles n s ts) : ∃ front last, ts = front ++ [last] ∧
    last.type.isTerminal = true ∧
    ∀ t ∈ front, t.type.isTerminal = false ∧ t.text ≠ [] := by
  induction h with
  | @last n gap rest t blank offset fits ending => exact ⟨[], t, rfl, ending, by simp⟩
  | @cons n gap rest t ts blank offset fits goesOn more ih =>
    obtain ⟨front, last, rfl, ending, before⟩ := ih
    refine ⟨t :: front, last, rfl, ending, ?_⟩
    intro u hu
    rcases List.mem_cons.1 hu with rfl | hu
    · exact ⟨goesOn, fits.text goesOn⟩
    · exact before u hu

theorem exists_place (h : Tiles n s ts) : ∀ t ∈ ts, ∃ before after,
    s = before ++ t.text ++ after ∧ t.offset = n + before.byteLength ∧ t.Fits after := by
  induction h with
  | @last n gap rest t blank offset fits ending =>
    intro u hu
    rw [List.mem_singleton.1 hu]
    exact ⟨gap, rest, rfl, offset, fits⟩
  | @cons n gap rest t ts blank offset fits goesOn more ih =>
    intro u hu
    rcases List.mem_cons.1 hu with rfl | hu
    · exact ⟨gap, rest, rfl, offset, fits⟩
    · obtain ⟨before, after, rfl, place, fits'⟩ := ih u hu
      refine ⟨gap ++ t.text ++ before, after, by simp, ?_, fits'⟩
      rw [place, Token.finish, offset, Text.byteLength_append, Text.byteLength_append]
      omega

theorem pairwise (h : Tiles n s ts) :
    ts.Pairwise fun t u => t.offset < u.offset ∧ t.finish ≤ u.offset := by
  induction h with
  | last => exact List.pairwise_singleton _ _
  | @cons n gap rest t ts blank offset fits goesOn more ih =>
    refine List.pairwise_cons.2 ⟨?_, ih⟩
    intro u hu
    obtain ⟨before, after, -, place, -⟩ := more.exists_place u hu
    have taken := Text.byteLength_pos (fits.text goesOn)
    have behind : t.finish ≤ u.offset := by omega
    refine ⟨?_, behind⟩
    rw [Token.finish] at behind
    omega

/-- Every byte up to the end of a token lies in a token or in a blank character. -/
theorem covered (h : Tiles n s ts) : ∀ u ∈ ts, ∀ k, n + k < u.finish →
    (∃ t ∈ ts, t.offset ≤ n + k ∧ n + k < t.finish) ∨ s.BlankAt k := by
  induction h with
  | @last n gap rest t blank offset fits ending =>
    intro u hu k within
    rw [List.mem_singleton.1 hu] at within
    by_cases inGap : k < gap.byteLength
    · rw [List.append_assoc]
      exact .inr (Text.blankAt_of_lt blank _ inGap)
    · exact .inl ⟨t, List.mem_cons_self, by omega, within⟩
  | @cons n gap rest t ts blank offset fits goesOn more ih =>
    intro u hu k within
    by_cases inGap : k < gap.byteLength
    · rw [List.append_assoc]
      exact .inr (Text.blankAt_of_lt blank _ inGap)
    by_cases inToken : n + k < t.finish
    · exact .inl ⟨t, List.mem_cons_self, by omega, inToken⟩
    rcases List.mem_cons.1 hu with rfl | hu
    · exact absurd within inToken
    obtain ⟨j, rfl⟩ : ∃ j, k = (gap ++ t.text).byteLength + j := by
      refine ⟨k - (gap ++ t.text).byteLength, ?_⟩
      rw [Token.finish] at inToken
      rw [Text.byteLength_append]
      omega
    have shift : n + ((gap ++ t.text).byteLength + j) = t.finish + j := by
      rw [Token.finish, offset, Text.byteLength_append]
      omega
    rw [shift] at within ⊢
    rcases ih u hu j within with ⟨v, hv, from', upTo⟩ | blankAt
    · exact .inl ⟨v, List.mem_cons_of_mem _ hv, from', upTo⟩
    · exact .inr (blankAt.append_left _)

end Tiles

/-! ## The calls -/

/-- The answer to the call that comes after this many others. A lexer that has given its
last token stays as it is. -/
def Lexer.answer (l : Lexer) : Nat → Option Token
  | 0 => l.next?.map Prod.fst
  | n + 1 =>
    match l.next? with
    | some (_, behind) => behind.answer n
    | none => l.answer n

theorem Lexer.answer_eq (l : Lexer) (n : Nat) : l.answer n = l.tokens[n]? := by
  induction n generalizing l with
  | zero =>
    cases ended : l.ended with
    | true => simp [answer, next?_of_ended ended, tokens_of_ended ended]
    | false => simp [answer, next?_of_not_ended ended, tokens_of_not_ended ended]
  | succ n ih =>
    cases ended : l.ended with
    | true =>
      rw [answer, next?_of_ended ended]
      simp only [ih, tokens_of_ended ended, List.getElem?_nil]
    | false =>
      rw [answer, next?_of_not_ended ended, tokens_of_not_ended ended, List.getElem?_cons_succ]
      exact ih l.advance

/-- The tokens are the text without the blanks in front of each, cut into pieces. -/
structure Partitions (s : Text) (ts : List Token) : Prop where
  length_le : ts.length ≤ s.length + 1
  ends : ∃ front last, ts = front ++ [last] ∧ (last.type = .eof ∨ last.type = .error) ∧
    ∀ t ∈ front, t.type ≠ .eof ∧ t.type ≠ .error ∧ t.text ≠ []
  stands : ∀ t ∈ ts, ∃ before after,
    s = before ++ t.text ++ after ∧ t.offset = before.byteLength
  ordered : ts.Pairwise fun t u => t.offset < u.offset ∧ t.finish ≤ u.offset
  covered : ∀ last ∈ ts.getLast?, ∀ n < last.finish,
    (∃ t ∈ ts, t.offset ≤ n ∧ n < t.finish) ∨ s.BlankAt n
  message : ∀ t ∈ ts, t.message.isSome = true ↔ t.type = .error
  eof : ∀ t ∈ ts, t.type = .eof → t.text = [] ∧ ∃ before after, s = before ++ after ∧
    t.offset = before.byteLength ∧ ∀ c ∈ after.head?, StartsNothing c

theorem Tiles.partitions {s : Text} {ts : List Token} (h : Tiles 0 s ts) : Partitions s ts := by
  refine ⟨h.length_le, ?_, ?_, h.pairwise, ?_, ?_, ?_⟩
  · obtain ⟨front, last, eq, ending, before⟩ := h.exists_last
    refine ⟨front, last, eq, TokenType.isTerminal_iff.1 ending, ?_⟩
    intro t ht
    obtain ⟨goesOn, nonempty⟩ := before t ht
    refine ⟨?_, ?_, nonempty⟩
    · intro eof
      simp [eof, TokenType.isTerminal] at goesOn
    · intro error
      simp [error, TokenType.isTerminal] at goesOn
  · intro t ht
    obtain ⟨before, after, eq, offset, -⟩ := h.exists_place t ht
    exact ⟨before, after, eq, by simpa using offset⟩
  · intro last hlast n within
    have parts := h.covered last (List.mem_of_getLast? hlast) n (by simpa using within)
    simpa using parts
  · intro t ht
    obtain ⟨before, after, -, -, fits⟩ := h.exists_place t ht
    exact fits.message
  · intro t ht eof
    obtain ⟨before, after, eq, offset, fits⟩ := h.exists_place t ht
    obtain ⟨empty, starts⟩ := fits.eof eof
    rw [empty, List.append_nil] at eq
    exact ⟨empty, before, after, eq, by simpa using offset, starts⟩

/-- The calls give the tokens of the query one by one and nothing ever after, and the
tokens partition the text. -/
theorem tokenize_partitions (s : Text) :
    (∀ n, (Lexer.ofText s).answer n = (tokenize s)[n]?) ∧ Partitions s (tokenize s) := by
  have tiles : Tiles 0 s (tokenize s) := (Lexer.ofText s).tiles_tokens rfl
  refine ⟨?_, tiles.partitions⟩
  intro n
  exact (Lexer.ofText s).answer_eq n

end GraphText
