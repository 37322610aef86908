-- Blanks between tokens. A query that is scanned to its end can be written again from the texts
-- of its tokens, with any blanks between them: no marker reaches over the end of a token, so
-- none is lost and none comes up.
import GraphText.Proofs.Concatenation
import GraphText.Proofs.DisplayTokens
import GraphText.Proofs.Scanning

namespace GraphText

open Text (AllBlank IsGap StartsBlank)

/-! ## The ends of tokens -/

namespace Lexeme

variable {s u r p : Text} {k : TokenType}

/-- A type marker without its last character. -/
def typeFront : Text := "\"^^type".toList

theorem typeMarker_eq : typeMarker = typeFront ++ [':'] := rfl

/-- No part of a type marker reaches over the end of the text: it has no quote, or behind its
last quote stands a character that no front of the marker has. -/
def Seals (u : Text) : Prop :=
  ∃ a v, u = a ++ v ∧ '"' ∉ v ∧ ∀ c ∈ a.getLast?, c ∉ typeFront

theorem seals_of_not_mem (h : '"' ∉ u) : Seals u := ⟨[], u, rfl, h, by simp⟩

theorem seals_concat {c : Char} (h : c ∉ typeFront) (a : Text) : Seals (a ++ [c]) := by
  refine ⟨a ++ [c], [], by simp, by simp, ?_⟩
  rw [List.getLast?_concat]
  rintro x ⟨⟩
  exact h

theorem Seals.not_suffix (h : Seals u) (named : p ≠ []) (part : p <+: typeFront) :
    ¬ p <:+ u := by
  obtain ⟨a, v, rfl, noQuote, last⟩ := h
  obtain ⟨c, p, rfl⟩ := List.exists_cons_of_ne_nil named
  have quote : c = '"' := by
    have first : typeFront = '"' :: "^^type".toList := rfl
    rw [first, List.cons_prefix_cons] at part
    exact part.1
  subst quote
  rintro ⟨w, eq⟩
  rcases List.append_eq_append_iff.1 eq with ⟨z, rfl, parts⟩ | ⟨z, rfl, rfl⟩
  · cases z with
    | nil =>
      rw [List.nil_append] at parts
      rw [← parts] at noQuote
      exact noQuote List.mem_cons_self
    | cons d z =>
      have mem := List.getLast?_eq_some_getLast (List.cons_ne_nil d z)
      rw [List.getLast?_append_of_ne_nil _ (List.cons_ne_nil d z)] at last
      apply last _ mem
      apply part.subset
      rw [parts]
      exact List.mem_append_left _ (List.getLast_mem (List.cons_ne_nil d z))
  · simp at noQuote

theorem typeMarker_infix_append (h : Seals u) (inside : typeMarker <:+: u ++ r) :
    typeMarker <:+: u ∨ typeMarker <:+: r := by
  refine Text.infix_append_of_apart ?_ inside
  intro p q parts front back ends _
  refine h.not_suffix front ?_ ends
  rcases List.eq_nil_or_concat q with rfl | ⟨v, d, rfl⟩
  · exact absurd rfl back
  · rw [typeMarker_eq, List.concat_eq_append, ← List.append_assoc] at parts
    have fronts := (List.append_inj' parts rfl).1
    exact ⟨v, fronts.symm⟩

theorem not_quote_of_letters (h : ∀ c ∈ u, isLetter c = true) : '"' ∉ u := by
  intro mem
  have letter := h '"' mem
  revert letter
  decide

/-- Every token that does not end the query is sealed. -/
theorem seals_of_eq_ok (h : ofText s = ⟨.ok k, u, r⟩) (goesOn : k.isTerminal = false) :
    Seals u := by
  have like : Text.StopsLike r r := fun c mem => .inr mem
  cases arises_of_eq_ok h goesOn with
  | binding opens read =>
    obtain ⟨v, rfl, letters, -⟩ := binding_swap like read
    exact seals_of_not_mem (by simpa using not_quote_of_letters letters)
  | word opens letter read => exact seals_of_not_mem (not_quote_of_letters (word_swap like read).1)
  | node opens read =>
    obtain ⟨body, -, rfl, -⟩ := node_eq_ok_iff.1 read
    exact seals_concat (by decide) body
  | predicate opens read =>
    obtain ⟨id, anchor, -, rfl, -⟩ := predicate_eq_ok_iff.1 read
    have closed := seals_concat (c := ']') (by decide) ('"' :: (id ++ anchorMarker ++ anchor))
    simpa using closed
  | literal opens _ _ read =>
    obtain ⟨value, mark, tag, -, rfl, -, -, -, spells, all, -⟩ := literal_eq_ok_iff.1 read
    have reads : mark.map Char.toLower = typeFront ++ [':'] :=
      spells.lowerAscii_eq allLowAscii_typeMarker
    obtain ⟨front, back, rfl, -, colon⟩ := List.map_eq_append_iff.1 reads
    obtain ⟨c, rfl, low⟩ := List.map_eq_singleton_iff.1 colon
    have outside : c ∉ typeFront := by
      intro mem
      have other : (typeFront.all fun d => d.toLower != ':') = true := by decide
      simpa [low] using List.all_eq_true.1 other c mem
    refine ⟨'"' :: (value ++ (front ++ [c])), tag, rfl, ?_, ?_⟩
    · intro mem
      have inside := all '"' mem
      revert inside
      decide
    · rw [← List.append_assoc, ← List.cons_append, List.getLast?_concat]
      rintro x ⟨⟩
      exact outside
  | punctuation p opens text =>
    rw [text]
    exact seals_of_not_mem (by cases p <;> decide)

end Lexeme

/-! ## Markers in a run -/

namespace Lexer

variable {l m : Lexer} {ts : List Token}

/-- A type marker in what is left stands in the text of one token. -/
theorem Gives.exists_typeMarker (h : Gives l ts m) (blank : AllBlank m.rest)
    (type : Lexeme.typeMarker <:+: l.rest) : ∃ t ∈ ts, Lexeme.typeMarker <:+: t.text := by
  induction h with
  | here => exact absurd type (Lexeme.isSolid_typeMarker.not_infix_blank blank)
  | @next l m ts _ goesOn _ ih =>
    obtain ⟨gap, gapBlank, rest, -⟩ := l.exists_gap
    rw [rest, List.append_assoc, Lexeme.isSolid_typeMarker.infix_gap_append_iff gapBlank] at type
    have seals := Lexeme.seals_of_eq_ok (lexeme_eq_of_goesOn goesOn) goesOn
    rcases Lexeme.typeMarker_infix_append seals type with here | later
    · exact ⟨l.token, List.mem_cons_self, here⟩
    · obtain ⟨t, mem, inside⟩ := ih blank later
      exact ⟨t, List.mem_cons_of_mem _ mem, inside⟩

/-- The text of each token stands in what is left. -/
theorem Gives.text_infix (h : Gives l ts m) : ∀ t ∈ ts, t.text <:+: l.rest := by
  induction h with
  | here => simp
  | @next l m ts _ _ _ ih =>
    obtain ⟨gap, -, rest, -⟩ := l.exists_gap
    intro t mem
    rw [rest]
    rcases List.mem_cons.1 mem with rfl | later
    · exact ⟨gap, l.advance.rest, rfl⟩
    · exact (ih t later).trans (List.suffix_append _ _).isInfix

end Lexer

/-! ## Texts of tokens with blanks between them -/

/-- The texts of the tokens in turn, with blanks in front of each and behind the last one. -/
def spaced (gaps : List Text) (ts : List Token) (last : Text) : Text :=
  (List.zipWith (fun (w : Text) (t : Token) => w ++ t.text) gaps ts).flatten ++ last

/-- There are blanks for each token, and there is at least one between two tokens. -/
structure Spaces (gaps : List Text) (ts : List Token) (last : Text) : Prop where
  length_eq : gaps.length = ts.length
  blank : ∀ w ∈ gaps, AllBlank w
  apart : ∀ w ∈ gaps.tail, w ≠ []
  last : AllBlank last

section

variable {w last marker : Text} {gaps : List Text} {t : Token} {ts : List Token}

theorem spaced_nil (gaps : List Text) (last : Text) : spaced gaps [] last = last := by
  rw [spaced, List.zipWith_nil_right]
  rfl

theorem spaced_cons (w : Text) (gaps : List Text) (t : Token) (ts : List Token) (last : Text) :
    spaced (w :: gaps) (t :: ts) last = w ++ (t.text ++ spaced gaps ts last) := by
  simp [spaced]

namespace Spaces

theorem tail (h : Spaces (w :: gaps) (t :: ts) last) : Spaces gaps ts last :=
  ⟨Nat.succ.inj h.length_eq, fun v mem => h.blank v (List.mem_cons_of_mem _ mem),
    fun v mem => h.apart v (List.mem_of_mem_tail mem), h.last⟩

/-- What follows the first token starts with a blank. -/
theorem startsBlank (h : Spaces (w :: gaps) (t :: ts) last) :
    (spaced gaps ts last).StartsBlank := by
  cases ts with
  | nil =>
    rw [spaced_nil]
    exact fun c first => h.last c (List.mem_of_mem_head? first)
  | cons u ts =>
    cases gaps with
    | nil => cases h.length_eq
    | cons v gaps =>
      rw [spaced_cons]
      have gap : IsGap v := ⟨h.apart v List.mem_cons_self, h.tail.blank v List.mem_cons_self⟩
      exact gap.startsBlank_append _

theorem text_infix (h : Spaces gaps ts last) : ∀ t ∈ ts, t.text <:+: spaced gaps ts last := by
  induction ts generalizing gaps with
  | nil => simp
  | cons t ts ih =>
    cases gaps with
    | nil => cases h.length_eq
    | cons w gaps =>
      rw [spaced_cons]
      intro u mem
      rcases List.mem_cons.1 mem with rfl | later
      · exact ⟨w, spaced gaps ts last, by rw [List.append_assoc]⟩
      · have inside := ih h.tail u later
        exact inside.trans ((List.suffix_append _ _).trans (List.suffix_append _ _)).isInfix

/-- A marker without blanks stands in the text of one token. -/
theorem exists_of_infix (h : Spaces gaps ts last) (solid : marker.IsSolid)
    (inside : marker <:+: spaced gaps ts last) : ∃ t ∈ ts, marker <:+: t.text := by
  induction ts generalizing gaps with
  | nil =>
    rw [spaced_nil] at inside
    exact absurd inside (solid.not_infix_blank h.last)
  | cons t ts ih =>
    cases gaps with
    | nil => cases h.length_eq
    | cons w gaps =>
      rw [spaced_cons, solid.infix_gap_append_iff (h.blank w List.mem_cons_self),
        solid.infix_append_iff h.startsBlank] at inside
      rcases inside with here | later
      · exact ⟨t, List.mem_cons_self, here⟩
      · obtain ⟨u, mem, inside⟩ := ih h.tail later
        exact ⟨u, List.mem_cons_of_mem _ mem, inside⟩

end Spaces
end

namespace Lexer

variable {l m : Lexer} {gaps : List Text} {ts : List Token} {last : Text}

/-- Blanks between the tokens make no difference to the markers in front of which a literal
stands. -/
theorem Gives.markers_spaced {u : Text} {w : Text} {t : Token} (h : Gives l ts m)
    (blank : AllBlank m.rest) (spaces : Spaces (w :: gaps) (t :: ts) last)
    (seals : Lexeme.Seals u) (noAnchor : ¬ Lexeme.anchorMarker <:+: u ++ l.rest)
    (type : Lexeme.typeMarker <:+: u ++ l.rest) :
    ¬ Lexeme.anchorMarker <:+: u ++ spaced gaps ts last ∧
      Lexeme.typeMarker <:+: u ++ spaced gaps ts last := by
  refine ⟨?_, ?_⟩
  · -- No anchor comes up: one between blanks stands in a token, and that was there before.
    rw [Lexeme.isSolid_anchorMarker.infix_append_iff spaces.startsBlank]
    rintro (here | later)
    · exact noAnchor (here.trans (List.prefix_append _ _).isInfix)
    · obtain ⟨v, mem, inside⟩ :=
        spaces.tail.exists_of_infix Lexeme.isSolid_anchorMarker later
      have left := inside.trans (h.text_infix v mem)
      exact noAnchor (left.trans (List.suffix_append _ _).isInfix)
  · -- No type is lost: it does not reach from one token into the next.
    rcases Lexeme.typeMarker_infix_append seals type with here | later
    · exact here.trans (List.prefix_append _ _).isInfix
    · obtain ⟨v, mem, inside⟩ := h.exists_typeMarker blank later
      have left := inside.trans (spaces.tail.text_infix v mem)
      exact left.trans (List.suffix_append _ _).isInfix

/-- A token of the run is the lexeme that stands in front of the texts of the others. -/
theorem Gives.ofText_spaced {w : Text} (h : Gives l.advance ts m) (blank : AllBlank m.rest)
    (goesOn : l.token.type.isTerminal = false)
    (spaces : Spaces (w :: gaps) (l.token :: ts) last) :
    Lexeme.ofText (l.token.text ++ spaced gaps ts last) =
      ⟨.ok l.token.type, l.token.text, spaced gaps ts last⟩ := by
  have found := lexeme_eq_of_goesOn goesOn
  have parts : l.token.text ++ l.advance.rest = l.rest.dropWhile isBlank :=
    Lexeme.ofText_append _
  refine Lexeme.ofText_swap (fun c mem => .inl (spaces.startsBlank c mem)) found goesOn ?_
  intro literal
  rw [literal] at found
  cases Lexeme.arises_of_eq_ok found rfl with
  | literal opens noAnchor type read =>
    rw [← parts] at noAnchor type
    have seals := Lexeme.seals_of_eq_ok found rfl
    exact h.markers_spaced blank spaces seals noAnchor type

/-- A run over the texts of its tokens gives them again. -/
theorem Gives.tokens_spaced (h : Gives l ts m) (blank : AllBlank m.rest)
    (spaces : Spaces gaps ts last) (c : Cursor) :
    ∃ us eof, (⟨spaced gaps ts last, c, false⟩ : Lexer).tokens = us ++ [eof] ∧
      us.map (fun t => (t.type, t.text)) = ts.map (fun t => (t.type, t.text)) ∧
      eof.type = .eof ∧ eof.text = [] ∧
      eof.offset = c.position + (spaced gaps ts last).byteLength := by
  induction h generalizing gaps c with
  | here =>
    have tokens := tokens_gap_append spaces.last [] c
    rw [List.append_nil, tokens_of_rest_eq_nil] at tokens
    rw [spaced_nil, tokens]
    exact ⟨[], _, rfl, rfl, rfl, rfl, Cursor.position_past c last⟩
  | @next l m ts ready goesOn gives ih =>
    cases gaps with
    | nil => cases spaces.length_eq
    | cons w gaps =>
      obtain ⟨x, front, solid⟩ := exists_head_text goesOn
      have again := gives.ofText_spaced blank goesOn spaces
      obtain ⟨us, eof, tokens, same, end', empty, offset⟩ :=
        ih blank spaces.tail (c.past (w ++ l.token.text))
      have first := (tokens_eq_cons_iff (spaces.blank w List.mem_cons_self) front solid goesOn
        c).2 ⟨again, tokens⟩
      rw [spaced_cons]
      refine ⟨_ :: us, eof, first, ?_, end', empty, ?_⟩
      · rw [List.map_cons, List.map_cons, same]
      · rw [offset, Cursor.position_past]
        simp only [Text.byteLength_append]
        omega

end Lexer

/-- A query that is scanned to its end gives the same tokens once it is written again with
other blanks between them: the same kinds and texts, and the end behind all of it. -/
theorem tokenize_spaced {s last : Text} {ts : List Token} {eof : Token} {gaps : List Text}
    (tokens : tokenize s = ts ++ [eof]) (end' : eof.type = .eof)
    (whole : eof.offset = s.byteLength) (spaces : Spaces gaps ts last) :
    ∃ us eof', tokenize (spaced gaps ts last) = us ++ [eof'] ∧
      us.map (fun t => (t.type, t.text)) = ts.map (fun t => (t.type, t.text)) ∧
      eof'.type = .eof ∧ eof'.text = [] ∧ eof'.offset = (spaced gaps ts last).byteLength := by
  have scanned : s.IsScanned := by
    refine ⟨eof, ?_, end', whole⟩
    rw [tokens, List.getLast?_concat]
    rfl
  obtain ⟨given, m, gives, tokens', -, -, blank, -⟩ := scanned.exists_gives
  obtain ⟨rfl, -⟩ := List.append_inj' (tokens.symm.trans tokens') rfl
  have again := gives.tokens_spaced blank spaces .start
  have start : Cursor.start.position = 0 := rfl
  rw [start, Nat.zero_add] at again
  exact again

/-- A line end and a blank put behind a literal and a node that stand together. -/
theorem tokenize_spaced_of_no_gap : ∃ ts us eof, tokenize "\"x\"^^type:text/u<a>".toList = ts ∧
    tokenize "\"x\"^^type:text\n/u<a> ".toList = us ++ [eof] ∧
    us.map (fun t => (t.type, t.text)) =
      [(.literal, "\"x\"^^type:text".toList), (.node, "/u<a>".toList)] ∧
    ts.dropLast.map (fun t => (t.type, t.text)) = us.map (fun t => (t.type, t.text)) ∧
    eof.type = .eof ∧ eof.offset = 21 := by
  let l := Lexer.ofText "\"x\"^^type:text/u<a>".toList
  have tokens : tokenize "\"x\"^^type:text/u<a>".toList =
      [l.token, l.advance.token] ++ [l.advance.advance.token] :=
    Lexer.tokens_eq_calls (n := 3) rfl
  have spaces : Spaces [[], ['\n']] [l.token, l.advance.token] [' '] :=
    ⟨rfl, by decide, by decide, by decide⟩
  have ending : l.advance.advance.token.type = .eof := rfl
  have whole : l.advance.advance.token.offset =
      Text.byteLength "\"x\"^^type:text/u<a>".toList := rfl
  have text : spaced [[], ['\n']] [l.token, l.advance.token] [' '] =
      "\"x\"^^type:text\n/u<a> ".toList := rfl
  obtain ⟨us, eof, again, same, type, -, offset⟩ := tokenize_spaced tokens ending whole spaces
  rw [text] at again offset
  refine ⟨_, us, eof, tokens, again, ?_, ?_, type, offset⟩
  · rw [same]
    rfl
  · rw [List.dropLast_concat, same]

end GraphText
