-- Printed triples among the tokens. The tokens of a triple as it is written are its three
-- parts and the end, unless a part ends in a backslash where its delimiter follows, or a
-- text holds what looks like an anchor.
import GraphText.Proofs.GraphLexemes
import GraphText.Proofs.MadeTriples
import GraphText.Proofs.TokenPartition

namespace GraphText

open Text (AllBlank AllEscaped EndsInBackslash)

variable {u r : Text} {k : TokenType} {ts : List Token}

/-! ## Texts between blanks -/

theorem Lexer.tokens_of_rest_eq_nil (c : Cursor) :
    (⟨[], c, false⟩ : Lexer).tokens = [⟨.eof, [], none, c.position⟩] := by
  rw [tokens_of_not_ended rfl, tokens_of_ended rfl]
  rfl

/-- Behind blanks, the text is the first token if it is the first lexeme. -/
theorem Lexer.tokens_eq_cons_iff {gap : Text} {x : Char} (blank : AllBlank gap)
    (front : u.head? = some x) (solid : isBlank x = false) (goesOn : k.isTerminal = false)
    (c : Cursor) :
    (⟨gap ++ (u ++ r), c, false⟩ : Lexer).tokens =
        ⟨k, u, none, c.position + gap.byteLength⟩ :: ts ↔
      Lexeme.ofText (u ++ r) = ⟨.ok k, u, r⟩ ∧
        (⟨r, c.past (gap ++ u), false⟩ : Lexer).tokens = ts := by
  have starts : ∀ y ∈ (u ++ r).head?, isBlank y = false := by
    rw [List.head?_append, front]
    rintro y ⟨⟩
    exact solid
  obtain ⟨blanks, behind⟩ := Text.cut_gap blank starts
  set l : Lexer := ⟨gap ++ (u ++ r), c, false⟩ with start
  have lexeme : l.lexeme = Lexeme.ofText (u ++ r) := by rw [Lexer.lexeme, behind]
  have place : l.front = c.past gap := by rw [Lexer.front, blanks]
  rw [tokens_of_not_ended rfl, List.cons.injEq]
  refine ⟨?_, ?_⟩
  · rintro ⟨first, more⟩
    have type : (Lexeme.ofText (u ++ r)).type = k := by
      rw [← lexeme]
      exact congrArg Token.type first
    have text : (Lexeme.ofText (u ++ r)).text = u := by
      rw [← lexeme]
      exact congrArg Token.text first
    have found := Lexeme.eq_of_type type (by rintro rfl; cases goesOn)
    have joined := Lexeme.ofText_append (u ++ r)
    rw [text] at found joined
    rw [List.append_cancel_left joined] at found
    refine ⟨found, ?_⟩
    rw [← more, Lexer.advance, lexeme, place, found, Lexeme.type, goesOn, Cursor.past_append]
  · rintro ⟨found, more⟩
    refine ⟨?_, ?_⟩
    · rw [Lexer.token, lexeme, place, found, Cursor.position_past]
      rfl
    · rw [← more, Lexer.advance, lexeme, place, found, Lexeme.type, goesOn, Cursor.past_append]

/-! ## The first lexeme of a printed value -/

/-- A printed node is a lexeme unless the backslash at the end of its type is taken for that
of an escape. -/
theorem Node.ofText_display_iff {n : Node} (h : n.Valid) (r : Text) :
    Lexeme.ofText (n.display ++ r) = ⟨.ok .node, n.display, r⟩ ↔ ¬ EndsInBackslash n.type := by
  obtain ⟨type, id⟩ := h
  have opening : '<' ∉ n.type := fun mem => (type.2.2 _ mem).2.1 rfl
  have closing : '>' ∉ n.type ++ '<' :: Text.escape '<' n.id := by
    have inId := (isId_escape.2 id).2
    have inType : '>' ∉ n.type := fun mem => (type.2.2 _ mem).2.2 rfl
    simp [inType, inId]
  have shown : n.display = n.type ++ '<' :: Text.escape '<' n.id ++ ['>'] := by
    rw [display_eq, ← List.cons_append, List.append_assoc]
  have starts : (n.display ++ r).head? = some '/' := by
    rw [display_eq, List.append_assoc, type.head?_append]
  rw [← Text.allEscaped_append_escape (by decide) opening n.id, Lexeme.ofText_eq_node_iff,
    Lexeme.node_eq_ok_iff]
  refine ⟨?_, ?_⟩
  · rintro ⟨-, body, -, text, -, opens⟩
    rw [shown] at text
    rwa [List.append_cancel_right text]
  · intro opens
    refine ⟨starts, _, ?_, shown, closing, opens⟩
    rw [shown, List.append_assoc, List.singleton_append]

/-- A printed predicate is a lexeme unless the backslash at the end of its id is taken for
that of an escape. -/
theorem Predicate.ofText_display_iff (p : Predicate) (r : Text) :
    Lexeme.ofText (p.display ++ r) = ⟨.ok .predicate, p.display, r⟩ ↔ ¬ EndsInBackslash p.id := by
  have noQuote := p.not_mem_anchorText (by decide : ¬ Instant.IsStampChar '"')
  have noBracket := p.not_mem_anchorText (by decide : ¬ Instant.IsStampChar ']')
  have escaped := Text.allEscaped_escape (by decide : '"' ≠ '\\') p.id
  have marked : Text.occursIn Lexeme.anchorMarker (p.display ++ r) = true := by
    rw [Text.occursIn_iff, display_eq]
    exact ⟨'"' :: Text.escape '"' p.id, p.anchorText ++ [']'] ++ r, by simp [marker,
      Lexeme.anchorMarker]⟩
  rw [← Text.endsInBackslash_escape (d := '"'), Lexeme.ofText_eq_predicate_iff]
  refine ⟨?_, ?_⟩
  · rintro ⟨q, -, -, found⟩
    obtain ⟨id, anchor, -, text, -, unprotected, -⟩ := Lexeme.predicate_eq_ok_iff.1 found
    rw [display_eq, List.cons.injEq] at text
    have same : id = Text.escape '"' p.id := by
      apply escaped.eq_of_append_eq_of_not_mem _ unprotected (v := ['@', '['] ++ (anchor ++ [']']))
      · simpa [marker, Lexeme.anchorMarker] using text.2.symm
      · simp [noQuote]
    rwa [← same]
  · intro unprotected
    refine ⟨_, by rw [display_eq, List.cons_append], marked, ?_⟩
    rw [Lexeme.predicate_eq_ok_iff]
    exact ⟨_, _, by simp [marker, Lexeme.anchorMarker], display_eq p, escaped, unprotected,
      noBracket⟩

namespace Literal

open Lexeme (anchorMarker)

/-- The scanner finds the end of the printed literal where it is, and no predicate in
front of it. -/
def IsScannable : Literal → Prop
  | text s => ¬ EndsInBackslash s ∧ ¬ anchorMarker <:+: s ∧ ¬ ['@', '['] <+: s
  | _ => True

theorem allEscaped_valueText (x : Literal) : AllEscaped '"' x.valueText := by
  by_cases text : x.type = .text
  · cases x with
    | text s => exact Text.allEscaped_escape (by decide) s
    | _ => cases text
  · exact Text.allEscaped_of_not_mem ((allValueChars_valueText text).not_mem (by decide))

/-- Only the value of a text can make trouble. -/
theorem isScannable_iff (x : Literal) : x.IsScannable ↔
    ¬ EndsInBackslash x.valueText ∧ ¬ anchorMarker <:+: '"' :: x.valueText := by
  by_cases text : x.type = .text
  · cases x with
    | text s =>
      have sheds := Text.sheds_escape (d := '"') s
      have plain : Text.IsPlain '"' ['@', '['] := by simp [Text.IsPlain]
      rw [IsScannable, valueText, Text.endsInBackslash_escape, anchorMarker,
        List.infix_cons_iff, List.cons_prefix_cons, sheds.infix_delimiter_iff (by decide) plain,
        sheds.prefix_iff plain]
      tauto
    | _ => cases text
  · have chars := allValueChars_valueText text
    have scannable : x.IsScannable := by
      cases x with
      | text s => exact absurd rfl text
      | _ => trivial
    refine iff_of_true scannable ⟨?_, ?_⟩
    · intro ends
      exact chars.not_mem (by decide) (List.mem_of_getLast? ends)
    · intro inside
      have anchor : '@' ∈ '"' :: x.valueText := inside.subset (by decide)
      rcases List.mem_cons.1 anchor with same | mem
      · cases same
      · exact chars.not_mem (by decide) mem

theorem lexemeMarker_eq : Lexeme.typeMarker = marker := rfl

theorem name_mem_literalTags (k : LiteralType) : k.name.lower ∈ Lexeme.literalTags := by
  cases k <;> decide

theorem isLetterOrNumeral_of_mem_name (k : LiteralType) :
    ∀ c ∈ k.name, isLetterOrNumeral c = true := by
  rw [← List.all_eq_true]
  cases k <;> decide

/-- A printed literal is a lexeme if the scanner finds its end where it is. -/
theorem ofText_display_iff (x : Literal) :
    Lexeme.ofText x.display = ⟨.ok .literal, x.display, []⟩ ↔ x.IsScannable := by
  have typed : Text.occursIn Lexeme.typeMarker x.display = true := by
    rw [Text.occursIn_iff, lexemeMarker_eq, display_eq]
    exact ⟨'"' :: x.valueText, x.type.name, by simp⟩
  have noQuote : '"' ∉ "^^type:".toList ++ x.type.name :=
    quote_not_mem_of_named rfl x.type.lowerAscii_name
  have anchor : anchorMarker <:+: x.display ↔ anchorMarker <:+: '"' :: x.valueText := by
    -- The scanner looks for an anchor in all of the text, but behind the value is no bracket.
    have noBracket : ∀ k : LiteralType, '[' ∉ marker ++ k.name := by
      intro k
      cases k <;> decide
    have parts : x.display = '"' :: x.valueText ++ (marker ++ x.type.name) := by simp [display]
    rw [parts]
    exact ⟨fun inside => Text.infix_of_infix_append (m := ['"', '@']) inside (noBracket _),
      fun inside => inside.trans (List.prefix_append _ _).isInfix⟩
  rw [isScannable_iff, Lexeme.ofText_eq_literal_iff, ← anchor, ← Text.occursIn_iff]
  refine ⟨?_, ?_⟩
  · rintro ⟨q, -, noAnchor, -, found⟩
    obtain ⟨value, mark, tag, -, text, -, unprotected, starts, -⟩ :=
      Lexeme.literal_eq_ok_iff.1 found
    obtain ⟨m, rfl⟩ := List.head?_eq_some_iff.1 starts
    rw [display_eq, List.cons.injEq, marker_eq] at text
    have same : value = x.valueText := by
      apply x.allEscaped_valueText.eq_of_append_eq_of_not_mem noQuote unprotected (v := m ++ tag)
      rw [← List.cons_append, ← List.append_assoc, ← List.cons_append, ← List.append_assoc]
      exact text.2.symm
    rw [same] at unprotected
    exact ⟨unprotected, by simp [noAnchor]⟩
  · rintro ⟨unprotected, noAnchor⟩
    refine ⟨_, x.display_eq, by simpa using noAnchor, typed, ?_⟩
    rw [Lexeme.literal_eq_ok_iff]
    exact ⟨_, marker, _, by simp, x.display_eq, x.allEscaped_valueText, unprotected, rfl, rfl,
      isLetterOrNumeral_of_mem_name x.type, by simp, name_mem_literalTags x.type⟩

end Literal

namespace Object

/-- The kind of the token that a printed object makes. -/
def tokenType : Object → TokenType
  | node _ => .node
  | predicate _ => .predicate
  | literal _ => .literal

/-- The scanner finds the end of the printed object where it is. -/
def IsScannable : Object → Prop
  | node n => ¬ EndsInBackslash n.type
  | predicate p => ¬ EndsInBackslash p.id
  | literal x => x.IsScannable

theorem ofText_display_iff {o : Object} (h : o.Valid) :
    Lexeme.ofText o.display = ⟨.ok o.tokenType, o.display, []⟩ ↔ o.IsScannable := by
  cases o with
  | node n => simpa [display, tokenType, IsScannable] using Node.ofText_display_iff h []
  | predicate p => simpa [display, tokenType, IsScannable] using p.ofText_display_iff []
  | literal x => exact x.ofText_display_iff

theorem isTerminal_tokenType (o : Object) : o.tokenType.isTerminal = false := by
  cases o <;> rfl

end Object

/-! ## Printed triples -/

namespace Triple

variable {t : Triple}

/-- A token for each part of the printed triple, and the end. -/
def shownTokens (t : Triple) : List Token :=
  let S := t.subject.display
  let P := t.predicate.display
  let O := t.object.display
  [⟨.node, S, none, 0⟩, ⟨.predicate, P, none, S.byteLength + 1⟩,
    ⟨t.object.tokenType, O, none, S.byteLength + P.byteLength + 2⟩,
    ⟨.eof, [], none, t.display.byteLength⟩]

/-- The parts are taken off one after the other. -/
theorem tokenize_display_iff_lexemes (h : t.Valid) : tokenize t.display = t.shownTokens ↔
    Lexeme.ofText (t.subject.display ++
        (['\t'] ++ (t.predicate.display ++ (['\t'] ++ t.object.display)))) =
      ⟨.ok .node, t.subject.display,
        ['\t'] ++ (t.predicate.display ++ (['\t'] ++ t.object.display))⟩ ∧
    Lexeme.ofText (t.predicate.display ++ (['\t'] ++ t.object.display)) =
      ⟨.ok .predicate, t.predicate.display, ['\t'] ++ t.object.display⟩ ∧
    Lexeme.ofText t.object.display = ⟨.ok t.object.tokenType, t.object.display, []⟩ := by
  have tab : AllBlank ['\t'] := by decide
  have starts : t.subject.display.head? = some '/' := by
    rw [Node.display_eq]
    exact h.1.1.head?_append _
  have quote : t.predicate.display.head? = some '"' := rfl
  obtain ⟨c, opening, starts'⟩ := Object.head?_display h.2.2
  have solid : isBlank c = false := by
    rcases List.mem_cons.1 opening with rfl | quote
    · decide
    · rw [List.mem_singleton.1 quote]
      decide
  let k₁ := Cursor.start.past ([] ++ t.subject.display)
  let k₂ := k₁.past (['\t'] ++ t.predicate.display)
  let k₃ := k₂.past (['\t'] ++ t.object.display)
  have text : t.display = [] ++ (t.subject.display ++
      (['\t'] ++ (t.predicate.display ++ (['\t'] ++ (t.object.display ++ []))))) := by
    simp [display]
  -- The offsets, as the lexer counts them with the tabs in between.
  have shown : t.shownTokens =
      [⟨.node, t.subject.display, none, Cursor.start.position + Text.byteLength []⟩,
        ⟨.predicate, t.predicate.display, none, k₁.position + Text.byteLength ['\t']⟩,
        ⟨t.object.tokenType, t.object.display, none, k₂.position + Text.byteLength ['\t']⟩,
        ⟨.eof, [], none, k₃.position⟩] := by
    have one : Text.byteLength ['\t'] = 1 := rfl
    have zero : Cursor.start.position = 0 := rfl
    simp only [shownTokens, k₁, k₂, k₃, text, Cursor.position_past, Text.byteLength_append,
      Text.byteLength_nil, one, zero, List.cons.injEq, Token.mk.injEq, true_and, and_true]
    omega
  rw [tokenize, Lexer.ofText, text, shown,
    Lexer.tokens_eq_cons_iff (by decide) starts (by decide) rfl,
    Lexer.tokens_eq_cons_iff tab quote (by decide) rfl,
    Lexer.tokens_eq_cons_iff tab starts' solid t.object.isTerminal_tokenType,
    Lexer.tokens_of_rest_eq_nil, List.append_nil]
  exact and_congr_right' (and_congr_right' (and_iff_left rfl))

/-- A triple of parts that their constructors made has its parts and the end as its tokens
if and only if the type of the subject and the id of the predicate do not end in a backslash
and the scanner finds the end of the object. -/
theorem tokenize_display_iff (t : Triple) (made : t.IsMade) :
    tokenize t.display = t.shownTokens ↔
      ¬ EndsInBackslash t.subject.type ∧ ¬ EndsInBackslash t.predicate.id ∧
        t.object.IsScannable := by
  have valid := isMade_iff.1 made
  rw [tokenize_display_iff_lexemes valid, Node.ofText_display_iff valid.1,
    Predicate.ofText_display_iff, Object.ofText_display_iff valid.2.2]

/-- Quotes and backslashes do no harm inside, nor does half an anchor. -/
theorem tokenize_display_of_quotes : ∃ t : Triple, t.IsMade ∧
    t.display =
      "/u<a\\\\<b>\t\"p\\\"q\"@[]\t\"@ \\\"@ \\x\"^^type:text".toList ∧
    tokenize t.display = t.shownTokens := by
  let t : Triple := ⟨⟨['/', 'u'], "a\\<b".toList⟩, ⟨"p\"q".toList, none⟩,
    .literal (.text "@ \"@ \\x".toList)⟩
  have made : t.IsMade :=
    ⟨⟨['/', 'u'], "a\\<b".toList, rfl⟩, ⟨"p\"q".toList, none, rfl⟩, .unlimited,
      .text "@ \"@ \\x".toList, rfl⟩
  have noAnchor : ¬ Lexeme.anchorMarker <:+: "@ \"@ \\x".toList := by
    rw [← Text.occursIn_iff]
    decide
  refine ⟨t, made, rfl, (tokenize_display_iff t made).2 ⟨by decide, by decide, ?_⟩⟩
  exact ⟨by decide, noAnchor, by decide⟩

end Triple

end GraphText
