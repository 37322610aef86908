-- What the readers make of the graph values among the tokens. The lexer finds delimiters
-- from the front and the readers find them from the back, but a token has all of them in
-- place, so a reader can only be at odds with what stands between them.
import GraphText.Proofs.GraphLexemes
import GraphText.Proofs.ObjectText
import GraphText.Proofs.TokenPartition

namespace GraphText

open Text (AllEscaped EndsInBackslash)

/-- The text opens with a quote, and the next one that counts stands behind the value and
opens the mark. -/
def Text.IsQuoted (t value mark tail : Text) : Prop :=
  t = '"' :: (value ++ mark ++ tail) ∧ AllEscaped '"' value ∧ ¬ EndsInBackslash value ∧
    mark.head? = some '"'

/-! ## Nodes -/

namespace Node

/-- The text is a node unless its type is none or its id is empty. -/
def IsDelimited (t : Text) : Prop :=
  (∃ n, parse t = .ok n) ∨ (∃ type reason, parse t = .error (.type type reason)) ∨
    parse t = .error (.id [] .empty)

theorem make_cases (type : Text) {id : Text} (h : '>' ∉ id) : (∃ n, make type id = .ok n) ∨
    (∃ reason, make type id = .error (.type type reason)) ∨
      make type id = .error (.id [] .empty) := by
  unfold make
  split
  · rename_i reason _
    exact .inr (.inl ⟨reason, rfl⟩)
  · cases id with
    | nil => exact .inr (.inr rfl)
    | cons c r => exact .inl ⟨⟨type, c :: r⟩, by simp [idFault?, h]⟩

theorem isDelimited_of_body {body : Text} (starts : body.head? = some '/') (inner : '>' ∉ body)
    (opens : ¬ AllEscaped '<' body) : IsDelimited (body ++ ['>']) := by
  have opening : '<' ∈ body := by
    by_contra none
    exact opens (Text.allEscaped_of_not_mem none)
  obtain ⟨type, id, rfl, before⟩ := List.eq_append_cons_of_mem opening
  rw [List.append_assoc, List.cons_append]
  have front : (type ++ '<' :: (id ++ ['>'])).head? = some '/' := by
    rw [← List.cons_append, ← List.append_assoc, List.head?_append, starts]
    rfl
  have trimmed := Text.isTrimmed_of_ends front (Text.getLast?_closed type '<' id '>')
    (by decide) (by decide)
  have inner' : '>' ∉ Text.unescape '<' id := by
    rw [← (Text.sheds_unescape id).mem_iff (by simp)]
    intro mem
    exact inner (by simp [mem])
  rw [IsDelimited, parse, Text.trim_of_isTrimmed trimmed, ofTrimmed_closed before]
  rcases make_cases type inner' with ok | ⟨reason, fault⟩ | empty
  · exact .inl ok
  · exact .inr (.inl ⟨type, reason, fault⟩)
  · exact .inr (.inr empty)

end Node

/-! ## Predicates -/

namespace Predicate

/-- The text is a predicate unless its id is empty or its anchor is none. If the marker does
not come again, the id is what stands in front of it. -/
def IsDelimited (t : Text) : Prop :=
  ∃ id tail, t.IsQuoted id marker tail ∧
    ((∃ p, parse t = .ok p ∧ (¬ marker <:+: tail → p.id = Text.unescape '"' id)) ∨
      parse t = .error .emptyId ∨ ∃ anchor reason, parse t = .error (.anchor anchor reason))

theorem readAnchor_cases (a : Text) : (∃ anchor, readAnchor a = .ok anchor) ∨
    ∃ reason, readAnchor a = .error (.anchor a reason) := by
  unfold readAnchor
  split
  · exact .inl ⟨none, rfl⟩
  · split
    · rename_i i _
      exact .inl ⟨some i, rfl⟩
    · rename_i reason _
      exact .inr ⟨reason, rfl⟩

/-- The anchor alone does not hold the marker, if it does not come again. -/
theorem not_infix_marker_tail {tail : Text} (h : ¬ marker <:+: tail) :
    ¬ marker <:+: '@' :: '[' :: tail :=
  fun inside => h ((Text.infix_append_iff_of_not_mem (s := ['@', '[']) (by decide)).1 inside)

theorem isDelimited_of_parts {id anchor : Text} (escaped : AllEscaped '"' id)
    (unprotected : ¬ EndsInBackslash id) :
    IsDelimited ('"' :: (id ++ marker ++ (anchor ++ [']']))) := by
  refine ⟨id, anchor ++ [']'], ⟨rfl, escaped, unprotected, rfl⟩, ?_⟩
  obtain ⟨w, z, cut⟩ := @Text.exists_cutLast '"' ['@', '['] ('"' :: id) (anchor ++ [']'])
  have closed : ('"' :: (id ++ marker ++ (anchor ++ [']']))).getLast? = some ']' := by
    rw [← List.append_assoc]
    exact Text.getLast?_closed [] '"' _ ']'
  have read : parse ('"' :: (id ++ marker ++ (anchor ++ [']']))) =
      (readAnchor z.dropLast).bind (make (Text.unescape '"' (id ++ w))) :=
    parse_of_cutLast cut closed
  have once : ¬ marker <:+: anchor ++ [']'] → w = [] := by
    intro last
    have only := Text.cutLast_append_of_not_infix (not_infix_marker_tail last) ('"' :: id)
    have same := Option.some.inj (cut.symm.trans only)
    simpa using (Prod.mk.inj same).1
  rw [read]
  rcases readAnchor_cases z.dropLast with ⟨a, ok⟩ | ⟨reason, fault⟩
  · rw [ok]
    by_cases empty : Text.unescape '"' (id ++ w) = []
    · rw [empty]
      exact .inr (.inl rfl)
    · refine .inl ⟨⟨Text.unescape '"' (id ++ w), a⟩, make_eq_ok_iff.2 ⟨empty, rfl⟩, ?_⟩
      intro last
      rw [once last, List.append_nil]
  · rw [fault]
    exact .inr (.inr ⟨_, reason, rfl⟩)

end Predicate

/-! ## Literals -/

namespace Literal

open Builder (unlimited parse_unlimited_of_split parse_of_split_error)

/-- The text is a literal unless its value is none of its type, if its mark is in lower case,
and otherwise the type is missing or unknown. -/
def IsDelimited (t : Text) : Prop :=
  ∃ value mark tag k, t.IsQuoted value mark tag ∧ Text.lowerAscii mark = marker ∧
    Text.lowerAscii tag = LiteralType.name k ∧
    (mark = marker ↔
      (∃ x, unlimited.parse t = .ok x ∧ x.type = k ∧
        decode k (Text.unescape '"' value) = .ok x) ∨
      ∃ reason, unlimited.parse t = .error (.value k (Text.unescape '"' value) reason)) ∧
    (mark ≠ marker ↔ (∃ raw, unlimited.parse t = .error (.noType raw)) ∨
      ∃ name, unlimited.parse t = .error (.unknownType name))

variable {value mark tag : Text} {k : LiteralType}

/-- A mark that a reader finds in front of one that it does not know leaves the quote of the
other in the name of the type. -/
theorem quote_mem_of_other_mark {m w name : Text}
    (spelled : Text.lowerAscii m = "^^type:".toList) (other : m ≠ "^^type:".toList)
    (named : Text.lowerAscii tag = k.name)
    (joined : value ++ '"' :: (m ++ tag) = w ++ '"' :: ("^^type:".toList ++ name)) :
    '"' ∈ name := by
  by_contra none
  have noQuote := quote_not_mem_of_named spelled named
  have noQuote' : '"' ∉ "^^type:".toList ++ name := by simpa using none
  obtain ⟨-, tails⟩ := Text.eq_of_last noQuote noQuote' joined
  have length := congrArg List.length spelled
  rw [Text.lowerAscii, List.length_map] at length
  exact other (List.append_inj tails length).1

/-- A mark that is not in lower case is none to a reader. -/
theorem split_of_other_mark (value : Text) (starts : mark.head? = some '"')
    (spelled : Text.lowerAscii mark = marker) (other : mark ≠ marker)
    (named : Text.lowerAscii tag = k.name) :
    (∃ raw, split ('"' :: (value ++ mark ++ tag)) = .error (.noType raw)) ∨
      ∃ name, split ('"' :: (value ++ mark ++ tag)) = .error (.unknownType name) := by
  obtain ⟨m, rfl⟩ := List.head?_eq_some_iff.1 starts
  rw [marker_eq] at spelled other
  have spelled : Text.lowerAscii m = "^^type:".toList := (List.cons.inj spelled).2
  have other : m ≠ "^^type:".toList := fun same => other (by rw [same])
  rw [split, if_neg (by simp)]
  cases cut : Text.cutLast marker ('"' :: (value ++ '"' :: m ++ tag)) with
  | none => exact .inl ⟨_, rfl⟩
  | some parts =>
    obtain ⟨before, name⟩ := parts
    cases before with
    | nil => exact .inl ⟨_, rfl⟩
    | cons q w =>
      have joined := Text.cutLast_joins cut
      rw [marker_eq, List.append_assoc, List.cons_append, List.append_assoc] at joined
      have quote := quote_mem_of_other_mark spelled other named (List.cons.inj joined).2
      dsimp only
      cases type : LiteralType.ofName name with
      | ok j =>
        have lower := LiteralType.ofName_eq_ok_iff.1 type
        exact absurd quote (Text.not_mem_of_lowerAscii lower.symm rfl j.quote_not_mem_name)
      | error n => exact .inr ⟨n, rfl⟩

theorem isDelimited_of_parts (escaped : AllEscaped '"' value)
    (unprotected : ¬ EndsInBackslash value) (starts : mark.head? = some '"')
    (spelled : Text.lowerAscii mark = marker) (named : Text.lowerAscii tag = k.name) :
    IsDelimited ('"' :: (value ++ mark ++ tag)) := by
  refine ⟨value, mark, tag, k, ⟨rfl, escaped, unprotected, starts⟩, spelled, named, ?_⟩
  have trimmed := Text.trim_of_isTrimmed (isTrimmed_of_tag named (value ++ mark))
  by_cases same : mark = marker
  · subst same
    have cut := split_of_mark value named
    rw [← trimmed] at cut
    rw [parse_unlimited_of_split cut]
    rcases decode_cases k (Text.unescape '"' value) with ⟨x, read, type⟩ | ⟨reason, fault⟩
    · rw [read]
      simp [type]
    · rw [fault]
      simp
  · have fault := split_of_other_mark value starts spelled same named
    rw [← trimmed] at fault
    rcases fault with ⟨raw, cut⟩ | ⟨name, cut⟩
    · rw [parse_of_split_error cut]
      simp [same]
    · rw [parse_of_split_error cut]
      simp [same]

end Literal

/-! ## Tokens -/

/-- Every graph value among the tokens is well delimited for the reader of its kind. -/
theorem tokenize_delimits (s : Text) (t : Token) (mem : t ∈ tokenize s) :
    (t.type = .node → Node.IsDelimited t.text) ∧
      (t.type = .predicate → Predicate.IsDelimited t.text) ∧
      (t.type = .literal → Literal.IsDelimited t.text) := by
  obtain ⟨l, rfl⟩ := Lexer.exists_of_mem_tokens mem
  refine ⟨?_, ?_, ?_⟩
  · intro type
    obtain ⟨starts, found⟩ := Lexeme.ofText_eq_node_iff.1 (Lexeme.eq_of_type type (by simp))
    obtain ⟨body, eq, text, inner, opens⟩ := Lexeme.node_eq_ok_iff.1 found
    have front : body.head? = some '/' := by
      cases body with
      | nil => exact absurd (Text.allEscaped_of_not_mem List.not_mem_nil) opens
      | cons c r =>
        rw [eq] at starts
        exact starts
    have same : l.token.text = body ++ ['>'] := text
    rw [same]
    exact Node.isDelimited_of_body front inner opens
  · intro type
    obtain ⟨q, -, -, found⟩ := Lexeme.ofText_eq_predicate_iff.1 (Lexeme.eq_of_type type (by simp))
    obtain ⟨id, anchor, -, text, escaped, unprotected, -⟩ := Lexeme.predicate_eq_ok_iff.1 found
    have same : l.token.text = _ := text
    rw [same]
    exact Predicate.isDelimited_of_parts escaped unprotected
  · intro type
    obtain ⟨q, -, -, -, found⟩ := Lexeme.ofText_eq_literal_iff.1 (Lexeme.eq_of_type type (by simp))
    obtain ⟨value, mark, tag, -, text, escaped, unprotected, starts, spells, -, -, known⟩ :=
      Lexeme.literal_eq_ok_iff.1 found
    obtain ⟨k, named⟩ := Lexeme.exists_name_of_lower_mem known
    have same : l.token.text = _ := text
    rw [same]
    exact Literal.isDelimited_of_parts escaped unprotected starts
      (spells.lowerAscii_eq Lexeme.allLowAscii_typeMarker) named

/-- The lexer goes by the mark in mixed case, and a reader by the one behind the escaped
quote. -/
theorem tokenize_delimits_mixed_case :
    ⟨.literal, "\"a\\\"^^type:b\"^^Type:text".toList, none, 0⟩ ∈
        tokenize "\"a\\\"^^type:b\"^^Type:text".toList ∧
      Literal.IsDelimited "\"a\\\"^^type:b\"^^Type:text".toList := by
  have mem : ⟨.literal, "\"a\\\"^^type:b\"^^Type:text".toList, none, 0⟩ ∈
      tokenize "\"a\\\"^^type:b\"^^Type:text".toList := by
    rw [tokenize, Lexer.tokens_of_not_ended rfl]
    exact List.mem_cons.2 (.inl rfl)
  exact ⟨mem, (tokenize_delimits _ _ mem).2.2 rfl⟩

end GraphText
