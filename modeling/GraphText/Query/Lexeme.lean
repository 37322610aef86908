-- Lexemes: what stands at the front of a text, and the text behind it. A lexeme
-- and its rest always make up the whole text, and a lexeme that is not the end of
-- the query takes at least one character.
import GraphText.Query.Token

namespace GraphText

/-! ## Faults -/

/-- What can be wrong with the front of a text. -/
inductive Fault where
  | namelessBinding
  | unknownKeyword
  | openNode
  | nodeWithoutId
  | lonelyQuote
  | openPredicate
  | predicateWithoutAnchor
  | openAnchor
  | openLiteral
  | literalWithoutType
  | unknownLiteralType (tag : Text)
  deriving DecidableEq

/-- The words for a fault. -/
def Fault.message : Fault → Text
  | namelessBinding => "binding requires a name after ?".toList
  | unknownKeyword => "found unknown keyword".toList
  | openNode => "node is not properly terminated; missing final > delimiter".toList
  | nodeWithoutId => "node should start ID section with a < delimiter".toList
  | lonelyQuote => "failed to parse predicate or literal for opening \" delimiter".toList
  | openPredicate => "predicates need to be properly terminated; missing \" and time anchor".toList
  | predicateWithoutAnchor =>
    "predicates require time anchor information; missing \"@[".toList
  | openAnchor => "predicate's time anchors should end with ] delimiter".toList
  | openLiteral => "literals need to be properly terminated; missing \" and type".toList
  | literalWithoutType => "literals require a type definition; missing ^^type:".toList
  | unknownLiteralType tag => "invalid literal type ".toList ++ tag

/-- The front of a text with its kind or its fault, and the text behind it. -/
structure Lexeme where
  found : Except Fault TokenType
  text : Text
  rest : Text

namespace Lexeme

/-! ## Words and bindings -/

/-- A name behind a question mark. -/
def binding (r : Text) : Lexeme :=
  if (r.takeWhile isLetter).isEmpty then ⟨.error .namelessBinding, ['?'], r⟩
  else ⟨.ok .binding, '?' :: r.takeWhile isLetter, r.dropWhile isLetter⟩

/-- A run of letters that is a keyword. If it is none, all up to the next blank is at
fault. -/
def word (s : Text) : Lexeme :=
  match Keyword.ofWord? (s.takeWhile isLetter) with
  | some k => ⟨.ok (.keyword k), s.takeWhile isLetter, s.dropWhile isLetter⟩
  | none => ⟨.error .unknownKeyword, s.takeWhile (!isBlank ·), s.dropWhile (!isBlank ·)⟩

/-! ## Nodes -/

/-- An angle bracket stands in the text without a backslash in front of it. -/
def opensId : Text → Bool
  | [] => false
  | [c] => c = '<'
  | b :: c :: r => if b = '\\' ∧ c = '<' then opensId r else b = '<' || opensId (c :: r)

/-- A node runs to the first closing bracket, and its id opens on the way. -/
def node (s : Text) : Lexeme :=
  match s.dropWhile (· ≠ '>') with
  | [] => ⟨.error .openNode, s, []⟩
  | c :: rest =>
    let body := s.takeWhile (· ≠ '>')
    ⟨if opensId body then .ok .node else .error .nodeWithoutId, body ++ [c], rest⟩

/-! ## Predicates and literals -/

/-- What follows the id of a predicate. -/
def anchorMarker : Text := ['"', '@', '[']

/-- What follows the value of a literal. -/
def typeMarker : Text := "\"^^type:".toList

/-- The tags of the literals. -/
def literalTags : List Text :=
  ["bool".toList, "int64".toList, "float64".toList, "text".toList, "blob".toList]

/-- The texts before and from the first quote without a backslash in front of it. -/
def cutQuote : Text → Option (Text × Text)
  | [] => none
  | [c] => if c = '"' then some ([], [c]) else none
  | b :: c :: r =>
    if b = '"' then some ([], b :: c :: r)
    else if b = '\\' ∧ c = '"' then (cutQuote r).map fun (x, y) => (b :: c :: x, y)
    else (cutQuote (c :: r)).map fun (x, y) => (b :: x, y)

/-- How many characters of the marker stand at the front of the text, in any case. -/
def agreeing : (marker text : Text) → Nat
  | m :: ms, c :: cs => if lowerChar c = lowerChar m then agreeing ms cs + 1 else 0
  | _, _ => 0

/-- A predicate, without its opening quote. -/
def predicate (r : Text) : Lexeme :=
  match cutQuote r with
  | none => ⟨.error .openPredicate, '"' :: r, []⟩
  | some (id, tail) =>
    let n := agreeing anchorMarker tail
    if n < anchorMarker.length then
      ⟨.error .predicateWithoutAnchor, '"' :: id ++ tail.take n, tail.drop n⟩
    else
      match (tail.drop n).dropWhile (· ≠ ']') with
      | [] => ⟨.error .openAnchor, '"' :: r, []⟩
      | c :: rest =>
        ⟨.ok .predicate,
          '"' :: id ++ tail.take n ++ (tail.drop n).takeWhile (· ≠ ']') ++ [c], rest⟩

/-- A literal, without its opening quote. -/
def literal (r : Text) : Lexeme :=
  match cutQuote r with
  | none => ⟨.error .openLiteral, '"' :: r, []⟩
  | some (value, tail) =>
    let n := agreeing typeMarker tail
    if n < typeMarker.length then
      ⟨.error .literalWithoutType, '"' :: value ++ tail.take n, tail.drop n⟩
    else
      let tag : Text := (tail.drop n).takeWhile isLetterOrNumeral
      ⟨if tag.lower ∈ literalTags then .ok .literal else .error (.unknownLiteralType tag.lower),
        '"' :: value ++ tail.take n ++ tag, (tail.drop n).dropWhile isLetterOrNumeral⟩

/-- A quote opens a predicate if an anchor stands anywhere behind it, and a literal if
a type does. -/
def quoted (r : Text) : Lexeme :=
  if Text.occursIn anchorMarker ('"' :: r) then predicate r
  else if Text.occursIn typeMarker ('"' :: r) then literal r
  else ⟨.error .lonelyQuote, [], '"' :: r⟩

/-! ## Any lexeme -/

/-- The front of a text that starts with no blank. The first character decides what it
can be, and a character that starts nothing ends the query. -/
def ofText : Text → Lexeme
  | [] => ⟨.ok .eof, [], []⟩
  | c :: r =>
    if c = '?' then binding r
    else if c = '/' then node (c :: r)
    else if c = '"' then quoted r
    else if isLetter c then word (c :: r)
    else
      match Punctuation.ofChar? c with
      | some p => ⟨.ok (.punctuation p), [c], r⟩
      | none => ⟨.ok .eof, [], c :: r⟩

/-! ## The parts of a lexeme -/

/-- The kind of the token that a lexeme makes. -/
def type (x : Lexeme) : TokenType :=
  match x.found with
  | .ok t => t
  | .error _ => .error

theorem cutQuote_append {t x y : Text} (h : cutQuote t = some (x, y)) : x ++ y = t := by
  fun_induction cutQuote t generalizing x y with
  | case1 => simp at h
  | case2 => simp at h; obtain ⟨rfl, rfl⟩ := h; rfl
  | case3 => simp at h
  | case4 => simp at h; obtain ⟨rfl, rfl⟩ := h; rfl
  | case5 b c r _ _ ih | case6 b c r _ _ ih =>
    simp only [Option.map_eq_some_iff, Prod.exists, Prod.mk.injEq] at h
    obtain ⟨u, v, huv, rfl, rfl⟩ := h
    simp [ih huv]

theorem binding_append (r : Text) : (binding r).text ++ (binding r).rest = '?' :: r := by
  unfold binding
  split <;> simp

theorem word_append (s : Text) : (word s).text ++ (word s).rest = s := by
  unfold word
  split <;> simp

theorem node_append (s : Text) : (node s).text ++ (node s).rest = s := by
  unfold node
  split
  · simp
  · rename_i c rest h
    have := List.takeWhile_append_dropWhile (p := (· ≠ '>')) (l := s)
    rw [h] at this
    simpa using this

theorem predicate_append (r : Text) :
    (predicate r).text ++ (predicate r).rest = '"' :: r := by
  unfold predicate
  split
  · simp
  · rename_i id tail h
    have cut := cutQuote_append h
    dsimp only
    split
    · simp [← cut]
    · split
      · simp
      · rename_i c rest hd
        have anchor := List.takeWhile_append_dropWhile (p := (· ≠ ']'))
          (l := tail.drop (agreeing anchorMarker tail))
        rw [hd] at anchor
        have whole := List.take_append_drop (agreeing anchorMarker tail) tail
        rw [← anchor] at whole
        rw [← cut]
        simpa using whole

theorem literal_append (r : Text) : (literal r).text ++ (literal r).rest = '"' :: r := by
  unfold literal
  split
  · simp
  · rename_i value tail h
    have cut := cutQuote_append h
    dsimp only
    split <;> simp [← cut]

theorem quoted_append (r : Text) : (quoted r).text ++ (quoted r).rest = '"' :: r := by
  unfold quoted
  split
  · exact predicate_append r
  · split
    · exact literal_append r
    · rfl

/-- A lexeme and its rest make up the text. -/
theorem ofText_append (s : Text) : (ofText s).text ++ (ofText s).rest = s := by
  unfold ofText
  split
  · rfl
  · split
    · rename_i h; subst h; exact binding_append _
    · split
      · exact node_append _
      · split
        · rename_i h; subst h; exact quoted_append _
        · split
          · exact word_append _
          · split <;> rfl

/-- Only the end of a query and an error can be empty. -/
theorem text_ne_nil (s : Text) (h : (ofText s).type.isTerminal = false) :
    (ofText s).text ≠ [] := by
  revert h
  unfold ofText
  split
  · simp [type, TokenType.isTerminal]
  · rename_i c r
    split
    · unfold binding
      split <;> simp
    · split
      · unfold node
        split <;> simp
      · split
        · unfold quoted
          split
          · unfold predicate
            split
            · simp
            · dsimp only
              split
              · simp
              · split <;> simp
          · split
            · unfold literal
              split
              · simp
              · dsimp only
                split <;> simp
            · simp [type, TokenType.isTerminal]
        · split
          · rename_i hl
            unfold word
            split
            · simp [hl]
            · simp [type, TokenType.isTerminal]
          · split <;> simp [type, TokenType.isTerminal]

theorem rest_length (s : Text) (h : (ofText s).type.isTerminal = false) :
    (ofText s).rest.length < s.length := by
  have parts := congrArg List.length (ofText_append s)
  have taken := List.length_pos_iff.2 (text_ne_nil s h)
  rw [List.length_append] at parts
  omega

end Lexeme
end GraphText
