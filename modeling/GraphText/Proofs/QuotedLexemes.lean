-- What a quote opens. The rules say what stands in the text: where the first quote that counts
-- is, how much of a marker stands there, and what follows it. They decide the token at a quote,
-- its text and its fault, whatever the lexer does to find it.
import GraphText.Proofs.GraphLexemes
import GraphText.Proofs.Places
import GraphText.Proofs.Scanning

namespace GraphText

open Text (AllEscaped EndsInBackslash)

/-! ## Parts of a quoted text -/

/-- The first quote that no backslash stands directly in front of cuts the text. -/
structure Text.CutsAtQuote (t front back : Text) : Prop where
  joins : t = front ++ back
  quote : back.head? = some '"'
  escaped : AllEscaped '"' front
  unprotected : ¬ EndsInBackslash front

/-- The longest front of the text whose characters, read in some case, are a front of the
marker. -/
structure Text.LongestFront (t : Text) (case : Char → Char) (marker front : Text) : Prop where
  starts : front <+: t
  reads : front.map case <+: marker
  longest : ∀ other : Text, other <+: t → other.map case <+: marker → other <+: front

theorem Text.LongestFront.unique {t marker u v : Text} {case : Char → Char}
    (hu : t.LongestFront case marker u) (hv : t.LongestFront case marker v) : u = v :=
  (hv.longest u hu.starts hu.reads).eq_of_length_le
    (hu.longest v hv.starts hv.reads).length_le

/-! ## The rules -/

/-- What stands where a quote opens a predicate: the quote that counts is missing, the anchor
does not stand there, the anchor is not closed, or all is there. -/
inductive PredicateReads (r : Text) : Except Fault TokenType → Text → Prop
  | openPredicate : (∀ front back, ¬ r.CutsAtQuote front back) →
      PredicateReads r (.error .openPredicate) ('"' :: r)
  | withoutAnchor {name back mark : Text} : r.CutsAtQuote name back →
      back.LongestFront id Lexeme.anchorMarker mark → mark ≠ Lexeme.anchorMarker →
      PredicateReads r (.error .predicateWithoutAnchor) ('"' :: (name ++ mark))
  | openAnchor {name back : Text} : r.CutsAtQuote name (Lexeme.anchorMarker ++ back) →
      ']' ∉ back → PredicateReads r (.error .openAnchor) ('"' :: r)
  | closed {name anchor rest : Text} :
      r.CutsAtQuote name (Lexeme.anchorMarker ++ (anchor ++ ']' :: rest)) → ']' ∉ anchor →
      PredicateReads r (.ok .predicate)
        ('"' :: (name ++ Lexeme.anchorMarker ++ anchor ++ [']']))

/-- What stands where a quote opens a literal: the quote that counts is missing, the type does
not stand there, or it does, in any case, and all letters and numerals behind it are the tag. -/
inductive LiteralReads (r : Text) : Except Fault TokenType → Text → Prop
  | openLiteral : (∀ front back, ¬ r.CutsAtQuote front back) →
      LiteralReads r (.error .openLiteral) ('"' :: r)
  | withoutType {value back mark : Text} : r.CutsAtQuote value back →
      back.LongestFront Char.toLower Lexeme.typeMarker mark →
      Text.lowerAscii mark ≠ Lexeme.typeMarker →
      LiteralReads r (.error .literalWithoutType) ('"' :: (value ++ mark))
  | unknownType {value mark tag rest : Text} : r.CutsAtQuote value (mark ++ (tag ++ rest)) →
      Text.lowerAscii mark = Lexeme.typeMarker → (∀ c ∈ tag, isLetterOrNumeral c = true) →
      (∀ c ∈ rest.head?, isLetterOrNumeral c = false) → tag.lower ∉ Lexeme.literalTags →
      LiteralReads r (.error (.unknownLiteralType tag.lower)) ('"' :: (value ++ mark ++ tag))
  | typed {value mark tag rest : Text} : r.CutsAtQuote value (mark ++ (tag ++ rest)) →
      Text.lowerAscii mark = Lexeme.typeMarker → (∀ c ∈ tag, isLetterOrNumeral c = true) →
      (∀ c ∈ rest.head?, isLetterOrNumeral c = false) → tag.lower ∈ Lexeme.literalTags →
      LiteralReads r (.ok .literal) ('"' :: (value ++ mark ++ tag))

/-- What stands behind a quote where a token starts. An anchor anywhere behind it makes it a
predicate, and if there is none, a type makes it a literal. -/
inductive QuoteReads (r : Text) : Except Fault TokenType → Text → Prop
  | predicate {found : Except Fault TokenType} {text : Text} :
      Lexeme.anchorMarker <:+: '"' :: r → PredicateReads r found text → QuoteReads r found text
  | literal {found : Except Fault TokenType} {text : Text} :
      ¬ Lexeme.anchorMarker <:+: '"' :: r → Lexeme.typeMarker <:+: '"' :: r →
      LiteralReads r found text → QuoteReads r found text
  | lonely : ¬ Lexeme.anchorMarker <:+: '"' :: r → ¬ Lexeme.typeMarker <:+: '"' :: r →
      QuoteReads r (.error .lonelyQuote) []

namespace Lexeme

variable {r s t front back marker mark tag rest text : Text} {case : Char → Char}
  {found : Except Fault TokenType}

/-! ## Searches -/

theorem cutQuote_eq_some_iff_cuts : cutQuote t = some (front, back) ↔ t.CutsAtQuote front back := by
  rw [cutQuote_eq_some_iff]
  exact ⟨fun ⟨joins, quote, escaped, unprotected⟩ => ⟨joins, quote, escaped, unprotected⟩,
    fun h => ⟨h.joins, h.quote, h.escaped, h.unprotected⟩⟩

theorem cutQuote_eq_none_iff : cutQuote t = none ↔ ∀ front back, ¬ t.CutsAtQuote front back := by
  rw [Option.eq_none_iff_forall_ne_some, Prod.forall]
  refine forall_congr' fun front => forall_congr' fun back => ?_
  rw [Ne, cutQuote_eq_some_iff_cuts]

theorem longestFront_take_agreeing (h : ReadBy case marker) (t : Text) :
    t.LongestFront case marker (t.take (agreeing marker t)) := by
  fun_induction agreeing marker t with
  | case1 m ms c cs same ih =>
    have rest := ih fun x mem => h x (List.mem_cons_of_mem _ mem)
    have first : case c = m := (h m List.mem_cons_self c).1 same
    rw [List.take_succ_cons]
    refine ⟨?_, ?_, ?_⟩
    · rw [List.cons_prefix_cons]
      exact ⟨rfl, rest.starts⟩
    · rw [List.map_cons, List.cons_prefix_cons]
      exact ⟨first, rest.reads⟩
    · intro other starts reads
      cases other with
      | nil => exact List.nil_prefix
      | cons d other =>
        rw [List.map_cons, List.cons_prefix_cons] at reads
        rw [List.cons_prefix_cons] at starts ⊢
        exact ⟨starts.1, rest.longest other starts.2 reads.2⟩
  | case2 m ms c cs differ =>
    refine ⟨List.nil_prefix, List.nil_prefix, ?_⟩
    intro other starts reads
    cases other with
    | nil => exact List.nil_prefix
    | cons d other =>
      rw [List.map_cons, List.cons_prefix_cons] at reads
      rw [List.cons_prefix_cons] at starts
      rw [starts.1] at reads
      exact absurd ((h m List.mem_cons_self c).2 reads.1) differ
  | case3 marker t ended =>
    refine ⟨List.nil_prefix, List.nil_prefix, ?_⟩
    intro other starts reads
    cases t with
    | nil => exact starts
    | cons c cs =>
      cases marker with
      | nil =>
        rw [List.prefix_nil, List.map_eq_nil_iff] at reads
        rw [reads]
        exact List.nil_prefix
      | cons m ms => exact (ended m ms c cs rfl rfl).elim

/-- A marker agrees to its end where it is read in full. -/
theorem map_take_agreeing_iff (h : ReadBy case marker) (t : Text) :
    (t.take (agreeing marker t)).map case = marker ↔ ¬ agreeing marker t < marker.length := by
  refine ⟨?_, fun whole => (spells_iff_map_eq h).1 (spells_take_agreeing whole)⟩
  intro whole
  have length := congrArg List.length whole
  rw [List.length_map, List.length_take] at length
  omega

/-! ## Predicates -/

theorem predicateReads_predicate (r : Text) :
    PredicateReads r (predicate r).found (predicate r).text := by
  unfold predicate
  cases cut : cutQuote r with
  | none => exact .openPredicate (cutQuote_eq_none_iff.1 cut)
  | some parts =>
    obtain ⟨name, back⟩ := parts
    have cuts := cutQuote_eq_some_iff_cuts.1 cut
    have whole := map_take_agreeing_iff readBy_anchorMarker back
    rw [List.map_id] at whole
    dsimp only
    by_cases part : agreeing anchorMarker back < anchorMarker.length
    · rw [if_pos part]
      exact .withoutAnchor cuts (longestFront_take_agreeing readBy_anchorMarker back)
        fun same => whole.1 same part
    rw [if_neg part]
    have parts := List.take_append_drop (agreeing anchorMarker back) back
    rw [whole.2 part] at parts
    rw [← parts] at cuts
    cases closes : (back.drop (agreeing anchorMarker back)).dropWhile (· ≠ ']') with
    | nil => exact .openAnchor cuts (Text.not_mem_of_dropWhile closes)
    | cons c rest =>
      obtain ⟨rfl, anchor, before⟩ := Text.cut_of_dropWhile_ne closes
      rw [anchor] at cuts
      have reads := PredicateReads.closed cuts before
      dsimp only
      rw [whole.2 part]
      exact reads

theorem predicate_of_reads (h : PredicateReads r found text) :
    (predicate r).found = found ∧ (predicate r).text = text := by
  cases h with
  | openPredicate uncut =>
    rw [predicate, cutQuote_eq_none_iff.2 uncut]
    exact ⟨rfl, rfl⟩
  | @withoutAnchor name back mark cuts longest part =>
    obtain rfl := longest.unique (longestFront_take_agreeing readBy_anchorMarker back)
    have whole := map_take_agreeing_iff readBy_anchorMarker back
    rw [List.map_id] at whole
    rw [predicate, cutQuote_eq_some_iff_cuts.2 cuts]
    dsimp only
    rw [if_pos (not_not.1 fun all => part (whole.2 all))]
    exact ⟨rfl, rfl⟩
  | @openAnchor name back cuts absent =>
    have all : back.dropWhile (· ≠ ']') = [] := by
      rw [List.dropWhile_eq_nil_iff]
      intro c mem
      have other : c ≠ ']' := fun same => absent (same ▸ mem)
      simpa using other
    rw [predicate, cutQuote_eq_some_iff_cuts.2 cuts]
    dsimp only
    rw [agreeing_append (spells_anchorMarker_iff.2 rfl), if_neg (Nat.lt_irrefl _),
      List.drop_left, all]
    exact ⟨rfl, rfl⟩
  | @closed name anchor rest cuts before =>
    have made : predicate r = ⟨.ok .predicate,
        '"' :: (name ++ anchorMarker ++ (anchor ++ [']'])), rest⟩ := by
      apply predicate_eq_ok_iff.2
      refine ⟨name, anchor, ?_, rfl, cuts.escaped, cuts.unprotected, before⟩
      rw [cuts.joins, List.append_assoc]
    rw [made]
    exact ⟨rfl, by simp⟩

/-! ## Literals -/

theorem literalReads_literal (r : Text) : LiteralReads r (literal r).found (literal r).text := by
  unfold literal
  cases cut : cutQuote r with
  | none => exact .openLiteral (cutQuote_eq_none_iff.1 cut)
  | some parts =>
    obtain ⟨value, back⟩ := parts
    have cuts := cutQuote_eq_some_iff_cuts.1 cut
    have whole := map_take_agreeing_iff readBy_typeMarker back
    dsimp only
    by_cases part : agreeing typeMarker back < typeMarker.length
    · rw [if_pos part]
      exact .withoutType cuts (longestFront_take_agreeing readBy_typeMarker back)
        fun same => whole.1 same part
    rw [if_neg part]
    have mark := whole.2 part
    have parts := List.take_append_drop (agreeing typeMarker back) back
    rw [← List.takeWhile_append_dropWhile (p := isLetterOrNumeral)
      (l := back.drop (agreeing typeMarker back))] at parts
    rw [← parts] at cuts
    have all : ∀ c ∈ (back.drop (agreeing typeMarker back)).takeWhile isLetterOrNumeral,
        isLetterOrNumeral c = true := fun c mem => List.mem_takeWhile_imp mem
    have ends := Text.stop_dropWhile isLetterOrNumeral (back.drop (agreeing typeMarker back))
    split
    · rename_i known
      exact .typed cuts mark all ends known
    · rename_i unknown
      exact .unknownType cuts mark all ends unknown

theorem literal_of_cuts {value mark tag rest : Text}
    (cuts : r.CutsAtQuote value (mark ++ (tag ++ rest)))
    (reads : Text.lowerAscii mark = typeMarker) (all : ∀ c ∈ tag, isLetterOrNumeral c = true)
    (ends : ∀ c ∈ rest.head?, isLetterOrNumeral c = false) :
    literal r =
      ⟨if tag.lower ∈ literalTags then .ok .literal else .error (.unknownLiteralType tag.lower),
        '"' :: value ++ mark ++ tag, rest⟩ := by
  have named : mark ≠ [] := by
    rintro rfl
    cases reads
  have starts := cuts.quote
  rw [List.head?_append_of_ne_nil _ named] at starts
  rw [cuts.joins, ← List.append_assoc]
  exact literal_of_marked cuts.escaped cuts.unprotected starts
    ((spells_iff_map_eq readBy_typeMarker).2 reads) all ends

theorem literal_of_reads (h : LiteralReads r found text) :
    (literal r).found = found ∧ (literal r).text = text := by
  cases h with
  | openLiteral uncut =>
    rw [literal, cutQuote_eq_none_iff.2 uncut]
    exact ⟨rfl, rfl⟩
  | @withoutType value back mark cuts longest part =>
    obtain rfl := longest.unique (longestFront_take_agreeing readBy_typeMarker back)
    have whole := map_take_agreeing_iff readBy_typeMarker back
    rw [literal, cutQuote_eq_some_iff_cuts.2 cuts]
    dsimp only
    rw [if_pos (not_not.1 fun all => part (whole.2 all))]
    exact ⟨rfl, rfl⟩
  | unknownType cuts reads all ends unknown =>
    rw [literal_of_cuts cuts reads all ends]
    exact ⟨if_neg unknown, rfl⟩
  | typed cuts reads all ends known =>
    rw [literal_of_cuts cuts reads all ends]
    exact ⟨if_pos known, rfl⟩

/-! ## Quotes -/

theorem quoteReads_quoted (r : Text) : QuoteReads r (quoted r).found (quoted r).text := by
  unfold quoted
  split
  · rename_i anchor
    exact .predicate (Text.occursIn_iff.1 anchor) (predicateReads_predicate r)
  · rename_i noAnchor
    rw [Text.occursIn_iff] at noAnchor
    split
    · rename_i type
      exact .literal noAnchor (Text.occursIn_iff.1 type) (literalReads_literal r)
    · rename_i noType
      rw [Text.occursIn_iff] at noType
      exact .lonely noAnchor noType

theorem quoted_of_reads (h : QuoteReads r found text) :
    (quoted r).found = found ∧ (quoted r).text = text := by
  unfold quoted
  cases h with
  | predicate anchor reads =>
    rw [if_pos (Text.occursIn_iff.2 anchor)]
    exact predicate_of_reads reads
  | literal noAnchor type reads =>
    rw [← Text.occursIn_iff] at noAnchor
    rw [if_neg noAnchor, if_pos (Text.occursIn_iff.2 type)]
    exact literal_of_reads reads
  | lonely noAnchor noType =>
    rw [← Text.occursIn_iff] at noAnchor noType
    rw [if_neg noAnchor, if_neg noType]
    exact ⟨rfl, rfl⟩

end Lexeme

/-! ## Tokens at a quote -/

/-- The token tells what was found, and the text, which stands behind another one. An error
reports the place behind the text. -/
structure Token.Tells (t : Token) (before : Text) (found : Except Fault TokenType) (u : Text) :
    Prop where
  text : t.text = u
  ok : ∀ k, found = .ok k → t.type = k ∧ t.message = none
  error : ∀ f, found = .error f →
    t.type = .error ∧ t.message = some (Lexer.report (before ++ u).place f)

theorem Lexeme.tells_tokenBehind (x : Lexeme) (done : Text) :
    (x.tokenBehind done).Tells done x.found x.text := by
  refine ⟨rfl, ?_, ?_⟩
  · intro k found
    simp only [tokenBehind, type, found, and_self]
  · intro f found
    rw [← Cursor.past_start]
    simp only [tokenBehind, type, found, and_self]

/-- Where a token starts with a quote, the rules say what it is, and they say one thing only. -/
theorem quoted_token_reads {before r : Text} {t : Token} (mem : t ∈ tokenize (before ++ '"' :: r))
    (here : t.offset = before.byteLength) :
    ∃ found text, QuoteReads r found text ∧ t.Tells before found text ∧
      ∀ found' text', QuoteReads r found' text' → found' = found ∧ text' = text := by
  obtain ⟨done, q, whole, -, rfl⟩ := exists_lexeme_of_mem_tokenize mem
  have same : done.byteLength = before.byteLength := here
  have behind : q = '"' :: r := by
    rw [← Text.fromByte_append done q, ← whole, same, Text.fromByte_append]
  subst behind
  obtain rfl := List.append_cancel_right whole
  refine ⟨_, _, Lexeme.quoteReads_quoted r, Lexeme.tells_tokenBehind (.quoted r) before, ?_⟩
  intro found' text' reads
  obtain ⟨found, text⟩ := Lexeme.quoted_of_reads reads
  exact ⟨found.symm, text.symm⟩

/-- A quote behind a backslash ends nothing, so the predicate stays open although an anchor
follows. -/
theorem quoted_token_reads_of_escaped_quote : ∃ t, tokenize "\"x\\\"@[]".toList = [t] ∧
    t.type = .error ∧ t.text = "\"x\\\"@[]".toList ∧
    t.message = some (Lexer.report ⟨0, 7, 7⟩ .openPredicate) := by
  let r : Text := "x\\\"@[]".toList
  let l := Lexer.ofText ([] ++ '"' :: r)
  have tokens : tokenize ([] ++ '"' :: r) = [l.token] := Lexer.tokens_eq_calls (n := 1) rfl
  have unclosed : QuoteReads r (.error .openPredicate) ('"' :: r) := by
    refine .predicate (Text.occursIn_iff.1 (by decide)) (.openPredicate ?_)
    exact Lexeme.cutQuote_eq_none_iff.1 (by decide)
  obtain ⟨found, text, -, tells, unique⟩ :=
    @quoted_token_reads [] r l.token (by rw [tokens]; exact List.mem_singleton_self _) rfl
  obtain ⟨rfl, rfl⟩ := unique _ _ unclosed
  obtain ⟨type, message⟩ := tells.error _ rfl
  exact ⟨l.token, tokens, type, tells.text, message⟩

end GraphText
