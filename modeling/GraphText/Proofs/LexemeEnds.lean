-- Where lexemes end. A lexeme ends where a blank follows, and what stands behind the blank
-- makes no difference to it. The one exception is the search for an anchor, which reaches to
-- the end of the query: an anchor far behind a literal makes it a predicate that is not
-- closed.
import GraphText.Proofs.GraphLexemes
import GraphText.Proofs.Numerals

namespace GraphText

open Text (AllBlank IsGap AllEscaped EndsInBackslash)

/-! ## Blanks behind a text -/

theorem Ranges.exists_of_has {ranges : Ranges} {n : Nat} (h : ranges.has n = true) :
    ∃ p ∈ ranges, p.1 ≤ n ∧ n ≤ p.2 := by
  induction ranges with
  | nil => cases h
  | cons p more ih =>
    unfold has at h
    split at h
    · cases h
    · rename_i behind
      rcases Bool.or_eq_true_iff.1 h with within | later
      · exact ⟨p, List.mem_cons_self, Nat.le_of_not_lt behind, of_decide_eq_true within⟩
      · obtain ⟨q, mem, bounds⟩ := ih later
        exact ⟨q, List.mem_cons_of_mem _ mem, bounds⟩

/-- A blank is no part of a word. -/
theorem isLetterOrNumeral_of_isBlank {c : Char} (h : isBlank c = true) :
    isLetterOrNumeral c = false := by
  have apart : ∀ p ∈ Ranges.blank, ∀ i < p.2 - p.1 + 1,
      (Ranges.letters.has (p.1 + i) || Ranges.numerals.has (p.1 + i)) = false := by
    decide +kernel
  obtain ⟨p, mem, first, last⟩ := Ranges.exists_of_has h
  have here := apart p mem (c.toNat - p.1) (by omega)
  rw [Nat.add_sub_cancel' first] at here
  exact here

theorem isLetter_of_isBlank {c : Char} (h : isBlank c = true) : isLetter c = false :=
  (Bool.or_eq_false_iff.1 (isLetterOrNumeral_of_isBlank h)).1

namespace Text

/-- The text is empty or a blank stands in front. -/
def StartsBlank (t : Text) : Prop := ∀ c ∈ t.head?, isBlank c = true

variable {s t w m : Text}

theorem IsGap.startsBlank_append (h : IsGap w) (t : Text) : (w ++ t).StartsBlank := by
  obtain ⟨nonempty, blank⟩ := h
  intro c mem
  rw [List.head?_append_of_ne_nil _ nonempty] at mem
  exact blank c (List.mem_of_mem_head? mem)

/-- A blank stands in front, or the character that stands in front of the other text. -/
def StopsLike (t r : Text) : Prop := ∀ c ∈ t.head?, isBlank c = true ∨ r.head? = some c

theorem StopsLike.stops {r : Text} {p : Char → Bool} (like : t.StopsLike r)
    (blank : ∀ c, isBlank c = true → p c = false) (ends : ∀ c ∈ r.head?, p c = false) :
    ∀ c ∈ t.head?, p c = false := by
  intro c mem
  rcases like c mem with isBlank | same
  · exact blank c isBlank
  · exact ends c same

/-- A run is the same in front of a text that stops it. -/
theorem StopsLike.takeWhile_append {p : Char → Bool} (like : t.StopsLike (s.dropWhile p))
    (blank : ∀ c, isBlank c = true → p c = false) :
    (s.takeWhile p ++ t).takeWhile p = s.takeWhile p ∧
      (s.takeWhile p ++ t).dropWhile p = t := by
  have stop := like.stops blank (stop_dropWhile p s)
  have all : ∀ c ∈ s.takeWhile p, p c = true := fun c mem => List.mem_takeWhile_imp mem
  refine ⟨?_, ?_⟩
  · rw [takeWhile_append_of_stop stop, List.takeWhile_eq_self_iff.2 all]
  · rw [dropWhile_append_of_stop stop, List.dropWhile_eq_nil_iff.2 all, List.nil_append]

/-- A marker does not reach into a text that starts with no character of it. -/
theorem infix_append_iff_of_head? (h : ∀ c ∈ t.head?, c ∉ m) :
    m <:+: s ++ t ↔ m <:+: s ∨ m <:+: t := by
  refine ⟨infix_append_of_apart ?_, ?_⟩
  · rintro p q rfl - named - ⟨v, rfl⟩
    obtain ⟨c, q, rfl⟩ := List.exists_cons_of_ne_nil named
    exact h c rfl (by simp)
  · rintro (inside | inside)
    · exact inside.trans (List.prefix_append s t).isInfix
    · exact inside.trans (List.suffix_append s t).isInfix

/-- No blank stands in the marker, and the marker is not empty. -/
def IsSolid (m : Text) : Prop := m ≠ [] ∧ ∀ c ∈ m, isBlank c = false

instance (m : Text) : Decidable (IsSolid m) :=
  decidable_of_iff (m ≠ [] ∧ (m.all fun c => !isBlank c) = true) (by simp [IsSolid])

theorem IsSolid.not_infix_blank (h : IsSolid m) (blank : AllBlank w) : ¬ m <:+: w := by
  intro inside
  obtain ⟨c, r, rfl⟩ := List.exists_cons_of_ne_nil h.1
  have solid := h.2 c List.mem_cons_self
  rw [blank c (inside.subset List.mem_cons_self)] at solid
  cases solid

/-- A marker does not reach over a blank. -/
theorem IsSolid.infix_append_iff (h : IsSolid m) (gap : t.StartsBlank) :
    m <:+: s ++ t ↔ m <:+: s ∨ m <:+: t := by
  apply infix_append_iff_of_head?
  intro c first mem
  have solid := h.2 c mem
  rw [gap c first] at solid
  cases solid

theorem IsSolid.infix_gap_append_iff (h : IsSolid m) (blank : AllBlank w) (t : Text) :
    m <:+: w ++ t ↔ m <:+: t := by
  refine ⟨?_, fun inside => inside.trans (List.suffix_append w t).isInfix⟩
  intro inside
  refine (infix_append_of_apart ?_ inside).resolve_left (h.not_infix_blank blank)
  rintro p q rfl named - ⟨v, rfl⟩ -
  obtain ⟨c, p, rfl⟩ := List.exists_cons_of_ne_nil named
  have solid := h.2 c (by simp)
  rw [blank c (by simp)] at solid
  cases solid

end Text

namespace Lexeme

open Text (StartsBlank)

variable {s u r x y q : Text} {k : TokenType}

theorem isSolid_anchorMarker : Text.IsSolid anchorMarker := by decide

theorem anchor_infix_gap_append_iff {w : Text} (blank : AllBlank w) (b : Text) :
    anchorMarker <:+: w ++ b ↔ anchorMarker <:+: b :=
  isSolid_anchorMarker.infix_gap_append_iff blank b

theorem isSolid_typeMarker : Text.IsSolid typeMarker := by decide

/-! ## Kinds of lexemes -/

/-- How a lexeme came about that does not end the query. -/
inductive Arises (s u r : Text) : TokenType → Prop
  | binding {q : Text} : s = '?' :: q → binding q = ⟨.ok .binding, u, r⟩ → Arises s u r .binding
  | word {c : Char} {q : Text} {k : Keyword} : s = c :: q → isLetter c = true →
      word s = ⟨.ok (.keyword k), u, r⟩ → Arises s u r (.keyword k)
  | node : s.head? = some '/' → node s = ⟨.ok .node, u, r⟩ → Arises s u r .node
  | predicate {q : Text} : s = '"' :: q → predicate q = ⟨.ok .predicate, u, r⟩ →
      Arises s u r .predicate
  | literal {q : Text} : s = '"' :: q → ¬ anchorMarker <:+: s → typeMarker <:+: s →
      literal q = ⟨.ok .literal, u, r⟩ → Arises s u r .literal
  | punctuation (p : Punctuation) : s = p.char :: r → u = [p.char] →
      Arises s u r (.punctuation p)

theorem arises_of_eq_ok (h : ofText s = ⟨.ok k, u, r⟩) (goesOn : k.isTerminal = false) :
    Arises s u r k := by
  cases s with
  | nil =>
    cases h
    cases goesOn
  | cons c q =>
    by_cases slash : c = '/'
    · subst slash
      obtain rfl := found_node (s := '/' :: q) (congrArg found h)
      exact .node rfl h
    by_cases quote : c = '"'
    · subst quote
      rcases found_quoted (q := q) (congrArg found h) with
        ⟨rfl, -, same⟩ | ⟨rfl, noAnchor, type, same⟩
      · exact .predicate rfl (same.symm.trans h)
      · rw [← Bool.not_eq_true, Text.occursIn_iff] at noAnchor
        exact .literal rfl noAnchor (Text.occursIn_iff.1 type) (same.symm.trans h)
    rw [ofText] at h
    by_cases question : c = '?'
    · rw [if_pos question] at h
      obtain rfl := found_binding (congrArg found h)
      exact .binding (by rw [question]) h
    rw [if_neg question, if_neg slash, if_neg quote] at h
    by_cases letter : isLetter c = true
    · rw [if_pos letter] at h
      obtain ⟨k, rfl⟩ := found_word (congrArg found h)
      exact .word rfl letter h
    rw [if_neg letter] at h
    cases sign : Punctuation.ofChar? c with
    | some p =>
      rw [sign] at h
      cases h
      have char := Punctuation.ofChar?_eq_some_iff.1 sign
      exact .punctuation p (by rw [char]) (by rw [char])
    | none =>
      rw [sign] at h
      cases h
      cases goesOn

theorem ofText_of_isLetter {c : Char} (letter : isLetter c = true) (q : Text) :
    ofText (c :: q) = word (c :: q) := by
  have other : ∀ d, isLetter d = false → c ≠ d := by
    rintro d no rfl
    rw [no] at letter
    cases letter
  rw [ofText, if_neg (other '?' (by decide)), if_neg (other '/' (by decide)),
    if_neg (other '"' (by decide)), if_pos letter]

theorem ofText_punctuation (p : Punctuation) (q : Text) :
    ofText (p.char :: q) = ⟨.ok (.punctuation p), [p.char], q⟩ := by
  cases p <;> rfl

/-! ## Lexemes in front of another text -/

theorem binding_swap (like : y.StopsLike r) (h : binding q = ⟨.ok k, u, r⟩) :
    ∃ v, u = '?' :: v ∧ (∀ c ∈ v, isLetter c = true) ∧ binding (v ++ y) = ⟨.ok k, u, y⟩ := by
  unfold binding at h
  split at h
  · cases h
  · rename_i named
    obtain ⟨rfl, rfl, rfl⟩ : .binding = k ∧ '?' :: q.takeWhile isLetter = u ∧
        q.dropWhile isLetter = r := by simpa using h
    obtain ⟨front, back⟩ := like.takeWhile_append (fun _ => isLetter_of_isBlank)
    refine ⟨q.takeWhile isLetter, rfl, fun c mem => List.mem_takeWhile_imp mem, ?_⟩
    rw [binding, front, back, if_neg named]

theorem word_swap (like : y.StopsLike r) (h : word s = ⟨.ok k, u, r⟩) :
    (∀ c ∈ u, isLetter c = true) ∧ word (u ++ y) = ⟨.ok k, u, y⟩ := by
  unfold word at h
  split at h
  · rename_i keyword found
    obtain ⟨rfl, rfl, rfl⟩ : .keyword keyword = k ∧ s.takeWhile isLetter = u ∧
        s.dropWhile isLetter = r := by simpa using h
    obtain ⟨front, back⟩ := like.takeWhile_append (fun _ => isLetter_of_isBlank)
    refine ⟨fun c mem => List.mem_takeWhile_imp mem, ?_⟩
    rw [word, front, back, found]
  · cases h

theorem node_swap (h : node s = ⟨.ok .node, u, r⟩) (y : Text) :
    node (u ++ y) = ⟨.ok .node, u, y⟩ := by
  obtain ⟨body, rfl, rfl, closes, opens⟩ := node_eq_ok_iff.1 h
  apply node_eq_ok_iff.2
  exact ⟨body, by simp, rfl, closes, opens⟩

theorem predicate_swap (h : predicate q = ⟨.ok .predicate, u, r⟩) (y : Text) :
    ∃ v, u = '"' :: v ∧ anchorMarker <:+: u ∧ predicate (v ++ y) = ⟨.ok .predicate, u, y⟩ := by
  obtain ⟨id, anchor, rfl, rfl, escaped, unprotected, closes⟩ := predicate_eq_ok_iff.1 h
  refine ⟨_, rfl, ⟨'"' :: id, anchor ++ [']'], by simp⟩, ?_⟩
  apply predicate_eq_ok_iff.2
  exact ⟨id, anchor, by simp, rfl, escaped, unprotected, closes⟩

theorem literal_swap (like : y.StopsLike r) (h : literal q = ⟨.ok .literal, u, r⟩) :
    ∃ v, u = '"' :: v ∧ literal (v ++ y) = ⟨.ok .literal, u, y⟩ := by
  obtain ⟨value, mark, tag, rfl, rfl, escaped, unprotected, starts, spells, all, ends, known⟩ :=
    literal_eq_ok_iff.1 h
  refine ⟨_, rfl, ?_⟩
  apply literal_eq_ok_iff.2
  exact ⟨value, mark, tag, by simp, rfl, escaped, unprotected, starts, spells, all,
    like.stops (fun _ => isLetterOrNumeral_of_isBlank) ends, known⟩

/-- A lexeme is the same in front of another text that stops it. Only a literal looks further:
no anchor may follow, and a type must stand somewhere. -/
theorem ofText_swap (like : y.StopsLike r) (h : ofText s = ⟨.ok k, u, r⟩)
    (goesOn : k.isTerminal = false)
    (markers : k = .literal → ¬ anchorMarker <:+: u ++ y ∧ typeMarker <:+: u ++ y) :
    ofText (u ++ y) = ⟨.ok k, u, y⟩ := by
  have parts : u ++ r = s := by rw [← ofText_append s, h]
  have named : u ≠ [] := by
    have text := text_ne_nil s
    rw [h] at text
    exact text goesOn
  cases arises_of_eq_ok h goesOn with
  | binding opens read =>
    obtain ⟨v, rfl, -, same⟩ := binding_swap like read
    exact same
  | word opens letter read =>
    obtain ⟨letters, same⟩ := word_swap like read
    obtain ⟨c, v, rfl⟩ := List.exists_cons_of_ne_nil named
    rw [List.cons_append, ofText_of_isLetter (letters c List.mem_cons_self)]
    exact same
  | node opens read =>
    apply ofText_eq_node_iff.2
    rw [← parts, List.head?_append_of_ne_nil _ named] at opens
    rw [List.head?_append_of_ne_nil _ named]
    exact ⟨opens, node_swap read y⟩
  | predicate opens read =>
    obtain ⟨v, rfl, anchor, same⟩ := predicate_swap read y
    apply ofText_eq_predicate_iff.2
    refine ⟨v ++ y, rfl, ?_, same⟩
    rw [Text.occursIn_iff]
    exact anchor.trans (List.prefix_append _ y).isInfix
  | literal opens _ _ read =>
    obtain ⟨v, rfl, same⟩ := literal_swap like read
    obtain ⟨noAnchor, type⟩ := markers rfl
    apply ofText_eq_literal_iff.2
    refine ⟨v ++ y, rfl, ?_, Text.occursIn_iff.2 type, same⟩
    rwa [← Bool.not_eq_true, Text.occursIn_iff]
  | punctuation p opens text =>
    rw [text, List.singleton_append]
    exact ofText_punctuation p y

/-- A lexeme in front of a blank is the same whatever follows the blank. Only a literal looks
further, for an anchor. -/
theorem ofText_append_of_blank (gap : x.StartsBlank) (h : ofText s = ⟨.ok k, u, r⟩)
    (goesOn : k.isTerminal = false) (noAnchor : k = .literal → ¬ anchorMarker <:+: x) :
    ofText (s ++ x) = ⟨.ok k, u, r ++ x⟩ := by
  have parts : u ++ (r ++ x) = s ++ x := by
    rw [← List.append_assoc, ← ofText_append s, h]
  have like : (r ++ x).StopsLike r := by
    intro c mem
    cases r with
    | nil => exact .inl (gap c mem)
    | cons d r => exact .inr mem
  rw [← parts]
  refine ofText_swap like h goesOn ?_
  rintro rfl
  cases arises_of_eq_ok h goesOn with
  | literal opens alone type read =>
    rw [parts, isSolid_anchorMarker.infix_append_iff gap, not_or]
    exact ⟨⟨alone, noAnchor rfl⟩, type.trans (List.prefix_append s x).isInfix⟩

/-- What was a literal is at fault once an anchor comes behind it. -/
theorem type_ofText_append_of_anchor (h : ofText s = ⟨.ok .literal, u, r⟩)
    (anchor : anchorMarker <:+: x) : (ofText (s ++ x)).type = .error := by
  obtain ⟨q, rfl, -, -, read⟩ := ofText_eq_literal_iff.1 h
  obtain ⟨value, mark, tag, rfl, -, escaped, unprotected, starts, spells, -⟩ :=
    literal_eq_ok_iff.1 read
  have occurs : Text.occursIn anchorMarker ('"' :: (value ++ mark ++ (tag ++ r) ++ x)) = true := by
    rw [Text.occursIn_iff, ← List.cons_append]
    exact anchor.trans (List.suffix_append _ x).isInfix
  have cut : cutQuote (value ++ mark ++ (tag ++ r) ++ x) =
      some (value, mark ++ (tag ++ r ++ x)) := by
    apply cutQuote_eq_some_iff.2
    refine ⟨by simp, ?_, escaped, unprotected⟩
    rw [List.head?_append, starts]
    rfl
  -- Behind the quote of a literal stands no sign of an anchor.
  have short : agreeing anchorMarker (mark ++ (tag ++ r ++ x)) < anchorMarker.length := by
    obtain ⟨m, rfl⟩ := List.head?_eq_some_iff.1 starts
    have begins : typeMarker = '"' :: '^' :: "^type:".toList := rfl
    rw [Spells, begins] at spells
    cases m with
    | nil => simp at spells
    | cons d m =>
      simp only [List.map_cons, List.cons.injEq] at spells
      have other : lowerChar d ≠ lowerChar '@' := by
        rw [spells.2.1]
        decide
      simp [anchorMarker, agreeing, other]
  change (quoted (value ++ mark ++ (tag ++ r) ++ x)).type = .error
  rw [quoted, if_pos occurs, predicate, cut]
  dsimp only
  rw [if_pos short, type]

end Lexeme

end GraphText
