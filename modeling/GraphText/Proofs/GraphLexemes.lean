-- The graph values among the lexemes: where a node, a predicate and a literal start, what
-- they hold, and where they end.
import GraphText.Graph.Literal
import GraphText.Proofs.Delimiters
import GraphText.Proofs.LowerForms
import GraphText.Proofs.Markers
import GraphText.Proofs.TokenPartition

namespace GraphText.Lexeme

open Text (AllEscaped EndsInBackslash AllLowAscii)

variable {s u r : Text}

/-! ## Markers in any case -/

/-- The text spells the marker, in some mixture of cases. -/
def Spells (marker t : Text) : Prop := t.map lowerChar = marker.map lowerChar

theorem spells_take_agreeing {marker t : Text} (h : ¬ agreeing marker t < marker.length) :
    Spells marker (t.take (agreeing marker t)) := by
  fun_induction agreeing marker t with
  | case1 m ms c cs same ih =>
    have rest : Spells ms (cs.take (agreeing ms cs)) := by
      apply ih
      simpa using h
    rw [Spells, List.take_succ_cons, List.map_cons, List.map_cons, same, rest]
  | case2 m ms c cs other => simp at h
  | case3 marker t ended =>
    cases marker with
    | nil => rfl
    | cons m ms => simp at h

theorem agreeing_append {marker v : Text} (h : Spells marker v) (r : Text) :
    agreeing marker (v ++ r) = marker.length := by
  induction marker generalizing v with
  | nil => simp [agreeing]
  | cons m ms ih =>
    cases v with
    | nil => simp [Spells] at h
    | cons c cs =>
      simp only [Spells, List.map_cons, List.cons.injEq] at h
      rw [List.cons_append, agreeing, if_pos h.1, ih h.2, List.length_cons]

theorem Spells.length_eq {marker t : Text} (h : Spells marker t) : t.length = marker.length := by
  have same := congrArg List.length h
  simpa using same

/-- The characters of the marker are told from others by reading them in the case. -/
def ReadBy (case : Char → Char) (marker : Text) : Prop :=
  ∀ m ∈ marker, ∀ c, lowerChar c = lowerChar m ↔ case c = m

theorem readBy_toLower {marker : Text} (low : AllLowAscii marker) : ReadBy Char.toLower marker :=
  fun m mem _ => (low m mem).lowerChar_eq_iff

theorem readBy_anchorMarker : ReadBy id anchorMarker := by
  intro m mem c
  have low : IsLowAscii m := (by decide : AllLowAscii anchorMarker) m mem
  have noCase : m.isLower = false := by
    simp only [anchorMarker, List.mem_cons, List.not_mem_nil, or_false] at mem
    rcases mem with rfl | rfl | rfl <;> rfl
  refine ⟨low.eq_of_lowerChar noCase, ?_⟩
  rintro rfl
  rfl

theorem spells_iff_map_eq {case : Char → Char} {marker t : Text} (h : ReadBy case marker) :
    Spells marker t ↔ t.map case = marker := by
  unfold Spells
  induction marker generalizing t with
  | nil => simp
  | cons m ms ih =>
    cases t with
    | nil => simp
    | cons c cs =>
      have rest := ih (t := cs) fun x mem => h x (List.mem_cons_of_mem _ mem)
      rw [List.map_cons, List.map_cons, List.map_cons, List.cons.injEq, List.cons.injEq, rest,
        h m List.mem_cons_self c]

/-- A marker in ASCII is spelled in ASCII. -/
theorem Spells.lowerAscii_eq {marker t : Text} (h : Spells marker t) (low : AllLowAscii marker) :
    Text.lowerAscii t = marker :=
  (spells_iff_map_eq (readBy_toLower low)).1 h

theorem allLowAscii_typeMarker : AllLowAscii typeMarker := by decide

theorem readBy_typeMarker : ReadBy Char.toLower typeMarker := readBy_toLower allLowAscii_typeMarker

theorem spells_anchorMarker_iff {t : Text} : Spells anchorMarker t ↔ t = anchorMarker := by
  rw [spells_iff_map_eq readBy_anchorMarker, List.map_id]

/-! ## The three forms -/

/-- A node ends with the first closing bracket, and an opening one that counts stands in
front of it. -/
theorem node_eq_ok_iff : node s = ⟨.ok .node, u, r⟩ ↔
    ∃ body, s = body ++ '>' :: r ∧ u = body ++ ['>'] ∧ '>' ∉ body ∧ ¬ AllEscaped '<' body := by
  refine ⟨?_, ?_⟩
  · intro h
    unfold node at h
    split at h
    · simp at h
    · rename_i c rest cut
      obtain ⟨rfl, parts, before⟩ := Text.cut_of_dropWhile_ne cut
      simp only [mk.injEq] at h
      obtain ⟨found, rfl, rfl⟩ := h
      refine ⟨_, parts, rfl, before, ?_⟩
      rw [← opensId_iff]
      by_contra closed
      rw [if_neg closed] at found
      cases found
  · rintro ⟨body, rfl, rfl, before, opens⟩
    obtain ⟨front, back⟩ := Text.takeWhile_ne (r := r) before
    unfold node
    rw [back, front]
    simp [opensId_iff.2 opens]

/-- A predicate goes on behind its first quote that counts with a marker, and ends with the
first square bracket behind it. -/
theorem predicate_eq_ok_iff {q : Text} : predicate q = ⟨.ok .predicate, u, r⟩ ↔
    ∃ id anchor, q = id ++ anchorMarker ++ (anchor ++ ']' :: r) ∧
      u = '"' :: (id ++ anchorMarker ++ (anchor ++ [']'])) ∧ AllEscaped '"' id ∧
      ¬ EndsInBackslash id ∧ ']' ∉ anchor := by
  refine ⟨?_, ?_⟩
  · intro h
    unfold predicate at h
    split at h
    · simp at h
    · rename_i id tail cut
      obtain ⟨joined, -, escaped, unprotected⟩ := cutQuote_eq_some_iff.1 cut
      dsimp only at h
      split at h
      · simp at h
      · rename_i all
        have marked := spells_anchorMarker_iff.1 (spells_take_agreeing all)
        split at h
        · simp at h
        · rename_i c rest closes
          obtain ⟨rfl, parts, before⟩ := Text.cut_of_dropWhile_ne closes
          simp only [mk.injEq] at h
          obtain ⟨-, rfl, rfl⟩ := h
          refine ⟨id, _, ?_, ?_, escaped, unprotected, before⟩
          · rw [joined, ← parts, List.append_assoc]
            nth_rewrite 1 [← List.take_append_drop (agreeing anchorMarker tail) tail]
            rw [marked]
          · rw [marked]
            simp
  · rintro ⟨id, anchor, rfl, rfl, escaped, unprotected, before⟩
    have cut : cutQuote (id ++ anchorMarker ++ (anchor ++ ']' :: r)) =
        some (id, anchorMarker ++ (anchor ++ ']' :: r)) := by
      rw [cutQuote_eq_some_iff]
      exact ⟨by simp, rfl, escaped, unprotected⟩
    have count := agreeing_append (spells_anchorMarker_iff.2 rfl) (anchor ++ ']' :: r)
    obtain ⟨front, back⟩ := Text.takeWhile_ne (r := r) before
    unfold predicate
    rw [cut]
    dsimp only
    rw [count, if_neg (Nat.lt_irrefl _), List.drop_left, List.take_left, back, front]
    simp

/-- The letters and numerals behind a marker in any case are the tag. -/
theorem literal_of_marked {value mark tag : Text} (escaped : AllEscaped '"' value)
    (unprotected : ¬ EndsInBackslash value) (starts : mark.head? = some '"')
    (spells : Spells typeMarker mark) (all : ∀ c ∈ tag, isLetterOrNumeral c = true)
    (ends : ∀ c ∈ r.head?, isLetterOrNumeral c = false) :
    literal (value ++ mark ++ (tag ++ r)) =
      ⟨if tag.lower ∈ literalTags then .ok .literal else .error (.unknownLiteralType tag.lower),
        '"' :: value ++ mark ++ tag, r⟩ := by
  have cut : cutQuote (value ++ mark ++ (tag ++ r)) = some (value, mark ++ (tag ++ r)) := by
    rw [cutQuote_eq_some_iff]
    refine ⟨by simp, ?_, escaped, unprotected⟩
    rw [List.head?_append, starts]
    rfl
  have count := agreeing_append spells (tag ++ r)
  have length := spells.length_eq
  have front : (tag ++ r).takeWhile isLetterOrNumeral = tag := by
    rw [Text.takeWhile_append_of_stop ends, List.takeWhile_eq_self_iff.2 all]
  have back : (tag ++ r).dropWhile isLetterOrNumeral = r := by
    rw [Text.dropWhile_append_of_stop ends, List.dropWhile_eq_nil_iff.2 all, List.nil_append]
  unfold literal
  rw [cut]
  dsimp only
  rw [count, ← length, if_neg (Nat.lt_irrefl _), List.drop_left, List.take_left, back, front]

/-- A literal goes on behind its first quote that counts with a marker in any case, and ends
with the letters and numerals behind it. -/
theorem literal_eq_ok_iff {q : Text} : literal q = ⟨.ok .literal, u, r⟩ ↔
    ∃ value mark tag, q = value ++ mark ++ (tag ++ r) ∧ u = '"' :: (value ++ mark ++ tag) ∧
      AllEscaped '"' value ∧ ¬ EndsInBackslash value ∧ mark.head? = some '"' ∧
      Spells typeMarker mark ∧ (∀ c ∈ tag, isLetterOrNumeral c = true) ∧
      (∀ c ∈ r.head?, isLetterOrNumeral c = false) ∧ tag.lower ∈ literalTags := by
  refine ⟨?_, ?_⟩
  · intro h
    unfold literal at h
    split at h
    · simp at h
    · rename_i value tail cut
      obtain ⟨joined, starts, escaped, unprotected⟩ := cutQuote_eq_some_iff.1 cut
      dsimp only at h
      split at h
      · simp at h
      · rename_i all
        simp only [mk.injEq] at h
        obtain ⟨found, rfl, rfl⟩ := h
        refine ⟨value, _, _, ?_, rfl, escaped, unprotected, ?_, spells_take_agreeing all, ?_,
          Text.stop_dropWhile _ _, ?_⟩
        · rw [List.takeWhile_append_dropWhile, List.append_assoc, List.take_append_drop, joined]
        · obtain ⟨t, rfl⟩ := List.head?_eq_some_iff.1 starts
          have begun : agreeing typeMarker ('"' :: t) ≠ 0 := by
            intro zero
            rw [zero] at all
            exact all (by decide)
          obtain ⟨n, count⟩ := Nat.exists_eq_succ_of_ne_zero begun
          rw [count, List.take_succ_cons, List.head?_cons]
        · intro c mem
          exact List.mem_takeWhile_imp mem
        · by_contra unknown
          rw [if_neg unknown] at found
          simp at found
  · rintro ⟨value, mark, tag, rfl, rfl, escaped, unprotected, starts, spells, all, ends, known⟩
    rw [literal_of_marked escaped unprotected starts spells all ends, if_pos known]
    rfl

/-- The tags are the lower forms of ASCII texts only. -/
theorem exists_name_of_lower_mem {tag : Text} (h : tag.lower ∈ literalTags) :
    ∃ k : LiteralType, Text.lowerAscii tag = k.name := by
  have tags : literalTags = LiteralType.all.map LiteralType.name := rfl
  rw [tags] at h
  obtain ⟨k, -, name⟩ := List.mem_map.1 h
  have low : AllLowAscii k.name := by cases k <;> decide
  exact ⟨k, Text.lowerAscii_of_lower name.symm low⟩

/-! ## The front of a text -/

theorem eq_of_type {x : Lexeme} {t : TokenType} (h : x.type = t) (value : t ≠ .error) :
    x = ⟨.ok t, x.text, x.rest⟩ := by
  obtain ⟨found, text, rest⟩ := x
  cases found with
  | ok k =>
    obtain rfl : k = t := h
    rfl
  | error f => exact absurd h.symm value

theorem ofText_eq_node_iff : ofText s = ⟨.ok .node, u, r⟩ ↔
    s.head? = some '/' ∧ node s = ⟨.ok .node, u, r⟩ := by
  refine ⟨?_, ?_⟩
  · intro h
    rcases cases_of_found (by rw [h] : (ofText s).found = .ok .node) with
      ⟨q, rfl, -⟩ | ⟨q, rfl, found⟩ | kind | ⟨k, kind⟩ | ⟨p, kind⟩ | ⟨kind, -⟩
    · exact ⟨rfl, h⟩
    · rcases found_quoted found with ⟨kind, -⟩ | ⟨kind, -⟩
      · cases kind
      · cases kind
    all_goals cases kind
  · rintro ⟨starts, h⟩
    obtain ⟨q, rfl⟩ := List.head?_eq_some_iff.1 starts
    exact h

theorem ofText_eq_predicate_iff : ofText s = ⟨.ok .predicate, u, r⟩ ↔
    ∃ q, s = '"' :: q ∧ Text.occursIn anchorMarker s = true ∧
      predicate q = ⟨.ok .predicate, u, r⟩ := by
  refine ⟨?_, ?_⟩
  · intro h
    rcases cases_of_found (by rw [h] : (ofText s).found = .ok .predicate) with
      ⟨q, rfl, kind⟩ | ⟨q, rfl, found⟩ | kind | ⟨k, kind⟩ | ⟨p, kind⟩ | ⟨kind, -⟩
    · cases kind
    · rcases found_quoted found with ⟨-, anchor, same⟩ | ⟨kind, -⟩
      · exact ⟨q, rfl, anchor, same.symm.trans h⟩
      · cases kind
    all_goals cases kind
  · rintro ⟨q, rfl, anchor, h⟩
    change quoted q = _
    rw [quoted, if_pos anchor, h]

theorem ofText_eq_literal_iff : ofText s = ⟨.ok .literal, u, r⟩ ↔
    ∃ q, s = '"' :: q ∧ Text.occursIn anchorMarker s = false ∧
      Text.occursIn typeMarker s = true ∧ literal q = ⟨.ok .literal, u, r⟩ := by
  refine ⟨?_, ?_⟩
  · intro h
    rcases cases_of_found (by rw [h] : (ofText s).found = .ok .literal) with
      ⟨q, rfl, kind⟩ | ⟨q, rfl, found⟩ | kind | ⟨k, kind⟩ | ⟨p, kind⟩ | ⟨kind, -⟩
    · cases kind
    · rcases found_quoted found with ⟨kind, -⟩ | ⟨-, noAnchor, type, same⟩
      · cases kind
      · exact ⟨q, rfl, noAnchor, type, same.symm.trans h⟩
    all_goals cases kind
  · rintro ⟨q, rfl, noAnchor, type, h⟩
    change quoted q = _
    rw [quoted, if_neg (by simp [noAnchor]), if_pos type, h]

end GraphText.Lexeme
