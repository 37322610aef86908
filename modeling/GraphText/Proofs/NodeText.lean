-- Nodes in writing. A text is a node if it is a type and, between angle brackets, an id
-- that is not empty and holds no closing bracket, and every valid node reads back.
import GraphText.Graph.Node
import GraphText.Proofs.Blanks
import GraphText.Proofs.Escapes
import GraphText.Proofs.Markers

namespace GraphText.Node

theorem isId_unescape {w : Text} : IsId (Text.unescape '<' w) ↔ IsId w := by
  have sheds := Text.sheds_unescape (d := '<') w
  rw [IsId, IsId, ne_eq, ne_eq, ← sheds.eq_nil_iff, ← sheds.mem_iff (by simp : '>' ≠ '\\')]

/-- The first opening bracket cuts the type from the id. -/
theorem ofTrimmed_closed {type : Text} (before : '<' ∉ type) (w : Text) :
    ofTrimmed (type ++ '<' :: (w ++ ['>'])) = make type (Text.unescape '<' w) := by
  obtain ⟨front, back⟩ := Text.takeWhile_ne (r := w ++ ['>']) before
  unfold ofTrimmed
  rw [back]
  dsimp only
  rw [if_neg (not_not_intro (Text.getLast?_closed type '<' w '>')), front, List.dropLast_concat]

/-- A text is a node if it is a type, an opening bracket, an id as it may be written and a
closing bracket. -/
theorem ofTrimmed_eq_ok_iff {raw : Text} {n : Node} : ofTrimmed raw = .ok n ↔
    ∃ written, raw = n.type ++ '<' :: (written ++ ['>']) ∧ IsType n.type ∧ IsId written ∧
      n.id = Text.unescape '<' written := by
  refine ⟨?_, ?_⟩
  · intro h
    unfold ofTrimmed at h
    split at h
    · simp at h
    · rename_i c r cut
      split at h
      · simp at h
      · rename_i closed
        obtain ⟨type, id, rfl⟩ := make_eq_ok_iff.1 h
        obtain ⟨rfl, parts, -⟩ := Text.cut_of_dropWhile_ne cut
        rcases List.eq_nil_or_concat r with rfl | ⟨w, z, rfl⟩
        · rw [parts] at closed
          simp at closed
        · have closing : z = '>' := by
            rw [parts, List.concat_eq_append, Text.getLast?_closed] at closed
            simpa using closed
          subst closing
          rw [List.concat_eq_append, List.dropLast_concat] at id
          rw [List.concat_eq_append] at parts
          rw [List.concat_eq_append, List.dropLast_concat]
          exact ⟨w, parts, type, isId_unescape.1 id, rfl⟩
  · rintro ⟨w, rfl, type, id, eq⟩
    have before : '<' ∉ n.type := fun mem => (type.2.2 _ mem).2.1 rfl
    rw [ofTrimmed_closed before, make_eq_ok_iff, isId_unescape, ← eq]
    exact ⟨type, id, rfl⟩

theorem parse_eq_ok_iff {t : Text} {n : Node} : parse t = .ok n ↔
    ∃ written, t.trim = n.type ++ '<' :: (written ++ ['>']) ∧ IsType n.type ∧ IsId written ∧
      n.id = Text.unescape '<' written :=
  ofTrimmed_eq_ok_iff

/-- The node that a text names is valid. -/
theorem valid_of_parse {t : Text} {n : Node} (h : parse t = .ok n) : n.Valid := by
  obtain ⟨w, -, type, id, eq⟩ := parse_eq_ok_iff.1 h
  refine ⟨type, ?_⟩
  rw [eq]
  exact isId_unescape.2 id

/-! ## The text of a node -/

theorem display_eq (n : Node) :
    n.display = n.type ++ '<' :: (Text.escape '<' n.id ++ ['>']) := by
  simp [display, idText]

theorem IsType.head?_append {type : Text} (h : IsType type) (r : Text) :
    (type ++ r).head? = some '/' := by
  rw [List.head?_append, h.1]
  rfl

/-- A type in order and a closing bracket leave no blank at the ends. -/
theorem isTrimmed_of_isType {type : Text} (h : IsType type) (w : Text) :
    (type ++ '<' :: (w ++ ['>'])).IsTrimmed := by
  apply Text.isTrimmed_of_ends (h.head?_append _) (Text.getLast?_closed type '<' w '>')
  · decide
  · decide

theorem getLast?_display (n : Node) : n.display.getLast? = some '>' := by
  rw [display, List.getLast?_concat]

theorem isTrimmed_display {n : Node} (h : n.Valid) : n.display.IsTrimmed := by
  rw [display_eq]
  exact isTrimmed_of_isType h.1 _

theorem isId_escape {id : Text} : IsId (Text.escape '<' id) ↔ IsId id := by
  rw [← isId_unescape, Text.unescape_escape (by simp)]

/-- Every valid node reads back from its text. -/
theorem parse_display {n : Node} (h : n.Valid) : parse n.display = .ok n := by
  rw [parse_eq_ok_iff, Text.trim_of_isTrimmed (isTrimmed_display h), display_eq]
  exact ⟨_, rfl, h.1, isId_escape.2 h.2, (Text.unescape_escape (by simp) n.id).symm⟩

/-! ## The grammar of nodes -/

/-- The text is a slash and a name, and behind them an id in angle brackets as it may be
written. -/
structure IsWritten (raw type written : Text) : Prop where
  joins : raw = type ++ ['<'] ++ written ++ ['>']
  slash : type.head? = some '/'
  named : 1 < type.byteLength
  clean : ∀ c ∈ type, GraphText.isBlank c = false ∧ c ≠ '<' ∧ c ≠ '>'
  identified : written ≠ []
  clear : '>' ∉ written

/-- A type that starts with a slash is more than the slash if it has more than a byte. -/
theorem one_lt_byteLength_iff {type : Text} (slash : type.head? = some '/') :
    1 < type.byteLength ↔ type ≠ ['/'] := by
  obtain ⟨r, rfl⟩ := List.head?_eq_some_iff.1 slash
  have first : '/'.utf8Size = 1 := rfl
  rw [Text.byteLength_cons, first]
  cases r with
  | nil => simp
  | cons c r =>
    have more := c.utf8Size_pos
    simp only [Text.byteLength_cons, ne_eq, List.cons.injEq, reduceCtorEq, and_false,
      not_false_eq_true, iff_true]
    omega

theorem isWritten_iff {raw type written : Text} : IsWritten raw type written ↔
    raw = type ++ '<' :: (written ++ ['>']) ∧ IsType type ∧ IsId written := by
  have text : type ++ ['<'] ++ written ++ ['>'] = type ++ '<' :: (written ++ ['>']) := by simp
  refine ⟨?_, ?_⟩
  · rintro ⟨joins, slash, named, clean, identified, clear⟩
    exact ⟨joins.trans text, ⟨slash, (one_lt_byteLength_iff slash).1 named, clean⟩, identified,
      clear⟩
  · rintro ⟨joins, ⟨slash, named, clean⟩, identified, clear⟩
    exact ⟨joins.trans text.symm, slash, (one_lt_byteLength_iff slash).2 named, clean, identified,
      clear⟩

theorem make_self_iff {n : Node} : make n.type n.id = .ok n ↔ n.Valid := by
  rw [make_eq_ok_iff, ← and_assoc]
  exact and_iff_left rfl

/-- A text is a node if, without the blanks at its ends, it is written as one, and the id is
what is written with a bracket for every backslash and bracket. Of all nodes those read back
from their text whose type and id make them, so no two of these share a text. -/
theorem parse_iff_written :
    (∀ t n, parse t = .ok n ↔ ∃ type written, IsWritten t.trim type written ∧ n.type = type ∧
      Text.Replaced ['\\', '<'] ['<'] written n.id) ∧
    (∀ n : Node, parse n.display = .ok n ↔ make n.type n.id = .ok n) ∧
    ∀ m n : Node, make m.type m.id = .ok m → make n.type n.id = .ok n →
      m.display = n.display → m = n := by
  refine ⟨?_, ?_, ?_⟩
  · intro t n
    rw [parse_eq_ok_iff]
    refine ⟨?_, ?_⟩
    · rintro ⟨written, raw, type, id, eq⟩
      refine ⟨n.type, written, isWritten_iff.2 ⟨raw, type, id⟩, rfl, ?_⟩
      exact (Text.unescape_eq_iff_replaced (by decide)).1 eq.symm
    · rintro ⟨type, written, shape, rfl, replaced⟩
      obtain ⟨raw, type, id⟩ := isWritten_iff.1 shape
      exact ⟨written, raw, type, id, ((Text.unescape_eq_iff_replaced (by decide)).2 replaced).symm⟩
  · intro n
    rw [make_self_iff]
    exact ⟨valid_of_parse, parse_display⟩
  · intro m n hm hn same
    have read := parse_display (make_self_iff.1 hm)
    rw [same, parse_display (make_self_iff.1 hn)] at read
    exact (Except.ok.inj read).symm

/-- The type ends with a backslash and the id starts with one in front of a bracket. -/
theorem parse_iff_written_of_backslashes :
    parse " /a\\<\\\\<b c>".toList = .ok ⟨"/a\\".toList, "\\<b c".toList⟩ ∧
      ∀ m : Node, make m.type m.id = .ok m → m.display = "/a\\<\\\\<b c>".toList →
        m = ⟨"/a\\".toList, "\\<b c".toList⟩ := by
  obtain ⟨grammar, -, injective⟩ := parse_iff_written
  have shape : IsWritten (Text.trim " /a\\<\\\\<b c>".toList) "/a\\".toList
      "\\\\<b c".toList := by
    refine isWritten_iff.2 ⟨by decide, typeFault?_eq_none_iff.1 (by decide), ?_⟩
    exact idFault?_eq_none_iff.1 (by decide)
  refine ⟨(grammar _ _).2 ⟨_, _, shape, rfl, Text.replaced_unescape _⟩, ?_⟩
  intro m made text
  exact injective m _ made rfl text

end GraphText.Node
