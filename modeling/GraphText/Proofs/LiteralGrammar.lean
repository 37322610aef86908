-- The grammar of literals. A text is a literal if it is a value in quotes and the name of a
-- type in any case with a marker between them, and the value names one of that type. Of any
-- other text the first of these that is missing is at fault.
import GraphText.Proofs.LiteralText

namespace GraphText

namespace LiteralType

theorem ofName_eq_error_iff {t n : Text} :
    ofName t = .error n ↔ n = Text.lowerAscii t ∧ ∀ k : LiteralType, k.name ≠ n := by
  refine ⟨?_, ?_⟩
  · intro h
    have lowered : n = Text.lowerAscii t := by
      unfold ofName at h
      split at h
      · cases h
      · exact (Except.error.inj h).symm
    refine ⟨lowered, ?_⟩
    rintro k same
    rw [ofName_eq_ok_iff.2 (same.trans lowered)] at h
    cases h
  · rintro ⟨rfl, unnamed⟩
    cases named : ofName t with
    | ok k => exact absurd (ofName_eq_ok_iff.1 named) (unnamed k)
    | error m =>
      unfold ofName at named
      split at named
      · cases named
      · exact named.symm

end LiteralType

namespace Literal

/-! ## The parts of a literal -/

/-- The text is a value in quotes as it may be written, and behind its last marker the name of
a type. -/
structure IsWritten (raw written name : Text) : Prop where
  joins : raw = ['"'] ++ written ++ marker ++ name
  unmarked : ¬ marker <:+: name

variable {raw written name u : Text}

theorem marker_infix_append_iff : marker <:+: "^^type:".toList ++ name ↔ marker <:+: name :=
  Text.infix_append_iff_of_not_mem (by decide)

theorem isWritten_iff_cutLast :
    IsWritten raw written name ↔ Text.cutLast marker raw = some ('"' :: written, name) := by
  rw [marker_eq, Text.cutLast_eq_some_iff, ← marker_eq, marker_infix_append_iff]
  refine ⟨?_, ?_⟩
  · rintro ⟨rfl, last⟩
    exact ⟨rfl, last⟩
  · rintro ⟨rfl, last⟩
    exact ⟨rfl, last⟩

/-- The last marker is in one place. -/
theorem IsWritten.unique {written' name' : Text} (h : IsWritten raw written name)
    (h' : IsWritten raw written' name') : written = written' ∧ name = name' := by
  have cut := isWritten_iff_cutLast.1 h
  rw [isWritten_iff_cutLast.1 h'] at cut
  obtain ⟨front, rfl⟩ := Prod.mk.inj (Option.some.inj cut)
  exact ⟨(List.cons.inj front).2.symm, rfl⟩

/-- A text that opens with a quote has these parts if a marker stands behind the quote. -/
theorem exists_isWritten (opened : raw.head? = some '"') (marked : marker <:+: raw.tail) :
    ∃ written name, IsWritten raw written name := by
  obtain ⟨r, rfl⟩ := List.head?_eq_some_iff.1 opened
  obtain ⟨x, y, joins⟩ := marked
  obtain ⟨w, z, cut⟩ := @Text.exists_cutLast '"' "^^type:".toList ('"' :: x) y
  refine ⟨x ++ w, z, isWritten_iff_cutLast.2 ?_⟩
  rw [← marker_eq, List.cons_append, List.cons_append, joins] at cut
  exact cut

/-! ## The value -/

/-- The value, without its escapes, names the literal. -/
def IsNamedBy (u : Text) : Literal → Prop
  | bool true => u = "true".toList
  | bool false => u = "false".toList
  | int64 n => ∃ i, Int64.IsWritten u i ∧ -2 ^ 63 ≤ i ∧ i ≤ 2 ^ 63 - 1 ∧ n = Int64.ofInt i
  | float64 x => Float64.read u = .ok x
  | text t => u = t
  | blob bytes => Hex.IsWritten u bytes

theorem readBool_eq_ok_iff {b : Bool} : readBool u = .ok b ↔ (bool b).IsNamedBy u := by
  have other : "false".toList ≠ "true".toList := by decide
  unfold readBool
  split
  · rename_i isTrue
    subst isTrue
    cases b with
    | true => simp [IsNamedBy]
    | false => simp [IsNamedBy]
  · rename_i notTrue
    split
    · rename_i isFalse
      subst isFalse
      cases b with
      | true => simp [IsNamedBy]
      | false => simp [IsNamedBy]
    · rename_i notFalse
      cases b with
      | true => simpa [IsNamedBy] using notTrue
      | false => simpa [IsNamedBy] using notFalse

theorem readInt64_eq_ok_iff {n : Int64} : Int64.read u = .ok n ↔ (int64 n).IsNamedBy u := by
  rw [Int64.read_eq_ok_iff]
  refine ⟨?_, ?_⟩
  · intro h
    have low := n.le_toInt
    have high := n.toInt_lt
    exact ⟨n.toInt, h, low, by omega, n.ofInt_toInt.symm⟩
  · rintro ⟨i, h, low, high, rfl⟩
    rwa [Int64.toInt_ofInt_of_le low (by omega)]

/-- A value is decoded as a literal of a type if it names one. -/
theorem decode_eq_ok_iff {k : LiteralType} {x : Literal} :
    decode k u = .ok x ↔ x.type = k ∧ x.IsNamedBy u := by
  have own : ∀ y, decode k u = .ok y → y.type = k := by
    intro y h
    rcases decode_cases k u with ⟨z, read, type⟩ | ⟨reason, fault⟩
    · rw [h] at read
      rw [Except.ok.inj read, type]
    · rw [h] at fault
      cases fault
  by_cases same : x.type = k
  · subst same
    rw [and_iff_right rfl]
    cases x with
    | bool b =>
      rw [← readBool_eq_ok_iff, type, decode]
      cases readBool u <;> simp [withValue]
    | int64 n =>
      rw [← readInt64_eq_ok_iff, type, decode]
      cases Int64.read u <;> simp [withValue]
    | float64 y =>
      rw [IsNamedBy, type, decode]
      cases Float64.read u <;> simp [withValue]
    | text t =>
      rw [IsNamedBy, type, decode, Except.ok.injEq, text.injEq]
    | blob bytes =>
      rw [IsNamedBy, ← Hex.decode_eq_ok_iff, type, decode]
      cases Hex.decode u <;> simp [withValue]
  · exact iff_of_false (fun h => same (own x h)) fun h => same h.1

theorem exists_decode_error_iff {k : LiteralType} :
    (∃ reason, decode k u = .error (.value k u reason)) ↔
      ∀ x : Literal, x.type = k → ¬ x.IsNamedBy u := by
  refine ⟨?_, ?_⟩
  · rintro ⟨reason, fault⟩ x type named
    rw [decode_eq_ok_iff.2 ⟨type, named⟩] at fault
    cases fault
  · intro never
    rcases decode_cases k u with ⟨x, read, type⟩ | fault
    · exact absurd (decode_eq_ok_iff.1 read).2 (never x type)
    · exact fault

/-! ## The parts and the value together -/

theorem split_of_not_opened (h : raw.head? ≠ some '"') : split raw = .error (.noQuote raw) := by
  rw [split, if_pos h]

theorem split_of_not_marked (opened : raw.head? = some '"') (h : ¬ marker <:+: raw.tail) :
    split raw = .error (.noType raw) := by
  obtain ⟨r, rfl⟩ := List.head?_eq_some_iff.1 opened
  rw [split, if_neg (not_not_intro opened)]
  split
  · rfl
  · rfl
  · rename_i q value name cut
    obtain ⟨rfl, joins⟩ := List.cons.inj (Text.cutLast_joins cut)
    exact absurd ⟨value, name, joins.symm⟩ h

theorem split_of_isWritten {k : LiteralType} (h : IsWritten raw written name)
    (named : k.name = Text.lowerAscii name) :
    split raw = .ok (k, Text.unescape '"' written) := by
  rw [h.joins]
  exact split_of_mark written named.symm

theorem split_of_unknown (h : IsWritten raw written name)
    (unknown : ∀ k : LiteralType, k.name ≠ Text.lowerAscii name) :
    split raw = .error (.unknownType (Text.lowerAscii name)) := by
  have opened : raw.head? = some '"' := by
    rw [h.joins]
    rfl
  rw [split, if_neg (not_not_intro opened), isWritten_iff_cutLast.1 h]
  dsimp only
  rw [LiteralType.ofName_eq_error_iff.2 ⟨rfl, unknown⟩]

/-- What a text reads as, by the grammar alone. -/
inductive Reads (raw : Text) : Except Fault Literal → Prop
  | noQuote : raw.head? ≠ some '"' → Reads raw (.error (.noQuote raw))
  | noType : raw.head? = some '"' → ¬ marker <:+: raw.tail → Reads raw (.error (.noType raw))
  | unknownType {written name : Text} : IsWritten raw written name →
      (∀ k : LiteralType, k.name ≠ Text.lowerAscii name) →
      Reads raw (.error (.unknownType (Text.lowerAscii name)))
  | value {written name : Text} {k : LiteralType} {reason : ValueFault} :
      IsWritten raw written name → k.name = Text.lowerAscii name →
      (∀ x : Literal, x.type = k → ¬ x.IsNamedBy (Text.unescape '"' written)) →
      Reads raw (.error (.value k (Text.unescape '"' written) reason))
  | literal {written name : Text} {x : Literal} : IsWritten raw written name →
      x.type.name = Text.lowerAscii name → x.IsNamedBy (Text.unescape '"' written) →
      Reads raw (.ok x)

namespace Builder

variable {t : Text}

/-- A text whose parts are those of a literal of a type is decoded as one. -/
theorem parse_of_isWritten {written name : Text} {k : LiteralType}
    (shape : IsWritten t.trim written name) (named : k.name = Text.lowerAscii name) :
    unlimited.parse t = decode k (Text.unescape '"' written) :=
  parse_unlimited_of_split (split_of_isWritten shape named)

theorem reads_parse (t : Text) : Reads t.trim (unlimited.parse t) := by
  by_cases opened : t.trim.head? = some '"'
  · by_cases marked : marker <:+: t.trim.tail
    · obtain ⟨written, name, shape⟩ := exists_isWritten opened marked
      by_cases known : ∃ k : LiteralType, k.name = Text.lowerAscii name
      · obtain ⟨k, named⟩ := known
        rw [parse_of_isWritten shape named]
        rcases decode_cases k (Text.unescape '"' written) with ⟨x, read, type⟩ | ⟨reason, fault⟩
        · rw [read]
          exact .literal shape (type ▸ named) (decode_eq_ok_iff.1 read).2
        · rw [fault]
          exact .value shape named (exists_decode_error_iff.1 ⟨reason, fault⟩)
      · have unknown : ∀ k : LiteralType, k.name ≠ Text.lowerAscii name :=
          fun k named => known ⟨k, named⟩
        rw [parse_of_split_error (split_of_unknown shape unknown)]
        exact .unknownType shape unknown
    · rw [parse_of_split_error (split_of_not_marked opened marked)]
      exact .noType opened marked
  · rw [parse_of_split_error (split_of_not_opened opened)]
    exact .noQuote opened

/-- A text fails as a literal if no quote opens it, then if no marker stands behind the quote,
then if what is behind the last marker is the name of no type in any case, and then if the value
between quote and marker names no literal of the type. Otherwise it is the literal that the value
names, where every backslash and quote in the value stands for a quote. -/
theorem unlimited_parse_iff_grammar (t : Text) :
    (∀ raw, unlimited.parse t = .error (.noQuote raw) ↔
      raw = t.trim ∧ t.trim.head? ≠ some '"') ∧
    (∀ raw, unlimited.parse t = .error (.noType raw) ↔
      raw = t.trim ∧ t.trim.head? = some '"' ∧ ¬ marker <:+: t.trim.tail) ∧
    (∀ n, unlimited.parse t = .error (.unknownType n) ↔ ∃ written name,
      IsWritten t.trim written name ∧ n = Text.lowerAscii name ∧
        ∀ k : LiteralType, k.name ≠ n) ∧
    (∀ x, unlimited.parse t = .ok x ↔ ∃ written name u,
      IsWritten t.trim written name ∧ x.type.name = Text.lowerAscii name ∧
        Text.Replaced ['\\', '"'] ['"'] written u ∧ x.IsNamedBy u) ∧
    (∀ k u, (∃ reason, unlimited.parse t = .error (.value k u reason)) ↔ ∃ written name,
      IsWritten t.trim written name ∧ k.name = Text.lowerAscii name ∧
        Text.Replaced ['\\', '"'] ['"'] written u ∧
        ∀ x : Literal, x.type = k → ¬ x.IsNamedBy u) ∧
    (∀ k length limit, unlimited.parse t ≠ .error (.tooLong k length limit)) ∧
    ∀ written name written' name', IsWritten t.trim written name →
      IsWritten t.trim written' name' → written = written' ∧ name = name' := by
  have reads := reads_parse t
  refine ⟨fun raw => ⟨?_, ?_⟩, fun raw => ⟨?_, ?_⟩, fun n => ⟨?_, ?_⟩, fun x => ⟨?_, ?_⟩,
    fun k u => ⟨?_, ?_⟩, ?_, ?_⟩
  · intro fault
    rw [fault] at reads
    cases reads with
    | noQuote unopened => exact ⟨rfl, unopened⟩
  · rintro ⟨rfl, unopened⟩
    exact parse_of_split_error (split_of_not_opened unopened)
  · intro fault
    rw [fault] at reads
    cases reads with
    | noType opened unmarked => exact ⟨rfl, opened, unmarked⟩
  · rintro ⟨rfl, opened, unmarked⟩
    exact parse_of_split_error (split_of_not_marked opened unmarked)
  · intro fault
    rw [fault] at reads
    cases reads with
    | unknownType shape unknown => exact ⟨_, _, shape, rfl, unknown⟩
  · rintro ⟨written, name, shape, rfl, unknown⟩
    exact parse_of_split_error (split_of_unknown shape unknown)
  · intro read
    rw [read] at reads
    cases reads with
    | literal shape named value => exact ⟨_, _, _, shape, named, Text.replaced_unescape _, value⟩
  · rintro ⟨written, name, u, shape, named, escapes, value⟩
    rw [← (Text.unescape_eq_iff_replaced (by decide)).2 escapes] at value
    rw [parse_of_isWritten shape named]
    exact decode_eq_ok_iff.2 ⟨rfl, value⟩
  · rintro ⟨reason, fault⟩
    rw [fault] at reads
    cases reads with
    | value shape named never => exact ⟨_, _, shape, named, Text.replaced_unescape _, never⟩
  · rintro ⟨written, name, shape, named, escapes, never⟩
    rw [parse_of_isWritten shape named, (Text.unescape_eq_iff_replaced (by decide)).2 escapes]
    exact exists_decode_error_iff.2 never
  · intro k length limit fault
    rw [fault] at reads
    cases reads
  · intro written name written' name' h h'
    exact h.unique h'

/-- The value of the first text holds a marker and a name of its own. The number of the second
one is too large by one. -/
theorem unlimited_parse_iff_grammar_of_edges :
    unlimited.parse " \"a\\\"^^type:bool\"^^type:TeXt".toList =
      .ok (text "a\"^^type:bool".toList) ∧
    ∃ reason, unlimited.parse "\"+9223372036854775808\"^^type:int64".toList =
      .error (.value .int64 "+9223372036854775808".toList reason) := by
  obtain ⟨-, -, -, literal, -⟩ :=
    unlimited_parse_iff_grammar " \"a\\\"^^type:bool\"^^type:TeXt".toList
  obtain ⟨-, -, -, -, value, -⟩ :=
    unlimited_parse_iff_grammar "\"+9223372036854775808\"^^type:int64".toList
  have shape : IsWritten (Text.trim " \"a\\\"^^type:bool\"^^type:TeXt".toList)
      "a\\\"^^type:bool".toList "TeXt".toList := ⟨rfl, by decide⟩
  have shape' : IsWritten (Text.trim "\"+9223372036854775808\"^^type:int64".toList)
      "+9223372036854775808".toList "int64".toList := ⟨rfl, by decide⟩
  refine ⟨(literal _).2 ⟨_, _, _, shape, rfl, Text.replaced_unescape _, rfl⟩, ?_⟩
  refine (value _ _).2 ⟨_, _, shape', rfl, Text.replaced_unescape _, ?_⟩
  intro x type named
  cases x with
  | int64 n =>
    obtain ⟨i, digits, -, high, -⟩ := named
    obtain ⟨-, -, rfl⟩ := Int64.isWritten_plus_iff.1 digits
    exact absurd high (by decide)
  | _ => cases type

end Builder
end Literal
end GraphText
