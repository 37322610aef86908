-- Literals in writing. A text that shows a literal reads as that literal, within the same
-- limits as the literal itself, unless it is the float that is no number.
import GraphText.Graph.Literal
import GraphText.Proofs.Blanks
import GraphText.Proofs.Escapes
import GraphText.Proofs.FloatText
import GraphText.Proofs.HexText
import GraphText.Proofs.LowerForms
import GraphText.Proofs.Markers

namespace GraphText

/-! ## Names of types -/

namespace LiteralType

theorem ofName_eq_ok_iff {t : Text} {k : LiteralType} :
    ofName t = .ok k ↔ k.name = Text.lowerAscii t := by
  unfold ofName
  refine ⟨?_, ?_⟩
  · intro h
    split at h
    · rename_i found
      cases h
      simpa using List.find?_some found
    · simp at h
  · intro h
    rw [← h]
    cases k <;> rfl

theorem lowerAscii_name (k : LiteralType) : Text.lowerAscii k.name = k.name := by
  cases k <;> rfl

theorem quote_not_mem_name (k : LiteralType) : '"' ∉ k.name := by
  cases k <;> decide

/-- A type in any case ends with a letter or a digit. -/
theorem getLast?_of_named {k : LiteralType} {tag : Text} (named : Text.lowerAscii tag = k.name) :
    ∃ z, tag.getLast? = some z ∧ isBlank z = false ∧ z ≠ ']' := by
  have ending : ∃ c, k.name.getLast? = some c ∧ isBlank c = false ∧ c ≠ ']' := by
    cases k with
    | bool => exact ⟨'l', by decide⟩
    | int64 => exact ⟨'4', by decide⟩
    | float64 => exact ⟨'4', by decide⟩
    | text => exact ⟨'t', by decide⟩
    | blob => exact ⟨'b', by decide⟩
  obtain ⟨c, last, blank, other⟩ := ending
  rw [← named, Text.lowerAscii, List.getLast?_map, Option.map_eq_some_iff] at last
  obtain ⟨z, last, rfl⟩ := last
  rw [isBlank_toLower] at blank
  refine ⟨z, last, blank, ?_⟩
  rintro rfl
  exact other rfl

end LiteralType

/-! ## Values that need no escape -/

/-- The character stands in the value of a number, a truth value or a run of bytes. -/
def IsValueChar (c : Char) : Prop := isDigit c = true ∨ c.isAlpha = true ∨ c ∈ ['-', '.']

instance (c : Char) : Decidable (IsValueChar c) := inferInstanceAs (Decidable (_ ∨ _))

/-- Every character of the text stands in such values. -/
def AllValueChars (t : Text) : Prop := ∀ c ∈ t, IsValueChar c

instance (t : Text) : Decidable (AllValueChars t) :=
  decidable_of_iff (t.all (IsValueChar ·) = true) (by simp [AllValueChars])

theorem AllValueChars.not_mem {t : Text} {c : Char} (h : AllValueChars t)
    (other : ¬ IsValueChar c) : c ∉ t :=
  fun mem => other (h c mem)

theorem AllValueChars.append {s t : Text} (hs : AllValueChars s) (ht : AllValueChars t) :
    AllValueChars (s ++ t) :=
  List.forall_mem_append.2 ⟨hs, ht⟩

theorem AllDigits.allValueChars {t : Text} (h : AllDigits t) : AllValueChars t :=
  fun c mem => .inl (h c mem)

theorem allValueChars_natText (n : Nat) : AllValueChars (natText n) :=
  (allDigits_natText n).allValueChars

theorem allValueChars_signText (negative : Bool) : AllValueChars (signText negative) := by
  cases negative <;> decide

theorem allValueChars_intText (n : Int) : AllValueChars (intText n) := by
  unfold intText
  split
  · exact (allValueChars_signText true).append (allValueChars_natText _)
  · exact allValueChars_natText _

theorem Decimal.allValueChars_positional (d : Decimal) : AllValueChars d.positional := by
  have shown := allValueChars_natText d.digits
  have zeros := fun n => (allDigits_replicate n).allValueChars
  unfold positional
  dsimp only
  split
  · exact shown.append (zeros _)
  · split
    · have point : AllValueChars ['.'] := by decide
      refine (AllValueChars.append ?_ point).append ?_
      · exact fun c mem => shown c (List.mem_of_mem_take mem)
      · exact fun c mem => shown c (List.mem_of_mem_drop mem)
    · have point : AllValueChars ['0', '.'] := by decide
      exact (point.append (zeros _)).append shown

theorem Float64.allValueChars_display (x : Float64) : AllValueChars x.display := by
  unfold display
  split
  · decide
  · exact (allValueChars_signText _).append (by decide)
  · refine (allValueChars_signText _).append ?_
    split
    · decide
    · exact Decimal.allValueChars_positional _

theorem Hex.allValueChars_encode (bytes : List UInt8) : AllValueChars (Hex.encode bytes) := by
  have digit : ∀ n < 16, IsValueChar (hexDigit n) := by decide
  intro c mem
  obtain ⟨b, -, mem⟩ := List.mem_flatMap.1 mem
  have size := b.toNat_lt
  simp only [byteText, List.mem_cons, List.not_mem_nil, or_false] at mem
  rcases mem with rfl | rfl
  · exact digit _ (by omega)
  · exact digit _ (by omega)

namespace Literal

/-- Only the value of a text can need an escape. -/
theorem allValueChars_valueText {x : Literal} (h : x.type ≠ .text) :
    AllValueChars x.valueText := by
  cases x with
  | bool b => cases b <;> decide
  | int64 n => exact allValueChars_intText _
  | float64 x => exact x.allValueChars_display
  | text t => exact absurd rfl h
  | blob b => exact Hex.allValueChars_encode b

theorem unescape_valueText {x : Literal} (h : x.type ≠ .text) :
    Text.unescape '"' x.valueText = x.valueText :=
  Text.unescape_of_not_mem ((allValueChars_valueText h).not_mem (by decide))

/-- The value of a literal in writing reads back as it was. -/
theorem decode_valueText {x : Literal} (h : x ≠ float64 .nan) :
    decode x.type (Text.unescape '"' x.valueText) = .ok x := by
  cases x with
  | bool b => cases b <;> rfl
  | int64 n =>
    rw [unescape_valueText (by simp [type]), valueText, type, decode, Int64.read_intText]
    rfl
  | float64 x =>
    have number : x ≠ .nan := fun nan => h (by rw [nan])
    rw [unescape_valueText (by simp [type]), valueText, type, decode,
      Float64.read_display number]
    rfl
  | text t =>
    rw [valueText, Text.unescape_escape (by simp), type, decode]
  | blob b =>
    rw [unescape_valueText (by simp [type]), valueText, type, decode, Hex.decode_encode]
    rfl

/-- A value is of the type that it is decoded as, and a fault names both. -/
theorem decode_cases (k : LiteralType) (v : Text) :
    (∃ x, decode k v = .ok x ∧ x.type = k) ∨ ∃ reason, decode k v = .error (.value k v reason) := by
  cases k with
  | text => exact .inl ⟨text v, rfl, rfl⟩
  | bool =>
    rw [decode]
    cases readBool v with
    | ok b => exact .inl ⟨bool b, rfl, rfl⟩
    | error f => exact .inr ⟨.bool, rfl⟩
  | int64 =>
    rw [decode]
    cases Int64.read v with
    | ok n => exact .inl ⟨int64 n, rfl, rfl⟩
    | error f => exact .inr ⟨.int64 f, rfl⟩
  | float64 =>
    rw [decode]
    cases Float64.read v with
    | ok x => exact .inl ⟨float64 x, rfl, rfl⟩
    | error f => exact .inr ⟨.float64 f, rfl⟩
  | blob =>
    rw [decode]
    cases Hex.decode v with
    | ok b => exact .inl ⟨blob b, rfl, rfl⟩
    | error f => exact .inr ⟨.blob f, rfl⟩

/-! ## The text of a literal -/

variable {value mark tag : Text} {k : LiteralType}

theorem display_eq (x : Literal) : x.display = '"' :: (x.valueText ++ marker ++ x.type.name) := by
  simp [display]

theorem marker_eq : marker = '"' :: "^^type:".toList := rfl

theorem isTrimmed_of_tag (named : Text.lowerAscii tag = k.name) (front : Text) :
    Text.IsTrimmed ('"' :: (front ++ tag)) := by
  obtain ⟨z, last, blank, -⟩ := LiteralType.getLast?_of_named named
  have back : ('"' :: (front ++ tag)).getLast? = some z := by
    rw [← List.cons_append, List.getLast?_append, last]
    rfl
  apply Text.isTrimmed_of_ends rfl back
  · decide
  · exact blank

theorem isTrimmed_display (x : Literal) : x.display.IsTrimmed := by
  rw [display_eq]
  exact isTrimmed_of_tag x.type.lowerAscii_name _

/-- No quote stands between the mark and the end. -/
theorem quote_not_mem_of_named (spelled : Text.lowerAscii mark = "^^type:".toList)
    (named : Text.lowerAscii tag = k.name) : '"' ∉ mark ++ tag := by
  rw [List.mem_append, not_or]
  exact ⟨Text.not_mem_of_lowerAscii spelled rfl (by simp),
    Text.not_mem_of_lowerAscii named rfl k.quote_not_mem_name⟩

/-- The last mark cuts the value from the type. -/
theorem split_of_mark (value : Text) (named : Text.lowerAscii tag = k.name) :
    split ('"' :: (value ++ marker ++ tag)) = .ok (k, Text.unescape '"' value) := by
  have noQuote : '"' ∉ "^^type:".toList ++ tag := quote_not_mem_of_named rfl named
  have cut : Text.cutLast marker ('"' :: (value ++ marker ++ tag)) = some ('"' :: value, tag) :=
    Text.cutLast_append noQuote ('"' :: value)
  have name := LiteralType.ofName_eq_ok_iff.2 named.symm
  rw [split, if_neg (by simp), cut]
  dsimp only
  rw [name]

namespace Builder

/-- Behind the cut, the value is decoded and built. -/
theorem parse_of_split {b : Builder} {t v : Text} {k : LiteralType}
    (cut : split t.trim = .ok (k, v)) : b.parse t = (decode k v).bind b.build := by
  rw [parse, cut]
  rfl

theorem parse_of_split_error {b : Builder} {t : Text} {f : Fault}
    (cut : split t.trim = .error f) : b.parse t = .error f := by
  rw [parse, cut]
  rfl

theorem build_unlimited (x : Literal) : unlimited.build x = .ok x := by
  cases x <;> rfl

/-- Without limits, decoding decides. -/
theorem parse_unlimited_of_split {t v : Text} {k : LiteralType}
    (cut : split t.trim = .ok (k, v)) : unlimited.parse t = decode k v := by
  rw [parse_of_split cut]
  cases decode k v with
  | ok x => exact build_unlimited x
  | error f => rfl

/-- Reading the text of a literal gives what building the literal gives. -/
theorem parse_display (b : Builder) {x : Literal} (h : x ≠ float64 .nan) :
    b.parse x.display = b.build x := by
  have cut := split_of_mark x.valueText x.type.lowerAscii_name
  rw [← display_eq, ← Text.trim_of_isTrimmed x.isTrimmed_display] at cut
  rw [parse_of_split cut, decode_valueText h]
  rfl

theorem eq_of_bounded {x y : Literal} {length limit : Nat}
    (h : Literal.bounded x length limit = .ok y) : y = x := by
  unfold Literal.bounded at h
  split at h
  · simp at h
  · exact (Except.ok.inj h).symm

/-- A builder lets a literal through as it is, or holds it back. -/
theorem eq_of_build {b : Builder} {x y : Literal} (h : b.build x = .ok y) : y = x := by
  unfold build at h
  split at h
  · exact eq_of_bounded h
  · exact eq_of_bounded h
  · exact (Except.ok.inj h).symm

/-! ## What a text that is a literal looks like -/

theorem exists_of_parse {b : Builder} {t : Text} {x : Literal} (h : b.parse t = .ok x) :
    ∃ k v, split t.trim = .ok (k, v) ∧ decode k v = .ok x ∧ b.build x = .ok x := by
  unfold parse at h
  cases cut : split t.trim with
  | error f => simp [cut, bind, Except.bind] at h
  | ok kv =>
    obtain ⟨k, v⟩ := kv
    simp only [cut, bind, Except.bind] at h
    cases value : decode k v with
    | error f => simp [value] at h
    | ok y =>
      simp only [value] at h
      obtain rfl := eq_of_build h
      exact ⟨k, v, rfl, value, h⟩

/-- A literal that was read is one that the builder allows. -/
theorem build_of_parse {b : Builder} {t : Text} {x : Literal} (h : b.parse t = .ok x) :
    b.build x = .ok x := by
  obtain ⟨k, v, -, -, built⟩ := exists_of_parse h
  exact built

end Builder

theorem head?_of_split {raw v : Text} {k : LiteralType} (h : split raw = .ok (k, v)) :
    raw.head? = some '"' := by
  unfold split at h
  split at h
  · simp at h
  · rename_i opened
    exact not_not.1 opened

/-- A literal ends with the name of a type, so never with a square bracket. -/
theorem getLast?_of_split {raw v : Text} {k : LiteralType} (h : split raw = .ok (k, v)) :
    raw.getLast? ≠ some ']' := by
  unfold split at h
  split at h
  · simp at h
  · split at h
    · simp at h
    · simp at h
    · rename_i q w name cut
      split at h
      · rename_i k' named
        have parts := Text.cutLast_joins cut
        rw [LiteralType.ofName_eq_ok_iff] at named
        obtain ⟨z, last, -, other⟩ := LiteralType.getLast?_of_named named.symm
        rw [parts, List.getLast?_append, last]
        simpa using other
      · simp at h

end Literal
end GraphText
