-- Texts as lists of characters: their length in bytes, their order, the searches for a
-- marker, cuts at a byte, and escapes of one delimiter. The first place of a marker decides
-- what a quote opens, the last place decides where a written value ends.

namespace GraphText

/-- A text is the list of its characters. -/
abbrev Text := List Char

namespace Text

-- The empty sum is the zero of the core library, whatever else is imported.
attribute [local instance (high)] Zero.ofOfNat0

/-- The length in bytes of UTF-8. -/
def byteLength (t : Text) : Nat := (t.map Char.utf8Size).sum

/-- The marker stands somewhere in the text. -/
def occursIn (marker : Text) : Text → Bool
  | [] => marker.isEmpty
  | c :: r => marker.isPrefixOf (c :: r) || occursIn marker r

/-- The texts before and after the last place where the marker stands. -/
def cutLast (marker : Text) : Text → Option (Text × Text)
  | [] => if marker.isEmpty then some ([], []) else none
  | c :: r =>
    match cutLast marker r with
    | some (before, after) => some (c :: before, after)
    | none =>
      if marker.isPrefixOf (c :: r) then some ([], (c :: r).drop marker.length) else none

/-- The texts joined, with the separator between neighbours. -/
def joined (separator : Text) : List Text → Text
  | [] => []
  | [t] => t
  | t :: ts => t ++ separator ++ joined separator ts

@[simp] theorem byteLength_nil : byteLength [] = 0 := rfl

@[simp] theorem byteLength_cons (c : Char) (t : Text) :
    byteLength (c :: t) = c.utf8Size + byteLength t := rfl

@[simp] theorem byteLength_append (s t : Text) :
    byteLength (s ++ t) = byteLength s + byteLength t := by
  simp [byteLength]

/-- Every character takes a byte. -/
theorem byteLength_pos {t : Text} (h : t ≠ []) : 0 < t.byteLength := by
  obtain ⟨c, r, rfl⟩ := List.exists_cons_of_ne_nil h
  have := c.utf8Size_pos
  rw [byteLength_cons]
  omega

end Text

/-! ## Order -/

/-- The first text comes before the second or is the same. A text comes before every
text that it starts. -/
def Text.before : Text → Text → Bool
  | [], _ => true
  | _ :: _, [] => false
  | a :: s, b :: t => a.toNat < b.toNat || (a = b && before s t)

/-! ## Cuts at a byte

A cut inside a character gives nothing from there on. -/

namespace Text

/-- The text from a byte on. -/
def fromByte : Text → Nat → Text
  | t, 0 => t
  | [], _ + 1 => []
  | c :: r, n + 1 => if c.utf8Size ≤ n + 1 then fromByte r (n + 1 - c.utf8Size) else []

/-- The text up to a byte. -/
def upToByte : Text → Nat → Text
  | _, 0 => []
  | [], _ + 1 => []
  | c :: r, n + 1 => if c.utf8Size ≤ n + 1 then c :: upToByte r (n + 1 - c.utf8Size) else []

@[simp] theorem fromByte_zero (t : Text) : t.fromByte 0 = t := by
  cases t <;> rfl

@[simp] theorem upToByte_zero (t : Text) : t.upToByte 0 = [] := by
  cases t <;> rfl

theorem fromByte_cons (c : Char) (r : Text) (n : Nat) :
    fromByte (c :: r) (c.utf8Size + n) = r.fromByte n := by
  obtain ⟨k, size⟩ := Nat.exists_eq_succ_of_ne_zero (Nat.ne_of_gt c.utf8Size_pos)
  rw [size, Nat.succ_add, fromByte, if_pos (by omega)]
  congr 1
  omega

theorem upToByte_cons (c : Char) (r : Text) (n : Nat) :
    upToByte (c :: r) (c.utf8Size + n) = c :: r.upToByte n := by
  obtain ⟨k, size⟩ := Nat.exists_eq_succ_of_ne_zero (Nat.ne_of_gt c.utf8Size_pos)
  rw [size, Nat.succ_add, upToByte, if_pos (by omega)]
  congr 2
  omega

theorem fromByte_append (s t : Text) : (s ++ t).fromByte s.byteLength = t := by
  induction s with
  | nil => rw [List.nil_append, byteLength_nil, fromByte_zero]
  | cons c r ih => rw [List.cons_append, byteLength_cons, fromByte_cons, ih]

theorem upToByte_append (s t : Text) : (s ++ t).upToByte s.byteLength = s := by
  induction s with
  | nil => rw [List.nil_append, byteLength_nil, upToByte_zero]
  | cons c r ih => rw [List.cons_append, byteLength_cons, upToByte_cons, ih]

/-- Behind the character at a byte stands the rest. -/
theorem fromByte_add {t r : Text} {c : Char} {n : Nat} (h : t.fromByte n = c :: r) :
    t.fromByte (n + c.utf8Size) = r := by
  induction t generalizing n with
  | nil => cases n <;> cases h
  | cons d t ih =>
    cases n with
    | zero =>
      obtain ⟨rfl, rfl⟩ := List.cons.inj h
      have behind := fromByte_cons d t 0
      rwa [fromByte_zero, Nat.add_zero, ← Nat.zero_add d.utf8Size] at behind
    | succ n =>
      rw [fromByte] at h
      split at h
      · rename_i past
        obtain ⟨k, split⟩ := Nat.exists_eq_add_of_le past
        rw [split, Nat.add_sub_cancel_left] at h
        rw [split, Nat.add_assoc, fromByte_cons, ih h]
      · cases h

end Text

/-! ## Escapes

A backslash stands in front of the delimiter, and nothing else is escaped. -/

namespace Text

/-- The text with a backslash in front of every delimiter. -/
def escape (delimiter : Char) (t : Text) : Text :=
  t.flatMap fun c => if c = delimiter then ['\\', c] else [c]

/-- The text with a bare delimiter for every backslash and delimiter. Other
backslashes stay. -/
def unescape (delimiter : Char) : Text → Text
  | [] => []
  | [c] => [c]
  | b :: c :: r =>
    if b = '\\' ∧ c = delimiter then c :: unescape delimiter r
    else b :: unescape delimiter (c :: r)

theorem head?_escape_ne {delimiter : Char} (h : delimiter ≠ '\\') (t : Text) :
    (escape delimiter t).head? ≠ some delimiter := by
  cases t with
  | nil => simp [escape]
  | cons c r =>
    by_cases same : c = delimiter
    · simp [escape, same, Ne.symm h]
    · simp [escape, same]

/-- What was escaped reads back. -/
theorem unescape_escape {delimiter : Char} (h : delimiter ≠ '\\') (t : Text) :
    unescape delimiter (escape delimiter t) = t := by
  induction t with
  | nil => rfl
  | cons c r ih =>
    by_cases same : c = delimiter
    · simpa [escape, unescape, same] using ih
    · have front : escape delimiter (c :: r) = c :: escape delimiter r := by
        simp [escape, same]
      have first := head?_escape_ne h r
      rw [front]
      generalize escape delimiter r = s at ih first
      cases s with
      | nil => simpa [unescape] using ih
      | cons x s =>
        have other : x ≠ delimiter := by simpa using first
        simp [unescape, other, ih]

end Text

end GraphText
