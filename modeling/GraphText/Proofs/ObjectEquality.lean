-- Equality of objects and of their texts. Different objects have different texts, whatever the
-- years of their anchors are. So objects are equal when their texts are, but for floats: the
-- one that is no number equals nothing, and zero equals zero with either sign.
import GraphText.Float64.Basic
import GraphText.Proofs.LooseTimestamps
import GraphText.Proofs.ObjectForms
import GraphText.Proofs.TimestampGrammar

namespace GraphText

-- Powers are those of the core library, whatever else is imported.
attribute [local instance (high)] instPowNat

/-- The object is zero, with a sign or without one. -/
def Object.IsZero (negative : Bool) (o : Object) : Prop :=
  ∃ m : Magnitude, m.units = 0 ∧ o = literal (.float64 (.finite negative m))

/-! ## Different texts -/

theorem Text.escape_inj {d : Char} (hd : d ≠ '\\') {s t : Text} :
    escape d s = escape d t ↔ s = t := by
  refine ⟨?_, congrArg _⟩
  intro same
  rw [← unescape_escape hd s, same, unescape_escape hd]

theorem Instant.display_inj {i j : Instant} : i.display = j.display ↔ i = j := by
  refine ⟨?_, congrArg _⟩
  intro same
  have read := i.readLoosely?_display
  rw [same, j.readLoosely?_display] at read
  exact (Option.some.inj read).symm

theorem Instant.display_ne_nil (i : Instant) : i.display ≠ [] := by
  rw [display_eq_year]
  simp

/-- Valid nodes read back, so they have texts of their own. -/
theorem Node.display_inj {m n : Node} (hm : m.Valid) (hn : n.Valid) :
    m.display = n.display ↔ m = n := by
  refine ⟨?_, congrArg _⟩
  intro same
  have read := parse_display hm
  rw [same, parse_display hn] at read
  exact (Except.ok.inj read).symm

namespace Predicate

variable {p q : Predicate}

theorem anchorText_inj : p.anchorText = q.anchorText ↔ p.anchor = q.anchor := by
  unfold anchorText
  cases p.anchor with
  | none =>
    cases q.anchor with
    | none => simp
    | some j => exact iff_of_false (fun same => j.display_ne_nil same.symm) nofun
  | some i =>
    cases q.anchor with
    | none => exact iff_of_false i.display_ne_nil nofun
    | some j => exact Instant.display_inj.trans Option.some_inj.symm

/-- Many predicates do not read back. But no anchor holds a quote, so the last quote tells the
id from the anchor. -/
theorem display_inj : p.display = q.display ↔ p = q := by
  refine ⟨?_, congrArg _⟩
  intro same
  have foreign : ¬ Instant.IsStampChar '"' := by decide
  have behind : ∀ r : Predicate, '"' ∉ ['@', '['] ++ (r.anchorText ++ [']']) := by
    intro r
    simp [r.not_mem_anchorText foreign]
  have joined : ∀ r : Predicate, r.display =
      ('"' :: Text.escape '"' r.id) ++ '"' :: (['@', '['] ++ (r.anchorText ++ [']'])) := by
    intro r
    simp [display, marker]
  rw [joined, joined] at same
  obtain ⟨front, back⟩ := Text.eq_of_last (behind p) (behind q) same
  have id := (Text.escape_inj (by decide)).1 (List.cons.inj front).2
  have anchor := anchorText_inj.1 (List.append_cancel_right (List.append_cancel_left back))
  cases p
  cases q
  rw [mk.injEq]
  exact ⟨id, anchor⟩

end Predicate

namespace Literal

variable {x y : Literal}

/-- Also the float that is no number reads back, though it does not equal what is read. -/
theorem unlimited_parse_display (x : Literal) : Builder.unlimited.parse x.display = .ok x := by
  by_cases nan : x = .float64 .nan
  · rw [nan]
    rfl
  · rw [Builder.parse_display _ nan, Builder.build_unlimited]

theorem display_inj : x.display = y.display ↔ x = y := by
  refine ⟨?_, congrArg _⟩
  intro same
  have read := unlimited_parse_display x
  rw [same, unlimited_parse_display y] at read
  exact (Except.ok.inj read).symm

theorem getLast?_display (x : Literal) : x.display.getLast? ≠ some ']' := by
  obtain ⟨z, last, -, other⟩ := LiteralType.getLast?_of_named x.type.lowerAscii_name
  rw [display, List.getLast?_append, last]
  simpa using other

end Literal

namespace Object

variable {a b : Object}

theorem head?_display_iff (h : a.Valid) : a.display.head? = some '/' ↔ a.type = .node := by
  cases a with
  | node n =>
    refine iff_of_true ?_ rfl
    rw [display, Node.display_eq]
    exact h.1.head?_append _
  | predicate p => exact iff_of_false (by simp [display, Predicate.display]) (by simp [type])
  | literal x => exact iff_of_false (by simp [display, Literal.display]) (by simp [type])

theorem getLast?_display_iff : a.display.getLast? = some ']' ↔ a.type = .predicate := by
  cases a with
  | node n => exact iff_of_false (by simp [display, n.getLast?_display]) (by simp [type])
  | predicate p => exact iff_of_true p.getLast?_display rfl
  | literal x => exact iff_of_false x.getLast?_display (by simp [type])

/-- The ends of the text tell the form. -/
theorem type_eq_of_display (ha : a.Valid) (hb : b.Valid) (same : a.display = b.display) :
    a.type = b.type := by
  have node : a.type = .node ↔ b.type = .node := by
    rw [← head?_display_iff ha, ← head?_display_iff hb, same]
  have predicate : a.type = .predicate ↔ b.type = .predicate := by
    rw [← getLast?_display_iff, ← getLast?_display_iff, same]
  cases h : a.type <;> cases h' : b.type <;> simp_all

/-- Different valid objects have different texts. -/
theorem display_inj (ha : a.Valid) (hb : b.Valid) : a.display = b.display ↔ a = b := by
  refine ⟨?_, congrArg _⟩
  intro same
  have type := type_eq_of_display ha hb same
  cases a with
  | node m =>
    cases b with
    | node n => rw [(Node.display_inj ha hb).1 same]
    | _ => cases type
  | predicate p =>
    cases b with
    | predicate q => rw [Predicate.display_inj.1 same]
    | _ => cases type
  | literal x =>
    cases b with
    | literal y => rw [Literal.display_inj.1 same]
    | _ => cases type

/-! ## Equal objects -/

theorem magnitude_eq_of_units {m n : Magnitude} (h : m.units = n.units) : m = n := by
  cases m
  cases n
  cases h
  rfl

/-- A number equals itself, and besides only zero equals zero. -/
theorem float_beq_iff {x y : Float64} : (x == y) = true ↔ (x ≠ .nan ∧ x = y) ∨
    ∃ s m n, m.units = 0 ∧ n.units = 0 ∧ x = .finite s m ∧ y = .finite (!s) n := by
  change Float64.equal x y = true ↔ _
  refine ⟨?_, ?_⟩
  · intro h
    cases x with
    | nan => cases h
    | infinite s =>
      cases y with
      | infinite t => exact .inl ⟨by simp, by rw [eq_of_beq h]⟩
      | _ => cases h
    | finite s m =>
      cases y with
      | finite t n =>
        rw [Float64.equal, Bool.and_eq_true, Bool.or_eq_true, beq_iff_eq, beq_iff_eq,
          beq_iff_eq] at h
        obtain ⟨size, zero⟩ := h
        by_cases sign : s = t
        · exact .inl ⟨by simp, by rw [sign, magnitude_eq_of_units size]⟩
        · have zeros := zero.resolve_right sign
          have other : t = !s := by
            cases s <;> cases t <;> simp_all
          exact .inr ⟨s, m, n, zeros, size ▸ zeros, rfl, by rw [other]⟩
      | _ => cases h
  · rintro (⟨number, rfl⟩ | ⟨s, m, n, hm, hn, rfl, rfl⟩)
    · exact float_beq_self_iff.2 number
    · simp [Float64.equal, hm, hn]

theorem literal_beq_iff {x y : Literal} : (x == y) = true ↔ (x ≠ .float64 .nan ∧ x = y) ∨
    ∃ s, (literal x).IsZero s ∧ (literal y).IsZero (!s) := by
  refine ⟨?_, ?_⟩
  · intro h
    change Literal.equal x y = true at h
    cases x with
    | float64 x =>
      cases y with
      | float64 y =>
        rcases float_beq_iff.1 h with ⟨number, rfl⟩ | ⟨s, m, n, hm, hn, rfl, rfl⟩
        · exact .inl ⟨fun nan => number (Literal.float64.inj nan), rfl⟩
        · exact .inr ⟨s, ⟨m, hm, rfl⟩, n, hn, rfl⟩
      | _ => cases h
    | bool c =>
      cases y with
      | bool d => exact .inl ⟨nofun, by rw [eq_of_beq h]⟩
      | _ => cases h
    | int64 m =>
      cases y with
      | int64 n => exact .inl ⟨nofun, by rw [eq_of_beq h]⟩
      | _ => cases h
    | text t =>
      cases y with
      | text u => exact .inl ⟨nofun, by rw [eq_of_beq h]⟩
      | _ => cases h
    | blob c =>
      cases y with
      | blob d => exact .inl ⟨nofun, by rw [eq_of_beq h]⟩
      | _ => cases h
  · rintro (⟨number, rfl⟩ | ⟨s, ⟨m, hm, zero⟩, n, hn, zero'⟩)
    · exact literal_beq_self_iff.2 number
    · cases zero
      cases zero'
      exact float_beq_iff.2 (.inr ⟨s, m, n, hm, hn, rfl, rfl⟩)

theorem beq_iff : (a == b) = true ↔
    (¬ a.IsNaN ∧ a = b) ∨ ∃ s, a.IsZero s ∧ b.IsZero (!s) := by
  refine ⟨?_, ?_⟩
  · intro h
    change equal a b = true at h
    cases a with
    | node m =>
      cases b with
      | node n => exact .inl ⟨nofun, by rw [eq_of_beq h]⟩
      | _ => cases h
    | predicate p =>
      cases b with
      | predicate q => exact .inl ⟨nofun, by rw [eq_of_beq h]⟩
      | _ => cases h
    | literal x =>
      cases b with
      | literal y =>
        rcases literal_beq_iff.1 h with ⟨number, rfl⟩ | zeros
        · exact .inl ⟨fun nan => number (literal.inj nan), rfl⟩
        · exact .inr zeros
      | _ => cases h
  · rintro (⟨number, rfl⟩ | ⟨s, ⟨m, hm, rfl⟩, n, hn, rfl⟩)
    · exact beq_self_iff.2 number
    · exact literal_beq_iff.2 (.inr ⟨s, ⟨m, hm, rfl⟩, n, hn, rfl⟩)

theorem IsZero.not_isNaN {s : Bool} (h : a.IsZero s) : ¬ a.IsNaN := by
  obtain ⟨m, -, rfl⟩ := h
  exact nofun

theorem IsZero.valid {s : Bool} (h : a.IsZero s) : a.Valid := by
  obtain ⟨m, -, rfl⟩ := h
  trivial

theorem IsZero.ne {s : Bool} (h : a.IsZero s) (h' : b.IsZero (!s)) : a ≠ b := by
  obtain ⟨m, -, rfl⟩ := h
  obtain ⟨n, -, rfl⟩ := h'
  intro same
  injection same with same
  injection same with same
  injection same with sign
  cases s <;> cases sign

/-- Bits of an exponent without a number are no number, unless they are infinite. -/
theorem isNaN_ofBits {bits : Nat} (zeros : bits / 2 ^ (52 : Nat) % 2048 = 2047)
    (digits : bits % 2 ^ (52 : Nat) ≠ 0) : (literal (.float64 (.ofBits bits))).IsNaN := by
  rw [Float64.ofBits, if_pos zeros, if_neg digits]
  rfl

/-- A predicate in writing is an object, whatever way its id and its timestamp are written. -/
theorem parse_of_written {builder : Literal.Builder} {t written anchor id : Text} {i : Instant}
    (joins : t.trim = ['"'] ++ written ++ Predicate.marker ++ anchor ++ [']'])
    (escapes : Text.Replaced ['\\', '"'] ['"'] written id) (named : id ≠ [])
    (stamp : Instant.IsWritten anchor i) :
    parse builder t = .ok (predicate ⟨id, some i⟩) := by
  have plain := (Text.unescape_eq_iff_replaced (by decide)).2 escapes
  have shown : written ≠ [] := by
    rintro rfl
    exact named plain.symm
  have shape : Predicate.IsWritten t.trim written anchor (some i) :=
    ⟨joins, shown, .inr ⟨i, Instant.read_eq_ok_iff.2 stamp, rfl⟩⟩
  have read : Predicate.parse t = .ok ⟨id, some i⟩ :=
    Predicate.parse_eq_ok_iff.2 ⟨written, anchor, shape, plain.symm⟩
  exact readAs?_type_iff.1 (toOption_map_eq_some_iff.2 ⟨_, read, rfl⟩)

/-- Objects that were made are equal if and only if their texts are, unless they are floats
that are no numbers or are zeros of different signs. The form and the type of a literal show in
the text. Predicates that are written with the same id, escaped or not, and with timestamps of
the same instant are equal and have the same text. -/
theorem beq_iff_display :
    (∀ a b : Object, a.IsMade → b.IsMade → ((a == b) = true ↔
      ¬ a.IsNaN ∧ (a.display = b.display ∨ ∃ s, a.IsZero s ∧ b.IsZero (!s)))) ∧
    (∀ bits, bits / 2 ^ (52 : Nat) % 2048 = 2047 → bits % 2 ^ (52 : Nat) ≠ 0 →
      (literal (.float64 (.ofBits bits))).IsNaN) ∧
    (∀ a b : Object, a.IsNaN → (a == b) = false ∧ (b == a) = false ∧
      (b.IsNaN → a.display = b.display)) ∧
    (∀ s (a b : Object), a.IsZero s → b.IsZero (!s) →
      (a == b) = true ∧ a.display ≠ b.display) ∧
    (∀ a b : Object, a.IsMade → b.IsMade → a.type ≠ b.type → a.display ≠ b.display) ∧
    (∀ x y : Literal, x.type ≠ y.type → (literal x).display ≠ (literal y).display) ∧
    ∀ (builder : Literal.Builder) (t u written written' anchor anchor' id : Text) (i : Instant),
      t.trim = ['"'] ++ written ++ Predicate.marker ++ anchor ++ [']'] →
      u.trim = ['"'] ++ written' ++ Predicate.marker ++ anchor' ++ [']'] →
      Text.Replaced ['\\', '"'] ['"'] written id → Text.Replaced ['\\', '"'] ['"'] written' id →
      id ≠ [] → Instant.IsWritten anchor i → Instant.IsWritten anchor' i →
      ∃ p q, parse builder t = .ok (predicate p) ∧ parse builder u = .ok (predicate q) ∧
        (predicate p == predicate q) = true ∧ p.display = q.display := by
  refine ⟨?_, ?_, ?_, ?_, ?_, ?_, ?_⟩
  · intro a b ha hb
    rw [beq_iff, display_inj (isMade_iff.1 ha) (isMade_iff.1 hb), and_or_left]
    refine or_congr_right ⟨?_, And.right⟩
    rintro ⟨s, zero, zero'⟩
    exact ⟨zero.not_isNaN, s, zero, zero'⟩
  · intro bits zeros digits
    exact isNaN_ofBits zeros digits
  · intro a b ha
    refine ⟨?_, beq_eq_false_of_isNaN ha b, ?_⟩
    · rw [Bool.eq_false_iff, ne_eq, beq_iff]
      rintro (⟨number, -⟩ | ⟨s, zero, -⟩)
      · exact number ha
      · exact zero.not_isNaN ha
    · intro hb
      rw [ha, hb]
  · intro s a b zero zero'
    refine ⟨beq_iff.2 (.inr ⟨s, zero, zero'⟩), ?_⟩
    exact fun same => zero.ne zero' ((display_inj zero.valid zero'.valid).1 same)
  · intro a b ha hb other same
    exact other (type_eq_of_display (isMade_iff.1 ha) (isMade_iff.1 hb) same)
  · intro x y other same
    exact other (congrArg _ (Literal.display_inj.1 same))
  · intro builder t u written written' anchor anchor' id i joins joins' escapes escapes' named
      stamp stamp'
    refine ⟨_, _, parse_of_written joins escapes named stamp,
      parse_of_written joins' escapes' named stamp', ?_, rfl⟩
    exact beq_self_iff.2 nofun

/-- The two clocks are at different distances behind universal time, where the year 10000 has
begun. -/
theorem beq_iff_display_of_late_clocks : ∃ p q,
    parse .unlimited "\"a\\\"b\"@[9999-12-31T23:30:00-01:00]".toList = .ok (predicate p) ∧
      parse .unlimited " \"a\"b\"@[9999-12-31 22:30:00.0000000000-02:00]".toList =
        .ok (predicate q) ∧
      (predicate p == predicate q) = true ∧ p.display = q.display := by
  obtain ⟨-, -, -, -, -, -, written⟩ := beq_iff_display
  have reading : Instant.IsReading "9999-12-31T23:30:00".toList
      ⟨253402299000, 0, by decide⟩ :=
    @Instant.IsReading.mk 9999 12 31 23 30 0 0 'T' [] _ (by decide) (by decide) (by decide)
      (by decide) (by decide) (by decide) .none (by decide) (by decide)
  have fraction := @Instant.IsFraction.places (List.replicate 10 '0') (by decide)
    (allDigits_replicate 10)
  have reading' : Instant.IsReading "9999-12-31 22:30:00.0000000000".toList
      ⟨253402295400, 0, by decide⟩ :=
    @Instant.IsReading.mk 9999 12 31 22 30 0 0 ' ' _ _ (by decide) (by decide) (by decide)
      (by decide) (by decide) (by decide) fraction (by decide) (by decide)
  have zone : Instant.IsZone "-01:00".toList (-3600) :=
    @Instant.IsZone.behind '-' 1 0 (by decide) (by decide) (by decide)
  have zone' : Instant.IsZone "-02:00".toList (-7200) :=
    @Instant.IsZone.behind '-' 2 0 (by decide) (by decide) (by decide)
  have stamp : Instant.IsWritten "9999-12-31T23:30:00-01:00".toList
      ⟨253402302600, 0, by decide⟩ := ⟨_, _, _, _, rfl, reading, zone, by decide, rfl, rfl⟩
  have stamp' : Instant.IsWritten "9999-12-31 22:30:00.0000000000-02:00".toList
      ⟨253402302600, 0, by decide⟩ := ⟨_, _, _, _, rfl, reading', zone', by decide, rfl, rfl⟩
  have joins : Text.trim "\"a\\\"b\"@[9999-12-31T23:30:00-01:00]".toList = ['"'] ++
      "a\\\"b".toList ++ Predicate.marker ++ "9999-12-31T23:30:00-01:00".toList ++ [']'] := rfl
  have joins' : Text.trim " \"a\"b\"@[9999-12-31 22:30:00.0000000000-02:00]".toList = ['"'] ++
      "a\"b".toList ++ Predicate.marker ++ "9999-12-31 22:30:00.0000000000-02:00".toList ++
      [']'] := rfl
  exact written .unlimited _ _ _ _ _ _ "a\"b".toList _ joins joins' (Text.replaced_unescape _)
    (Text.replaced_unescape _) (List.cons_ne_nil _ _) stamp stamp'

end Object
end GraphText
