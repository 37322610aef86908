-- Timestamps read loosely: every instant reads back from its text, whatever its year. Only
-- this reader takes the sign that a year of more or fewer than four digits is written with.
import GraphText.Instant.Timestamp
import GraphText.Proofs.Blanks
import GraphText.Proofs.Timestamps

namespace GraphText.Instant

variable {most : Nat} {t r : Text}

/-! ## Numbers -/

theorem isBlank_of_isDigit {c : Char} (h : isDigit c = true) : isBlank c = false := by
  have codes : ∀ n < 58, 48 ≤ n → Ranges.blank.has n = false := by decide
  obtain ⟨low, high⟩ := toNat_of_isDigit h
  exact codes c.toNat (Nat.lt_succ_of_le high) low

theorem trimStart_of_allDigits (digits : AllDigits t) (nonempty : t ≠ []) (r : Text) :
    Text.trimStart (t ++ r) = t ++ r := by
  obtain ⟨c, t, rfl⟩ := List.exists_cons_of_ne_nil nonempty
  apply Text.dropWhile_isBlank_of_head?
  rintro x ⟨⟩
  exact isBlank_of_isDigit (digits c List.mem_cons_self)

/-- Digits read as their number up to the next character that is none. -/
theorem looseNumber?_of_allDigits (digits : AllDigits t) (nonempty : t ≠ [])
    (fits : t.length ≤ most) (ends : ∀ c ∈ r.head?, isDigit c = false) :
    looseNumber? most (t ++ r) = some (digitsValue t, r) := by
  have front : ((t ++ r).takeWhile isDigit).take most = t := by
    rw [takeWhile_isDigit digits ends, List.take_of_length_le fits]
  unfold looseNumber?
  rw [front]
  dsimp only
  rw [if_neg (by simpa using nonempty), List.drop_left]

theorem padded_ne_nil {width : Nat} (hw : 0 < width) (n : Nat) : padded width n ≠ [] := by
  intro empty
  have length := le_length_padded width n
  rw [empty, List.length_nil] at length
  omega

theorem looseField?_padded {width n : Nat} (hw : 0 < width) (h : n < 10 ^ width)
    (ends : ∀ c ∈ r.head?, isDigit c = false) :
    looseField? width (padded width n ++ r) = some (n, r) := by
  have digits := allDigits_padded width n
  have named := padded_ne_nil hw n
  have length := length_padded hw h
  unfold looseField?
  rw [trimStart_of_allDigits digits named,
    looseNumber?_of_allDigits digits named (Nat.le_of_eq length) ends, digitsValue_padded]

theorem looseYear?_of_isDigit {c : Char} (digit : isDigit c = true) (r : Text) :
    looseYear? (c :: r) = (looseNumber? 4 (c :: r)).map fun (n, t) => ((n : Int), t) := by
  have solid := Text.dropWhile_isBlank_of_head? (t := c :: r)
    (by rintro x ⟨⟩; exact isBlank_of_isDigit digit)
  unfold looseYear? Text.trimStart
  rw [solid]
  split
  · rename_i minus
    cases minus
    cases digit
  · rename_i plus
    cases plus
    cases digit
  · rfl

/-- A year reads back with its sign, if it has one. -/
theorem looseYear?_yearText (y : Int) (ends : ∀ c ∈ r.head?, isDigit c = false) :
    looseYear? (yearText y ++ r) = some (y, r) := by
  have digits := allDigits_padded 4 y.natAbs
  have named := padded_ne_nil (by decide : 0 < 4) y.natAbs
  unfold yearText
  by_cases plain : 0 ≤ y ∧ y ≤ 9999
  · have same : y.toNat = y.natAbs := by omega
    have length := length_padded (by decide : 0 < 4) (by omega : y.natAbs < 10 ^ 4)
    have read := looseNumber?_of_allDigits digits named (Nat.le_of_eq length) ends
    obtain ⟨c, t, text⟩ := List.exists_cons_of_ne_nil named
    rw [if_pos plain, same]
    rw [text] at digits read ⊢
    rw [List.cons_append] at read ⊢
    rw [looseYear?_of_isDigit (digits c List.mem_cons_self), read, ← text, digitsValue_padded,
      Option.map_some]
    simp only [Option.some.injEq, Prod.mk.injEq, and_true]
    omega
  · have fits : (padded 4 y.natAbs).length ≤ (padded 4 y.natAbs ++ r).length := by simp
    have read := looseNumber?_of_allDigits digits named fits ends
    rw [digitsValue_padded] at read
    rw [if_neg plain, List.cons_append]
    by_cases negative : y < 0
    · rw [if_pos negative]
      change (looseNumber? (padded 4 y.natAbs ++ r).length (padded 4 y.natAbs ++ r)).map _ = _
      rw [read, Option.map_some]
      simp only [Option.some.injEq, Prod.mk.injEq, and_true]
      omega
    · rw [if_neg negative]
      change (looseNumber? (padded 4 y.natAbs ++ r).length (padded 4 y.natAbs ++ r)).map _ = _
      rw [read, Option.map_some]
      simp only [Option.some.injEq, Prod.mk.injEq, and_true]
      omega

/-! ## The text -/

theorem looseMark?_self {c : Char} (solid : isBlank c = false) (r : Text) :
    looseMark? c (c :: r) = some r := by
  have front := Text.dropWhile_isBlank_of_head? (t := c :: r) (by rintro x ⟨⟩; exact solid)
  unfold looseMark? Text.trimStart
  rw [front]
  exact if_pos rfl

/-- The text of an instant, part by part, with any year. -/
theorem display_eq_year (i : Instant) : i.display =
    yearText i.year ++ '-' :: (padded 2 i.date.month.toNat ++ '-' ::
      (padded 2 i.date.day.toNat ++ 'T' :: (padded 2 (i.ofDay / 3600).toNat ++ ':' ::
        (padded 2 (i.ofDay / 60 % 60).toNat ++ ':' :: (padded 2 i.ofMinute.toNat ++
          (fractionText i.ofSecond ++ ['Z'])))))) := by
  simp only [display, Date.display, year, List.append_assoc, List.cons_append, List.nil_append]

/-- The numbers that the text shows are the day. -/
theorem date_eq_year (i : Instant) :
    (⟨i.year, i.date.month.toNat, i.date.day.toNat⟩ : Date) = i.date := by
  have month := i.month_bounds
  have day := i.day_bounds
  have m : (i.date.month.toNat : Int) = i.date.month := Int.toNat_of_nonneg (by omega)
  have d : (i.date.day.toNat : Int) = i.date.day := Int.toNat_of_nonneg (by omega)
  rw [year, m, d]

theorem noDigit_cons {c : Char} (h : isDigit c = false) (r : Text) :
    ∀ x ∈ (c :: r).head?, isDigit x = false := by
  rintro x ⟨⟩
  exact h

theorem bind_eq_of_eq_some {α β : Type} {x : Option α} {a : α} (h : x = some a)
    (f : α → Option β) : x.bind f = f a := by
  rw [h, Option.bind_some]

/-- Every instant reads back from its text. -/
theorem readLoosely?_display (i : Instant) : readLoosely? i.display = some i := by
  have month := i.month_bounds
  have day := i.day_bounds
  have time := i.ofDay_bounds
  have minute := i.ofMinute_bounds
  have dash := noDigit_cons (by decide : isDigit '-' = false)
  have colon := noDigit_cons (by decide : isDigit ':' = false)
  have mark := noDigit_cons (by decide : isDigit 'T' = false)
  have behind : ∀ c ∈ (fractionText i.ofSecond ++ ['Z']).head?, isDigit c = false := by
    unfold fractionText
    split
    · exact noDigit_cons (by decide) _
    · split
      · exact noDigit_cons (by decide) _
      · split
        · exact noDigit_cons (by decide) _
        · exact noDigit_cons (by decide) _
  have readYear := fun r => looseYear?_yearText i.year (dash r)
  have readMonth := fun r =>
    looseField?_padded (by decide : 0 < 2) (by omega : i.date.month.toNat < 10 ^ 2) (dash r)
  have readDay := fun r =>
    looseField?_padded (by decide : 0 < 2) (by omega : i.date.day.toNat < 10 ^ 2) (mark r)
  have readHour := fun r =>
    looseField?_padded (by decide : 0 < 2) (by omega : (i.ofDay / 3600).toNat < 10 ^ 2) (colon r)
  have readMinute := fun r =>
    looseField?_padded (by decide : 0 < 2) (by omega : (i.ofDay / 60 % 60).toNat < 10 ^ 2) (colon r)
  have readSecond :=
    looseField?_padded (by decide : 0 < 2) (by omega : i.ofMinute.toNat < 10 ^ 2) behind
  have readFraction := @fraction_fractionText i.ofSecond (Nat.mod_lt _ (by decide)) ['Z']
    (by intro c hc; cases hc; decide)
  have readFraction' : (fraction (fractionText i.ofSecond ++ ['Z'])).toOption =
      some (i.ofSecond, ['Z']) := by
    rw [readFraction]
    rfl
  have readMark : ∀ r, dayMark? ('T' :: r) = some r := fun _ => rfl
  have readDash := looseMark?_self (by decide : isBlank '-' = false)
  have readColon := looseMark?_self (by decide : isBlank ':' = false)
  have hour : ((i.ofDay / 3600).toNat : Int) = i.ofDay / 3600 := Int.toNat_of_nonneg (by omega)
  have min : ((i.ofDay / 60 % 60).toNat : Int) = i.ofDay / 60 % 60 :=
    Int.toNat_of_nonneg (by omega)
  have sec : (i.ofMinute.toNat : Int) = i.ofMinute := Int.toNat_of_nonneg (by omega)
  have clock : ofClock? ⟨i.year, i.date.month.toNat, i.date.day.toNat⟩ (i.ofDay / 3600).toNat
      (i.ofDay / 60 % 60).toNat i.ofMinute.toNat i.ofSecond = some i := by
    rw [date_eq_year, hour, min, sec, ofClock?_parts]
  have zone : looseZone? (Text.trimStart ['Z']) = some (0, []) := by decide
  -- As with the strict reader, every part reads as its number and leaves the next part.
  unfold readLoosely?
  rw [display_eq_year]
  refine (bind_eq_of_eq_some (readYear _) _).trans ?_
  refine (bind_eq_of_eq_some (readDash _) _).trans ?_
  refine (bind_eq_of_eq_some (readMonth _) _).trans ?_
  refine (bind_eq_of_eq_some (readDash _) _).trans ?_
  refine (bind_eq_of_eq_some (readDay _) _).trans ?_
  refine (bind_eq_of_eq_some (readMark _) _).trans ?_
  refine (bind_eq_of_eq_some (readHour _) _).trans ?_
  refine (bind_eq_of_eq_some (readColon _) _).trans ?_
  refine (bind_eq_of_eq_some (readMinute _) _).trans ?_
  refine (bind_eq_of_eq_some (readColon _) _).trans ?_
  refine (bind_eq_of_eq_some readSecond _).trans ?_
  refine (bind_eq_of_eq_some readFraction' _).trans ?_
  refine (bind_eq_of_eq_some clock _).trans ?_
  refine (bind_eq_of_eq_some zone _).trans ?_
  exact bind_eq_of_eq_some i.universal?_zero _

end GraphText.Instant
