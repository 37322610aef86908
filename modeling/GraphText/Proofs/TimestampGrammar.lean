-- The grammar of timestamps. A text is a timestamp of an instant if it is a reading of a clock
-- and how far the clock is ahead of universal time, and the clock has that reading at the
-- instant. Only digits and a few marks stand in one.
import GraphText.Instant.Timestamp
import GraphText.Proofs.Days
import GraphText.Proofs.Numerals
import Mathlib.Data.List.Basic

namespace GraphText

-- Powers are those of the core library, whatever else is imported.
attribute [local instance (high)] instPowNat

theorem bind_eq_ok_iff {ε α β : Type} {x : Except ε α} {f : α → Except ε β} {b : β} :
    x >>= f = .ok b ↔ ∃ a, x = .ok a ∧ f a = .ok b := by
  cases x with
  | error e => simp [bind, Except.bind]
  | ok a => simp [bind, Except.bind]

/-! ## Numbers of fixed width -/

theorem allDigits_padded (width n : Nat) : AllDigits (padded width n) :=
  (allDigits_replicate _).append (allDigits_natText n)

theorem digitsValue_padded (width n : Nat) : digitsValue (padded width n) = n := by
  rw [padded, digitsValue_append, digitsValue_replicate, digitsValue_natText, Nat.zero_mul,
    Nat.zero_add]

theorem length_padded {width n : Nat} (hw : 0 < width) (h : n < 10 ^ width) :
    (padded width n).length = width := by
  have fits : (natText n).length ≤ width := (Nat.length_toDigits_le_iff (by simp) hw).2 h
  rw [padded, List.length_append, List.length_replicate]
  omega

theorem le_length_padded (width n : Nat) : width ≤ (padded width n).length := by
  rw [padded, List.length_append, List.length_replicate]
  omega

theorem digitValue_lt {c : Char} (h : isDigit c = true) : digitValue c < 10 := by
  have single : AllDigits [c] := fun d mem => List.mem_singleton.1 mem ▸ h
  have most := digitsValue_lt single
  simpa [digitsValue] using most

theorem digitValue_inj {c d : Char} (hc : isDigit c = true) (hd : isDigit d = true)
    (same : digitValue c = digitValue d) : c = d := by
  have first := toNat_of_isDigit hc
  have second := toNat_of_isDigit hd
  unfold digitValue at same
  exact Char.toNat_inj.1 (by omega)

theorem digitsValue_cons_div (c : Char) {t : Text} (ht : AllDigits t) :
    digitsValue (c :: t) / 10 ^ t.length = digitValue c := by
  rw [digitsValue_cons, Nat.mul_comm, Nat.mul_add_div (Nat.pow_pos (by decide)),
    Nat.div_eq_of_lt (digitsValue_lt ht), Nat.add_zero]

/-- As many digits that make the same number are the same digits. -/
theorem AllDigits.eq_of_value {s t : Text} (hs : AllDigits s) (ht : AllDigits t)
    (length : s.length = t.length) (value : digitsValue s = digitsValue t) : s = t := by
  induction s generalizing t with
  | nil => exact (List.length_eq_zero_iff.1 length.symm).symm
  | cons c s ih =>
    obtain ⟨d, t, rfl⟩ := List.exists_cons_of_length_pos (l := t) (by rw [← length]; simp)
    have short : s.length = t.length := Nat.succ.inj length
    have hs' : AllDigits s := fun x mem => hs x (List.mem_cons_of_mem _ mem)
    have ht' : AllDigits t := fun x mem => ht x (List.mem_cons_of_mem _ mem)
    have front : digitValue c = digitValue d := by
      rw [← digitsValue_cons_div c hs', ← digitsValue_cons_div d ht', value, short]
    rw [digitsValue_cons, digitsValue_cons, front, short] at value
    rw [digitValue_inj (hs c List.mem_cons_self) (ht d List.mem_cons_self) front,
      ih hs' ht' short (Nat.add_left_cancel value)]

theorem AllDigits.eq_padded {t : Text} (ht : AllDigits t) (shown : 0 < t.length) :
    t = padded t.length (digitsValue t) :=
  ht.eq_of_value (allDigits_padded _ _) (length_padded shown (digitsValue_lt ht)).symm
    (digitsValue_padded _ _).symm

namespace Instant

variable {t r : Text} {i clock : Instant}

theorem number_of_allDigits {t : Text} (ht : AllDigits t) (n : Nat) (r : Text) :
    number t.length n (t ++ r) = .ok (n * 10 ^ t.length + digitsValue t, r) := by
  induction t generalizing n with
  | nil => simp [number, digitsValue]
  | cons c t ih =>
    rw [List.cons_append, List.length_cons, number, if_pos (ht c List.mem_cons_self),
      ih (fun x hx => ht x (List.mem_cons_of_mem _ hx)), digitsValue_cons]
    congr 2
    ring

theorem number_padded {width n : Nat} (hw : 0 < width) (h : n < 10 ^ width) (r : Text) :
    number width 0 (padded width n ++ r) = .ok (n, r) := by
  have read := number_of_allDigits (allDigits_padded width n) 0 r
  rw [length_padded hw h, digitsValue_padded, Nat.zero_mul, Nat.zero_add] at read
  exact read

theorem exists_of_number {width value n : Nat} (h : number width value t = .ok (n, r)) :
    ∃ w, AllDigits w ∧ w.length = width ∧ t = w ++ r := by
  fun_induction number width value t with
  | case1 value t =>
    cases h
    exact ⟨[], by simp [AllDigits], rfl, rfl⟩
  | case2 => cases h
  | case3 value width c t digit ih =>
    obtain ⟨w, digits, length, rfl⟩ := ih h
    refine ⟨c :: w, ?_, by simp [length], rfl⟩
    intro d mem
    rcases List.mem_cons.1 mem with rfl | mem
    · exact digit
    · exact digits d mem
  | case4 => cases h

theorem number_eq_ok_iff {width n : Nat} (hw : 0 < width) :
    number width 0 t = .ok (n, r) ↔ n < 10 ^ width ∧ t = padded width n ++ r := by
  refine ⟨?_, ?_⟩
  · intro h
    obtain ⟨w, digits, rfl, rfl⟩ := exists_of_number h
    rw [number_of_allDigits digits, Nat.zero_mul, Nat.zero_add] at h
    obtain ⟨rfl, -⟩ := Prod.mk.inj (Except.ok.inj h)
    exact ⟨digitsValue_lt digits, by rw [← digits.eq_padded hw]⟩
  · rintro ⟨fits, rfl⟩
    exact number_padded hw fits r

theorem sign_eq_ok_iff {allowed : Text} : sign allowed t = .ok r ↔ ∃ c ∈ allowed, t = c :: r := by
  cases t with
  | nil => simp [sign]
  | cons d t =>
    rw [sign]
    split
    · rename_i passes
      rw [Except.ok.injEq]
      refine ⟨fun same => ⟨d, passes, by rw [same]⟩, ?_⟩
      rintro ⟨c, -, joins⟩
      exact (List.cons.inj joins).2
    · rename_i fails
      refine iff_of_false (by simp) ?_
      rintro ⟨c, passes, joins⟩
      rw [(List.cons.inj joins).1] at fails
      exact fails passes

/-! ## Fractions -/

/-- A point and digits behind it make so many nanoseconds, and so does nothing. -/
inductive IsFraction : Text → Nat → Prop
  | none : IsFraction [] 0
  | places {digits : Text} : digits ≠ [] → AllDigits digits →
      IsFraction ('.' :: digits) (digitsValue (digits.take 9) * 10 ^ (9 - digits.length))

theorem exists_of_fraction {nanos : Nat} (h : fraction t = .ok (nanos, r)) :
    ∃ f, IsFraction f nanos ∧ t = f ++ r := by
  unfold fraction at h
  split at h
  · rename_i t
    unfold places at h
    dsimp only at h
    split at h
    · cases h
    · split at h
      · cases h
      · rename_i placed
        obtain ⟨rfl, rfl⟩ := Prod.mk.inj (Except.ok.inj h)
        rw [List.isEmpty_iff] at placed
        refine ⟨'.' :: t.takeWhile isDigit, .places placed ?_, ?_⟩
        · exact fun c mem => List.mem_takeWhile_imp mem
        · rw [List.cons_append, List.takeWhile_append_dropWhile]
  · cases h
    exact ⟨[], .none, rfl⟩

theorem fraction_append {f : Text} {nanos : Nat} (h : IsFraction f nanos)
    (ends : ∀ c ∈ r.head?, isDigit c = false ∧ c ≠ '.') : fraction (f ++ r) = .ok (nanos, r) := by
  have stops : ∀ c ∈ r.head?, isDigit c = false := fun c mem => (ends c mem).1
  cases h with
  | none =>
    rw [List.nil_append]
    unfold fraction
    split
    · exact absurd rfl (ends '.' rfl).2
    · rfl
  | places placed all =>
    rw [List.cons_append, fraction, places, takeWhile_isDigit all stops,
      dropWhile_isDigit all stops, if_neg (by simp [placed]), if_neg (by simp [placed])]

/-! ## How far a clock is ahead -/

/-- The text says how many seconds the clock is ahead of universal time. -/
inductive IsZone : Text → Int → Prop
  | universal {c : Char} : c ∈ ['Z', 'z'] → IsZone [c] 0
  | ahead {hours minutes : Nat} : hours < 100 → minutes < 60 →
      IsZone ('+' :: (padded 2 hours ++ ':' :: padded 2 minutes))
        (hours * 3600 + minutes * 60 : Nat)
  | behind {c : Char} {hours minutes : Nat} : c ∈ ['-', '\u2212'] → hours < 100 → minutes < 60 →
      IsZone (c :: (padded 2 hours ++ ':' :: padded 2 minutes))
        (-(hours * 3600 + minutes * 60 : Nat))

theorem pair_eq_ok_iff {a b : Nat} : pair t = .ok (a, b, r) ↔
    a < 10 ∧ b < 10 ∧ t = padded 2 (10 * a + b) ++ r := by
  refine ⟨?_, ?_⟩
  · intro h
    unfold pair at h
    split at h
    · cases h
    · cases h
    · rename_i c d r'
      split at h
      · rename_i digits
        rw [Bool.and_eq_true] at digits
        have all : AllDigits [c, d] := by
          intro x mem
          simp only [List.mem_cons, List.not_mem_nil, or_false] at mem
          rcases mem with rfl | rfl
          · exact digits.1
          · exact digits.2
        have text := all.eq_padded (by simp)
        obtain ⟨rfl, rfl, rfl⟩ := Prod.mk.inj (Except.ok.inj h) |>.imp_right Prod.mk.inj
        refine ⟨digitValue_lt digits.1, digitValue_lt digits.2, ?_⟩
        have value : digitsValue [c, d] = 10 * digitValue c + digitValue d := by
          simp [digitsValue]
        rw [value] at text
        exact congrArg (· ++ r') text
      · cases h
  · rintro ⟨ha, hb, rfl⟩
    have fits : 10 * a + b < 10 ^ 2 := by omega
    have digits := allDigits_padded 2 (10 * a + b)
    have value := digitsValue_padded 2 (10 * a + b)
    obtain ⟨c, d, text⟩ := List.length_eq_two.1 (length_padded (by decide) fits)
    rw [text] at digits value ⊢
    have hc : isDigit c = true := digits c (by simp)
    have hd : isDigit d = true := digits d (by simp)
    have first := digitValue_lt hc
    have second := digitValue_lt hd
    have value' : 10 * digitValue c + digitValue d = 10 * a + b := by
      rw [← value]
      simp [digitsValue]
    have same : digitValue c = a ∧ digitValue d = b := by omega
    rw [List.cons_append, List.cons_append, List.nil_append, pair, hc, hd, same.1, same.2]
    rfl

theorem clockOffset_padded {hours minutes : Nat} (hh : hours < 100) (hm : minutes < 60)
    (r : Text) : clockOffset (padded 2 hours ++ ':' :: (padded 2 minutes ++ r)) =
      .ok ((hours * 3600 + minutes * 60 : Nat), r) := by
  have first : pair (padded 2 hours ++ ':' :: (padded 2 minutes ++ r)) =
      .ok (hours / 10, hours % 10, ':' :: (padded 2 minutes ++ r)) :=
    pair_eq_ok_iff.2 ⟨by omega, by omega, by rw [Nat.div_add_mod]⟩
  have second : pair (padded 2 minutes ++ r) = .ok (minutes / 10, minutes % 10, r) :=
    pair_eq_ok_iff.2 ⟨by omega, by omega, by rw [Nat.div_add_mod]⟩
  have few : ¬ 6 ≤ minutes / 10 := by omega
  simp only [clockOffset, bind, Except.bind, first, second, sign, List.mem_singleton, if_true,
    if_neg few, Nat.div_add_mod]

theorem exists_of_clockOffset {seconds : Int} (h : clockOffset t = .ok (seconds, r)) :
    ∃ hours minutes : Nat, hours < 100 ∧ minutes < 60 ∧
      seconds = (hours * 3600 + minutes * 60 : Nat) ∧
      t = padded 2 hours ++ ':' :: (padded 2 minutes ++ r) := by
  obtain ⟨⟨a, b, u⟩, hours, more⟩ := bind_eq_ok_iff.1 h
  obtain ⟨v, colon, rest⟩ := bind_eq_ok_iff.1 more
  obtain ⟨⟨c, d, w⟩, minutes, last⟩ := bind_eq_ok_iff.1 rest
  obtain ⟨ha, hb, rfl⟩ := pair_eq_ok_iff.1 hours
  obtain ⟨x, mem, rfl⟩ := sign_eq_ok_iff.1 colon
  obtain ⟨hc, hd, rfl⟩ := pair_eq_ok_iff.1 minutes
  rw [List.mem_singleton.1 mem]
  dsimp only at last
  split at last
  · cases last
  · obtain ⟨rfl, rfl⟩ := Prod.mk.inj (Except.ok.inj last)
    exact ⟨10 * a + b, 10 * c + d, by omega, by omega, rfl, rfl⟩

theorem exists_of_zone {ahead : Int} (h : zone t = .ok (ahead, r)) :
    ∃ z, IsZone z ahead ∧ t = z ++ r := by
  unfold zone at h
  split at h
  · cases h
  · rename_i c u
    split at h
    · rename_i name
      obtain ⟨rfl, rfl⟩ := Prod.mk.inj (Except.ok.inj h)
      exact ⟨[c], .universal (by simpa using name), rfl⟩
    · split at h
      · rename_i plus
        obtain ⟨hours, minutes, hh, hm, rfl, rfl⟩ := exists_of_clockOffset h
        exact ⟨_, .ahead hh hm, by simp [plus]⟩
      · split at h
        · rename_i minus
          obtain ⟨⟨s, v⟩, offset, negated⟩ := bind_eq_ok_iff.1 h
          obtain ⟨hours, minutes, hh, hm, rfl, rfl⟩ := exists_of_clockOffset offset
          obtain ⟨rfl, rfl⟩ := Prod.mk.inj (Except.ok.inj negated)
          exact ⟨_, .behind (by simpa using minus) hh hm, by simp⟩
        · cases h

theorem zone_append {z : Text} {ahead : Int} (h : IsZone z ahead) (r : Text) :
    zone (z ++ r) = .ok (ahead, r) := by
  cases h with
  | universal name =>
    rw [List.singleton_append, zone, if_pos (by simpa using name)]
  | ahead hh hm =>
    rw [List.cons_append, List.append_assoc, List.cons_append, zone, if_neg (by decide),
      if_pos rfl, clockOffset_padded hh hm]
  | behind minus hh hm =>
    rw [List.cons_append, List.append_assoc, List.cons_append, zone, clockOffset_padded hh hm]
    simp only [List.mem_cons, List.not_mem_nil, or_false] at minus
    rcases minus with rfl | rfl <;> rfl

/-- What says how far a clock is ahead starts with neither a digit nor a point. -/
theorem IsZone.head? {z : Text} {ahead : Int} (h : IsZone z ahead) :
    ∀ c ∈ (z ++ r).head?, isDigit c = false ∧ c ≠ '.' := by
  cases h with
  | universal name =>
    simp only [List.mem_cons, List.not_mem_nil, or_false] at name
    rcases name with rfl | rfl <;> rintro c ⟨⟩ <;> decide
  | ahead => rintro c ⟨⟩; decide
  | behind minus =>
    simp only [List.mem_cons, List.not_mem_nil, or_false] at minus
    rcases minus with rfl | rfl <;> rintro c ⟨⟩ <;> decide

/-! ## The clock -/

theorem of?_self (i : Instant) : of? i.seconds i.nanos = some i := by
  rw [of?, dif_pos i.isInstant]

theorem of?_eq_some_iff {seconds : Int} {nanos : Nat} :
    of? seconds nanos = some i ↔ i.seconds = seconds ∧ i.nanos = nanos := by
  refine ⟨?_, ?_⟩
  · intro h
    unfold of? at h
    split at h
    · cases h
      exact ⟨rfl, rfl⟩
    · cases h
  · rintro ⟨rfl, rfl⟩
    exact of?_self i

theorem universal?_eq_some_iff {ahead : Int} : clock.universal? ahead = some i ↔
    ahead.natAbs < 86400 ∧ clock.seconds = i.seconds + ahead ∧ clock.nanos = i.nanos := by
  rw [universal?]
  split
  · rename_i day
    rw [earlier?, of?_eq_some_iff]
    refine ⟨?_, ?_⟩
    · rintro ⟨seconds, nanos⟩
      exact ⟨day, by omega, nanos.symm⟩
    · rintro ⟨-, seconds, nanos⟩
      exact ⟨by omega, nanos.symm⟩
  · rename_i far
    exact iff_of_false nofun fun h => far h.1

/-- Second 60 is the last second of the minute, a billion nanoseconds later. -/
theorem ofClock?_eq_some_iff {d : Date} {hour minute second : Int} {nanos : Nat} :
    ofClock? d hour minute second nanos = some clock ↔
      (d.Stands ∧ hour < 24 ∧ minute < 60 ∧ second ≤ 60) ∧
      clock.seconds = d.toDays * 86400 + hour * 3600 + minute * 60 + min second 59 ∧
      clock.nanos = if second = 60 then nanos + billion else nanos := by
  rw [ofClock?]
  split
  · rename_i stands
    dsimp only
    split
    · rename_i leap
      have last : min second 59 = 59 := by omega
      rw [of?_eq_some_iff, and_iff_right stands, last]
    · rename_i plain
      have own : min second 59 = second := by omega
      rw [of?_eq_some_iff, and_iff_right stands, own]
  · rename_i no
    exact iff_of_false nofun fun h => no h.1

theorem most_of_stands {d : Date} (stands : d.Stands) : d.month ≤ 12 ∧ d.day ≤ 31 := by
  have month := Date.month_ofDays d.toDays
  have day := Date.day_ofDays d.toDays
  rw [stands] at month day
  exact ⟨month.2, day.2⟩

/-! ## Timestamps -/

/-- The text is a day and a time of day, and this is what a clock shows then. In a leap second
it shows second 60. -/
inductive IsReading : Text → Instant → Prop
  | mk {year month day hour minute second nanos : Nat} {mark : Char} {f : Text}
      {clock : Instant} : year < 10000 → (⟨year, month, day⟩ : Date).Stands →
      mark ∈ ['T', 't', ' '] → hour < 24 → minute < 60 → second ≤ 60 → IsFraction f nanos →
      clock.seconds = (⟨year, month, day⟩ : Date).toDays * 86400 + hour * 3600 + minute * 60 +
        min (second : Int) 59 →
      (clock.nanos = if (second : Int) = 60 then nanos + billion else nanos) →
      IsReading (padded 4 year ++ '-' :: (padded 2 month ++ '-' :: (padded 2 day ++
        mark :: (padded 2 hour ++ ':' :: (padded 2 minute ++ ':' :: (padded 2 second ++ f))))))
        clock

/-- The text is a timestamp of the instant: a clock has the reading in it then, and is as far
ahead of universal time as the text says, which is less than a day. -/
def IsWritten (t : Text) (i : Instant) : Prop :=
  ∃ reading zone clock ahead, t = reading ++ zone ∧ IsReading reading clock ∧
    IsZone zone ahead ∧ ahead.natAbs < 86400 ∧ clock.seconds = i.seconds + ahead ∧
    clock.nanos = i.nanos

theorem length_le_byteLength (t : Text) : t.length ≤ Text.byteLength t := by
  induction t with
  | nil => simp
  | cons c r ih =>
    have := c.utf8Size_pos
    rw [Text.byteLength_cons, List.length_cons]
    omega

theorem IsReading.le_byteLength {reading : Text} (h : IsReading reading clock) (r : Text) :
    19 ≤ Text.byteLength (reading ++ r) := by
  refine Nat.le_trans ?_ (length_le_byteLength _)
  cases h with
  | @mk year month day hour minute second =>
    have y := le_length_padded 4 year
    have mo := le_length_padded 2 month
    have d := le_length_padded 2 day
    have h := le_length_padded 2 hour
    have mi := le_length_padded 2 minute
    have s := le_length_padded 2 second
    simp only [List.length_append, List.length_cons]
    omega

theorem orFault_eq_ok_iff {α : Type} {f : Fault} {o : Option α} {a : α} :
    orFault f o = .ok a ↔ o = some a := by
  cases o with
  | none => simp [orFault]
  | some b => simp [orFault]

theorem exists_of_readFront {ahead : Int} (h : readFront t = .ok (clock, ahead, r)) :
    ∃ reading z, t = reading ++ (z ++ r) ∧ IsReading reading clock ∧ IsZone z ahead := by
  unfold readFront at h
  split at h
  · cases h
  · obtain ⟨⟨year, t₁⟩, readYear, h⟩ := bind_eq_ok_iff.1 h
    obtain ⟨t₂, dash, h⟩ := bind_eq_ok_iff.1 h
    obtain ⟨⟨month, t₃⟩, readMonth, h⟩ := bind_eq_ok_iff.1 h
    obtain ⟨t₄, dash', h⟩ := bind_eq_ok_iff.1 h
    obtain ⟨⟨day, t₅⟩, readDay, h⟩ := bind_eq_ok_iff.1 h
    dsimp only at h
    split at h
    · cases h
    · rename_i stands
      obtain ⟨t₆, readMark, h⟩ := bind_eq_ok_iff.1 h
      obtain ⟨⟨hour, t₇⟩, readHour, h⟩ := bind_eq_ok_iff.1 h
      obtain ⟨t₈, colon, h⟩ := bind_eq_ok_iff.1 h
      obtain ⟨⟨minute, t₉⟩, readMinute, h⟩ := bind_eq_ok_iff.1 h
      obtain ⟨t₁₀, colon', h⟩ := bind_eq_ok_iff.1 h
      obtain ⟨⟨second, t₁₁⟩, readSecond, h⟩ := bind_eq_ok_iff.1 h
      obtain ⟨⟨nanos, t₁₂⟩, readFraction, h⟩ := bind_eq_ok_iff.1 h
      obtain ⟨clock', readClock, h⟩ := bind_eq_ok_iff.1 h
      obtain ⟨⟨ahead', t₁₃⟩, readZone, last⟩ := bind_eq_ok_iff.1 h
      -- Each reader took a part of the timestamp and left the rest to the next one.
      obtain ⟨plain, rfl⟩ := (number_eq_ok_iff (by decide)).1 readYear
      obtain ⟨_, mem, rfl⟩ := sign_eq_ok_iff.1 dash
      obtain ⟨-, rfl⟩ := (number_eq_ok_iff (by decide)).1 readMonth
      obtain ⟨_, mem', rfl⟩ := sign_eq_ok_iff.1 dash'
      obtain ⟨-, rfl⟩ := (number_eq_ok_iff (by decide)).1 readDay
      obtain ⟨mark, marked, rfl⟩ := sign_eq_ok_iff.1 readMark
      obtain ⟨-, rfl⟩ := (number_eq_ok_iff (by decide)).1 readHour
      obtain ⟨_, mem₁, rfl⟩ := sign_eq_ok_iff.1 colon
      obtain ⟨-, rfl⟩ := (number_eq_ok_iff (by decide)).1 readMinute
      obtain ⟨_, mem₂, rfl⟩ := sign_eq_ok_iff.1 colon'
      obtain ⟨-, rfl⟩ := (number_eq_ok_iff (by decide)).1 readSecond
      obtain ⟨f, fraction', rfl⟩ := exists_of_fraction readFraction
      obtain ⟨z, shape, rfl⟩ := exists_of_zone readZone
      obtain ⟨⟨-, hh, hm, hs⟩, seconds, nanos'⟩ :=
        ofClock?_eq_some_iff.1 (orFault_eq_ok_iff.1 readClock)
      cases last
      rw [List.mem_singleton.1 mem, List.mem_singleton.1 mem', List.mem_singleton.1 mem₁,
        List.mem_singleton.1 mem₂]
      refine ⟨_, z, ?_, .mk plain (not_not.1 stands) marked (by omega) (by omega) (by omega)
        fraction' seconds nanos', shape⟩
      simp only [List.append_assoc, List.cons_append]

theorem readFront_append {reading z : Text} {ahead : Int} (reads : IsReading reading clock)
    (shape : IsZone z ahead) : readFront (reading ++ (z ++ r)) = .ok (clock, ahead, r) := by
  have long := reads.le_byteLength (z ++ r)
  cases reads with
  | @mk year month day hour minute second nanos mark f _ plain stands marked hh hm hs fraction'
      seconds nanos' =>
    obtain ⟨month', day'⟩ : ((month : Int) ≤ 12) ∧ (day : Int) ≤ 31 := most_of_stands stands
    have readYear := @number_padded 4 year (by decide) (by omega)
    have readMonth := @number_padded 2 month (by decide) (by omega)
    have readDay := @number_padded 2 day (by decide) (by omega)
    have readHour := @number_padded 2 hour (by decide) (by omega)
    have readMinute := @number_padded 2 minute (by decide) (by omega)
    have readSecond := @number_padded 2 second (by decide) (by omega)
    have readFraction := fraction_append fraction' (shape.head? (r := r))
    have readClock := ofClock?_eq_some_iff.2
      ⟨⟨stands, Int.ofNat_lt.2 hh, Int.ofNat_lt.2 hm, Int.ofNat_le.2 hs⟩, seconds, nanos'⟩
    have readZone := zone_append shape r
    rw [readFront, if_neg (by omega)]
    simp only [List.append_assoc, List.cons_append, bind, Except.bind, readYear, readMonth,
      readDay, readHour, readMinute, readSecond, readFraction, readZone, sign, marked,
      List.mem_singleton, if_true, stands, not_true, if_false, readClock, orFault]

/-- The texts that read as an instant are its timestamps. -/
theorem read_eq_ok_iff : read t = .ok i ↔ IsWritten t i := by
  refine ⟨?_, ?_⟩
  · intro h
    obtain ⟨⟨clock, ahead, r⟩, front, last⟩ := bind_eq_ok_iff.1 h
    obtain ⟨reading, z, rfl, reads, shape⟩ := exists_of_readFront front
    dsimp only at last
    split at last
    · rename_i whole
      have near := universal?_eq_some_iff.1 (orFault_eq_ok_iff.1 last)
      rw [List.isEmpty_iff.1 whole, List.append_nil]
      exact ⟨reading, z, clock, ahead, rfl, reads, shape, near⟩
    · cases last
  · rintro ⟨reading, z, clock, ahead, rfl, reads, shape, near⟩
    have front := readFront_append (r := []) reads shape
    rw [List.append_nil] at front
    simp only [read, front, bind, Except.bind, List.isEmpty_nil, if_true,
      universal?_eq_some_iff.2 near, orFault]

/-! ## What a timestamp is made of -/

/-- What may stand between the numbers of a timestamp. -/
def marks : Text := ['-', '+', 'T', 't', ' ', ':', '.', 'Z', 'z', '\u2212']

/-- A digit or a mark of a timestamp. -/
def IsPart (c : Char) : Prop := isDigit c = true ∨ c ∈ marks

instance (c : Char) : Decidable (IsPart c) := inferInstanceAs (Decidable (_ ∨ _))

theorem isPart_of_mem_padded {width n : Nat} {c : Char} (mem : c ∈ padded width n) : IsPart c :=
  .inl (allDigits_padded width n c mem)

theorem IsFraction.isPart_of_mem {f : Text} {nanos : Nat} {c : Char} (h : IsFraction f nanos)
    (mem : c ∈ f) : IsPart c := by
  cases h with
  | none => cases mem
  | places some all =>
    rcases List.mem_cons.1 mem with rfl | mem
    · decide
    · exact .inl (all c mem)

theorem IsZone.isPart_of_mem {z : Text} {ahead : Int} {c : Char} (h : IsZone z ahead)
    (mem : c ∈ z) : IsPart c := by
  cases h with
  | universal name =>
    rw [List.mem_singleton.1 mem]
    exact .inr ((by decide : ['Z', 'z'] ⊆ marks) name)
  | ahead =>
    simp only [List.mem_cons, List.mem_append] at mem
    rcases mem with rfl | mem | rfl | mem
    · decide
    · exact isPart_of_mem_padded mem
    · decide
    · exact isPart_of_mem_padded mem
  | behind minus =>
    simp only [List.mem_cons, List.mem_append] at mem
    rcases mem with rfl | mem | rfl | mem
    · exact .inr ((by decide : ['-', '\u2212'] ⊆ marks) minus)
    · exact isPart_of_mem_padded mem
    · decide
    · exact isPart_of_mem_padded mem

theorem IsReading.isPart_of_mem {reading : Text} {c : Char} (h : IsReading reading clock)
    (mem : c ∈ reading) : IsPart c := by
  cases h with
  | mk _ _ marked _ _ _ fraction' =>
    simp only [List.mem_cons, List.mem_append] at mem
    rcases mem with mem | rfl | mem | rfl | mem | rfl | mem | rfl | mem | rfl | mem | mem
    · exact isPart_of_mem_padded mem
    · decide
    · exact isPart_of_mem_padded mem
    · decide
    · exact isPart_of_mem_padded mem
    · exact .inr ((by decide : ['T', 't', ' '] ⊆ marks) marked)
    · exact isPart_of_mem_padded mem
    · decide
    · exact isPart_of_mem_padded mem
    · decide
    · exact isPart_of_mem_padded mem
    · exact fraction'.isPart_of_mem mem

/-- No other character stands in a timestamp. -/
theorem not_mem_of_read {c : Char} (hc : ¬ IsPart c) (h : read t = .ok i) : c ∉ t := by
  obtain ⟨reading, z, clock, ahead, rfl, reads, shape, -⟩ := read_eq_ok_iff.1 h
  intro mem
  rcases List.mem_append.1 mem with mem | mem
  · exact hc (reads.isPart_of_mem mem)
  · exact hc (shape.isPart_of_mem mem)

end Instant
end GraphText
