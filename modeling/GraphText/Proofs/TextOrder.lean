-- The order of texts. Texts are compared by the codes of their characters, and the bytes of
-- their UTF-8 compare in the same way: a greater code has a greater byte at the first place
-- where the bytes differ.
import GraphText.Graph.Node
import Mathlib.Data.List.Lex
import Mathlib.Tactic.SplitIfs

namespace GraphText.Text

/-- The bytes of the text in UTF-8. -/
def utf8 (t : Text) : List UInt8 := t.flatMap String.utf8EncodeChar

/-- The codes of the characters. -/
def codes (t : Text) : List Nat := t.map Char.toNat

/-- Byte by byte the first text comes before the second. A text comes before every longer one
that starts with its bytes. -/
def BytesBefore (s t : Text) : Prop := List.Lex (· < ·) s.utf8 t.utf8

/-- Code by code the first text comes before the second. -/
def CodesBefore (s t : Text) : Prop := List.Lex (· < ·) s.codes t.codes

/-! ## The bytes of a code -/

/-- How many bytes follow the first one. -/
def groups (n : Nat) : Nat :=
  if n ≤ 127 then 0 else if n ≤ 2047 then 1 else if n ≤ 65535 then 2 else 3

/-- How many first bytes there are in front of so many others. -/
def leads : (groups : Nat) → Nat
  | 0 => 128
  | 1 => 32
  | 2 => 16
  | _ => 8

/-- The least of the first bytes in front of so many others. -/
def leastLead : (groups : Nat) → Nat
  | 0 => 0
  | 1 => 192
  | 2 => 224
  | _ => 240

/-- The first byte in front of so many others. -/
def lead (groups n : Nat) : UInt8 := .ofNat (n % leads groups + leastLead groups)

/-- A byte with the last six bits. -/
def sixBits (n : Nat) : UInt8 := .ofNat (n % 64 + 128)

/-- The bits in front of so many groups of six. -/
def leading : (groups n : Nat) → Nat
  | 0, n => n
  | k + 1, n => leading k (n / 64)

/-- A byte with the bits in front, and one for each group of six. -/
def spread (first : Nat → UInt8) : (groups n : Nat) → List UInt8
  | 0, n => [first n]
  | k + 1, n => spread first k (n / 64) ++ [sixBits n]

theorem toNat_lt (c : Char) : c.toNat < 0x110000 := by
  rcases c.valid with low | ⟨-, high⟩
  · exact Nat.lt_trans low (by decide)
  · exact high

theorem utf8EncodeChar_eq (c : Char) : String.utf8EncodeChar c =
    spread (lead (groups c.toNat)) (groups c.toNat) c.toNat := by
  unfold String.utf8EncodeChar groups
  simp only [Char.toNat_val]
  split_ifs with one
  · simp [spread, lead, leads, leastLead, Nat.mod_eq_of_lt (Nat.lt_succ_of_le one)]
  · simp [spread, lead, leads, leastLead, sixBits]
  · simp [spread, lead, leads, leastLead, sixBits, Nat.div_div_eq_div_mul]
  · simp [spread, lead, leads, leastLead, sixBits, Nat.div_div_eq_div_mul]

theorem groups_mono {m n : Nat} (h : m ≤ n) : groups m ≤ groups n := by
  unfold groups
  split_ifs <;> omega

theorem groups_le (n : Nat) : groups n ≤ 3 := by
  unfold groups
  split_ifs <;> omega

theorem leading_lt {n : Nat} (h : n < 0x110000) : leading (groups n) n < leads (groups n) := by
  unfold groups
  split_ifs <;> simp only [leading, leads] <;> omega

theorem leads_pos (k : Nat) : 0 < leads k := by
  unfold leads
  split <;> decide

theorem lead_fits (k : Nat) : leastLead k + leads k ≤ 256 := by
  unfold leastLead leads
  split <;> decide

/-- The first bytes in front of more others are greater. -/
theorem leastLead_add_leads_le {j k : Nat} (h : j < k) (high : k ≤ 3) :
    leastLead j + leads j ≤ leastLead k := by
  have every : ∀ k ≤ 3, ∀ j < k, leastLead j + leads j ≤ leastLead k := by decide
  exact every k high j h

/-! ## Bytes in order -/

/-- The first bytes come before the second ones, whatever stands behind both. -/
def Below (p q : List UInt8) : Prop := ∀ x y, List.Lex (· < ·) (p ++ x) (q ++ y)

theorem ofNat_lt {m n : Nat} (h : m < n) (byte : n < 256) : UInt8.ofNat m < UInt8.ofNat n := by
  rw [UInt8.lt_iff_toNat_lt, UInt8.toNat_ofNat_of_lt' (Nat.lt_trans h byte),
    UInt8.toNat_ofNat_of_lt' byte]
  exact h

theorem Below.append {p q : List UInt8} (h : Below p q) (r s : List UInt8) :
    Below (p ++ r) (q ++ s) := by
  intro x y
  rw [List.append_assoc, List.append_assoc]
  exact h _ _

theorem sixBits_lt {m n : Nat} (h : m < n) (same : m / 64 = n / 64) : sixBits m < sixBits n := by
  apply ofNat_lt
  · omega
  · omega

theorem lead_lt {k m n : Nat} (h : m < n) (high : n < leads k) : lead k m < lead k n := by
  have fits := lead_fits k
  unfold lead
  rw [Nat.mod_eq_of_lt (Nat.lt_trans h high), Nat.mod_eq_of_lt high]
  apply ofNat_lt
  · omega
  · omega

theorem lead_lt_of_lt {j k : Nat} (h : j < k) (high : k ≤ 3) (m n : Nat) :
    lead j m < lead k n := by
  have apart := leastLead_add_leads_le h high
  have fits := lead_fits k
  have less := Nat.mod_lt m (leads_pos j)
  have less' := Nat.mod_lt n (leads_pos k)
  apply ofNat_lt
  · omega
  · omega

/-- The first byte decides if it is smaller. -/
theorem below_of_first {f g : Nat → UInt8} {j k m n : Nat}
    (h : f (leading j m) < g (leading k n)) : Below (spread f j m) (spread g k n) := by
  have front : ∀ (f : Nat → UInt8) k n, ∃ r, spread f k n = f (leading k n) :: r := by
    intro f k
    induction k with
    | zero => exact fun n => ⟨[], rfl⟩
    | succ k ih =>
      intro n
      obtain ⟨r, eq⟩ := ih (n / 64)
      exact ⟨r ++ [sixBits n], by rw [spread, eq]; rfl⟩
  obtain ⟨r, eq⟩ := front f j m
  obtain ⟨s, eq'⟩ := front g k n
  rw [eq, eq']
  exact fun _ _ => .rel h

/-- Of two codes with as many bytes the greater one has the greater bits in front of its last
six, or the same bits there and greater ones among the last six. -/
theorem spread_below {k m n : Nat} {f : Nat → UInt8} (h : m < n)
    (grows : ∀ i, i < leading k n → f i < f (leading k n)) :
    Below (spread f k m) (spread f k n) := by
  induction k generalizing m n with
  | zero => exact fun _ _ => .rel (grows m h)
  | succ k ih =>
    unfold spread
    rcases Nat.lt_or_eq_of_le (Nat.div_le_div_right (Nat.le_of_lt h)) with front | same
    · exact (ih front grows).append _ _
    · rw [same]
      intro x y
      rw [List.append_assoc, List.append_assoc]
      apply List.Lex.append_left
      exact .rel (sixBits_lt h same)

/-- The bytes of a character with a smaller code come before those of one with a greater. -/
theorem utf8EncodeChar_below {c d : Char} (h : c.toNat < d.toNat) :
    Below (String.utf8EncodeChar c) (String.utf8EncodeChar d) := by
  rw [utf8EncodeChar_eq, utf8EncodeChar_eq]
  rcases Nat.lt_or_eq_of_le (groups_mono (Nat.le_of_lt h)) with fewer | same
  · exact below_of_first (lead_lt_of_lt fewer (groups_le _) _ _)
  · rw [same]
    apply spread_below h
    intro i less
    exact lead_lt less (leading_lt (toNat_lt d))

/-! ## Texts -/

variable {s t u : Text}

theorem utf8_cons (c : Char) (r : Text) : utf8 (c :: r) = String.utf8EncodeChar c ++ r.utf8 :=
  List.flatMap_cons

/-- The bytes are those that the length counts. -/
theorem length_utf8 (t : Text) : t.utf8.length = t.byteLength := by
  induction t with
  | nil => rfl
  | cons c r ih =>
    rw [utf8_cons, List.length_append, String.length_utf8EncodeChar, ih, byteLength_cons]

theorem utf8_ne_nil (h : t ≠ []) : t.utf8 ≠ [] := by
  rw [← List.length_pos_iff, length_utf8]
  exact byteLength_pos h

theorem codes_inj (h : s.codes = t.codes) : s = t :=
  List.map_injective_iff.2 (fun _ _ => Char.toNat_inj.1) h

theorem CodesBefore.bytesBefore (h : s.CodesBefore t) : s.BytesBefore t := by
  induction s generalizing t with
  | nil =>
    cases t with
    | nil => cases h
    | cons d q =>
      obtain ⟨b, r, eq⟩ := List.exists_cons_of_ne_nil (utf8_ne_nil (List.cons_ne_nil d q))
      unfold BytesBefore
      rw [eq]
      exact .nil
  | cons c r ih =>
    cases t with
    | nil => cases h
    | cons d q =>
      unfold BytesBefore
      rw [utf8_cons, utf8_cons]
      rcases List.cons_lex_cons_iff.1 h with less | ⟨same, rest⟩
      · exact utf8EncodeChar_below less _ _
      · rw [Char.toNat_inj.1 same]
        exact List.Lex.append_left _ (ih rest) _

theorem BytesBefore.asymm (h : s.BytesBefore t) : ¬ t.BytesBefore s :=
  List.lex_asymm (fun less => UInt8.lt_asymm less) h

theorem BytesBefore.irrefl (t : Text) : ¬ t.BytesBefore t :=
  List.lex_irrefl (fun b => UInt8.lt_irrefl b) _

theorem BytesBefore.trans (h : s.BytesBefore t) (h' : t.BytesBefore u) : s.BytesBefore u :=
  List.lex_trans (fun less => UInt8.lt_trans less) h h'

theorem codesBefore_total (s t : Text) : s.CodesBefore t ∨ s = t ∨ t.CodesBefore s := by
  rcases trichotomous_of (List.Lex (· < ·)) s.codes t.codes with front | same | back
  · exact .inl front
  · exact .inr (.inl (codes_inj same))
  · exact .inr (.inr back)

/-- The bytes compare as the codes do. -/
theorem bytesBefore_iff_codes : s.BytesBefore t ↔ s.CodesBefore t := by
  refine ⟨?_, CodesBefore.bytesBefore⟩
  intro h
  rcases codesBefore_total s t with front | rfl | back
  · exact front
  · exact absurd h (BytesBefore.irrefl s)
  · exact absurd back.bytesBefore h.asymm

theorem bytesBefore_total (s t : Text) : s.BytesBefore t ∨ s = t ∨ t.BytesBefore s := by
  rw [bytesBefore_iff_codes, bytesBefore_iff_codes]
  exact codesBefore_total s t

theorem before_iff : before s t = true ↔ s = t ∨ s.BytesBefore t := by
  rw [bytesBefore_iff_codes]
  fun_induction before s t with
  | case1 t =>
    cases t with
    | nil => simp
    | cons d q => simp [CodesBefore, codes]
  | case2 c r => simp [CodesBefore, codes]
  | case3 c r d q ih =>
    have step : CodesBefore (c :: r) (d :: q) ↔ c.toNat < d.toNat ∨ c = d ∧ CodesBefore r q :=
      List.cons_lex_cons_iff.trans (or_congr_right (and_congr_left' Char.toNat_inj))
    rw [step, List.cons.injEq, Bool.or_eq_true, Bool.and_eq_true, decide_eq_true_iff,
      decide_eq_true_iff, ih, and_or_left, or_left_comm]

/-- A text comes before those that it starts. -/
theorem bytesBefore_of_prefix (h : s <+: t) (other : s ≠ t) : s.BytesBefore t := by
  obtain ⟨r, rfl⟩ := h
  have more : r ≠ [] := by
    rintro rfl
    exact other (List.append_nil s).symm
  obtain ⟨b, q, eq⟩ := List.exists_cons_of_ne_nil (utf8_ne_nil more)
  unfold BytesBefore
  have front := List.Lex.append_left (· < ·) (.nil : List.Lex (· < ·) [] (b :: q)) s.utf8
  rwa [← eq, List.append_nil, utf8, utf8, ← List.flatMap_append] at front

end GraphText.Text
