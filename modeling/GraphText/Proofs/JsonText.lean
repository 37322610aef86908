-- JSON as text: a value reads back from what is written of it. The text of a value is cut
-- into the signs of the value, whatever stands behind it, and the machine puts the value
-- together again inside any open arrays and objects. Floats are left out here.
import GraphText.Json.Read
import GraphText.Json.Write
import GraphText.Proofs.HexText
import GraphText.Proofs.Markers
import GraphText.Proofs.Numerals

namespace GraphText.Json

-- Powers are those of the core library, whatever else is imported.
attribute [local instance (high)] instPowNat

/-! ## Strings -/

variable {c : Char} {r : Text}

/-- A character stands for itself, or as an escape of one letter, or by its code. -/
theorem escaped_cases (c : Char) :
    (escaped c = [c] ∧ c ≠ '"' ∧ c ≠ '\\' ∧ ¬ c.toNat < 0x20) ∨
      (∃ e, escaped c = ['\\', e] ∧ e ≠ 'u' ∧ shortEscape? e = some c) ∨
      (escaped c = ['\\', 'u'] ++ fourHex c.toNat ∧ c.toNat < 0x20) := by
  unfold escaped
  by_cases quote : c = '"'
  · exact .inr (.inl ⟨'"', by rw [if_pos quote], by decide, by rw [quote]; rfl⟩)
  rw [if_neg quote]
  by_cases backslash : c = '\\'
  · exact .inr (.inl ⟨'\\', by rw [if_pos backslash], by decide, by rw [backslash]; rfl⟩)
  rw [if_neg backslash]
  by_cases backspace : c = '\x08'
  · exact .inr (.inl ⟨'b', by rw [if_pos backspace], by decide, by rw [backspace]; rfl⟩)
  rw [if_neg backspace]
  by_cases formFeed : c = '\x0c'
  · exact .inr (.inl ⟨'f', by rw [if_pos formFeed], by decide, by rw [formFeed]; rfl⟩)
  rw [if_neg formFeed]
  by_cases newline : c = '\n'
  · exact .inr (.inl ⟨'n', by rw [if_pos newline], by decide, by rw [newline]; rfl⟩)
  rw [if_neg newline]
  by_cases return' : c = '\r'
  · exact .inr (.inl ⟨'r', by rw [if_pos return'], by decide, by rw [return']; rfl⟩)
  rw [if_neg return']
  by_cases tab : c = '\t'
  · exact .inr (.inl ⟨'t', by rw [if_pos tab], by decide, by rw [tab]; rfl⟩)
  rw [if_neg tab]
  by_cases control : c.toNat < 0x20
  · rw [if_pos control]
    exact .inr (.inr ⟨rfl, control⟩)
  · rw [if_neg control]
    exact .inl ⟨rfl, quote, backslash, control⟩

theorem code?_fourHex {n : Nat} (h : n < 65536) : code? (hexDigit (n / 4096 % 16))
    (hexDigit (n / 256 % 16)) (hexDigit (n / 16 % 16)) (hexDigit (n % 16)) = some n := by
  unfold code?
  rw [Hex.value?_hexDigit _ (by omega), Hex.value?_hexDigit _ (by omega),
    Hex.value?_hexDigit _ (by omega), Hex.value?_hexDigit _ (by omega)]
  change some _ = _
  congr 1
  omega

theorem pieces?_escaped (c : Char) (r : Text) :
    pieces? (escaped c ++ r) = (pieces? r).map (.char c :: ·) := by
  rcases escaped_cases c with ⟨text, -, plain, visible⟩ | ⟨e, text, short, letter⟩ |
    ⟨text, control⟩
  · rw [text]
    simp [pieces?, plain, visible]
  · have other : ∀ a b c d q, e = 'u' → r = a :: b :: c :: d :: q → False :=
      fun _ _ _ _ _ code _ => short code
    rw [text, List.cons_append, List.cons_append, List.nil_append, pieces?, letter]
    · cases pieces? r with
      | none => rfl
      | some ps => rfl
    · exact other
  · have piece : Piece.ofCode c.toNat = .char c := by
      rw [Piece.ofCode, if_neg (by omega), Char.ofNat_toNat]
    rw [text, fourHex]
    simp only [List.cons_append, List.nil_append, pieces?,
      code?_fourHex (by omega : c.toNat < 65536)]
    rw [← piece]
    cases pieces? r <;> rfl

theorem cutString_escaped (c : Char) (r : Text) :
    cutString (escaped c ++ r) = (cutString r).map fun (x, y) => (escaped c ++ x, y) := by
  rcases escaped_cases c with ⟨text, quote, plain, -⟩ | ⟨e, text, -, -⟩ | ⟨text, -⟩
  · rw [text]
    simp [cutString, plain]
  · rw [text]
    simp [cutString]
  · have digit : ∀ n, n % 16 < 16 := fun n => Nat.mod_lt n (by decide)
    have other : ∀ n < 16, hexDigit n ≠ '"' ∧ hexDigit n ≠ '\\' := by decide
    rw [text, fourHex]
    simp [cutString, other _ (digit _), Option.map_map, Function.comp_def]

theorem cutString_flatMap (t r : Text) :
    cutString (t.flatMap escaped ++ '"' :: r) = some (t.flatMap escaped, r) := by
  induction t with
  | nil => simp [cutString]
  | cons c t ih =>
    rw [List.flatMap_cons, List.append_assoc, cutString_escaped, ih]
    rfl

theorem pieces?_flatMap (t : Text) : pieces? (t.flatMap escaped) = some (t.map .char) := by
  induction t with
  | nil => rfl
  | cons c t ih => rw [List.flatMap_cons, pieces?_escaped, ih, Option.map_some, List.map_cons]

theorem join?_map (t : Text) : join? (t.map .char) = some t := by
  induction t with
  | nil => rfl
  | cons c t ih => rw [List.map_cons, join?, ih, Option.map_some]

/-! ## Numbers -/

theorem cutWhole?_natText (n : Nat) : cutWhole? (natText n) = some (natText n, []) := by
  by_cases zero : n = 0
  · subst zero
    rfl
  · obtain ⟨c, r, text, digit⟩ := exists_natText_cons n
    have first := head?_natText (Nat.pos_of_ne_zero zero)
    have digits := allDigits_natText n
    rw [text] at first digits ⊢
    have more : AllDigits r := fun x mem => digits x (List.mem_cons_of_mem _ mem)
    rw [cutWhole?, if_neg (by simpa using first), if_pos digit, List.takeWhile_eq_self_iff.2 more,
      List.dropWhile_eq_nil_iff.2 more]

theorem readNumber?_natText (n : Nat) :
    readNumber? (natText n) = some (Numeral.value ⟨false, natText n, [], none⟩) := by
  have whole := cutWhole?_natText n
  obtain ⟨c, r, text, digit⟩ := exists_natText_cons n
  have plain : c ≠ '-' := by
    rintro rfl
    cases digit
  rw [text] at whole ⊢
  simp [readNumber?, plain, whole, cutPlaces?, readPower?]

theorem readNumber?_minus (n : Nat) :
    readNumber? ('-' :: natText n) = some (Numeral.value ⟨true, natText n, [], none⟩) := by
  simp [readNumber?, cutWhole?_natText, cutPlaces?, readPower?]

/-- A whole number of 64 bits reads back from its digits. -/
theorem readNumber?_intText {n : Int} (low : -2 ^ (63 : Nat) ≤ n) (high : n < 2 ^ (64 : Nat)) :
    readNumber? (intText n) = some (integer n) := by
  unfold intText
  by_cases negative : n < 0
  · have size : -(n.natAbs : Int) = n := by omega
    have nonzero : decide (n.natAbs ≠ 0) = true := decide_eq_true (by omega)
    have fits : decide (n.natAbs ≤ 2 ^ (63 : Nat)) = true := decide_eq_true (by omega)
    rw [if_pos negative, readNumber?_minus, Numeral.value, digitsValue_natText]
    dsimp only
    rw [if_neg (by simp), nonzero, fits, if_pos (by rfl), size]
  · have size : (n.natAbs : Int) = n := by omega
    have fits : decide (n.natAbs < 2 ^ (64 : Nat)) = true := decide_eq_true (by omega)
    rw [if_neg negative, readNumber?_natText, Numeral.value, digitsValue_natText]
    dsimp only
    rw [fits, if_pos (by rfl), size]

/-! ## Signs -/

/-- A word or a number ends where the text goes on like this. -/
def Ends (r : Text) : Prop := ∀ c ∈ r.head?, isInner c = false

theorem ends_comma (r : Text) : Ends (',' :: r) := by
  rintro c ⟨⟩
  rfl

theorem ends_closing {c : Char} (h : c = ']' ∨ c = '}') (r : Text) : Ends (c :: r) := by
  rintro d ⟨⟩
  rcases h with rfl | rfl
  · rfl
  · rfl

theorem isInner_of_isDigit {c : Char} (h : isDigit c = true) : isInner c = true := by
  have other : ∀ d, isDigit d = false → c ≠ d := by
    rintro d noDigit rfl
    rw [h] at noDigit
    cases noDigit
  simp [isInner, isGap, Sign.ofChar?, other '[', other ']', other '{', other '}', other ':',
    other ',', other ' ', other '\t', other '\n', other '\r', other '"', isDigit]

/-- The sign of one character. -/
theorem signs?_sign {c : Char} {s : Sign} (h : Sign.ofChar? c = some s) (gap : isGap c = false)
    (r : Text) : signs? (c :: r) = (signs? r).map (s :: ·) := by
  rw [signs?, if_neg (by simp [gap]), h]

/-- The sign of a string. -/
theorem signs?_writeText (t r : Text) :
    signs? (writeText t ++ r) = (signs? r).map (.string (some t) :: ·) := by
  have text : writeText t ++ r = '"' :: (t.flatMap escaped ++ '"' :: r) := by simp [writeText]
  have cut := cutString_flatMap t r
  rw [text, signs?, if_neg (by decide)]
  simp only [Sign.ofChar?, Char.reduceEq, if_false, if_true]
  split
  · rename_i unclosed
    rw [cut] at unclosed
    cases unclosed
  · rename_i body rest found
    rw [cut] at found
    cases found
    rw [pieces?_flatMap, Option.bind_eq_bind, Option.bind_some, join?_map]
    cases signs? r with
    | none => rfl
    | some more => rfl

/-- The sign of a word or a number. -/
theorem signs?_word {w : Text} {j : Json} (named : w ≠ []) (inner : ∀ c ∈ w, isInner c = true)
    (h : readWord? w = some j) (ends : Ends r) :
    signs? (w ++ r) = (signs? r).map (.scalar j :: ·) := by
  obtain ⟨c, v, rfl⟩ := List.exists_cons_of_ne_nil named
  have first := inner c List.mem_cons_self
  have rest : ∀ x ∈ v, isInner x = true := fun x mem => inner x (List.mem_cons_of_mem _ mem)
  simp only [isInner, Bool.and_eq_true, Option.isNone_iff_eq_none, Bool.not_eq_true',
    decide_eq_true_eq, ne_eq] at first
  obtain ⟨⟨sign, gap⟩, quote⟩ := first
  rw [List.cons_append, signs?, if_neg (by simp [gap]), sign]
  dsimp only
  rw [if_neg quote, Text.takeWhile_append_of_stop ends, Text.dropWhile_append_of_stop ends,
    List.takeWhile_eq_self_iff.2 rest, List.dropWhile_eq_nil_iff.2 rest, h, List.nil_append]
  cases signs? r with
  | none => rfl
  | some more => rfl

/-! ## The signs of a value -/

mutual

/-- The signs that a value is written with. -/
def signs : Json → List Sign
  | string t => [.string (some t)]
  | array [] => [.openArray, .closeArray]
  | array (j :: js) => .openArray :: (signs j ++ (itemSigns js ++ [.closeArray]))
  | object [] => [.openObject, .closeObject]
  | object ((name, j) :: fs) =>
    .openObject :: .string (some name) :: .colon :: (signs j ++ (fieldSigns fs ++ [.closeObject]))
  | j => [.scalar j]

/-- The signs of items that stand behind another one. -/
def itemSigns : List Json → List Sign
  | [] => []
  | j :: js => .comma :: (signs j ++ itemSigns js)

/-- The signs of fields that stand behind another one. -/
def fieldSigns : List (Text × Json) → List Sign
  | [] => []
  | (name, j) :: fs => .comma :: .string (some name) :: .colon :: (signs j ++ fieldSigns fs)

end

mutual

/-- No part is a float or unreadable, and every integer has 64 bits. -/
def IsPlain : Json → Prop
  | integer n => -2 ^ (63 : Nat) ≤ n ∧ n < 2 ^ (64 : Nat)
  | float _ | unreadable => False
  | array items => ArePlain items
  | object fields => HavePlain fields
  | _ => True

def ArePlain : List Json → Prop
  | [] => True
  | j :: js => IsPlain j ∧ ArePlain js

def HavePlain : List (Text × Json) → Prop
  | [] => True
  | (_, j) :: fs => IsPlain j ∧ HavePlain fs

end

theorem isInner_of_mem_intText {n : Int} {c : Char} (h : c ∈ intText n) : isInner c = true := by
  have digits := allDigits_natText n.natAbs
  unfold intText at h
  split at h
  · rcases List.mem_cons.1 h with rfl | mem
    · rfl
    · exact isInner_of_isDigit (digits c mem)
  · exact isInner_of_isDigit (digits c h)

theorem readWord?_intText {n : Int} (low : -2 ^ (63 : Nat) ≤ n) (high : n < 2 ^ (64 : Nat)) :
    readWord? (intText n) = some (integer n) := by
  have other : ∀ c r, isDigit c = false → c ≠ '-' → intText n ≠ c :: r := by
    intro c r noDigit noMinus text
    have digits := allDigits_natText n.natAbs
    unfold intText at text
    split at text
    · exact noMinus (List.cons.inj text).1.symm
    · rw [text] at digits
      rw [digits c List.mem_cons_self] at noDigit
      cases noDigit
  have noNull : intText n ≠ "null".toList := other 'n' _ rfl (by decide)
  have noTrue : intText n ≠ "true".toList := other 't' _ rfl (by decide)
  have noFalse : intText n ≠ "false".toList := other 'f' _ rfl (by decide)
  unfold readWord?
  rw [if_neg noNull, if_neg noTrue, if_neg noFalse, readNumber?_intText low high]

theorem intText_ne_nil (n : Int) : intText n ≠ [] := by
  unfold intText
  split
  · simp
  · exact natText_ne_nil _

/-! ## Cutting -/

theorem joined_cons (c : Char) (t : Text) (ts : List Text) :
    Text.joined [c] (t :: ts) = t ++ ts.flatMap (c :: ·) := by
  induction ts generalizing t with
  | nil => simp [Text.joined]
  | cons u ts ih =>
    rw [Text.joined, ih, List.flatMap_cons]
    · simp
    · simp

theorem ends_flatMap (ts : List Text) (ends : Ends r) : Ends (ts.flatMap (',' :: ·) ++ r) := by
  cases ts with
  | nil => exact ends
  | cons t ts =>
    rw [List.flatMap_cons, List.cons_append, List.cons_append]
    exact ends_comma _

mutual

/-- The text of a value is cut into the signs of the value. -/
theorem signs?_write (j : Json) (plain : j.IsPlain) {r : Text} (ends : Ends r) :
    signs? (write j ++ r) = (signs? r).map (signs j ++ ·) := by
  cases j with
  | null => exact signs?_word (w := "null".toList) (by decide) (List.all_eq_true.1 rfl) rfl ends
  | bool b =>
    cases b with
    | true => exact signs?_word (w := "true".toList) (by decide) (List.all_eq_true.1 rfl) rfl ends
    | false => exact signs?_word (w := "false".toList) (by decide) (List.all_eq_true.1 rfl) rfl ends
  | integer n =>
    exact signs?_word (intText_ne_nil n) (fun c mem => isInner_of_mem_intText mem)
      (readWord?_intText plain.1 plain.2) ends
  | float x => exact plain.elim
  | string t => exact signs?_writeText t r
  | array items =>
    have close := ends_closing (.inl rfl) r
    cases items with
    | nil =>
      change signs? ('[' :: ']' :: r) = _
      rw [signs?_sign rfl rfl, signs?_sign rfl rfl, Option.map_map]
      rfl
    | cons j js =>
      have text : write (.array (j :: js)) ++ r =
          '[' :: (write j ++ ((writeItems js).flatMap (',' :: ·) ++ ']' :: r)) := by
        rw [write, writeItems, joined_cons]
        simp
      rw [text, signs?_sign rfl rfl, signs?_write j plain.1 (ends_flatMap _ close),
        signs?_items js plain.2 close, signs?_sign rfl rfl]
      simp only [Option.map_map, Function.comp_def, signs, List.cons_append, List.append_assoc,
        List.nil_append]
  | object fields =>
    have close := ends_closing (.inr rfl) r
    cases fields with
    | nil =>
      change signs? ('\x7b' :: '\x7d' :: r) = _
      rw [signs?_sign rfl rfl, signs?_sign rfl rfl, Option.map_map]
      rfl
    | cons f fs =>
      obtain ⟨name, j⟩ := f
      have text : write (.object ((name, j) :: fs)) ++ r =
          '\x7b' :: (writeText name ++ (':' :: (write j ++
            ((writeFields fs).flatMap (',' :: ·) ++ '\x7d' :: r)))) := by
        rw [write, writeFields, joined_cons]
        simp
      rw [text, signs?_sign rfl rfl, signs?_writeText, signs?_sign rfl rfl,
        signs?_write j plain.1 (ends_flatMap _ close), signs?_fields fs plain.2 close,
        signs?_sign rfl rfl]
      simp only [Option.map_map, Function.comp_def, signs, List.cons_append, List.append_assoc,
        List.nil_append]
  | unreadable => exact plain.elim

/-- So are items behind another one, each with a comma in front. -/
theorem signs?_items (js : List Json) (plain : ArePlain js) {r : Text} (ends : Ends r) :
    signs? ((writeItems js).flatMap (',' :: ·) ++ r) = (signs? r).map (itemSigns js ++ ·) := by
  cases js with
  | nil => simp [writeItems, itemSigns]
  | cons j js =>
    have text : (writeItems (j :: js)).flatMap (',' :: ·) ++ r =
        ',' :: (write j ++ ((writeItems js).flatMap (',' :: ·) ++ r)) := by
      rw [writeItems, List.flatMap_cons]
      simp
    rw [text, signs?_sign rfl rfl, signs?_write j plain.1 (ends_flatMap _ ends),
      signs?_items js plain.2 ends]
    simp only [Option.map_map, Function.comp_def, itemSigns, List.cons_append, List.append_assoc]

/-- So are fields behind another one. -/
theorem signs?_fields (fs : List (Text × Json)) (plain : HavePlain fs) {r : Text} (ends : Ends r) :
    signs? ((writeFields fs).flatMap (',' :: ·) ++ r) = (signs? r).map (fieldSigns fs ++ ·) := by
  cases fs with
  | nil => simp [writeFields, fieldSigns]
  | cons f fs =>
    obtain ⟨name, j⟩ := f
    have text : (writeFields ((name, j) :: fs)).flatMap (',' :: ·) ++ r =
        ',' :: (writeText name ++ (':' :: (write j ++
          ((writeFields fs).flatMap (',' :: ·) ++ r)))) := by
      rw [writeFields, List.flatMap_cons]
      simp
    rw [text, signs?_sign rfl rfl, signs?_writeText, signs?_sign rfl rfl,
      signs?_write j plain.1 (ends_flatMap _ ends), signs?_fields fs plain.2 ends]
    simp only [Option.map_map, Function.comp_def, fieldSigns, List.cons_append, List.append_assoc]

end

/-! ## The machine -/

namespace Machine

variable {frames : List Frame} {stage : Stage}

/-- A value may stand here. -/
def TakesValue (stage : Stage) : Prop := stage = .value ∨ stage = .firstItem

/-- The fields as an open object keeps them. -/
def named (fields : List (Text × Json)) : List (Option Text × Json) :=
  fields.map fun f => (some f.1, f.2)

theorem mapM_named {f : Option Text × Json → Option (Text × Json)}
    (h : ∀ name j, f (some name, j) = some (name, j)) (fields : List (Text × Json)) :
    (named fields).mapM f = some fields := by
  induction fields with
  | nil => rfl
  | cons x fs ih =>
    rw [named, List.map_cons, List.mapM_cons, ← named, ih, h]
    rfl

theorem objectOf_named (fields : List (Text × Json)) :
    objectOf (named fields).reverse = object fields := by
  unfold objectOf
  rw [List.reverse_reverse, mapM_named fun _ _ => rfl]

/-- In front of a first item, only the end of the array is no value. -/
theorem step_of_takesValue (h : TakesValue stage) {s : Sign} {m : Machine}
    (value : takeValue frames s = some m) : step ⟨frames, stage⟩ s = some m := by
  rcases h with rfl | rfl
  · exact value
  · have goesOn : close s frames = none := by
      cases s with
      | closeArray => cases value
      | closeObject => cases value
      | _ => rfl
    change (close s frames <|> takeValue frames s) = _
    rw [goesOn, value]
    rfl

/-- The machine behind a value of one sign. -/
theorem run_sign (h : TakesValue stage) {s : Sign} {m : Machine}
    (value : takeValue frames s = some m) : [s].foldlM step ⟨frames, stage⟩ = some m := by
  rw [List.foldlM_cons, step_of_takesValue h value]
  rfl

mutual

/-- The machine takes the signs of a value and is behind the value. -/
theorem run_signs (j : Json) {stage : Stage} (h : TakesValue stage) (frames : List Frame) :
    (signs j).foldlM step ⟨frames, stage⟩ = some (place j frames) := by
  cases j with
  | array items =>
    cases items with
    | nil =>
      rw [signs, List.foldlM_cons, step_of_takesValue h rfl]
      rfl
    | cons j js =>
      rw [signs, List.foldlM_cons, step_of_takesValue h rfl, Option.bind_eq_bind, Option.bind_some,
        List.foldlM_append, run_signs j (.inr rfl) _]
      exact run_items js [j] frames
  | object fields =>
    cases fields with
    | nil =>
      rw [signs, List.foldlM_cons, step_of_takesValue h rfl]
      rfl
    | cons f fs =>
      obtain ⟨name, j⟩ := f
      rw [signs, List.foldlM_cons, step_of_takesValue h rfl, Option.bind_eq_bind, Option.bind_some]
      change (signs j ++ (fieldSigns fs ++ [Sign.closeObject])).foldlM step
        ⟨.fields [] (some name) :: frames, .value⟩ = _
      rw [List.foldlM_append, run_signs j (.inl rfl) _]
      exact run_fields fs [(name, j)] (some name) frames
  | string t => exact run_sign h rfl
  | _ => exact run_sign h rfl

/-- Behind an item, it takes the others and the end of the array. -/
theorem run_items (js done : List Json) (frames : List Frame) :
    (itemSigns js ++ [Sign.closeArray]).foldlM step ⟨.items done :: frames, .behind⟩ =
      some (place (array (done.reverse ++ js)) frames) := by
  cases js with
  | nil =>
    rw [List.append_nil]
    rfl
  | cons j js =>
    change (signs j ++ itemSigns js ++ [Sign.closeArray]).foldlM step
      ⟨.items done :: frames, .value⟩ = _
    rw [List.append_assoc, List.foldlM_append, run_signs j (.inl rfl) _]
    have more := run_items js (j :: done) frames
    rw [List.reverse_cons, List.append_assoc] at more
    exact more

/-- Behind a field, it takes the others and the end of the object. -/
theorem run_fields (fs done : List (Text × Json)) (name : Option Text) (frames : List Frame) :
    (fieldSigns fs ++ [Sign.closeObject]).foldlM step
        ⟨.fields (named done) name :: frames, .behind⟩ =
      some (place (object (done.reverse ++ fs)) frames) := by
  cases fs with
  | nil =>
    rw [List.append_nil, ← objectOf_named, named, named, List.map_reverse, List.reverse_reverse]
    rfl
  | cons f fs =>
    obtain ⟨name', j⟩ := f
    change (signs j ++ fieldSigns fs ++ [Sign.closeObject]).foldlM step
      ⟨.fields (named done) (some name') :: frames, .value⟩ = _
    rw [List.append_assoc, List.foldlM_append, run_signs j (.inl rfl) _]
    have more := run_fields fs ((name', j) :: done) (some name') frames
    rw [List.reverse_cons, List.append_assoc] at more
    exact more

end

end Machine

end GraphText.Json
