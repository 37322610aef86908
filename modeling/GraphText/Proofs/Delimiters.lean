-- Delimiters that do not count. A delimiter directly behind a backslash belongs to the
-- text around it. The first one that counts opens the id of a node and ends a quoted text.
import GraphText.Proofs.Escapes
import GraphText.Query.Lexeme
import Mathlib.Data.List.Basic

namespace GraphText

namespace Text

variable {d : Char} {s t u v r : Text}

/-- A backslash stands directly in front of every delimiter in the text. -/
def AllEscaped (d : Char) (t : Text) : Prop :=
  ∀ s r, t = s ++ d :: r → s.getLast? = some '\\'

/-- A delimiter directly behind the text does not count. -/
def EndsInBackslash (t : Text) : Prop := t.getLast? = some '\\'

instance (t : Text) : Decidable (EndsInBackslash t) := inferInstanceAs (Decidable (_ = _))

theorem AllEscaped.endsInBackslash (h : AllEscaped d (s ++ d :: r)) : EndsInBackslash s :=
  h s r rfl

theorem allEscaped_of_not_mem (h : d ∉ t) : AllEscaped d t := by
  rintro s r rfl
  simp at h

theorem not_allEscaped_cons : ¬ AllEscaped d (d :: r) := by
  intro h
  have before := h [] r rfl
  cases before

theorem allEscaped_singleton {c : Char} : AllEscaped d [c] ↔ c ≠ d := by
  refine ⟨?_, ?_⟩
  · rintro h rfl
    exact not_allEscaped_cons h
  · intro h
    exact allEscaped_of_not_mem (by simpa using Ne.symm h)

/-- Behind a character that is neither the delimiter nor its backslash, the delimiters are
those of the rest. -/
theorem allEscaped_cons_cons {b c : Char} (other : b ≠ d) (unescaping : ¬ (b = '\\' ∧ c = d)) :
    AllEscaped d (b :: c :: r) ↔ AllEscaped d (c :: r) := by
  refine ⟨?_, ?_⟩
  · intro h s v eq
    have last := h (b :: s) v (by rw [eq, List.cons_append])
    cases s with
    | nil =>
      obtain ⟨same, -⟩ := List.cons.inj eq
      exact absurd ⟨by simpa using last, same⟩ unescaping
    | cons x s => rwa [List.getLast?_cons_cons] at last
  · intro h s v eq
    cases s with
    | nil => exact absurd (List.cons.inj eq).1 other
    | cons x s =>
      have last := h s v (List.cons.inj eq).2
      cases s with
      | nil => cases last
      | cons y s => rwa [List.getLast?_cons_cons]

theorem allEscaped_backslash_cons (hd : d ≠ '\\') :
    AllEscaped d ('\\' :: d :: r) ↔ AllEscaped d r := by
  refine ⟨?_, ?_⟩
  · intro h s v eq
    have last := h ('\\' :: d :: s) v (by rw [eq, List.cons_append, List.cons_append])
    cases s with
    | nil => exact absurd (by simpa using last) hd
    | cons x s => rwa [List.getLast?_cons_cons, List.getLast?_cons_cons] at last
  · intro h s v eq
    cases s with
    | nil => exact absurd (List.cons.inj eq).1.symm hd
    | cons x s =>
      obtain ⟨same, more⟩ := List.cons.inj eq
      cases s with
      | nil => rw [← same]; rfl
      | cons y s =>
        have last := h s v (List.cons.inj more).2
        cases s with
        | nil => cases last
        | cons z s => rwa [List.getLast?_cons_cons, List.getLast?_cons_cons]

/-! ## Escaped texts -/

theorem allEscaped_escape (hd : d ≠ '\\') (t : Text) : AllEscaped d (escape d t) := by
  intro s r eq
  rcases List.eq_nil_or_concat s with rfl | ⟨w, x, rfl⟩
  · exact absurd (by rw [eq]; rfl) (head?_escape_ne hd t)
  · rw [List.concat_eq_append] at eq ⊢
    have pair : [x, d] <:+: escape d t := ⟨w, r, by rw [eq]; simp⟩
    rw [List.getLast?_concat, eq_backslash_of_infix_escape hd pair]

theorem getLast?_escape (t : Text) : (escape d t).getLast? = t.getLast? := by
  rcases List.eq_nil_or_concat t with rfl | ⟨w, c, rfl⟩
  · rfl
  · rw [List.concat_eq_append, escape, List.flatMap_append, List.flatMap_singleton,
      List.getLast?_concat, List.getLast?_append]
    split <;> rfl

theorem endsInBackslash_escape : EndsInBackslash (escape d t) ↔ EndsInBackslash t := by
  rw [EndsInBackslash, getLast?_escape, EndsInBackslash]

/-- Only the delimiter in front of an escaped text can count. -/
theorem allEscaped_append_escape (hd : d ≠ '\\') (before : d ∉ s) (t : Text) :
    AllEscaped d (s ++ d :: escape d t) ↔ EndsInBackslash s := by
  refine ⟨AllEscaped.endsInBackslash, ?_⟩
  intro ends u v eq
  rcases List.append_eq_append_iff.1 eq with ⟨w, rfl, eq'⟩ | ⟨w, rfl, eq'⟩
  · cases w with
    | nil => rwa [List.append_nil]
    | cons c w =>
      obtain ⟨rfl, escaped⟩ := List.cons.inj eq'
      have last := allEscaped_escape hd t w v escaped
      cases w with
      | nil => cases last
      | cons x w =>
        rwa [List.getLast?_append_of_ne_nil _ (by simp), List.getLast?_cons_cons]
  · cases w with
    | nil => rwa [List.append_nil] at ends
    | cons c w =>
      obtain ⟨rfl, -⟩ := List.cons.inj eq'
      simp at before

/-- Two texts that end where a delimiter first counts are the same. -/
theorem AllEscaped.eq_of_append_eq (hs : AllEscaped d s) (ht : AllEscaped d t)
    (openS : ¬ EndsInBackslash s) (openT : ¬ EndsInBackslash t)
    (h : s ++ d :: u = t ++ d :: v) : s = t := by
  rcases List.append_eq_append_iff.1 h with ⟨w, rfl, eq⟩ | ⟨w, rfl, eq⟩
  · cases w with
    | nil => rw [List.append_nil]
    | cons c w =>
      obtain ⟨rfl, -⟩ := List.cons.inj eq
      exact absurd ht.endsInBackslash openS
  · cases w with
    | nil => rw [List.append_nil]
    | cons c w =>
      obtain ⟨rfl, -⟩ := List.cons.inj eq
      exact absurd hs.endsInBackslash openT

/-- With all delimiters escaped, a text can only end at the last one. -/
theorem AllEscaped.eq_of_append_eq_of_not_mem (hs : AllEscaped d s) (last : d ∉ r)
    (openU : ¬ EndsInBackslash u) (h : u ++ d :: v = s ++ d :: r) : u = s := by
  rcases List.append_eq_append_iff.1 h with ⟨w, rfl, eq⟩ | ⟨w, rfl, eq⟩
  · cases w with
    | nil => rw [List.append_nil]
    | cons c w =>
      obtain ⟨rfl, -⟩ := List.cons.inj eq
      exact absurd hs.endsInBackslash openU
  · cases w with
    | nil => rw [List.append_nil]
    | cons c w =>
      obtain ⟨rfl, rfl⟩ := List.cons.inj eq
      simp at last

end Text

/-! ## Searches for a delimiter -/

namespace Lexeme

open Text (AllEscaped EndsInBackslash)

variable {t x y : Text}

/-- The search for an opening bracket finds one unless all are escaped. -/
theorem opensId_iff : opensId t = true ↔ ¬ AllEscaped '<' t := by
  fun_induction opensId t with
  | case1 => simp [Text.allEscaped_of_not_mem]
  | case2 c => simp [Text.allEscaped_singleton]
  | case3 b c r h ih =>
    obtain ⟨rfl, rfl⟩ := h
    rw [ih, Text.allEscaped_backslash_cons (by decide)]
  | case4 b c r h ih =>
    by_cases bracket : b = '<'
    · subst bracket
      simp [Text.not_allEscaped_cons]
    · simp only [bracket, decide_false, Bool.false_or, ih]
      rw [Text.allEscaped_cons_cons bracket h]

theorem allEscaped_of_cutQuote_eq_none (h : cutQuote t = none) : AllEscaped '"' t := by
  fun_induction cutQuote t with
  | case1 => exact Text.allEscaped_of_not_mem List.not_mem_nil
  | case2 => simp at h
  | case3 c other => exact Text.allEscaped_singleton.2 other
  | case4 => simp at h
  | case5 b c r _ escaped ih =>
    obtain ⟨rfl, rfl⟩ := escaped
    rw [Text.allEscaped_backslash_cons (by decide)]
    exact ih (by simpa using h)
  | case6 b c r other unescaping ih =>
    rw [Text.allEscaped_cons_cons other unescaping]
    exact ih (by simpa using h)

/-- The search stops at a quote that counts, and behind none that does. -/
theorem stops_of_cutQuote (h : cutQuote t = some (x, y)) :
    y.head? = some '"' ∧ AllEscaped '"' x ∧ ¬ EndsInBackslash x := by
  fun_induction cutQuote t generalizing x y with
  | case1 => simp at h
  | case2 =>
    obtain ⟨rfl, rfl⟩ : x = [] ∧ y = ['"'] := by simpa [eq_comm] using h
    exact ⟨rfl, Text.allEscaped_of_not_mem List.not_mem_nil, by decide⟩
  | case3 => simp at h
  | case4 c r =>
    obtain ⟨rfl, rfl⟩ : x = [] ∧ y = '"' :: c :: r := by simpa [eq_comm] using h
    exact ⟨rfl, Text.allEscaped_of_not_mem List.not_mem_nil, by decide⟩
  | case5 b c r _ escaped ih =>
    obtain ⟨rfl, rfl⟩ := escaped
    simp only [Option.map_eq_some_iff, Prod.exists, Prod.mk.injEq] at h
    obtain ⟨x, y, cut, rfl, rfl⟩ := h
    obtain ⟨starts, all, unprotected⟩ := ih cut
    refine ⟨starts, (Text.allEscaped_backslash_cons (by decide)).2 all, ?_⟩
    cases x with
    | nil => decide
    | cons z x => rwa [EndsInBackslash, List.getLast?_cons_cons, List.getLast?_cons_cons]
  | case6 b c r other unescaping ih =>
    simp only [Option.map_eq_some_iff, Prod.exists, Prod.mk.injEq] at h
    obtain ⟨x, y, cut, rfl, rfl⟩ := h
    obtain ⟨starts, all, unprotected⟩ := ih cut
    have joined := cutQuote_append cut
    refine ⟨starts, ?_, ?_⟩
    · cases x with
      | nil => exact Text.allEscaped_singleton.2 other
      | cons z x =>
        obtain ⟨rfl, -⟩ := List.cons.inj joined
        exact (Text.allEscaped_cons_cons other unescaping).2 all
    · cases x with
      | nil =>
        rw [List.nil_append] at joined
        rw [joined, List.head?_cons] at starts
        intro backslash
        exact unescaping ⟨by simpa [EndsInBackslash] using backslash, by simpa using starts⟩
      | cons z x => rwa [EndsInBackslash, List.getLast?_cons_cons]

/-- The first quote that counts cuts the text. -/
theorem cutQuote_eq_some_iff : cutQuote t = some (x, y) ↔
    t = x ++ y ∧ y.head? = some '"' ∧ AllEscaped '"' x ∧ ¬ EndsInBackslash x := by
  refine ⟨?_, ?_⟩
  · intro h
    exact ⟨(cutQuote_append h).symm, stops_of_cutQuote h⟩
  · rintro ⟨rfl, starts, all, unprotected⟩
    obtain ⟨r, rfl⟩ := List.head?_eq_some_iff.1 starts
    cases cut : cutQuote (x ++ '"' :: r) with
    | none => exact absurd (allEscaped_of_cutQuote_eq_none cut).endsInBackslash unprotected
    | some parts =>
      obtain ⟨z, w⟩ := parts
      obtain ⟨starts', all', unprotected'⟩ := stops_of_cutQuote cut
      obtain ⟨q, rfl⟩ := List.head?_eq_some_iff.1 starts'
      have joined := cutQuote_append cut
      obtain rfl := all'.eq_of_append_eq all unprotected' unprotected joined
      rw [List.append_cancel_left joined]

end Lexeme
end GraphText
