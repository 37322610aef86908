-- Lexers that start again. Behind a token the tokens are those of the text that is left,
-- counted on from there. A copy of a scanner has the same tokens left, and what is done to
-- one of the two is nothing to the other.
import GraphText.Proofs.Concatenation
import GraphText.Proofs.Scanning

namespace GraphText

/-! ## Behind a token -/

namespace Lexer

variable {l : Lexer} {front back : List Token} {t : Token}

/-- A lexer that gives a token in the middle of its tokens stands behind it then. -/
theorem exists_gives_of_tokens_eq (tokens : l.tokens = front ++ t :: back)
    (goesOn : t.type.isTerminal = false) : ∃ m, Gives l (front ++ [t]) m ∧ m.ended = false ∧
      m.tokens = back ∧ m.cursor.position = t.finish := by
  have ready : l.ended = false := by
    cases ended : l.ended with
    | false => rfl
    | true =>
      rw [tokens_of_ended ended] at tokens
      simp at tokens
  induction front generalizing l with
  | nil =>
    rw [tokens_of_not_ended ready] at tokens
    obtain ⟨rfl, left⟩ := List.cons.inj tokens
    obtain ⟨-, -, -, -, finish⟩ := l.exists_gap
    exact ⟨l.advance, .next ready goesOn .here, goesOn, left, finish⟩
  | cons u front ih =>
    rw [tokens_of_not_ended ready] at tokens
    obtain ⟨rfl, left⟩ := List.cons.inj tokens
    have ready' : l.advance.ended = false := by
      cases ended : l.advance.ended with
      | false => rfl
      | true =>
        rw [tokens_of_ended ended] at left
        simp at left
    obtain ⟨m, gives, more⟩ := ih left ready'
    exact ⟨m, .next ready ready' gives, more⟩

end Lexer

/-- The tokens behind the first one are those of the text behind it, counted on from there. -/
def GoesOnBehind (s : Text) (t : Token) (back : List Token) : Prop :=
  ∃ before after, s = before ++ after ∧ before.byteLength = t.finish ∧
    (tokenize after).Forall₂ (Token.Moved before.place) back

theorem goesOnBehind_of_tokens_eq {s : Text} {front back : List Token} {t : Token}
    (tokens : tokenize s = front ++ t :: back) (goesOn : t.type.isTerminal = false) :
    GoesOnBehind s t back := by
  obtain ⟨m, gives, ready, left, finish⟩ := Lexer.exists_gives_of_tokens_eq tokens goesOn
  obtain ⟨read, rest, cursor⟩ := gives.exists_read
  have place : m.cursor = read.place := cursor.trans (Cursor.past_start read)
  have behind : m = ⟨m.rest, read.place, false⟩ := by rw [← place, ← ready]
  refine ⟨read, m.rest, rest, ?_, ?_⟩
  · rw [← finish, place]
    rfl
  · rw [← left, behind]
    exact Lexer.moved_tokenize read.place m.rest

/-! ## Copies -/

/-- What can be done with copies: one of them is called, or is copied once more. -/
inductive CopyAction where
  | call (i : Nat)
  | copy (i : Nat)

namespace CopyAction

variable {α : Type}

/-- The copies after an action. -/
def run (next : α → Option (Token × α)) (copies : List α) : CopyAction → List α
  | call i => copies.modify i fun a => (calls next 1 a).2
  | copy i => copies ++ copies[i]?.toList

/-- How often each copy has been called. A new one shares the calls of the one that it is a
copy of. -/
def count (counts : List Nat) : CopyAction → List Nat
  | call i => counts.modify i (· + 1)
  | copy i => counts ++ counts[i]?.toList

variable {next : α → Option (Token × α)} {a : α}

/-- An action keeps every copy where its own calls have brought it. -/
theorem run_map (counts : List Nat) (action : CopyAction) :
    run next (counts.map fun n => (calls next n a).2) action =
      (count counts action).map fun n => (calls next n a).2 := by
  cases action with
  | call i =>
    have step : ∀ n, (calls next 1 (calls next n a).2).2 = (calls next (n + 1) a).2 := by
      intro n
      rw [calls_add]
    rw [run, count]
    apply List.ext_getElem?
    intro j
    rw [List.getElem?_modify, List.getElem?_map, List.getElem?_map, List.getElem?_modify]
    cases counts[j]? with
    | none => rfl
    | some n =>
      by_cases here : i = j
      · simp [here, step]
      · simp [here]
  | copy i =>
    rw [run, count, List.map_append, List.getElem?_map]
    cases counts[i]? <;> rfl

theorem foldl_run_map (actions : List CopyAction) (counts : List Nat) :
    actions.foldl (run next) (counts.map fun n => (calls next n a).2) =
      (actions.foldl count counts).map fun n => (calls next n a).2 := by
  induction actions generalizing counts with
  | nil => rfl
  | cons action actions ih => rw [List.foldl_cons, List.foldl_cons, run_map, ih]

end CopyAction

/-- The calls that follow give these tokens and no more. -/
def Scanner.HasLeft (m : Scanner) (ts : List Token) : Prop :=
  ∀ n, (calls next? n m).1 = ts.take n

theorem Scanner.hasLeft_calls (s : Text) (n : Nat) :
    (calls next? n (.ofText s)).2.HasLeft ((tokenize s).drop n) := by
  intro k
  obtain ⟨-, follows⟩ := (follows_ofText s).calls n
  rw [(follows.calls k).1, (Lexer.calls_next? _ k).1, (Lexer.calls_next? _ n).2]
  rfl

/-- Behind every token that does not end the query, a lexer gives the tokens of the text that
is left. Each copy of a scanner gives the tokens that its own calls have not given yet,
however the copies are called and copied in turn. -/
theorem lexer_restarts (s : Text) :
    (∀ front t back, tokenize s = front ++ t :: back → t.type.isTerminal = false →
      GoesOnBehind s t back) ∧
    ∀ actions : List CopyAction,
      (actions.foldl CopyAction.count [0]).Forall₂
        (fun n m => m.HasLeft ((tokenize s).drop n))
        (actions.foldl (CopyAction.run Scanner.next?) [.ofText s]) := by
  refine ⟨fun front t back tokens goesOn => goesOnBehind_of_tokens_eq tokens goesOn, ?_⟩
  intro actions
  have copies : actions.foldl (CopyAction.run Scanner.next?) [.ofText s] = _ :=
    CopyAction.foldl_run_map (a := Scanner.ofText s) actions [0]
  rw [copies, List.forall₂_map_right_iff, List.forall₂_same]
  exact fun n _ => Scanner.hasLeft_calls s n

/-- A fault behind a binding is the fault of the text behind the binding, two columns on. -/
theorem lexer_restarts_of_nameless_binding : ∃ t u, tokenize "?a ?".toList = [t, u] ∧
    t.type = .binding ∧ u.type = .error ∧ u.message =
      some (Lexer.report ⟨0, 4, 4⟩ .namelessBinding) ∧ GoesOnBehind "?a ?".toList t [u] ∧
    ∀ actions : List CopyAction, (actions.foldl CopyAction.count [0]).Forall₂
      (fun n m => m.HasLeft ([t, u].drop n))
      (actions.foldl (CopyAction.run Scanner.next?) [.ofText "?a ?".toList]) := by
  let l := Lexer.ofText "?a ?".toList
  have tokens : tokenize "?a ?".toList = [l.token, l.advance.token] :=
    Lexer.tokens_eq_calls (n := 2) rfl
  obtain ⟨behind, copies⟩ := lexer_restarts "?a ?".toList
  rw [tokens] at copies
  exact ⟨l.token, l.advance.token, tokens, rfl, rfl, rfl, behind [] _ _ tokens rfl, copies⟩

end GraphText
