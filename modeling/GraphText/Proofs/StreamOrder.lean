-- The order of the tokens on a stream. However the producer and the reader take turns, the
-- tokens reach the reader in the order of the query, none is lost and none comes twice, and
-- only behind the last one the reader sees the end.
import GraphText.Proofs.TokenPartition
import GraphText.Query.Stream
import Mathlib.Data.List.ReduceOption

namespace GraphText.TokenStream

variable {s s' : TokenStream} {t : Token} {ts : List Token} {a : Option Token}
  {as : List (Option Token)}

/-! ## What is still to come -/

/-- The tokens that the reader has not taken: those in the queue, the one that the producer
holds, and those that it has not scanned. -/
def pending (s : TokenStream) : List Token := s.queue ++ s.producer.held ++ s.source.tokens

theorem pending_spawn (x : Text) (c : Nat) : (spawn x c).pending = tokenize x := rfl

theorem pending_produce (h : s.produce? = some s') : s'.pending = s.pending := by
  rcases cases_of_produce h with
    ⟨t, l, now, more, rfl⟩ | ⟨now, stopped, rfl⟩ | ⟨t, now, -, rfl⟩ | ⟨now, rfl⟩
  · simp [pending, now, Producer.held, Lexer.tokens_of_next more]
  · simp [pending, now, Producer.held]
  · cases mode : s.handsOver <;> simp [pending, now, Producer.held]
  · simp [pending, now, Producer.held]

theorem pending_take (h : s.take? = some (t, s')) : s.pending = t :: s'.pending := by
  obtain ⟨ts, front, rfl⟩ := exists_of_take h
  by_cases waiting : s.producer = .awaiting false
  · simp [pending, front, waiting, Producer.held]
  · simp [pending, front, waiting]

/-- What was to come is what the reader took, and then what is still to come. -/
theorem Runs.pending_eq (run : Runs s ts s') : s.pending = ts ++ s'.pending := by
  induction run with
  | here => rfl
  | produce _ step ih => rw [ih, pending_produce step]
  | take _ step ih => rw [ih, pending_take step, List.append_assoc, List.singleton_append]

theorem pending_settle (s : TokenStream) : s.settle.pending = s.pending :=
  s.runs_settle.pending_eq.symm

/-! ## Streams in order -/

/-- What holds of a stream at any time: the producer ends when its lexer has ended, it waits
for receipts only where it hands over, what it hands over stands alone in the queue, and the
queue has room. -/
structure Sound (s : TokenStream) : Prop where
  ended : s.producer = .finished → s.source.ended = true
  waits : ∀ receipt, s.producer = .awaiting receipt → s.capacity = 0
  alone : s.capacity = 0 → s.queue.length = if s.producer = .awaiting false then 1 else 0
  room : s.queue.length ≤ s.slots

theorem sound_spawn (x : Text) (c : Nat) : (spawn x c).Sound where
  ended := by simp [spawn]
  waits := by simp [spawn]
  alone := by simp [spawn]
  room := Nat.zero_le _

theorem Sound.produce (sound : s.Sound) (h : s.produce? = some s') : s'.Sound := by
  rcases cases_of_produce h with
    ⟨t, l, now, more, rfl⟩ | ⟨now, stopped, rfl⟩ | ⟨t, now, room, rfl⟩ | ⟨now, rfl⟩
  · exact ⟨by simp, by simp, by simpa [now] using sound.alone, sound.room⟩
  · exact ⟨fun _ => Lexer.ended_of_next_eq_none stopped, by simp, by simpa [now] using sound.alone,
      sound.room⟩
  · have fits : (s.queue ++ [t]).length ≤ s.slots := by simpa using Nat.succ_le_of_lt room
    by_cases zero : s.capacity = 0
    · have empty : s.queue = [] := by simpa [now] using sound.alone zero
      exact ⟨by simp [handsOver, zero], by simp [zero], by simp [handsOver, zero, empty], fits⟩
    · exact ⟨by simp [handsOver, zero], by simp [handsOver, zero], by simp [zero], fits⟩
  · exact ⟨by simp, by simp, by simpa [now] using sound.alone, sound.room⟩

theorem Sound.take (sound : s.Sound) (h : s.take? = some (t, s')) : s'.Sound := by
  obtain ⟨ts, front, rfl⟩ := exists_of_take h
  have room := sound.room
  rw [front, List.length_cons] at room
  have fits : ts.length ≤ s.slots := by omega
  by_cases waiting : s.producer = .awaiting false
  · have zero := sound.waits _ waiting
    have last : ts = [] := by simpa [front, waiting] using sound.alone zero
    exact ⟨by simp [waiting], fun _ _ => zero, by simp [waiting, last], fits⟩
  · -- Without a handover under way, a token in the queue means that there is a capacity.
    have queued : s.capacity ≠ 0 := by
      intro zero
      have empty := sound.alone zero
      simp [front, waiting] at empty
    exact ⟨by simpa [waiting] using sound.ended, by simpa [waiting] using sound.waits,
      fun zero => absurd zero queued, fits⟩

theorem Runs.sound (run : Runs s ts s') (sound : s.Sound) : s'.Sound := by
  induction run with
  | here => exact sound
  | produce _ step ih => exact ih.produce step
  | take _ step ih => exact ih.take step

theorem Sound.settle (sound : s.Sound) : s.settle.Sound := s.runs_settle.sound sound

/-- Nothing is still to come once the producer has finished and the queue is empty. -/
theorem Sound.pending_eq_nil (sound : s.Sound) (finished : s.producer = .finished)
    (empty : s.queue = []) : s.pending = [] := by
  rw [pending, empty, finished, Lexer.tokens_of_ended (sound.ended finished)]
  rfl

/-- With an empty queue, only a producer that has finished can take no step. -/
theorem Sound.finished_of_stuck (sound : s.Sound) (stuck : s.produce? = none)
    (empty : s.queue = []) : s.producer = .finished := by
  rcases cases_of_produce_eq_none stuck with ⟨t, -, full⟩ | waiting | finished
  · rw [empty, slots] at full
    simp at full
  · have one := sound.alone (sound.waits _ waiting)
    simp [empty, waiting] at one
  · exact finished

/-! ## The calls of the reader -/

/-- The answer to a call while the producer stands still: the first token of the queue, or the
end if the queue is empty and the producer has finished. Otherwise the call waits. -/
def poll? (s : TokenStream) : Option (Option Token × TokenStream) :=
  match s.take? with
  | some (t, s') => some (some t, s')
  | none => if s.isFinished then some (none, s) else none

/-- The first stream can become the second, while the calls of the reader get these answers.
Between them the producer makes any number of steps. -/
inductive Answers : TokenStream → List (Option Token) → TokenStream → Prop
  | here {s : TokenStream} : Answers s [] s
  | produce {s s' s'' : TokenStream} {as : List (Option Token)} :
      Answers s as s' → s'.produce? = some s'' → Answers s as s''
  | call {s s' s'' : TokenStream} {as : List (Option Token)} {a : Option Token} :
      Answers s as s' → s'.poll? = some (a, s'') → Answers s (as ++ [a]) s''

/-- However the producer and the reader take turns, the reader gets these tokens and then the
end. -/
inductive DrainsTo : TokenStream → List Token → Prop
  | ends {s s' : TokenStream} : s.poll? = some (none, s') → DrainsTo s []
  | goesOn {s : TokenStream} {ts : List Token} :
      (s.produce?.isSome ∨ ∃ t s', s.poll? = some (some t, s')) →
      (∀ s', s.produce? = some s' → DrainsTo s' ts) →
      (∀ t s', s.poll? = some (some t, s') → ts.head? = some t) →
      (∀ t s', s.poll? = some (some t, s') → DrainsTo s' ts.tail) → DrainsTo s ts

theorem poll?_eq_some_iff : s.poll? = some (some t, s') ↔ s.take? = some (t, s') := by
  unfold poll?
  split
  · rename_i u next first
    simp [first]
  · rename_i waits
    split <;> simp [waits]

theorem poll?_eq_end_iff : s.poll? = some (none, s') ↔
    s.queue = [] ∧ s.producer = .finished ∧ s' = s := by
  rw [← take?_eq_none_iff]
  unfold poll?
  split
  · rename_i u next first
    simp [first]
  · rename_i waits
    by_cases finished : s.producer = .finished
    · simp [waits, isFinished, finished, eq_comm]
    · simp [waits, isFinished, finished]

/-- An answer is the next of the tokens that are still to come, and takes it away. -/
theorem Sound.poll (sound : s.Sound) (h : s.poll? = some (a, s')) :
    s'.Sound ∧ a = s.pending.head? ∧ s'.pending = s.pending.tail := by
  cases a with
  | some t =>
    rw [poll?_eq_some_iff] at h
    rw [pending_take h]
    exact ⟨sound.take h, rfl, rfl⟩
  | none =>
    obtain ⟨empty, finished, rfl⟩ := poll?_eq_end_iff.1 h
    rw [sound.pending_eq_nil finished empty]
    exact ⟨sound, rfl, rfl⟩

theorem Sound.answers (sound : s.Sound) (run : Answers s as s') :
    s'.Sound ∧ s'.pending = s.pending.drop as.length ∧
      as.reduceOption = s.pending.take as.length ∧
      ∀ (i : Nat) (a : Option Token), as[i]? = some a → a = s.pending[i]? := by
  induction run with
  | here => exact ⟨sound, rfl, rfl, by simp⟩
  | produce _ step ih =>
    obtain ⟨sound', rest⟩ := ih
    rw [pending_produce step]
    exact ⟨sound'.produce step, rest⟩
  | @call s' s'' as a _ answer ih =>
    obtain ⟨sound', rest, taken, each⟩ := ih
    obtain ⟨sound'', next, rest'⟩ := sound'.poll answer
    rw [rest, List.head?_drop] at next
    refine ⟨sound'', ?_, ?_, ?_⟩
    · rw [rest', rest, List.tail_drop, List.length_append, List.length_singleton]
    · rw [List.reduceOption_append, List.reduceOption_singleton, taken, next, List.length_append,
        List.length_singleton, List.take_add_one]
    · intro i b h
      rcases Nat.lt_trichotomy i as.length with before | rfl | behind
      · rw [List.getElem?_append_left before] at h
        exact each i b h
      · rw [List.getElem?_concat_length] at h
        rw [← next, Option.some.inj h]
      · rw [List.getElem?_eq_none (by simpa using Nat.succ_le_of_lt behind)] at h
        cases h

/-- Where the reader waits, the producer goes on. -/
theorem Sound.cases_of_poll (sound : s.Sound) : (∃ a s', s.poll? = some (a, s')) ∨
    ∃ s', s.produce? = some s' := by
  cases next : s.produce? with
  | some s' => exact .inr ⟨s', rfl⟩
  | none =>
    refine .inl ?_
    cases first : s.take? with
    | some tk => exact ⟨some tk.1, tk.2, poll?_eq_some_iff.2 first⟩
    | none =>
      have empty := take?_eq_none_iff.1 first
      exact ⟨none, s, poll?_eq_end_iff.2 ⟨empty, sound.finished_of_stuck next empty, rfl⟩⟩

/-- The steps that the two can still take, at most. A step of the producer puts no more than
one token into the queue. -/
def moves (s : TokenStream) : Nat := 2 * s.work + s.queue.length

theorem moves_produce (h : s.produce? = some s') : s'.moves < s.moves := by
  have less := work_produce h
  have one : s'.queue.length ≤ s.queue.length + 1 := by
    rcases cases_of_produce h with
      ⟨t, l, now, more, rfl⟩ | ⟨now, stopped, rfl⟩ | ⟨t, now, -, rfl⟩ | ⟨now, rfl⟩ <;> simp
  rw [moves, moves]
  omega

theorem moves_take (h : s.take? = some (t, s')) : s'.moves < s.moves := by
  obtain ⟨ts, front, rfl⟩ := exists_of_take h
  by_cases waiting : s.producer = .awaiting false
  · simp [moves, work, front, waiting, Producer.weight]
  · simp [moves, work, front, waiting]

/-- What is still to come reaches the reader under any schedule. -/
theorem Sound.drainsTo {s : TokenStream} (sound : s.Sound) : s.DrainsTo s.pending := by
  -- By induction on the moves that are left, which every step of either side lowers.
  by_cases closed : s.queue = [] ∧ s.producer = .finished
  · obtain ⟨empty, finished⟩ := closed
    rw [sound.pending_eq_nil finished empty]
    exact .ends (poll?_eq_end_iff.2 ⟨empty, finished, rfl⟩)
  · refine .goesOn ?_ ?_ ?_ ?_
    · rcases sound.cases_of_poll with ⟨a, s', answer⟩ | ⟨s', step⟩
      · cases a with
        | some t => exact .inr ⟨t, s', answer⟩
        | none =>
          obtain ⟨empty, finished, -⟩ := poll?_eq_end_iff.1 answer
          exact absurd ⟨empty, finished⟩ closed
      · exact .inl (by simp [step])
    · intro s' step
      have less := moves_produce step
      rw [← pending_produce step]
      exact (sound.produce step).drainsTo
    · intro t s' answer
      exact (sound.poll answer).2.1.symm
    · intro t s' answer
      have less := moves_take (poll?_eq_some_iff.1 answer)
      obtain ⟨sound', -, rest⟩ := sound.poll answer
      rw [← rest]
      exact sound'.drainsTo
termination_by s.moves

/-! ## Calls that let the producer go first -/

theorem produce_settle (s : TokenStream) : s.settle.produce? = none := by
  fun_induction settle s with
  | case1 s s' h ih => exact ih
  | case2 s h => exact h

/-- A call that waits for the producer gets the next token, and the end behind the last. -/
theorem Sound.receive?_eq (sound : s.Sound) : s.receive?.map Prod.fst = s.pending.head? := by
  rw [← pending_settle, receive?]
  cases first : s.settle.take? with
  | some tk => rw [pending_take first]; rfl
  | none =>
    have empty := take?_eq_none_iff.1 first
    rw [sound.settle.pending_eq_nil (sound.settle.finished_of_stuck s.produce_settle empty) empty]
    rfl

theorem Sound.collect_eq (sound : s.Sound) : s.collect = s.pending := by
  fun_induction collect s with
  | case1 s t s' more ih =>
    have run := runs_receive more
    rw [ih (run.sound sound), run.pending_eq, List.singleton_append]
  | case2 s stopped =>
    have next := sound.receive?_eq
    rw [stopped] at next
    exact (List.head?_eq_none_iff.1 next.symm).symm

/-! ## The whole stream -/

/-- After any number of calls, the tokens that the reader has taken are the first ones of the
query, an answer is the end only behind all of them, and whoever drains the stream gets
exactly the others. None of this depends on the capacity or on the schedule. -/
theorem stream_delivers (x : Text) (c : Nat) (run : Answers (spawn x c) as s) :
    as.reduceOption = (tokenize x).take as.length ∧
      (∀ (i : Nat) (a : Option Token), as[i]? = some a → a = (tokenize x)[i]?) ∧
      s.DrainsTo ((tokenize x).drop as.length) ∧
      s.collect = (tokenize x).drop as.length ∧
      s.receive?.map Prod.fst = (tokenize x)[as.length]? := by
  obtain ⟨sound, rest, taken, each⟩ := (sound_spawn x c).answers run
  rw [pending_spawn] at rest taken each
  refine ⟨taken, each, ?_, ?_, ?_⟩
  · rw [← rest]
    exact sound.drainsTo
  · rw [sound.collect_eq, rest]
  · rw [sound.receive?_eq, rest, List.head?_drop]

/-- Without any capacity, one call gets the first of two tokens, and the other token is left to
whoever drains the stream. -/
theorem stream_delivers_without_capacity : ∃ s,
    Answers (spawn "?a".toList 0) [some ⟨.binding, "?a".toList, none, 0⟩] s ∧
      s.DrainsTo [⟨.eof, [], none, 2⟩] := by
  have scanned : Answers (spawn "?a".toList 0) [] _ := .produce .here rfl
  have offered := scanned.produce rfl
  have taken : Answers (spawn "?a".toList 0) [some ⟨.binding, "?a".toList, none, 0⟩] _ :=
    offered.call rfl
  have tokens : tokenize "?a".toList =
      [⟨.binding, "?a".toList, none, 0⟩, ⟨.eof, [], none, 2⟩] := by
    rw [tokenize, Lexer.tokens_of_not_ended rfl, Lexer.tokens_of_not_ended rfl,
      Lexer.tokens_of_ended rfl]
    rfl
  have rest := (stream_delivers _ _ taken).2.2.1
  rw [tokens] at rest
  exact ⟨_, taken, rest⟩

end GraphText.TokenStream
