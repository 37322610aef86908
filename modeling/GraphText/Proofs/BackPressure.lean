-- Back-pressure on a stream. The producer is never more than one token ahead of what the
-- capacity allows, and it ends once all tokens that the reader has not taken fit into the
-- capacity. Letting it run ahead changes nothing that the reader gets.
import GraphText.Proofs.StreamOrder

namespace GraphText.TokenStream

variable {s s' : TokenStream} {t : Token} {ts us : List Token}

/-! ## How far the producer is ahead -/

/-- The tokens that the producer has scanned and the reader has not taken. -/
def ahead (s : TokenStream) : Nat := s.queue.length + s.producer.held.length

theorem length_pending (s : TokenStream) :
    s.pending.length = s.ahead + s.source.tokens.length := by
  rw [pending, ahead, List.length_append, List.length_append]

/-- A token that was handed over is the only one, and otherwise the queue is full at most and
the producer holds one more. -/
theorem Sound.ahead_le (sound : s.Sound) : s.ahead ≤ s.capacity + 1 := by
  have held : s.producer.held.length ≤ 1 := by cases s.producer <;> simp [Producer.held]
  by_cases zero : s.capacity = 0
  · have alone := sound.alone zero
    by_cases waiting : s.producer = .awaiting false
    · simp [ahead, alone, waiting, Producer.held]
    · rw [ahead, alone, if_neg waiting]
      omega
  · have room := sound.room
    rw [slots] at room
    rw [ahead]
    omega

/-! ## Where the producer ends -/

theorem isFinished_iff : s.isFinished = true ↔ s.producer = .finished := by simp [isFinished]

/-- Behind a producer that has finished, only the queue is left. -/
theorem Sound.pending_le_of_finished (sound : s.Sound) (finished : s.producer = .finished) :
    s.pending.length ≤ s.capacity := by
  have exhausted := Lexer.tokens_of_ended (sound.ended finished)
  rw [length_pending, ahead, finished, exhausted]
  by_cases zero : s.capacity = 0
  · simp [sound.alone zero, finished, Producer.held]
  · have room := sound.room
    rw [slots] at room
    simp only [Producer.held, List.length_nil]
    omega

/-- A producer that can take no step has finished, or waits because there is too much. -/
theorem Sound.finished_iff_of_stuck (sound : s.Sound) (stuck : s.produce? = none) :
    s.producer = .finished ↔ s.pending.length ≤ s.capacity := by
  refine ⟨sound.pending_le_of_finished, ?_⟩
  intro few
  rw [length_pending, ahead] at few
  rcases cases_of_produce_eq_none stuck with ⟨t, now, full⟩ | waiting | finished
  · rw [now, Producer.held, List.length_singleton] at few
    rw [slots] at full
    omega
  · have zero := sound.waits _ waiting
    have alone := sound.alone zero
    rw [if_pos waiting] at alone
    omega
  · exact finished

theorem capacity_produce (h : s.produce? = some s') : s'.capacity = s.capacity := by
  rcases cases_of_produce h with
    ⟨t, l, now, more, rfl⟩ | ⟨now, stopped, rfl⟩ | ⟨t, now, -, rfl⟩ | ⟨now, rfl⟩ <;> rfl

theorem capacity_take (h : s.take? = some (t, s')) : s'.capacity = s.capacity := by
  obtain ⟨ts, -, rfl⟩ := exists_of_take h
  rfl

theorem Runs.capacity_eq (run : Runs s ts s') : s'.capacity = s.capacity := by
  induction run with
  | here => rfl
  | produce _ step ih => rw [capacity_produce step, ih]
  | take _ step ih => rw [capacity_take step, ih]

/-- A producer that has finished stays so. -/
theorem Runs.finished (run : Runs s ts s') (finished : s.producer = .finished) :
    s'.producer = .finished := by
  induction run with
  | here => exact finished
  | produce _ step ih =>
    rcases cases_of_produce step with
      ⟨t, l, now, -⟩ | ⟨now, -⟩ | ⟨t, now, -⟩ | ⟨now, -⟩ <;> simp [ih] at now
  | take _ step ih =>
    obtain ⟨ts, -, rfl⟩ := exists_of_take step
    simp [ih]

/-! ## Settling -/

theorem settle_of_stuck (stuck : s.produce? = none) : s.settle = s := by
  rw [settle]
  split
  · rename_i step
    rw [stuck] at step
    cases step
  · rfl

/-- A call after settling gets what it would have got before. -/
theorem receive?_settle (s : TokenStream) : s.settle.receive? = s.receive? := by
  rw [receive?, settle_of_stuck s.produce_settle, receive?]

/-- The reader can take just the first tokens of those that are still to come. -/
theorem Sound.exists_runs_iff (sound : s.Sound) :
    (∃ s', Runs s us s') ↔ us <+: s.pending := by
  refine ⟨?_, ?_⟩
  · rintro ⟨s', run⟩
    exact ⟨s'.pending, run.pending_eq.symm⟩
  · -- It lets the producer go first each time, and the next token is there.
    intro front
    induction us generalizing s with
    | nil => exact ⟨s, .here⟩
    | cons u us ih =>
      obtain ⟨r, eq⟩ := front
      have next := sound.receive?_eq
      rw [← eq, List.cons_append, List.head?_cons, Option.map_eq_some_iff] at next
      obtain ⟨⟨v, s'⟩, more, rfl⟩ := next
      have run := runs_receive more
      have rest := run.pending_eq
      rw [← eq, List.cons_append, List.singleton_append] at rest
      obtain ⟨s'', run'⟩ := ih (run.sound sound) ⟨r, (List.cons.inj rest).2⟩
      exact ⟨s'', run.trans run'⟩

/-- How a stream over a query stands once these tokens were taken. Where the capacity is zero,
the producer is one token ahead at most, and it ends with the last token taken. -/
structure KeepsPace (x : Text) (c : Nat) (ts : List Token) (s : TokenStream) : Prop where
  scanned : ts.length + s.ahead + s.source.tokens.length = (tokenize x).length
  ahead_le : s.ahead ≤ c + 1
  queue_le : s.queue.length ≤ max c 1
  finished : s.isFinished = true → (tokenize x).length ≤ ts.length + c
  settled : s.settle.isFinished = true ↔ (tokenize x).length ≤ ts.length + c
  stays : s.isFinished = true → ∀ us s', Runs s us s' → s'.isFinished = true
  later : ∀ us, (∃ s', Runs s us s') ↔ us <+: (tokenize x).drop ts.length
  later_settled : ∀ us, (∃ s', Runs s.settle us s') ↔ us <+: (tokenize x).drop ts.length
  call_settled : s.settle.receive? = s.receive?

/-- A stream keeps pace with its reader under every schedule. -/
theorem stream_keepsPace (x : Text) (c : Nat) (run : Runs (spawn x c) ts s) :
    KeepsPace x c ts s := by
  have sound := run.sound (sound_spawn x c)
  have capacity : s.capacity = c := run.capacity_eq
  have all : tokenize x = ts ++ s.pending := run.pending_eq
  have length : (tokenize x).length = ts.length + s.pending.length := by
    rw [all, List.length_append]
  have rest : (tokenize x).drop ts.length = s.pending := by rw [all, List.drop_left]
  have few : s.pending.length ≤ s.capacity ↔ (tokenize x).length ≤ ts.length + c := by omega
  refine ⟨?_, ?_, ?_, ?_, ?_, ?_, ?_, ?_, receive?_settle s⟩
  · rw [length, length_pending, Nat.add_assoc]
  · rw [← capacity]
    exact sound.ahead_le
  · rw [← capacity]
    exact sound.room
  · rw [isFinished_iff, ← few]
    exact sound.pending_le_of_finished
  · rw [isFinished_iff, sound.settle.finished_iff_of_stuck s.produce_settle, pending_settle,
      s.runs_settle.capacity_eq, few]
  · intro finished us s' more
    rw [isFinished_iff] at finished ⊢
    exact more.finished finished
  · intro us
    rw [rest, sound.exists_runs_iff]
  · intro us
    rw [rest, sound.settle.exists_runs_iff, pending_settle]

/-- With a capacity of two, the reader has taken the first of five tokens. The queue is full,
and the producer waits with the token behind the two in it. -/
theorem stream_keepsPace_of_full_queue : ∃ s,
    Runs (spawn "?a ?b ?c ?d".toList 2) [⟨.binding, "?a".toList, none, 0⟩] s ∧
      KeepsPace "?a ?b ?c ?d".toList 2 [⟨.binding, "?a".toList, none, 0⟩] s ∧
      s.queue.length = 2 ∧ s.ahead = 3 ∧ s.produce? = none ∧ s.isFinished = false := by
  have scanned : Runs (spawn "?a ?b ?c ?d".toList 2) [] _ := .produce .here rfl
  have offered := scanned.produce rfl
  have taken : Runs (spawn "?a ?b ?c ?d".toList 2) ([] ++ [⟨.binding, "?a".toList, none, 0⟩]) _ :=
    offered.take rfl
  have one := (taken.produce rfl).produce rfl
  have two := (one.produce rfl).produce rfl
  have full := two.produce rfl
  exact ⟨_, full, stream_keepsPace _ _ full, rfl, rfl, rfl, rfl⟩

end GraphText.TokenStream
