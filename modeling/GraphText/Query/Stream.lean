-- A lexer that runs ahead of its reader. A producer scans tokens into a queue with a
-- bounded number of slots and waits while the queue is full. With no capacity at all
-- it hands over one token at a time, and waits until the reader has taken it.
import GraphText.Query.Lexer

namespace GraphText

/-- What the producer does next. -/
inductive Producer where
  /-- It scans a token. -/
  | scanning
  /-- It puts a token into the queue, once there is a free slot. -/
  | offering (t : Token)
  /-- It waits for the receipt of the token that it handed over. -/
  | awaiting (receipt : Bool)
  | finished
  deriving DecidableEq

namespace Producer

/-- The token that the producer holds. -/
def held : Producer → List Token
  | offering t => [t]
  | _ => []

/-- The steps that the producer can take before it scans again, at most. -/
def weight : Producer → Nat
  | scanning => 1
  | offering _ => 3
  | awaiting _ => 2
  | finished => 0

end Producer

/-- A running lexer and the tokens that wait for the reader. -/
structure TokenStream where
  capacity : Nat
  source : Lexer
  producer : Producer
  queue : List Token

namespace TokenStream

/-- A stream over a query, before the producer has run. -/
def spawn (s : Text) (capacity : Nat) : TokenStream :=
  ⟨capacity, .ofText s, .scanning, []⟩

/-- The slots of the queue. A queue needs one even for a handover. -/
def slots (s : TokenStream) : Nat := max s.capacity 1

/-- Every token is handed over on its own. -/
def handsOver (s : TokenStream) : Bool := s.capacity == 0

def isFinished (s : TokenStream) : Bool := s.producer = .finished

/-! ## The producer -/

/-- One step of the producer, if it can take one. -/
def produce? (s : TokenStream) : Option TokenStream :=
  match s.producer with
  | .scanning =>
    match s.source.next? with
    | some (t, l) => some { s with source := l, producer := .offering t }
    | none => some { s with producer := .finished }
  | .offering t =>
    if s.queue.length < s.slots then
      some { s with
        queue := s.queue ++ [t]
        producer := if s.handsOver then .awaiting false else .scanning }
    else none
  | .awaiting true => some { s with producer := .scanning }
  | .awaiting false => none
  | .finished => none

/-- The steps that the producer can take. -/
theorem cases_of_produce {s s' : TokenStream} (h : s.produce? = some s') :
    (∃ t l, s.producer = .scanning ∧ s.source.next? = some (t, l) ∧
        s' = { s with source := l, producer := .offering t }) ∨
      (s.producer = .scanning ∧ s.source.next? = none ∧ s' = { s with producer := .finished }) ∨
      (∃ t, s.producer = .offering t ∧ s.queue.length < s.slots ∧
        s' = { s with
          queue := s.queue ++ [t]
          producer := if s.handsOver then .awaiting false else .scanning }) ∨
      (s.producer = .awaiting true ∧ s' = { s with producer := .scanning }) := by
  unfold produce? at h
  split at h
  · rename_i now
    split at h
    · rename_i t l more
      exact .inl ⟨t, l, now, more, (Option.some.inj h).symm⟩
    · rename_i stopped
      exact .inr (.inl ⟨now, stopped, (Option.some.inj h).symm⟩)
  · rename_i t now
    split at h
    · rename_i room
      exact .inr (.inr (.inl ⟨t, now, room, (Option.some.inj h).symm⟩))
    · cases h
  · rename_i now
    exact .inr (.inr (.inr ⟨now, (Option.some.inj h).symm⟩))
  · cases h
  · cases h

/-- Where the producer can take no step. -/
theorem cases_of_produce_eq_none {s : TokenStream} (h : s.produce? = none) :
    (∃ t, s.producer = .offering t ∧ s.slots ≤ s.queue.length) ∨
      s.producer = .awaiting false ∨ s.producer = .finished := by
  unfold produce? at h
  split at h
  · split at h
    · cases h
    · cases h
  · rename_i t now
    split at h
    · cases h
    · rename_i full
      exact .inl ⟨t, now, Nat.le_of_not_lt full⟩
  · cases h
  · rename_i now
    exact .inr (.inl now)
  · rename_i now
    exact .inr (.inr now)

/-- A bound on the steps that the producer can still take. -/
def work (s : TokenStream) : Nat := 4 * s.source.fuel + s.producer.weight

theorem work_produce {s s' : TokenStream} (h : s.produce? = some s') : s'.work < s.work := by
  rcases cases_of_produce h with
    ⟨t, l, now, more, rfl⟩ | ⟨now, -, rfl⟩ | ⟨t, now, -, rfl⟩ | ⟨now, rfl⟩
  · have less := Lexer.fuel_next more
    simp only [work, now, Producer.weight]
    omega
  · simp [work, now, Producer.weight]
  · simp only [work, now]
    cases s.handsOver <;> simp [Producer.weight]
  · simp [work, now, Producer.weight]

/-- The stream once the producer has run as far as it can. -/
def settle (s : TokenStream) : TokenStream :=
  match _h : s.produce? with
  | some s' => settle s'
  | none => s
termination_by s.work
decreasing_by exact work_produce _h

/-! ## The reader -/

/-- The first token of the queue, with its receipt given. -/
def take? (s : TokenStream) : Option (Token × TokenStream) :=
  match s.queue with
  | [] => none
  | t :: ts =>
    some (t, { s with
      queue := ts
      producer := if s.producer = .awaiting false then .awaiting true else s.producer })

theorem take?_eq_none_iff {s : TokenStream} : s.take? = none ↔ s.queue = [] := by
  unfold take?
  split <;> simp_all

theorem exists_of_take {s s' : TokenStream} {t : Token} (h : s.take? = some (t, s')) :
    ∃ ts, s.queue = t :: ts ∧ s' = { s with
      queue := ts
      producer := if s.producer = .awaiting false then .awaiting true else s.producer } := by
  unfold take? at h
  split at h
  · cases h
  · rename_i u ts front
    simp only [Option.some.injEq, Prod.mk.injEq] at h
    obtain ⟨rfl, rfl⟩ := h
    exact ⟨ts, front, rfl⟩

/-- The next token, once the producer has made it. There is none behind the last one. -/
def receive? (s : TokenStream) : Option (Token × TokenStream) := s.settle.take?

/-- A bound on the tokens that are still to come. -/
def backlog (s : TokenStream) : Nat :=
  s.queue.length + s.producer.held.length + s.source.fuel

theorem backlog_produce {s s' : TokenStream} (h : s.produce? = some s') :
    s'.backlog ≤ s.backlog := by
  rcases cases_of_produce h with
    ⟨t, l, now, more, rfl⟩ | ⟨now, -, rfl⟩ | ⟨t, now, -, rfl⟩ | ⟨now, rfl⟩
  · have less := Lexer.fuel_next more
    simp only [backlog, now, Producer.held, List.length_singleton, List.length_nil]
    omega
  · simp [backlog, now, Producer.held]
  · simp only [backlog, now]
    cases s.handsOver <;> simp [Producer.held]
  · simp [backlog, now, Producer.held]

theorem backlog_settle (s : TokenStream) : s.settle.backlog ≤ s.backlog := by
  fun_induction settle s with
  | case1 s s' h ih => exact Nat.le_trans ih (backlog_produce h)
  | case2 => exact Nat.le_refl _

theorem backlog_take {s s' : TokenStream} {t : Token} (h : s.take? = some (t, s')) :
    s'.backlog < s.backlog := by
  obtain ⟨ts, front, rfl⟩ := exists_of_take h
  by_cases waiting : s.producer = .awaiting false
  · simp [backlog, front, waiting, Producer.held]
  · simp [backlog, front, waiting]

theorem backlog_receive {s s' : TokenStream} {t : Token} (h : s.receive? = some (t, s')) :
    s'.backlog < s.backlog :=
  Nat.lt_of_lt_of_le (backlog_take h) s.backlog_settle

/-- Every token that is still to come. -/
def collect (s : TokenStream) : List Token :=
  match _h : s.receive? with
  | some (t, s') => t :: collect s'
  | none => []
termination_by s.backlog
decreasing_by exact backlog_receive _h

/-! ## Schedules -/

/-- The first stream can become the second, while the reader takes these tokens. The
producer makes a step, or the reader takes a token that waits, and either may go
first. -/
inductive Runs : TokenStream → List Token → TokenStream → Prop
  | here {s : TokenStream} : Runs s [] s
  | produce {s s' s'' : TokenStream} {ts : List Token} :
      Runs s ts s' → s'.produce? = some s'' → Runs s ts s''
  | take {s s' s'' : TokenStream} {ts : List Token} {t : Token} :
      Runs s ts s' → s'.take? = some (t, s'') → Runs s (ts ++ [t]) s''

theorem Runs.trans {r s t : TokenStream} {us vs : List Token} (h : Runs r us s)
    (k : Runs s vs t) : Runs r (us ++ vs) t := by
  induction k with
  | here => simpa using h
  | produce _ step ih => exact ih.produce step
  | take _ step ih => simpa using ih.take step

theorem runs_settle (s : TokenStream) : Runs s [] s.settle := by
  fun_induction settle s with
  | case1 s s' h ih => exact (Runs.here.produce h).trans ih
  | case2 => exact .here

theorem runs_receive {s s' : TokenStream} {t : Token} (h : s.receive? = some (t, s')) :
    Runs s [t] s' :=
  s.runs_settle.take h

end TokenStream
end GraphText
