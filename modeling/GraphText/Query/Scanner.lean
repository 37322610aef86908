-- The lexer as a machine that reads one character at a time. Its states hand over to each
-- other until one of them makes a token or a fault.
import GraphText.Query.Lexer
import GraphText.Query.Reader

namespace GraphText

/-- What a scanner does next. -/
inductive ScanState where
  | token
  | space
  | binding
  | keyword
  | node
  | quoted
  | predicate
  | literal
  | done
  deriving DecidableEq, Repr

/-- The handovers that can still come before a token, at most. -/
def ScanState.rank : ScanState → Nat
  | done => 0
  | binding | keyword | node | predicate | literal => 1
  | quoted => 2
  | token => 3
  | space => 4

/-- A reader with what it does next, and a token that has been made but not given. -/
structure Scanner where
  reader : Reader
  state : ScanState
  pending : Option Token
  deriving DecidableEq

namespace Scanner

/-- The scanner in front of a query. -/
def ofText (s : Text) : Scanner := ⟨.ofText s, .token, none⟩

/-- Makes a token of what has been read. -/
def emit (r : Reader) (k : TokenType) (state : ScanState) : Scanner :=
  ⟨r.cut, state, some ⟨k, r.text, none, r.start⟩⟩

/-- Makes an error of what has been read. It is the last token. -/
def fail (r : Reader) (f : Fault) : Scanner :=
  ⟨r.cut, .done, some ⟨.error, r.text, some (Lexer.report r.cursor f), r.start⟩⟩

/-! ## States -/

/-- The next character decides what comes. Blanks in front of it are left out. -/
def scanToken (r : Reader) : Scanner :=
  match _next : r.look.next? with
  | none => emit r.look .eof .done
  | some c =>
    if c = '?' then ⟨r.look.read, .binding, none⟩
    else if c = '/' then ⟨r.look, .node, none⟩
    else if c = '"' then ⟨r.look, .quoted, none⟩
    else if isLetter c then ⟨r.look, .keyword, none⟩
    else
      match Punctuation.ofChar? c with
      | some p => emit r.look.read (.punctuation p) .space
      | none => if isBlank c then scanToken r.look.read.cut else emit r.look .eof .done
termination_by r.ahead.length
decreasing_by
  have shorter := Reader.length_ahead_read _next
  rw [Reader.ahead_look] at shorter
  exact shorter

def scanSpace (r : Reader) : Scanner := ⟨(r.readWhile isBlank).cut, .token, none⟩

/-- The question mark has been read. -/
def scanBinding (r : Reader) : Scanner :=
  let name := r.readWhile isLetter
  if name.cursor.position - name.start = '?'.utf8Size then fail name .namelessBinding
  else emit name .binding .space

def scanKeyword (r : Reader) : Scanner :=
  match Keyword.ofWord? (r.ahead.takeWhile isLetter) with
  | some k => emit (r.readWhile isLetter) (.keyword k) .space
  | none => fail (r.readWhile (!isBlank ·)) .unknownKeyword

def scanNode (r : Reader) : Scanner :=
  match r.readNode false with
  | (none, last) => fail last .openNode
  | (some false, last) => fail last .nodeWithoutId
  | (some true, last) => emit last .node .space

/-- The markers further on decide what a quote opens. -/
def scanQuoted (r : Reader) : Scanner :=
  if Text.occursIn Lexeme.anchorMarker r.ahead then ⟨r, .predicate, none⟩
  else if Text.occursIn Lexeme.typeMarker r.ahead then ⟨r, .literal, none⟩
  else fail r .lonelyQuote

def scanPredicate (r : Reader) : Scanner :=
  match r.read.readToQuote with
  | (false, last) => fail last .openPredicate
  | (true, id) =>
    match id.consume Lexeme.anchorMarker with
    | (false, last) => fail last .predicateWithoutAnchor
    | (true, anchor) =>
      match anchor.readOver ']' with
      | (false, last) => fail last .openAnchor
      | (true, last) => emit last .predicate .space

def scanLiteral (r : Reader) : Scanner :=
  match r.read.readToQuote with
  | (false, last) => fail last .openLiteral
  | (true, value) =>
    match value.consume Lexeme.typeMarker with
    | (false, last) => fail last .literalWithoutType
    | (true, mark) =>
      let last := mark.readWhile isLetterOrNumeral
      let tag := (last.textFrom mark.cursor.position).lower
      if Lexeme.literalTags.contains tag then emit last .literal .space
      else fail last (.unknownLiteralType tag)

/-! ## Steps -/

/-- One state hands over to the next. -/
def step (s : Scanner) : Scanner :=
  match s.state with
  | .token => scanToken s.reader
  | .space => scanSpace s.reader
  | .binding => scanBinding s.reader
  | .keyword => scanKeyword s.reader
  | .node => scanNode s.reader
  | .quoted => scanQuoted s.reader
  | .predicate => scanPredicate s.reader
  | .literal => scanLiteral s.reader
  | .done => s

/-- The steps that can still come before a token is given, at most. -/
def wait (s : Scanner) : Nat := if s.pending.isSome then 0 else s.state.rank

/-- A token has been made, or a later state goes on. -/
def GetsOn (k : ScanState) (s : Scanner) : Prop :=
  s.pending.isSome = true ∨ s.state.rank < k.rank

theorem getsOn_emit (k : ScanState) (r : Reader) (t : TokenType) (state : ScanState) :
    (emit r t state).GetsOn k :=
  .inl rfl

theorem getsOn_fail (k : ScanState) (r : Reader) (f : Fault) : (fail r f).GetsOn k := .inl rfl

theorem getsOn_handover {j k : ScanState} (later : j.rank < k.rank) (r : Reader) :
    (⟨r, j, none⟩ : Scanner).GetsOn k :=
  .inr later

theorem getsOn_scanToken (r : Reader) : (scanToken r).GetsOn .token := by
  fun_induction scanToken r with
  | case1 | case6 | case8 => exact getsOn_emit ..
  | case2 | case3 | case4 | case5 => exact getsOn_handover (by decide) _
  | case7 _ _ _ _ _ _ _ _ _ ih => exact ih

theorem getsOn_scanPredicate (r : Reader) : (scanPredicate r).GetsOn .predicate := by
  unfold scanPredicate
  split
  · exact getsOn_fail ..
  · split
    · exact getsOn_fail ..
    · split
      · exact getsOn_fail ..
      · exact getsOn_emit ..

theorem getsOn_scanLiteral (r : Reader) : (scanLiteral r).GetsOn .literal := by
  unfold scanLiteral
  split
  · exact getsOn_fail ..
  · split
    · exact getsOn_fail ..
    · dsimp only
      split
      · exact getsOn_emit ..
      · exact getsOn_fail ..

theorem getsOn_step {s : Scanner} (more : s.state ≠ .done) : s.step.GetsOn s.state := by
  unfold step
  cases state : s.state with
  | token => exact getsOn_scanToken s.reader
  | space => exact getsOn_handover (by decide) _
  | binding =>
    dsimp only [scanBinding]
    split
    · exact getsOn_fail ..
    · exact getsOn_emit ..
  | keyword =>
    dsimp only [scanKeyword]
    split
    · exact getsOn_emit ..
    · exact getsOn_fail ..
  | node =>
    dsimp only [scanNode]
    split
    · exact getsOn_fail ..
    · exact getsOn_fail ..
    · exact getsOn_emit ..
  | quoted =>
    dsimp only [scanQuoted]
    split
    · exact getsOn_handover (by decide) _
    · split
      · exact getsOn_handover (by decide) _
      · exact getsOn_fail ..
  | predicate => exact getsOn_scanPredicate s.reader
  | literal => exact getsOn_scanLiteral s.reader
  | done => exact absurd state more

theorem wait_step {s : Scanner} (empty : s.pending = none) (more : s.state ≠ .done) :
    s.step.wait < s.wait := by
  have waits : s.wait = s.state.rank := by simp [wait, empty]
  have rank : 0 < s.state.rank := by
    cases state : s.state with
    | done => exact absurd state more
    | _ => decide
  rw [waits, wait]
  split
  · exact rank
  · rename_i queued
    exact (getsOn_step more).resolve_left queued

/-- The next token and the scanner behind it, until the last token has been given. -/
def next? (s : Scanner) : Option (Token × Scanner) :=
  match _empty : s.pending with
  | some t => some (t, { s with pending := none })
  | none => if _more : s.state = .done then none else s.step.next?
termination_by s.wait
decreasing_by exact wait_step _empty _more

end Scanner
end GraphText
