-- Reading a query one character at a time. A reader counts lines, columns and bytes as it
-- goes, and it can step back over the last character. Longer reads are made of these two.
import GraphText.Query.Token

namespace GraphText

/-- A place in a query with the byte at which the token begins that is being read, and
with what it takes to step back. -/
structure Reader where
  input : Text
  start : Nat
  cursor : Cursor
  /-- The bytes of the last character, none once it has been stepped over. -/
  width : Nat
  lastLine : Nat
  lastColumn : Nat
  deriving DecidableEq

namespace Reader

/-- The reader in front of a query. -/
def ofText (s : Text) : Reader := ⟨s, 0, .start, 0, 0, 0⟩

/-- The text that has not been read. -/
def ahead (r : Reader) : Text := r.input.fromByte r.cursor.position

/-- What has been read since the byte. -/
def textFrom (r : Reader) (n : Nat) : Text :=
  (r.input.fromByte n).upToByte (r.cursor.position - n)

/-- What has been read of the token. -/
def text (r : Reader) : Text := r.textFrom r.start

/-! ## One character -/

/-- The character that comes next. -/
def next? (r : Reader) : Option Char := r.ahead.head?

/-- Reads the next character. At the end there is none, and the place stays. -/
def read (r : Reader) : Reader :=
  match r.next? with
  | none => ⟨r.input, r.start, r.cursor, 0, r.cursor.line, r.cursor.column⟩
  | some c => ⟨r.input, r.start, r.cursor.step c, c.utf8Size, r.cursor.line, r.cursor.column⟩

/-- Steps back over the last character. -/
def back (r : Reader) : Reader :=
  { r with cursor := ⟨r.lastLine, r.lastColumn, r.cursor.position - r.width⟩, width := 0 }

/-- Looks at the next character and leaves it unread. -/
def look (r : Reader) : Reader := r.read.back

/-- Begins a token behind what has been read. -/
def cut (r : Reader) : Reader := { r with start := r.cursor.position }

variable {r : Reader} {c : Char}

theorem ahead_read (h : r.next? = some c) : r.ahead = c :: r.read.ahead := by
  obtain ⟨t, front⟩ := List.head?_eq_some_iff.1 h
  have place : r.read.cursor.position = r.cursor.position + c.utf8Size := by
    unfold read
    rw [h]
    dsimp only
    unfold Cursor.step
    split <;> rfl
  have input : r.read.input = r.input := by
    unfold read
    rw [h]
  have behind : r.read.ahead = t := by
    rw [ahead, input, place]
    exact Text.fromByte_add front
  rw [behind, front]

theorem length_ahead_read (h : r.next? = some c) : r.read.ahead.length < r.ahead.length := by
  rw [ahead_read h, List.length_cons]
  exact Nat.lt_succ_self _

theorem ahead_look (r : Reader) : r.look.ahead = r.ahead := by
  have place : r.look.cursor.position = r.cursor.position := by
    unfold look back read
    split
    · rfl
    · dsimp only
      unfold Cursor.step
      split <;> exact Nat.add_sub_cancel ..
  have input : r.look.input = r.input := by
    unfold look back read
    split <;> rfl
  rw [ahead, input, place, ahead]

theorem next?_look (r : Reader) : r.look.next? = r.next? := congrArg List.head? r.ahead_look

/-! ## Several characters -/

/-- Reads the character if it comes next, in any case. -/
def accept (expected : Char) (r : Reader) : Bool × Reader :=
  match r.next? with
  | none => (false, r.look)
  | some c => if lowerChar c = lowerChar expected then (true, r.read) else (false, r.look)

/-- Reads the marker in any case, up to the first character that differs. -/
def consume : Text → Reader → Bool × Reader
  | [], r => (true, r)
  | m :: ms, r => if (r.accept m).1 then consume ms (r.accept m).2 else (false, (r.accept m).2)

/-- Reads on as long as the characters pass. -/
def readWhile (p : Char → Bool) (r : Reader) : Reader :=
  match _next : r.next? with
  | none => r.look
  | some c => if p c then readWhile p r.read else r.look
termination_by r.ahead.length
decreasing_by exact length_ahead_read _next

theorem readWhile_eq (p : Char → Bool) (r : Reader) : r.readWhile p =
    match r.next? with
    | none => r.look
    | some c => if p c then r.read.readWhile p else r.look := by
  rw [readWhile]
  split
  · rename_i atEnd
    rw [atEnd]
  · rename_i c next
    rw [next]

/-- Reads up to the delimiter and over it. Says whether there is one. -/
def readOver (d : Char) (r : Reader) : Bool × Reader :=
  match _next : r.next? with
  | none => (false, r.read)
  | some c => if c = d then (true, r.read) else readOver d r.read
termination_by r.ahead.length
decreasing_by exact length_ahead_read _next

theorem readOver_eq (d : Char) (r : Reader) : r.readOver d =
    match r.next? with
    | none => (false, r.read)
    | some c => if c = d then (true, r.read) else r.read.readOver d := by
  rw [readOver]
  split
  · rename_i atEnd
    rw [atEnd]
  · rename_i c next
    rw [next]

/-- Reads the delimiter behind a backslash, if it stands there. -/
def readEscaped (d : Char) (r : Reader) : Reader :=
  if r.next? = some d then r.look.read else r.look

theorem length_ahead_readEscaped (d : Char) (r : Reader) :
    (r.readEscaped d).ahead.length ≤ r.ahead.length := by
  unfold readEscaped
  split
  · rename_i next
    have shorter := length_ahead_read (r.next?_look.trans next)
    rw [ahead_look] at shorter
    exact Nat.le_of_lt shorter
  · exact Nat.le_of_eq (congrArg List.length r.ahead_look)

/-- Reads up to the first quote that counts. Says whether there is one. -/
def readToQuote (r : Reader) : Bool × Reader :=
  match _next : r.next? with
  | none => (false, r.read)
  | some c =>
    if c = '\\' then readToQuote (r.read.readEscaped '"')
    else if c = '"' then (true, r.look)
    else readToQuote r.read
termination_by r.ahead.length
decreasing_by
  · exact Nat.lt_of_le_of_lt (length_ahead_readEscaped ..) (length_ahead_read _next)
  · exact length_ahead_read _next

theorem readToQuote_eq (r : Reader) : r.readToQuote =
    match r.next? with
    | none => (false, r.read)
    | some c =>
      if c = '\\' then (r.read.readEscaped '"').readToQuote
      else if c = '"' then (true, r.look)
      else r.read.readToQuote := by
  rw [readToQuote]
  split
  · rename_i atEnd
    rw [atEnd]
  · rename_i c next
    rw [next]

/-- Reads over the first closing bracket. Says whether there is one, and whether the id
opens on the way or has opened before. -/
def readNode (opened : Bool) (r : Reader) : Option Bool × Reader :=
  match _next : r.next? with
  | none => (none, r.read)
  | some c =>
    if c = '\\' then readNode opened (r.read.readEscaped '<')
    else if c = '<' then readNode true r.read
    else if c = '>' then (some opened, r.read)
    else readNode opened r.read
termination_by r.ahead.length
decreasing_by
  · exact Nat.lt_of_le_of_lt (length_ahead_readEscaped ..) (length_ahead_read _next)
  · exact length_ahead_read _next
  · exact length_ahead_read _next

theorem readNode_eq (opened : Bool) (r : Reader) : r.readNode opened =
    match r.next? with
    | none => (none, r.read)
    | some c =>
      if c = '\\' then (r.read.readEscaped '<').readNode opened
      else if c = '<' then r.read.readNode true
      else if c = '>' then (some opened, r.read)
      else r.read.readNode opened := by
  rw [readNode]
  split
  · rename_i atEnd
    rw [atEnd]
  · rename_i c next
    rw [next]

end Reader
end GraphText
