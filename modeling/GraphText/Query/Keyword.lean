-- The keywords of a query. A keyword is read in any mixture of cases, and the long
-- s counts as an s.
import GraphText.Text.Lowercase

namespace GraphText

/-- The words with a meaning of their own. -/
inductive Keyword where
  | select | from' | where' | as'
  | type | id | at'
  | before | after | between
  | count | distinct | sum | group | by' | order | having | asc | desc | limit
  | not | and | or
  deriving DecidableEq, Repr

namespace Keyword

/-- Every keyword, in the order of the table. -/
def all : List Keyword :=
  [select, from', where', as', type, id, at', before, after, between, count, distinct, sum,
   group, by', order, having, asc, desc, limit, not, and, or]

/-- The keyword as it is written in lower case. -/
def word : Keyword → Text
  | select => "select".toList
  | from' => "from".toList
  | where' => "where".toList
  | as' => "as".toList
  | type => "type".toList
  | id => "id".toList
  | at' => "at".toList
  | before => "before".toList
  | after => "after".toList
  | between => "between".toList
  | count => "count".toList
  | distinct => "distinct".toList
  | sum => "sum".toList
  | group => "group".toList
  | by' => "by".toList
  | order => "order".toList
  | having => "having".toList
  | asc => "asc".toList
  | desc => "desc".toList
  | limit => "limit".toList
  | not => "not".toList
  | and => "and".toList
  | or => "or".toList

/-- The word with every character lowered on its own, and the long s made an s. -/
def fold (w : Text) : Text :=
  (w.flatMap lowerChar).map fun c => if c = '\u017f' then 's' else c

/-- The keyword that is written so. -/
def written? (t : Text) : Option Keyword := all.find? fun k => k.word = t

/-- The keyword that a word spells. In ASCII only the capitals have lower forms. -/
def ofWord? (w : Text) : Option Keyword :=
  if w.isAscii then written? w.lowerAscii else written? (fold w)

/-- The word spells a keyword. -/
def isKeyword (w : Text) : Bool := (ofWord? w).isSome

theorem mem_all (k : Keyword) : k ∈ all := by cases k <;> decide

theorem ofWord?_word (k : Keyword) : ofWord? k.word = some k := by cases k <;> rfl

theorem word_injective {j k : Keyword} (h : j.word = k.word) : j = k :=
  Option.some.inj (by rw [← ofWord?_word j, ← ofWord?_word k, h])

end Keyword
end GraphText
