-- Nodes, bindings and words. The rules say what stands in the text: where the first closing
-- bracket is and whether a bracket in front of it opens an id, or how far a run of letters goes.
-- They decide the token at a slash, a question mark or a letter, its text and its fault.
import GraphText.Proofs.QuotedLexemes

namespace GraphText

open Text (AllEscaped)

/-- The longest run of such characters is cut from the front of the text. -/
structure Text.CutsRun (t : Text) (p : Char → Bool) (run rest : Text) : Prop where
  joins : t = run ++ rest
  all : ∀ c ∈ run, p c = true
  stops : ∀ c ∈ rest.head?, p c = false

namespace Text

variable {t run rest : Text} {p : Char → Bool}

theorem cutsRun_takeWhile (t : Text) (p : Char → Bool) :
    t.CutsRun p (t.takeWhile p) (t.dropWhile p) :=
  ⟨List.takeWhile_append_dropWhile.symm, fun _ mem => List.mem_takeWhile_imp mem,
    stop_dropWhile p t⟩

theorem CutsRun.eq_takeWhile (h : t.CutsRun p run rest) :
    t.takeWhile p = run ∧ t.dropWhile p = rest := by
  refine ⟨?_, ?_⟩
  · rw [h.joins, takeWhile_append_of_stop h.stops, List.takeWhile_eq_self_iff.2 h.all]
  · rw [h.joins, dropWhile_append_of_stop h.stops, List.dropWhile_eq_nil_iff.2 h.all,
      List.nil_append]

end Text

/-! ## The rules -/

/-- What stands where a slash starts a node: it is closed and its id opens, or no bracket that
counts opens one, or it is not closed at all. -/
inductive NodeReads (s : Text) : Except Fault TokenType → Text → Prop
  | node {body rest : Text} : s = body ++ '>' :: rest → '>' ∉ body → ¬ AllEscaped '<' body →
      NodeReads s (.ok .node) (body ++ ['>'])
  | withoutId {body rest : Text} : s = body ++ '>' :: rest → '>' ∉ body → AllEscaped '<' body →
      NodeReads s (.error .nodeWithoutId) (body ++ ['>'])
  | openNode : '>' ∉ s → NodeReads s (.error .openNode) s

/-- What stands behind a question mark: the letters of a name, or none. -/
inductive BindingReads (r : Text) : Except Fault TokenType → Text → Prop
  | named {name rest : Text} : r.CutsRun isLetter name rest → name ≠ [] →
      BindingReads r (.ok .binding) ('?' :: name)
  | nameless : (∀ c ∈ r.head?, isLetter c = false) →
      BindingReads r (.error .namelessBinding) ['?']

/-- What stands where a letter starts a word: the letters spell a keyword, or all up to the
next blank is at fault. -/
inductive WordReads (s : Text) : Except Fault TokenType → Text → Prop
  | keyword {word rest : Text} {k : Keyword} : s.CutsRun isLetter word rest →
      Keyword.ofWord? word = some k → WordReads s (.ok (.keyword k)) word
  | unknown {word rest run tail : Text} : s.CutsRun isLetter word rest →
      Keyword.ofWord? word = none → s.CutsRun (!isBlank ·) run tail →
      WordReads s (.error .unknownKeyword) run

namespace Lexeme

variable {s r text : Text} {found : Except Fault TokenType}

/-! ## Nodes -/

theorem nodeReads_node (s : Text) : NodeReads s (node s).found (node s).text := by
  unfold node
  split
  · rename_i absent
    exact .openNode (Text.not_mem_of_dropWhile absent)
  · rename_i c rest closes
    obtain ⟨rfl, whole, before⟩ := Text.cut_of_dropWhile_ne closes
    dsimp only
    split
    · rename_i opens
      exact .node whole before (opensId_iff.1 opens)
    · rename_i closed
      rw [opensId_iff, not_not] at closed
      exact .withoutId whole before closed

theorem node_of_reads (h : NodeReads s found text) :
    (node s).found = found ∧ (node s).text = text := by
  cases h with
  | node whole before opens =>
    rw [node_eq_ok_iff.2 ⟨_, whole, rfl, before, opens⟩]
    exact ⟨rfl, rfl⟩
  | @withoutId body rest whole before escaped =>
    have closed : ¬ opensId body = true := fun opens => opensId_iff.1 opens escaped
    obtain ⟨front, back⟩ := Text.takeWhile_ne (r := rest) before
    rw [whole, node, back, front]
    dsimp only
    rw [if_neg closed]
    exact ⟨rfl, rfl⟩
  | openNode absent =>
    have all : s.dropWhile (· ≠ '>') = [] := by
      rw [List.dropWhile_eq_nil_iff]
      intro c mem
      have other : c ≠ '>' := fun same => absent (same ▸ mem)
      simpa using other
    rw [node, all]
    exact ⟨rfl, rfl⟩

/-! ## Bindings -/

theorem bindingReads_binding (r : Text) :
    BindingReads r (binding r).found (binding r).text := by
  unfold binding
  split
  · rename_i empty
    have cuts := r.cutsRun_takeWhile isLetter
    rw [List.isEmpty_iff.1 empty] at cuts
    rw [cuts.joins]
    exact .nameless cuts.stops
  · rename_i named
    exact .named (r.cutsRun_takeWhile isLetter) (mt List.isEmpty_iff.2 named)

theorem binding_of_reads (h : BindingReads r found text) :
    (binding r).found = found ∧ (binding r).text = text := by
  cases h with
  | named cuts named =>
    rw [binding, cuts.eq_takeWhile.1, if_neg (mt List.isEmpty_iff.1 named)]
    exact ⟨rfl, rfl⟩
  | nameless stops =>
    have cuts : r.CutsRun isLetter [] r := ⟨rfl, by simp, stops⟩
    rw [binding, cuts.eq_takeWhile.1]
    exact ⟨rfl, rfl⟩

/-! ## Words -/

theorem wordReads_word (s : Text) : WordReads s (word s).found (word s).text := by
  unfold word
  split
  · rename_i k known
    exact .keyword (s.cutsRun_takeWhile isLetter) known
  · rename_i unknown
    exact .unknown (s.cutsRun_takeWhile isLetter) unknown (s.cutsRun_takeWhile (!isBlank ·))

theorem word_of_reads (h : WordReads s found text) :
    (word s).found = found ∧ (word s).text = text := by
  unfold word
  cases h with
  | keyword cuts known =>
    rw [cuts.eq_takeWhile.1, known]
    exact ⟨rfl, rfl⟩
  | unknown cuts unknown run =>
    rw [cuts.eq_takeWhile.1, unknown]
    exact ⟨rfl, run.eq_takeWhile.1⟩

/-! ## What follows a name -/

theorem stops_binding {q u : Text} (h : binding q = ⟨.ok .binding, u, r⟩) :
    ∀ c ∈ r.head?, isLetter c = false := by
  unfold binding at h
  split at h
  · cases h
  · cases h
    exact Text.stop_dropWhile isLetter q

theorem stops_word {u : Text} {k : Keyword} (h : word s = ⟨.ok (.keyword k), u, r⟩) :
    ∀ c ∈ r.head?, isLetter c = false := by
  unfold word at h
  split at h
  · cases h
    exact Text.stop_dropWhile isLetter s
  · cases h

/-- A binding and a keyword take all letters with them. -/
theorem stops_ofText {u : Text} {t : TokenType} (h : ofText s = ⟨.ok t, u, r⟩)
    (name : t = .binding ∨ ∃ k, t = .keyword k) : ∀ c ∈ r.head?, isLetter c = false := by
  have goesOn : t.isTerminal = false := by
    rcases name with rfl | ⟨k, rfl⟩
    · rfl
    · rfl
  cases arises_of_eq_ok h goesOn with
  | binding _ same => exact stops_binding same
  | word _ _ same => exact stops_word same
  | node | predicate | literal | punctuation => simp at name

end Lexeme

/-! ## Tokens at a slash, a question mark and a letter -/

namespace Token

variable {t : Token} {before rest : Text}

/-- The rule says what the token behind the text is, and it says one thing only. -/
def Obeys (t : Token) (before : Text) (rule : Except Fault TokenType → Text → Prop) : Prop :=
  ∃ found text, rule found text ∧ t.Tells before found text ∧
    ∀ found' text', rule found' text' → found' = found ∧ text' = text

theorem obeys_tokenBehind {x : Lexeme} {rule : Except Fault TokenType → Text → Prop}
    (reads : rule x.found x.text)
    (only : ∀ {found text}, rule found text → x.found = found ∧ x.text = text) (before : Text) :
    (x.tokenBehind before).Obeys before rule := by
  refine ⟨_, _, reads, x.tells_tokenBehind before, ?_⟩
  intro found text other
  obtain ⟨found, text⟩ := only other
  exact ⟨found.symm, text.symm⟩

/-- The token that starts with the rest is the node, the binding or the word that stands there,
and no letter follows a binding or a keyword. -/
structure ReadsUnquoted (t : Token) (before rest : Text) : Prop where
  node : ∀ q, rest = '/' :: q → t.Obeys before (NodeReads rest)
  binding : ∀ q, rest = '?' :: q → t.Obeys before (BindingReads q)
  word : ∀ c q, rest = c :: q → isLetter c = true → t.Obeys before (WordReads rest)
  apart : (t.type = .binding ∨ ∃ k, t.type = .keyword k) →
    ∃ after, rest = t.text ++ after ∧ ∀ c ∈ after.head?, isLetter c = false

theorem readsUnquoted_tokenBehind (before rest : Text) :
    ((Lexeme.ofText rest).tokenBehind before).ReadsUnquoted before rest := by
  refine ⟨?_, ?_, ?_, ?_⟩
  · rintro q rfl
    exact obeys_tokenBehind (Lexeme.nodeReads_node ('/' :: q)) Lexeme.node_of_reads before
  · rintro q rfl
    exact obeys_tokenBehind (Lexeme.bindingReads_binding q) Lexeme.binding_of_reads before
  · rintro c q rfl letter
    rw [Lexeme.ofText_of_isLetter letter]
    exact obeys_tokenBehind (Lexeme.wordReads_word (c :: q)) Lexeme.word_of_reads before
  · intro name
    refine ⟨_, (Lexeme.ofText_append rest).symm, ?_⟩
    have value : (Lexeme.ofText rest).type ≠ .error := by
      rcases name with type | ⟨k, type⟩
      · exact fun error => nomatch type.symm.trans error
      · exact fun error => nomatch type.symm.trans error
    exact Lexeme.stops_ofText (Lexeme.eq_of_type rfl value) name

end Token

/-- The scanner gives the tokens of the query one by one, and where one of them starts with a
slash, a question mark or a letter, the rules say what it is. -/
theorem unquoted_token_reads (s : Text) :
    (∀ n, (calls Scanner.next? n (.ofText s)).1 = (tokenize s).take n) ∧
      ∀ t ∈ tokenize s, ∀ before rest, s = before ++ rest → t.offset = before.byteLength →
        t.ReadsUnquoted before rest := by
  refine ⟨?_, ?_⟩
  · intro n
    rw [((Scanner.follows_ofText s).calls n).1]
    exact (Lexer.calls_next? _ n).1
  · rintro t mem before rest rfl here
    rw [eq_tokenBehind_of_mem_tokenize mem here]
    exact Token.readsUnquoted_tokenBehind before rest

/-- A slash ends a binding. The bracket of the node stands behind a backslash, so it opens no
id, and the closing bracket is the last thing that is read. -/
theorem unquoted_token_reads_of_escaped_bracket : ∃ t u, tokenize "?x/a\\<b>c".toList = [t, u] ∧
    t.type = .binding ∧ t.text = "?x".toList ∧ u.type = .error ∧ u.text = "/a\\<b>".toList ∧
    u.message = some (Lexer.report ⟨0, 8, 8⟩ .nodeWithoutId) := by
  let l := Lexer.ofText "?x/a\\<b>c".toList
  have tokens : tokenize "?x/a\\<b>c".toList = [l.token, l.advance.token] :=
    Lexer.tokens_eq_calls (n := 2) rfl
  obtain ⟨-, reads⟩ := unquoted_token_reads "?x/a\\<b>c".toList
  rw [tokens] at reads
  have first := reads l.token (by simp) [] "?x/a\\<b>c".toList rfl rfl
  have second := reads l.advance.token (by simp) "?x".toList "/a\\<b>c".toList rfl rfl
  have name : BindingReads "x/a\\<b>c".toList (.ok .binding) "?x".toList :=
    .named (Text.cutsRun_takeWhile _ _) (by decide)
  have escaped : Text.AllEscaped '<' "/a\\<b".toList := by
    by_contra opens
    exact absurd (Lexeme.opensId_iff.2 opens) (by decide)
  have node : NodeReads "/a\\<b>c".toList (.error .nodeWithoutId) "/a\\<b>".toList :=
    .withoutId (by rfl : _ = "/a\\<b".toList ++ '>' :: ['c']) (by decide) escaped
  obtain ⟨found, text, -, tells, only⟩ := first.binding _ rfl
  obtain ⟨rfl, rfl⟩ := only _ _ name
  obtain ⟨found', text', -, tells', only'⟩ := second.node _ rfl
  obtain ⟨rfl, rfl⟩ := only' _ _ node
  obtain ⟨type, message⟩ := tells'.error _ rfl
  exact ⟨_, _, tokens, (tells.ok _ rfl).1, tells.text, type, tells'.text, message⟩

end GraphText
