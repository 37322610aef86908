-- The canonical list of nodes. Nodes are in order by type and then by id, so the sorted list
-- without repeats is the only increasing one with these nodes. It does not depend on how
-- often a node is named, in what order, or with which brackets of its id escaped.
import GraphText.Proofs.NodeText
import GraphText.Proofs.TextOrder
import Mathlib.Data.List.Nodup
import Mathlib.Logic.Relation

namespace GraphText

/-! ## Escapes that may be left out -/

namespace Text

variable {d : Char}

theorem unescape_cons_of_ne {c : Char} (h : c ≠ '\\') (t : Text) :
    unescape d (c :: t) = c :: unescape d t := by
  cases t with
  | nil => rfl
  | cons x t => rw [unescape, if_neg fun escape => h escape.1]

/-- Behind a character that is no backslash the rest is unescaped on its own. -/
theorem unescape_append_of_getLast? {s : Text} (h : s.getLast? ≠ some '\\') (t : Text) :
    unescape d (s ++ t) = unescape d s ++ unescape d t := by
  fun_induction unescape d s with
  | case1 => rfl
  | case2 c => exact unescape_cons_of_ne (by simpa using h) t
  | case3 b c r escape ih =>
    rw [List.cons_append, List.cons_append, unescape, if_pos escape, ih, List.cons_append]
    intro last
    apply h
    rw [List.getLast?_cons_cons, List.getLast?_cons, last]
    rfl
  | case4 b c r other ih =>
    rw [List.getLast?_cons_cons] at h
    rw [List.cons_append, List.cons_append, unescape, if_neg other, ← List.cons_append, ih h,
      List.cons_append]

/-- A delimiter means the same bare and escaped, unless a backslash stands in front of both. -/
theorem unescape_escaped {front : Text} (hd : d ≠ '\\') (h : front.getLast? ≠ some '\\')
    (back : Text) : unescape d (front ++ '\\' :: d :: back) = unescape d (front ++ d :: back) := by
  rw [unescape_append_of_getLast? h, unescape_append_of_getLast? h, unescape_cons_of_ne hd,
    unescape, if_pos ⟨rfl, rfl⟩]

end Text

namespace Node

/-- Both texts write a node, and a bracket of its id stands bare in the first and behind a
backslash in the second. -/
inductive Escapes : Text → Text → Prop
  | mk {type front back gap : Text} : '<' ∉ type → front.getLast? ≠ some '\\' → gap.AllBlank →
      Escapes (type ++ '<' :: ((front ++ '<' :: back) ++ ['>']) ++ gap)
        (type ++ '<' :: ((front ++ '\\' :: '<' :: back) ++ ['>']) ++ gap)

/-- One text is the other with backslashes put in front of brackets of the id and taken away
from there. -/
def Respells : Text → Text → Prop := Relation.EqvGen Escapes

theorem isTrimmed_closed {type : Text} (front : ∀ c ∈ type.head?, GraphText.isBlank c = false)
    (w : Text) : (type ++ '<' :: (w ++ ['>'])).IsTrimmed := by
  refine ⟨?_, ?_⟩
  · cases type with
    | nil =>
      intro c mem
      cases mem
      decide
    | cons a r => exact front
  · intro c mem
    rw [Text.getLast?_closed] at mem
    cases mem
    decide

/-- Blanks in front of the type and behind the bracket do not count. -/
theorem parse_closed {type gap : Text} (before : '<' ∉ type) (blank : gap.AllBlank) (w : Text) :
    parse (type ++ '<' :: (w ++ ['>']) ++ gap) = make type.trimStart (Text.unescape '<' w) := by
  let named := type.dropWhile GraphText.isBlank
  have text : type ++ '<' :: (w ++ ['>']) ++ gap =
      type.takeWhile GraphText.isBlank ++ (named ++ '<' :: (w ++ ['>'])) ++ gap := by
    rw [← List.append_assoc (type.takeWhile _), List.takeWhile_append_dropWhile]
  have trimmed : Text.IsTrimmed (named ++ '<' :: (w ++ ['>'])) :=
    isTrimmed_closed (Text.head?_dropWhile_isBlank type) w
  have kept : '<' ∉ named := fun mem => before (List.dropWhile_subset _ mem)
  rw [text, parse, Text.trim_append (Text.allBlank_takeWhile type) blank,
    Text.trim_of_isTrimmed trimmed, ofTrimmed_closed kept]
  rfl

theorem parse_of_respells {s t : Text} (h : Respells s t) : parse s = parse t := by
  induction h with
  | rel s t step =>
    obtain ⟨before, last, blank⟩ := step
    rw [parse_closed before blank, parse_closed before blank,
      Text.unescape_escaped (by decide) last]
  | refl s => rfl
  | symm s t _ ih => exact ih.symm
  | trans s t u _ _ ih ih' => exact ih.trans ih'

/-! ## The order of nodes -/

variable {l m n : Node} {ns : List Node}

/-- The first node comes before the second by type, or by id if they have the same type. Both
are compared byte by byte. -/
def Precedes (m n : Node) : Prop :=
  m.type.BytesBefore n.type ∨ m.type = n.type ∧ m.id.BytesBefore n.id

theorem Precedes.trans (h : l.Precedes m) (h' : m.Precedes n) : l.Precedes n := by
  unfold Precedes at *
  rcases h with type | ⟨same, id⟩
  · rcases h' with type' | ⟨same', -⟩
    · exact .inl (type.trans type')
    · rw [← same']
      exact .inl type
  · rw [same]
    rcases h' with type' | ⟨same', id'⟩
    · exact .inl type'
    · exact .inr ⟨same', id.trans id'⟩

theorem Precedes.irrefl (n : Node) : ¬ n.Precedes n := by
  rintro (type | ⟨-, id⟩)
  · exact Text.BytesBefore.irrefl _ type
  · exact Text.BytesBefore.irrefl _ id

theorem precedes_total (m n : Node) : m.Precedes n ∨ m = n ∨ n.Precedes m := by
  rcases Text.bytesBefore_total m.type n.type with front | same | back
  · exact .inl (.inl front)
  · rcases Text.bytesBefore_total m.id n.id with front | same' | back
    · exact .inl (.inr ⟨same, front⟩)
    · obtain ⟨type, id⟩ := m
      obtain ⟨type', id'⟩ := n
      exact .inr (.inl (congrArg₂ mk same same'))
    · exact .inr (.inr (.inr ⟨same.symm, back⟩))
  · exact .inr (.inr (.inl back))

theorem before_iff : m.before n = true ↔ m = n ∨ m.Precedes n := by
  obtain ⟨type, id⟩ := m
  obtain ⟨type', id'⟩ := n
  unfold before Precedes
  by_cases same : type = type'
  · subst same
    rw [if_pos rfl, Text.before_iff]
    simp [Text.BytesBefore.irrefl]
  · rw [if_neg same, Text.before_iff]
    simp [same]

theorem before_total (m n : Node) : m.before n = true ∨ n.before m = true := by
  rw [before_iff, before_iff]
  rcases precedes_total m n with front | same | back
  · exact .inl (.inr front)
  · exact .inl (.inl same)
  · exact .inr (.inr back)

theorem before_trans (h : l.before m = true) (h' : m.before n = true) : l.before n = true := by
  rw [before_iff] at *
  rcases h with rfl | front
  · exact h'
  · rcases h' with rfl | front'
    · exact .inr front
    · exact .inr (front.trans front')

theorem before_antisymm (h : m.before n = true) (h' : n.before m = true) : m = n := by
  rcases before_iff.1 h with same | front
  · exact same
  · rcases before_iff.1 h' with same | back
    · exact same.symm
    · exact absurd (front.trans back) (Precedes.irrefl m)

/-! ## Lists without repeats -/

theorem mem_dropRepeats : n ∈ dropRepeats ns ↔ n ∈ ns := by
  fun_induction dropRepeats ns with
  | case1 => rfl
  | case2 => rfl
  | case3 m r ih => simp [ih]
  | case4 m k r _ ih => rw [List.mem_cons, ih, List.mem_cons (b := m)]

/-- Of a list in order the one without repeats is increasing. -/
theorem pairwise_dropRepeats (h : ns.Pairwise fun m n => m.before n = true) :
    (dropRepeats ns).Pairwise Precedes := by
  fun_induction dropRepeats ns with
  | case1 => exact .nil
  | case2 => exact List.pairwise_singleton _ _
  | case3 m r ih => exact ih (List.pairwise_cons.1 h).2
  | case4 m k r other ih =>
    obtain ⟨first, rest⟩ := List.pairwise_cons.1 h
    refine List.pairwise_cons.2 ⟨?_, ih rest⟩
    intro n mem
    have front : m.Precedes k := (before_iff.1 (first k List.mem_cons_self)).resolve_left other
    rcases List.mem_cons.1 (mem_dropRepeats.1 mem) with rfl | later
    · exact front
    · rcases before_iff.1 ((List.pairwise_cons.1 rest).1 n later) with rfl | next
      · exact front
      · exact front.trans next

theorem mem_canonical : n ∈ canonical ns ↔ n ∈ ns := by
  unfold canonical
  rw [mem_dropRepeats, List.mem_mergeSort]

theorem pairwise_canonical (ns : List Node) : (canonical ns).Pairwise Precedes := by
  apply pairwise_dropRepeats
  apply List.pairwise_mergeSort
  · exact fun _ _ _ => before_trans
  · intro m n
    rw [Bool.or_eq_true]
    exact before_total m n

theorem nodup_of_increasing (h : ns.Pairwise Precedes) : ns.Nodup := by
  apply h.imp
  rintro m n front rfl
  exact Precedes.irrefl m front

/-- No other increasing list has the same nodes. -/
theorem eq_of_increasing {ms : List Node} (hm : ms.Pairwise Precedes) (hn : ns.Pairwise Precedes)
    (same : ∀ n, n ∈ ms ↔ n ∈ ns) : ms = ns := by
  apply List.Perm.eq_of_pairwise _ hm hn
  · exact (List.perm_ext_iff_of_nodup (nodup_of_increasing hm) (nodup_of_increasing hn)).2 same
  · intro m n _ _ front back
    exact absurd (front.trans back) (Precedes.irrefl m)

/-! ## Lists of texts -/

variable {texts texts' : List Text}

/-- Every text names a node. -/
def AllNamed (texts : List Text) : Prop := ∀ t ∈ texts, ∃ n, parse t = .ok n

/-- The node is named by one of the texts. -/
def IsNamed (texts : List Text) (n : Node) : Prop := ∃ t ∈ texts, parse t = .ok n

theorem isNamed_cons {t : Text} :
    IsNamed (t :: texts) n ↔ parse t = .ok n ∨ IsNamed texts n :=
  List.exists_mem_cons_iff _ t texts

theorem not_isNamed_nil : ¬ IsNamed [] n := by
  rintro ⟨t, mem, -⟩
  exact List.not_mem_nil mem

theorem exists_mapM (h : AllNamed texts) :
    ∃ ns, texts.mapM parse = .ok ns ∧ ∀ n, n ∈ ns ↔ IsNamed texts n := by
  induction texts with
  | nil => exact ⟨[], rfl, fun n => iff_of_false List.not_mem_nil not_isNamed_nil⟩
  | cons t r ih =>
    obtain ⟨m, first⟩ := h t List.mem_cons_self
    obtain ⟨ns, rest, mem⟩ := ih fun u later => h u (List.mem_cons_of_mem t later)
    refine ⟨m :: ns, ?_, ?_⟩
    · rw [List.mapM_cons, first, rest]
      rfl
    · intro n
      rw [List.mem_cons, mem, isNamed_cons, first, Except.ok.injEq, eq_comm]

theorem exists_canonicalOf (h : AllNamed texts) : ∃ ns, canonicalOf texts = .ok ns ∧
    ns.Pairwise Precedes ∧ ∀ n, n ∈ ns ↔ IsNamed texts n := by
  obtain ⟨ns, read, mem⟩ := exists_mapM h
  refine ⟨canonical ns, ?_, pairwise_canonical ns, fun n => mem_canonical.trans (mem n)⟩
  unfold canonicalOf
  rw [read]
  rfl

theorem canonicalOf_congr (h : AllNamed texts) (h' : AllNamed texts')
    (same : ∀ n, IsNamed texts' n ↔ IsNamed texts n) :
    canonicalOf texts' = canonicalOf texts := by
  obtain ⟨ns, list, increasing, mem⟩ := exists_canonicalOf h
  obtain ⟨ns', list', increasing', mem'⟩ := exists_canonicalOf h'
  rw [list, list', eq_of_increasing increasing' increasing]
  intro n
  rw [mem', same, mem]

/-- Every text of each list is one of the other in another spelling. -/
def RespellsAll (texts texts' : List Text) : Prop :=
  (∀ t' ∈ texts', ∃ t ∈ texts, Respells t t') ∧ ∀ t ∈ texts, ∃ t' ∈ texts', Respells t t'

theorem RespellsAll.isNamed_iff (h : RespellsAll texts texts') (n : Node) :
    IsNamed texts' n ↔ IsNamed texts n := by
  refine ⟨?_, ?_⟩
  · rintro ⟨t', mem, read⟩
    obtain ⟨t, mem', respells⟩ := h.1 t' mem
    exact ⟨t, mem', (parse_of_respells respells).trans read⟩
  · rintro ⟨t, mem, read⟩
    obtain ⟨t', mem', respells⟩ := h.2 t mem
    exact ⟨t', mem', (parse_of_respells respells).symm.trans read⟩

theorem RespellsAll.allNamed (h : RespellsAll texts texts') (named : AllNamed texts) :
    AllNamed texts' := by
  intro t' mem
  obtain ⟨t, mem', respells⟩ := h.1 t' mem
  obtain ⟨n, read⟩ := named t mem'
  exact ⟨n, (parse_of_respells respells).symm.trans read⟩

/-- Nodes are in a total order, by type and then by id, each by its bytes or, what comes to the
same, by the codes of its characters. Texts that all name nodes have one increasing list with
just these nodes. It is the same for all texts that name the same nodes, so also for the texts
in another order, with repeats, or with other brackets escaped. -/
theorem canonicalOf_onlyNodes :
    (∀ m n : Node, m.before n = true ↔ m = n ∨ m.Precedes n) ∧
    (∀ s t : Text, s.BytesBefore t ↔ s.CodesBefore t) ∧
    (∀ s t : Text, s <+: t → s ≠ t → s.BytesBefore t) ∧
    (∀ m n : Node, m.before n = true ∨ n.before m = true) ∧
    (∀ l m n : Node, l.before m = true → m.before n = true → l.before n = true) ∧
    (∀ m n : Node, m.before n = true ∧ n.before m = true ↔ (m == n) = true) ∧
    ∀ texts : List Text, AllNamed texts → ∃ ns, canonicalOf texts = .ok ns ∧
      ns.Pairwise Precedes ∧ (∀ n, (n ∈ ns ↔ IsNamed texts n) ∧ ns.count n ≤ 1) ∧
      (∀ texts', AllNamed texts' → (∀ n, IsNamed texts' n ↔ IsNamed texts n) →
        canonicalOf texts' = .ok ns) ∧
      ∀ texts', RespellsAll texts texts' → canonicalOf texts' = .ok ns := by
  refine ⟨fun _ _ => before_iff, fun _ _ => Text.bytesBefore_iff_codes,
    fun _ _ => Text.bytesBefore_of_prefix, before_total, fun _ _ _ => before_trans, ?_, ?_⟩
  · intro m n
    rw [beq_iff_eq]
    refine ⟨fun h => before_antisymm h.1 h.2, ?_⟩
    rintro rfl
    exact ⟨before_iff.2 (.inl rfl), before_iff.2 (.inl rfl)⟩
  · intro texts named
    obtain ⟨ns, list, increasing, mem⟩ := exists_canonicalOf named
    refine ⟨ns, list, increasing, ?_, ?_, ?_⟩
    · intro n
      exact ⟨mem n, List.nodup_iff_count_le_one.1 (nodup_of_increasing increasing) n⟩
    · intro texts' named' same
      rw [canonicalOf_congr named named' same, list]
    · intro texts' respells
      rw [canonicalOf_congr named (respells.allNamed named) respells.isNamed_iff, list]

/-- The bracket of the id comes before the equals sign, though the backslash in front of it
does not. -/
theorem canonicalOf_onlyNodes_of_respelled :
    AllNamed ["/u<a=>".toList, "/u<a<b> ".toList] ∧
    RespellsAll ["/u<a=>".toList, "/u<a<b> ".toList]
      ["/u<a\\<b> ".toList, "/u<a=>".toList, "/u<a<b> ".toList] ∧
    canonicalOf ["/u<a=>".toList, "/u<a<b> ".toList] =
      .ok [⟨"/u".toList, "a<b".toList⟩, ⟨"/u".toList, "a=".toList⟩] ∧
    canonicalOf ["/u<a\\<b> ".toList, "/u<a=>".toList, "/u<a<b> ".toList] =
      .ok [⟨"/u".toList, "a<b".toList⟩, ⟨"/u".toList, "a=".toList⟩] := by
  have equals : parse "/u<a=>".toList = .ok ⟨"/u".toList, "a=".toList⟩ := rfl
  have bracket : parse "/u<a<b> ".toList = .ok ⟨"/u".toList, "a<b".toList⟩ := rfl
  have named : AllNamed ["/u<a=>".toList, "/u<a<b> ".toList] := by
    intro t mem
    rcases List.mem_pair.1 mem with rfl | rfl
    · exact ⟨_, equals⟩
    · exact ⟨_, bracket⟩
  have escaped : Respells "/u<a<b> ".toList "/u<a\\<b> ".toList :=
    .rel _ _ (@Escapes.mk "/u".toList "a".toList "b".toList [' '] (by decide) (by decide)
      (by decide))
  have respelled : RespellsAll ["/u<a=>".toList, "/u<a<b> ".toList]
      ["/u<a\\<b> ".toList, "/u<a=>".toList, "/u<a<b> ".toList] := by
    refine ⟨?_, ?_⟩
    · intro t' mem
      rcases List.mem_cons.1 mem with rfl | mem
      · exact ⟨_, List.mem_cons_of_mem _ List.mem_cons_self, escaped⟩
      · exact ⟨t', mem, .refl t'⟩
    · exact fun t mem => ⟨t, List.mem_cons_of_mem _ mem, .refl t⟩
  have front : Precedes ⟨"/u".toList, "a<b".toList⟩ ⟨"/u".toList, "a=".toList⟩ :=
    .inr ⟨rfl, Text.bytesBefore_iff_codes.2 (.cons (.rel (by decide)))⟩
  obtain ⟨-, -, -, -, -, -, all⟩ := canonicalOf_onlyNodes
  obtain ⟨ns, list, increasing, mem, -, again⟩ := all _ named
  have same : ns = [⟨"/u".toList, "a<b".toList⟩, ⟨"/u".toList, "a=".toList⟩] := by
    apply eq_of_increasing increasing (List.pairwise_pair.2 front)
    intro n
    rw [(mem n).1, isNamed_cons, isNamed_cons, equals, bracket]
    simp [not_isNamed_nil, or_comm, eq_comm]
  rw [← same]
  exact ⟨named, respelled, list, again _ respelled⟩

end Node
end GraphText
