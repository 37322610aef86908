-- Variants of stored values: a graph value reads back from its JSON in whatever order the
-- fields stand, and whatever other fields stand among them. A value in front of its form is
-- the exception. It is put aside until the form is known, and not every value can be.
import GraphText.Json.Graph
import GraphText.Proofs.LooseTimestamps
import Mathlib.Data.List.Nodup

namespace GraphText

-- Powers are those of the core library, whatever else is imported.
attribute [local instance (high)] instPowNat

namespace Json

/-! ## Fields in any order -/

/-- The second object has the fields of the first in some order, and other fields that go by
none of the names. -/
def Extends (names : List Text) (j k : Json) : Prop :=
  ∃ fields fs extra, j = .object fields ∧ k = .object fs ∧ fs.Perm (fields ++ extra) ∧
    ∀ f ∈ extra, f.1 ∉ names

variable {names : List Text} {name : Text} {fields fs : List (Text × Json)} {j k v : Json}

/-- A field that stands once is found. -/
theorem lookup_eq_some_iff_mem
    (once : ∀ v ∈ fs, ∀ w ∈ fs, v.1 = name → w.1 = name → v = w) :
    fs.lookup name = some v ↔ (name, v) ∈ fs := by
  refine ⟨?_, ?_⟩
  · intro found
    obtain ⟨l, r, rfl, -⟩ := List.lookup_eq_some_iff.1 found
    simp
  · intro mem
    cases found : fs.lookup name with
    | none =>
      have other := List.lookup_eq_none_iff.1 found _ mem
      simp at other
    | some w =>
      obtain ⟨l, r, rfl, -⟩ := List.lookup_eq_some_iff.1 found
      have same := once (name, w) (by simp) (name, v) mem rfl rfl
      rw [(Prod.mk.inj same).2]

/-- A known field has the same value in an object that extends another. -/
theorem field?_of_perm {extra : List (Text × Json)} (perm : fs.Perm (fields ++ extra))
    (unknown : ∀ f ∈ extra, f.1 ∉ names) (once : (fields.map Prod.fst).Nodup)
    (known : name ∈ names) : field? name fs = field? name fields := by
  have inside : ∀ f, f.1 = name → (f ∈ fs ↔ f ∈ fields) := by
    intro f same
    rw [perm.mem_iff, List.mem_append, or_iff_left]
    intro mem
    rw [← same] at known
    exact unknown f mem known
  have unique : ∀ v ∈ fields, ∀ w ∈ fields, v.1 = name → w.1 = name → v = w := by
    intro v hv w hw first second
    exact List.inj_on_of_nodup_map once hv hw (first.trans second.symm)
  have unique' : ∀ v ∈ fs, ∀ w ∈ fs, v.1 = name → w.1 = name → v = w := by
    intro v hv w hw first second
    exact unique v ((inside v first).1 hv) w ((inside w second).1 hw) first second
  apply Option.ext
  intro v
  unfold field?
  rw [lookup_eq_some_iff_mem unique', lookup_eq_some_iff_mem unique, inside _ rfl]

/-- No known field stands twice in an object that extends another. -/
theorem fields?_of_perm {extra : List (Text × Json)} (perm : fs.Perm (fields ++ extra))
    (unknown : ∀ f ∈ extra, f.1 ∉ names) (once : (fields.map Prod.fst).Nodup) (least : Nat) :
    fields? names least (.object fs) = some fs := by
  refine if_pos (List.all_eq_true.2 ?_)
  intro name known
  have outside : name ∉ extra.map Prod.fst := by
    intro mem
    obtain ⟨f, inside, rfl⟩ := List.mem_map.1 mem
    exact unknown f inside known
  rw [decide_eq_true_iff, (perm.map Prod.fst).count_eq, List.map_append, List.count_append,
    List.count_eq_zero.2 outside]
  exact List.nodup_iff_count_le_one.1 once name

/-- The known fields of an object that extends another. -/
theorem Extends.exists_fields (h : Extends names (.object fields) k)
    (keys : (fields.map Prod.fst).Sublist names) (once : names.Nodup) :
    ∃ fs, k = .object fs ∧ (∀ least, fields? names least (.object fs) = some fs) ∧
      ∀ name ∈ names, field? name fs = field? name fields := by
  obtain ⟨fields', fs, extra, same, rfl, perm, unknown⟩ := h
  cases same
  have unique := once.sublist keys
  exact ⟨fs, rfl, fields?_of_perm perm unknown unique,
    fun name known => field?_of_perm perm unknown unique known⟩

end Json

/-! ## Nodes -/

namespace Node

/-- The JSON of the node in any order, with unknown fields. -/
def IsVariant (n : Node) (j : Json) : Prop := Json.Extends fieldNames n.toJson j

theorem ofJson?_of_isVariant {n : Node} {j : Json} (h : n.IsVariant j) : ofJson? j = some n := by
  obtain ⟨fs, rfl, known, fields⟩ := Json.Extends.exists_fields h (List.Sublist.refl _) (by decide)
  unfold ofJson?
  rw [known, Option.bind_eq_bind, Option.bind_some, fields _ (by decide),
    fields _ (by decide)]
  rfl

end Node

/-! ## Predicates -/

theorem Instant.ofJson?_toJson (i : Instant) : ofJson? i.toJson = some i := by
  unfold ofJson? toJson
  rw [Json.text?, Option.bind_some, readLoosely?_display]

namespace Predicate

/-- The JSON of the predicate in any order, with unknown fields. An anchor is no unknown
field. -/
def IsVariant (p : Predicate) (j : Json) : Prop := Json.Extends fieldNames p.toJson j

theorem ofJson?_of_isVariant {p : Predicate} {j : Json} (h : p.IsVariant j) :
    ofJson? j = some p := by
  obtain ⟨id, anchor⟩ := p
  have once : fieldNames.Nodup := by decide
  cases anchor with
  | none =>
    have keys : ["id".toList].Sublist fieldNames := List.sublist_append_left _ _
    obtain ⟨fs, rfl, known, fields⟩ := Json.Extends.exists_fields h keys once
    unfold ofJson?
    rw [known, Option.bind_eq_bind, Option.bind_some, fields _ (by decide),
      fields _ (by decide)]
    rfl
  | some i =>
    obtain ⟨fs, rfl, known, fields⟩ := Json.Extends.exists_fields h (List.Sublist.refl _) once
    have anchor : Json.optional? Instant.ofJson? (Json.field? "anchor".toList fs) =
        some (some i) := by
      rw [fields _ (by decide)]
      change (Instant.ofJson? i.toJson).map some = _
      rw [i.ofJson?_toJson, Option.map_some]
    unfold ofJson?
    rw [known, Option.bind_eq_bind, Option.bind_some, fields _ (by decide), anchor]
    rfl

end Predicate

/-! ## Literals -/

namespace Literal

/-- The JSON of the literal with unknown fields. -/
def IsVariant (x : Literal) (j : Json) : Prop := Json.Extends fieldNames x.toJson j

/-- The literal is no float. -/
def IsExact (x : Literal) : Prop := x.type ≠ .float64

theorem byte?_toNat (b : UInt8) : Json.byte? (.integer b.toNat) = some b := by
  have size := b.toNat_lt
  rw [Json.byte?, if_pos (by omega), Int.toNat_natCast, UInt8.ofNat_toNat]

theorem int64?_toInt (n : Int64) : Json.int64? (.integer n.toInt) = some n := by
  have low := n.le_toInt
  have high := n.toInt_lt
  rw [Json.int64?, if_pos ⟨low, high⟩, Int64.ofInt_toInt]

theorem bytes?_map (b : List UInt8) :
    Json.bytes? (.array (b.map fun x => .integer x.toNat)) = some b := by
  change (b.map fun x => Json.integer x.toNat).mapM Json.byte? = some b
  induction b with
  | nil => rfl
  | cons x r ih =>
    rw [List.map_cons, List.mapM_cons, byte?_toNat, ih]
    rfl

/-- A literal that is no float reads back from its variant. -/
theorem ofVariant?_variant {x : Literal} (lossless : x.IsExact) :
    ofVariant? x.variant.1 x.variant.2 = some x := by
  cases x with
  | bool b => rfl
  | int64 n =>
    change (Json.int64? (.integer n.toInt)).map int64 = _
    rw [int64?_toInt, Option.map_some]
  | float64 x => exact absurd rfl lossless
  | text t => rfl
  | blob b =>
    change (Json.bytes? (.array (b.map fun x => .integer x.toNat))).map blob = _
    rw [bytes?_map, Option.map_some]

theorem ofJson?_of_isVariant {x : Literal} {j : Json} (lossless : x.IsExact) (h : x.IsVariant j) :
    ofJson? j = some x := by
  obtain ⟨fs, rfl, known, fields⟩ := Json.Extends.exists_fields h (List.Sublist.refl _) (by decide)
  unfold ofJson?
  rw [known, Option.bind_eq_bind, Option.bind_some, fields _ (by decide)]
  exact ofVariant?_variant lossless

end Literal

/-! ## Objects -/

namespace Object

/-- The JSON of the value in any order, with unknown fields. -/
def IsValueVariant : Object → Json → Prop
  | node n => n.IsVariant
  | predicate p => p.IsVariant
  | literal x => x.IsVariant

/-- The form and the value in any order, with unknown fields beside them and in the value. -/
def IsVariant (o : Object) (j : Json) : Prop :=
  ∃ value, o.IsValueVariant value ∧ Json.Extends fieldNames
    (.object [("type".toList, .string o.variant.1.name.toList), ("value".toList, value)]) j

/-- The object is no float. -/
def IsExact : Object → Prop
  | literal x => x.IsExact
  | _ => True

/-- The value stands in front of its form and cannot be put aside so many levels deep. -/
def IsStuck (level : Nat) (j : Json) : Prop :=
  ∃ fs value, j = .object fs ∧ Json.field? "value".toList fs = some value ∧
    valueFirst fs = true ∧ value.canWait level = false

variable {o : Object} {j : Json} {level : Nat}

theorem ofTag?_name (k : ObjectType) : ObjectType.ofTag? (.string k.name.toList) = some k := by
  cases k with
  | node => rfl
  | predicate => rfl
  | literal => rfl

theorem ofVariant?_of_isValueVariant (lossless : o.IsExact) (h : o.IsValueVariant j) :
    ofVariant? j o.variant.1 = some o := by
  cases o with
  | node n =>
    change (Node.ofJson? j).map node = _
    rw [Node.ofJson?_of_isVariant h, Option.map_some]
  | predicate p =>
    change (Predicate.ofJson? j).map predicate = _
    rw [Predicate.ofJson?_of_isVariant h, Option.map_some]
  | literal x =>
    change (Literal.ofJson? j).map literal = _
    rw [Literal.ofJson?_of_isVariant lossless h, Option.map_some]

/-- The form says how to read the value, unless the value is stuck in front of it. -/
theorem ofJson?_eq_ite {fs : List (Text × Json)} {value : Json} {k : ObjectType}
    (known : Json.fields? fieldNames 2 (.object fs) = some fs)
    (form : Json.field? "type".toList fs = some (.string k.name.toList))
    (found : Json.field? "value".toList fs = some value) :
    ofJson? level (.object fs) =
      if valueFirst fs && !value.canWait level then none else ofVariant? value k := by
  unfold ofJson?
  rw [known, Option.bind_eq_bind, Option.bind_some, form, Option.bind_some, ofTag?_name,
    Option.bind_eq_bind, Option.bind_some, found, Option.bind_eq_bind, Option.bind_some]

/-- A variant reads as the object unless it is stuck, and then as none. -/
theorem ofJson?_of_isVariant (lossless : o.IsExact) (h : o.IsVariant j) :
    (IsStuck level j → ofJson? level j = none) ∧
      (¬ IsStuck level j → ofJson? level j = some o) := by
  obtain ⟨value, variant, extended⟩ := h
  obtain ⟨fs, rfl, known, fields⟩ := extended.exists_fields (List.Sublist.refl _) (by decide)
  have form : Json.field? "type".toList fs = some (.string o.variant.1.name.toList) :=
    fields _ (by decide)
  have found : Json.field? "value".toList fs = some value := fields _ (by decide)
  have stuck : IsStuck level (.object fs) ↔ (valueFirst fs && !value.canWait level) = true := by
    rw [Bool.and_eq_true, Bool.not_eq_true']
    refine ⟨?_, ?_⟩
    · rintro ⟨fs', value', same, found', first, deep⟩
      cases same
      rw [found] at found'
      cases found'
      exact ⟨first, deep⟩
    · rintro ⟨first, deep⟩
      exact ⟨fs, value, rfl, found, first, deep⟩
  rw [ofJson?_eq_ite (known 2) form found, ofVariant?_of_isValueVariant lossless variant, stuck]
  refine ⟨?_, ?_⟩
  · intro waits
    rw [if_pos waits]
  · intro ready
    rw [if_neg ready]

end Object

/-! ## Triples -/

namespace Triple

/-- The JSON of the triple in any order, with unknown fields in every part. -/
def IsVariant (t : Triple) (j : Json) : Prop :=
  ∃ subject predicate object, t.subject.IsVariant subject ∧ t.predicate.IsVariant predicate ∧
    t.object.IsVariant object ∧ Json.Extends fieldNames
      (.object [("subject".toList, subject), ("predicate".toList, predicate),
        ("object".toList, object)]) j

/-- The object is stuck. -/
def IsStuck (j : Json) : Prop :=
  ∃ fs object, j = .object fs ∧ Json.field? "object".toList fs = some object ∧
    Object.IsStuck 2 object

variable {t : Triple} {j : Json}

/-- The subject and the predicate always read back, so the object decides. -/
theorem ofJson?_eq_map {fs : List (Text × Json)} {subject predicate object : Json}
    (known : Json.fields? fieldNames 3 (.object fs) = some fs)
    (first : Json.field? "subject".toList fs = some subject)
    (second : Json.field? "predicate".toList fs = some predicate)
    (third : Json.field? "object".toList fs = some object)
    (s : t.subject.IsVariant subject) (p : t.predicate.IsVariant predicate) :
    ofJson? (.object fs) =
      (Object.ofJson? 2 object).map fun o => ⟨t.subject, t.predicate, o⟩ := by
  unfold ofJson?
  rw [known, Option.bind_eq_bind, Option.bind_some, first, Option.bind_some,
    Node.ofJson?_of_isVariant s, Option.bind_eq_bind, Option.bind_some, second,
    Option.bind_some, Predicate.ofJson?_of_isVariant p, Option.bind_eq_bind, Option.bind_some,
    third, Option.bind_some]
  cases Object.ofJson? 2 object with
  | none => rfl
  | some o => rfl

/-- A variant reads as the triple unless its object is stuck, and then as none. -/
theorem ofJson?_of_isVariant (lossless : t.object.IsExact) (h : t.IsVariant j) :
    (IsStuck j → ofJson? j = none) ∧ (¬ IsStuck j → ofJson? j = some t) := by
  obtain ⟨subject, predicate, object, s, p, o, extended⟩ := h
  obtain ⟨fs, rfl, known, fields⟩ := extended.exists_fields (List.Sublist.refl _) (by decide)
  have first : Json.field? "subject".toList fs = some subject := fields _ (by decide)
  have second : Json.field? "predicate".toList fs = some predicate := fields _ (by decide)
  have third : Json.field? "object".toList fs = some object := fields _ (by decide)
  have stuck : IsStuck (.object fs) ↔ Object.IsStuck 2 object := by
    refine ⟨?_, ?_⟩
    · rintro ⟨fs', object', same, found, stuck⟩
      cases same
      rw [third] at found
      cases found
      exact stuck
    · intro stuck
      exact ⟨fs, object, rfl, third, stuck⟩
  obtain ⟨lost, kept⟩ : (Object.IsStuck 2 object → Object.ofJson? 2 object = none) ∧
      (¬ Object.IsStuck 2 object → Object.ofJson? 2 object = some t.object) :=
    Object.ofJson?_of_isVariant lossless o
  rw [ofJson?_eq_map (known 3) first second third s p, stuck]
  refine ⟨?_, ?_⟩
  · intro waits
    rw [lost waits, Option.map_none]
  · intro ready
    rw [kept ready, Option.map_some]

end Triple

end GraphText
