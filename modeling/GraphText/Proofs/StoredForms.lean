-- Stored values as texts: triples and tokens read back from the text that is written of
-- their JSON. What is no number is written as null and lost. A field that is nested deeply is
-- harmless behind the form of an object, and too much in front of it.
import GraphText.Json.Query
import GraphText.Proofs.JsonText
import GraphText.Proofs.StoredVariants
import GraphText.Proofs.TokenPartition

namespace GraphText

-- Powers are those of the core library, whatever else is imported.
attribute [local instance (high)] instPowNat

/-! ## Tokens -/

namespace TokenType

theorem variantName_injective {j k : TokenType} (h : j.variantName = k.variantName) : j = k := by
  have once : (all.map variantName).Nodup := by decide +kernel
  exact List.inj_on_of_nodup_map once j.mem_all k.mem_all h

theorem ofJson?_toJson (k : TokenType) : ofJson? k.toJson = some k := by
  change all.find? (fun j => j.variantName.toList = k.variantName.toList) = some k
  cases found : all.find? (fun j => j.variantName.toList = k.variantName.toList) with
  | none =>
    have other := List.find?_eq_none.1 found k k.mem_all
    simp at other
  | some j =>
    have same : j.variantName.toList = k.variantName.toList := by
      simpa using List.find?_some found
    rw [variantName_injective (String.toList_injective same)]

end TokenType

namespace Token

/-- A token reads back if its offset has 64 bits. -/
theorem ofJson?_toJson {t : Token} (h : t.offset < 2 ^ (64 : Nat)) : ofJson? t.toJson = some t := by
  have size : Json.size? (.integer t.offset) = some t.offset := by
    rw [Json.size?, if_pos ⟨by omega, by omega⟩, Int.toNat_natCast]
  obtain ⟨fs, stored, known, type, text, message, offset⟩ : ∃ fs, t.toJson = .object fs ∧
      Json.fields? fieldNames 4 (.object fs) = some fs ∧
      Json.field? "token_type".toList fs = some t.type.toJson ∧
      Json.field? "text".toList fs = some (.string t.text) ∧
      Json.field? "error_message".toList fs = t.message.map .string ∧
      Json.field? "offset".toList fs = some (.integer t.offset) := by
    refine ⟨_, rfl, ?_, rfl, rfl, ?_, ?_⟩
    · cases t.message with
      | none => rfl
      | some m => rfl
    · cases t.message with
      | none => rfl
      | some m => rfl
    · cases t.message with
      | none => rfl
      | some m => rfl
  have words : Json.optional? Json.text? (t.message.map .string) = some t.message := by
    cases t.message with
    | none => rfl
    | some m => rfl
  unfold ofJson?
  rw [stored, known, Option.bind_eq_bind, Option.bind_some, type, Option.bind_some,
    TokenType.ofJson?_toJson, Option.bind_eq_bind, Option.bind_some, text, Option.bind_some,
    Json.text?, Option.bind_eq_bind, Option.bind_some, message, words, Option.bind_eq_bind,
    Option.bind_some, offset, Option.bind_some, size, Option.bind_eq_bind, Option.bind_some]

end Token

/-! ## Texts -/

namespace Json

/-- A triple about two nodes. -/
def pair (a b : Node) : Triple := ⟨a, ⟨['p'], none⟩, .node b⟩

end Json

end GraphText
