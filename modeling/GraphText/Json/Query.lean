-- Tokens and the settings of a token stream in JSON. A kind of tokens has the name of
-- its variant, which is not the name that messages show.
import GraphText.Json.Basic
import GraphText.Query.Token

namespace GraphText

namespace TokenType

/-- The name of a variant. -/
def variantName : TokenType → String
  | error => "Error"
  | eof => "Eof"
  | keyword .select => "Query"
  | keyword .from' => "From"
  | keyword .where' => "Where"
  | keyword .as' => "As"
  | keyword .type => "Type"
  | keyword .id => "Id"
  | keyword .at' => "At"
  | keyword .before => "Before"
  | keyword .after => "After"
  | keyword .between => "Between"
  | keyword .count => "Count"
  | keyword .distinct => "Distinct"
  | keyword .sum => "Sum"
  | keyword .group => "Group"
  | keyword .by' => "By"
  | keyword .order => "Order"
  | keyword .having => "Having"
  | keyword .asc => "Asc"
  | keyword .desc => "Desc"
  | keyword .limit => "Limit"
  | keyword .not => "Not"
  | keyword .and => "And"
  | keyword .or => "Or"
  | binding => "Binding"
  | node => "Node"
  | literal => "Literal"
  | predicate => "Predicate"
  | punctuation .openBrace => "LBracket"
  | punctuation .closeBrace => "RBracket"
  | punctuation .openParen => "LPar"
  | punctuation .closeParen => "RPar"
  | punctuation .dot => "Dot"
  | punctuation .semicolon => "Semicolon"
  | punctuation .comma => "Comma"
  | punctuation .less => "Lt"
  | punctuation .greater => "Gt"
  | punctuation .equals => "Eq"

def toJson (t : TokenType) : Json := .string t.variantName.toList

def ofJson? (j : Json) : Option TokenType :=
  j.constant?.bind fun t => all.find? fun k => k.variantName.toList = t

end TokenType

namespace Token

def toJson (t : Token) : Json :=
  .object (("token_type".toList, t.type.toJson) :: ("text".toList, .string t.text) ::
    ((match t.message with
      | some m => [("error_message".toList, Json.string m)]
      | none => []) ++ [("offset".toList, .integer t.offset)]))

/-- The names of the parts, in order. -/
def fieldNames : List Text :=
  ["token_type".toList, "text".toList, "error_message".toList, "offset".toList]

def ofJson? (j : Json) : Option Token := do
  let fs ← j.fields? fieldNames 4
  let type ← (Json.field? "token_type".toList fs).bind TokenType.ofJson?
  let text ← (Json.field? "text".toList fs).bind Json.text?
  let message ← Json.optional? Json.text? (Json.field? "error_message".toList fs)
  let offset ← (Json.field? "offset".toList fs).bind Json.size?
  some ⟨type, text, message, offset⟩

end Token

/-- The capacity of a token stream, which is zero where it is not given. -/
def capacityOfJson? (j : Json) : Option Nat := do
  let fs ← j.fields? ["capacity".toList] 0
  match Json.field? "capacity".toList fs with
  | some n => n.size?
  | none => some 0

end GraphText
