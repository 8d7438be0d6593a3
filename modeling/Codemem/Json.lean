import Codemem.Text

/-!
# JSON values and JSON texts

Columns such as `payload_json` and `metadata_json` hold JSON texts.  The code only ever parses
them and writes the text of a value, so a text is modelled by what `JSON.parse` makes of it.
-/

namespace Codemem

inductive Json where
  | null
  | bool (value : Bool)
  | num (value : ℚ)
  | str (value : String)
  | arr (items : List Json)
  | obj (fields : List (String × Json))

/-- `Record<string, unknown>`: the fields of a JSON object. -/
abbrev JsonObject := List (String × Json)

/-- A JSON text: either text that `JSON.parse` refuses, or the text of a value. -/
inductive JsonText where
  | malformed (raw : String)
  | encoded (value : Json)

/-- `JSON.parse(text)`, where it does not throw. -/
def JsonText.parse : JsonText → Option Json
  | .malformed _ => none
  | .encoded value => some value

/-- `!text`: only the empty text is falsy. -/
def JsonText.isFalsy : JsonText → Bool
  | .malformed raw => raw.toList.isEmpty
  | .encoded _ => false

/-- `JSON.stringify(record)`. -/
def toJson (o : JsonObject) : JsonText := .encoded (.obj o)

/-- `record[key]`. -/
def JsonObject.get (o : JsonObject) (key : String) : Option Json :=
  (o.find? fun e => e.1 == key).map Prod.snd

/-- `{ ...record, [key]: value }`. -/
def JsonObject.set (o : JsonObject) (key : String) (value : Json) : JsonObject :=
  (key, value) :: o.filter fun e => e.1 != key

@[simp] lemma JsonObject.get_set_self (o : JsonObject) (key : String) (value : Json) :
    (o.set key value).get key = some value := by
  simp [JsonObject.get, JsonObject.set]

lemma JsonObject.get_set_of_ne {o : JsonObject} {key key' : String} {value : Json}
    (h : key ≠ key') : (o.set key value).get key' = o.get key' := by
  have hne : (key == key') = false := beq_eq_false_iff_ne.mpr h
  simp only [JsonObject.get, JsonObject.set, List.find?_cons, hne, List.find?_filter]
  congr 2
  funext e
  by_cases he : e.1 = key'
  · simp [he, h.symm]
  · simp [he]

/-- A JSON object is `null` or an array for no key. -/
def Json.asObject : Json → Option JsonObject
  | .obj fields => some fields
  | _ => none

/-- `typeof value === "string"`. -/
def Json.asText : Json → Option String
  | .str s => some s
  | _ => none

/-- `value ?? undefined`: JSON `null` counts as missing. -/
def nonNull : Option Json → Option Json
  | some .null => none
  | v => v

/-- `cleanText(value)` of an unknown value: only a text can be clean. -/
def cleanJson (v : Option Json) : Option String := cleanText (v.bind Json.asText)

/-- `fromJson`: the object a text holds, or the empty object. -/
def fromJson (text : Option JsonText) : JsonObject :=
  match text with
  | none => []
  | some t => ((t.parse).bind Json.asObject).getD []

/-- `parsePayload`: the object a payload text holds, if it holds one. -/
def parsePayload (text : Option JsonText) : Option JsonObject :=
  (text.bind JsonText.parse).bind Json.asObject

@[simp] lemma fromJson_toJson (o : JsonObject) : fromJson (some (toJson o)) = o := rfl

@[simp] lemma parsePayload_toJson (o : JsonObject) : parsePayload (some (toJson o)) = some o := rfl

end Codemem
