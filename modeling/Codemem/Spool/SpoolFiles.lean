import Codemem.Json

/-!
# The raw event spool

The directory in which the plugin keeps raw events that the viewer has not taken: one file for each
event id, named by the digest of the id.  A name is modelled by the id it stands for; any other
name that ends in `.json` belongs to nobody.  Temporary files have names of their own and are never
read, so they are left out, and so are file modes.

An entry is published by a hard link, which fails when the name is taken.
-/

namespace Codemem

/-! ### Comparing texts and values -/

mutual

/-- The texts of two values are the same. -/
def Json.sameText : Json → Json → Bool
  | .null, .null => true
  | .bool a, .bool b => a == b
  | .num a, .num b => a == b
  | .str a, .str b => a == b
  | .arr a, .arr b => Json.sameItems a b
  | .obj a, .obj b => Json.sameFields a b
  | _, _ => false

def Json.sameItems : List Json → List Json → Bool
  | [], [] => true
  | a :: as, b :: bs => Json.sameText a b && Json.sameItems as bs
  | _, _ => false

def Json.sameFields : List (String × Json) → List (String × Json) → Bool
  | [], [] => true
  | (k, a) :: as, (l, b) :: bs => k == l && Json.sameText a b && Json.sameFields as bs
  | _, _ => false

end

mutual

lemma Json.sameText_refl : (a : Json) → Json.sameText a a = true
  | .null => rfl
  | .bool _ => by simp [Json.sameText]
  | .num _ => by simp [Json.sameText]
  | .str _ => by simp [Json.sameText]
  | .arr items => Json.sameItems_refl items
  | .obj fields => Json.sameFields_refl fields

lemma Json.sameItems_refl : (as : List Json) → Json.sameItems as as = true
  | [] => rfl
  | a :: as => by simp [Json.sameItems, Json.sameText_refl a, Json.sameItems_refl as]

lemma Json.sameFields_refl : (as : List (String × Json)) → Json.sameFields as as = true
  | [] => rfl
  | (_, a) :: as => by simp [Json.sameFields, Json.sameText_refl a, Json.sameFields_refl as]

end

mutual

/-- `isDeepStrictEqual(a, b)` on JSON values: the order of the fields of an object is free. -/
def isDeepStrictEqual : Json → Json → Bool
  | .null, .null => true
  | .bool a, .bool b => a == b
  | .num a, .num b => a == b
  | .str a, .str b => a == b
  | .arr a, .arr b => sameElements a b
  | .obj a, .obj b => a.length == b.length && fieldsWithin a b
  | _, _ => false

/-- Two arrays have equal elements in the same places. -/
def sameElements : List Json → List Json → Bool
  | [], [] => true
  | a :: as, b :: bs => isDeepStrictEqual a b && sameElements as bs
  | _, _ => false

/-- Every field of the first object has an equal one in the second. -/
def fieldsWithin : List (String × Json) → JsonObject → Bool
  | [], _ => true
  | (key, a) :: as, b =>
    (match JsonObject.get b key with
      | none => false
      | some value => isDeepStrictEqual a value) && fieldsWithin as b

end

/-- `existingBytes === incomingBytes`. -/
def JsonText.sameBytes : JsonText → JsonText → Bool
  | .malformed a, .malformed b => a == b
  | .encoded a, .encoded b => a.sameText b
  | _, _ => false

@[simp] lemma JsonText.sameBytes_refl (text : JsonText) : text.sameBytes text = true := by
  cases text with
  | malformed raw => simp [JsonText.sameBytes]
  | encoded value => exact value.sameText_refl

def withoutDeliveryTime (event : JsonObject) : JsonObject :=
  event.filter fun field => field.1 != "ts_wall_ms" && field.1 != "ts_mono_ms"

def sameEventApartFromDeliveryTime (existing incoming : JsonText) : Bool :=
  existing.sameBytes incoming ||
    match existing.parse, incoming.parse with
    | some (.obj a), some (.obj b) =>
      isDeepStrictEqual (.obj (withoutDeliveryTime a)) (.obj (withoutDeliveryTime b))
    | _, _ => false

@[simp] lemma sameEventApartFromDeliveryTime_refl (text : JsonText) :
    sameEventApartFromDeliveryTime text text = true := by
  simp [sameEventApartFromDeliveryTime]

/-- `requireEventId`, where it does not throw: the trimmed `event_id` of an envelope. -/
def requireEventId (envelope : JsonObject) : Option String :=
  cleanText ((JsonObject.get envelope "event_id").bind Json.asText)

/-! ### The directory -/

/-- The name of a `.json` file of the spool: `spoolFilename(eventId)`, or any other. -/
inductive SpoolName where
  | entry (eventId : String)
  | other (name : String)
  deriving DecidableEq, Repr

/-- The `.json` files of the spool directory with their contents. -/
abbrev SpoolFiles := List (SpoolName × JsonText)

namespace SpoolFiles

/-- `readFile(path)`, where the file exists. -/
def read (files : SpoolFiles) (name : SpoolName) : Option JsonText :=
  (files.find? fun file => file.1 == name).map Prod.snd

/-- `link(temporary, path)`, where the name is free. -/
def link (files : SpoolFiles) (name : SpoolName) (text : JsonText) : SpoolFiles :=
  files ++ [(name, text)]

def rm (files : SpoolFiles) (name : SpoolName) : SpoolFiles :=
  files.filter fun file => file.1 != name

variable {files : SpoolFiles} {name name' : SpoolName} {text : JsonText}

lemma read_link_self (h : files.read name = none) : (files.link name text).read name = some text := by
  have hfree : files.find? (fun file => file.1 == name) = none := by simpa [read] using h
  simp [read, link, List.find?_append, hfree]

lemma read_link_of_ne (h : name' ≠ name) : (files.link name text).read name' = files.read name' := by
  have hne : (name == name') = false := by simpa using h.symm
  simp [read, link, List.find?_append, hne]

lemma read_rm_self : (files.rm name).read name = none := by
  simp [read, rm, List.find?_eq_none]

lemma read_rm_of_ne (h : name' ≠ name) : (files.rm name).read name' = files.read name' := by
  unfold read rm
  rw [List.find?_filter]
  congr 1
  refine List.find?_congr fun file _ => ?_
  rcases eq_or_ne file.1 name' with heq | hne
  · simp [heq, h]
  · simp [hne]

end SpoolFiles

end Codemem
