import Provisioning.Message.Code

/-!
# Bodies

A body is the change of a profile field or a post. Bodies are made under rules
(`Body.profileUpdate`, `Body.newPost`) or read from documents, which are not held
to them: a body therefore carries whatever values the document had.
-/

namespace Provisioning

inductive Body where
  | profile (field : ProfileField) (value : Json)
  | post (text : Json) (embeds mentions positions : List Json) (parent : Json)

namespace Username

/-- Lowercase ASCII letters and digits. -/
def isInitial (c : Char) : Bool :=
  (97 ≤ c.toNat && c.toNat ≤ 122) || (48 ≤ c.toNat && c.toNat ≤ 57)

/-- Letters, digits and hyphens. -/
def isPart (c : Char) : Bool :=
  isInitial c || c == '-'

/-- Up to sixteen letters, digits and hyphens, no hyphen first. One line feed may
follow. -/
def isValid (name : List Char) : Bool :=
  let name := if name.getLast? = some '\n' then name.dropLast else name
  match name with
  | [] => false
  | c :: rest => isInitial c && rest.length ≤ 15 && rest.all isPart

end Username

namespace Body

/-- The greatest length of a post, in bytes of UTF-8. -/
def postLimit : Nat := 320

def embedLimit : Nat := 2

def mentionLimit : Nat := 10

/-- The change of a profile field. -/
def profileUpdate (field : Json) (value : Json) : Except Fault Body := do
  let field ← Json.member "UserDataType" ProfileField.ofCode? field
  let text ← value.asText "encode"
  if field.limit < (Utf8.encode text).length then
    throw (.refusal (.valueTooLong field.name field.limit))
  if field = .username ∧ text ≠ "" ∧ ¬ Username.isValid text.toList then
    throw (.refusal (.invalidUsername text))
  return .profile field (.str text)

/-- How many items a value has, if it has any. -/
def count (value : Json) : Except Fault Nat :=
  match value with
  | .arr _ | .str _ | .obj _ => value.items.map List.length
  | other => .error (.kind s!"object of type '{other.kindName}' has no len()")

/-- A post. Its text may be empty only where something is embedded, and mentions go
with as many positions. -/
def newPost (text embeds mentions positions parent : Json) : Except Fault Body := do
  let text ← text.asText "encode"
  if postLimit < (Utf8.encode text).length then
    throw (.refusal (.postTooLong postLimit))
  if text = "" ∧ ¬ embeds.truthy then throw (.refusal .postEmpty)
  if embedLimit < (← count embeds) then throw (.refusal (.tooManyEmbeds embedLimit))
  let mentioned ← count mentions
  if mentionLimit < mentioned then throw (.refusal (.tooManyMentions mentionLimit))
  if mentioned ≠ (← count positions) then throw (.refusal .mentionsUnpaired)
  return .post (.str text) (← embeds.items) (← mentions.items) (← positions.items) parent

def messageType : Body → MessageType
  | .profile .. => .userDataAdd
  | .post .. => .castAdd

/-- The key under which message data holds the body. -/
def key : Body → String
  | .profile .. => "userDataBody"
  | .post .. => "castAddBody"

def toDocument : Body → Json
  | .profile field value => .obj [("type", .int field.code), ("value", value)]
  | .post text embeds mentions positions parent =>
    .obj ([("text", text), ("embeds", .arr (embeds.map fun url => .obj [("url", url)])),
      ("mentions", .arr mentions), ("mentionsPositions", .arr positions)] ++
      if parent.truthy then [("parentUrl", parent)] else [])

def profileOfDocument (document : Json) : Except Fault Body := do
  let field ← Json.member "UserDataType" ProfileField.ofCode? (← document.field "type")
  return .profile field (← document.field "value")

def postOfDocument (document : Json) : Except Fault Body := do
  let text ← document.field "text"
  let embeds ← (← document.fieldD "embeds" (.arr [])).items
  let embeds ← embeds.mapM (Json.field "url")
  let mentions ← (← document.fieldD "mentions" (.arr [])).items
  let positions ← (← document.fieldD "mentionsPositions" (.arr [])).items
  let parent ← document.fieldD "parentUrl" .null
  return .post text embeds mentions positions parent

/-- Equality of bodies by the worth of their values. -/
def same : Body → Body → Bool
  | .profile f v, .profile g w => f.code == g.code && v.same w
  | .post t e m p u, .post t' e' m' p' u' =>
    t.same t' && Json.sameItems e e' && Json.sameItems m m' && Json.sameItems p p' &&
      u.same u'
  | _, _ => false

end Body

end Provisioning
