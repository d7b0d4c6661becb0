import Provisioning.Message.Data
import Provisioning.Proofs.Json.SortKeys

/-!
# Typed message data

A body or message data are *typed* if their enumerations are members and their values
are texts and integers, as those of made bodies are (`Body.Made.typed`). Typed data read
back from their canonical bytes, but for a parent that does not count as given, which no
document holds (`MessageData.ofDocument_sortKeys`); the data that are read have the same
document (`MessageData.toDocument_recovered`).
-/

namespace Provisioning

open Json (find? keysOf)

/-- A text, or nothing. -/
def Json.ofText? : Option String → Json
  | some text => .str text
  | none => .null

namespace Body

inductive Typed : Body → Prop where
  | profile {field : ProfileField} (known : ProfileField.ofCode? field.code = some field)
      (text : String) : Typed (.profile field (.str text))
  | post (text : String) (embeds : List String) (mentions positions : List Int)
      (parent : Option String) :
      Typed (.post (.str text) (embeds.map .str) (mentions.map .int) (positions.map .int)
        (.ofText? parent))

/-- What making a body under the rules can return. -/
inductive Made (body : Body) : Prop where
  | profile (field value : Json) (made : profileUpdate field value = .ok body)
  | post (text : String) (embeds : List String) (mentions positions : List Int)
      (parent : Option String)
      (made : newPost (.str text) (.arr (embeds.map .str)) (.arr (mentions.map .int))
        (.arr (positions.map .int)) (.ofText? parent) = .ok body)

end Body

/-! ## Members of enumerations -/

theorem ProfileField.code_ofCode? {code : Int} {field : ProfileField}
    (known : ofCode? code = some field) : field.code = code := by
  unfold ofCode? at known
  split at known <;> cases known <;> rfl

theorem Json.member_code {α : Type} {enumeration : String} {ofCode? : Int → Option α}
    {code : Int} {member : α} (known : ofCode? code = some member) :
    Json.member enumeration ofCode? (.int code) = .ok member := by
  simp [Json.member, Json.integer?, known]

/-- The code of a member is the worth of the value that it was read from. -/
theorem Json.member_inv {α : Type} {enumeration : String} {ofCode? : Int → Option α}
    {value : Json} {member : α} (found : Json.member enumeration ofCode? value = .ok member) :
    ∃ code, value.integer? = some code ∧ ofCode? code = some member := by
  unfold Json.member at found
  split at found
  · next known =>
    cases found
    exact Option.bind_eq_some_iff.mp known
  · cases found

theorem Json.ofCode?_of_member {α : Type} {enumeration : String} {ofCode? : Int → Option α}
    {code : Int} {member : α} (found : Json.member enumeration ofCode? (.int code) = .ok member) :
    ofCode? code = some member := by
  obtain ⟨_, ⟨⟩, known⟩ := Json.member_inv found
  exact known

/-! ## Made bodies -/

namespace Body

theorem profileUpdate_inv {field value : Json} {body : Body}
    (made : profileUpdate field value = .ok body) :
    ∃ (known : ProfileField) (text : String), ProfileField.ofCode? known.code = some known ∧
      body = .profile known (.str text) := by
  unfold profileUpdate at made
  cases found : Json.member "UserDataType" ProfileField.ofCode? field with
  | error fault => simp [found, bind, Except.bind] at made
  | ok known =>
    obtain ⟨code, -, isCode⟩ := Json.member_inv found
    cases given : value.asText "encode" with
    | error fault => simp [found, given, bind, Except.bind] at made
    | ok text =>
      refine ⟨known, text, by rw [ProfileField.code_ofCode? isCode, isCode], ?_⟩
      simp only [found, given, bind, Except.bind] at made
      split at made
      · cases made
      split at made
      · cases made
      · cases made
        rfl

theorem newPost_inv {text : String} {embeds mentions positions : List Json} {parent : Json}
    {body : Body}
    (made : newPost (.str text) (.arr embeds) (.arr mentions) (.arr positions) parent = .ok body) :
    body = .post (.str text) embeds mentions positions parent := by
  simp only [newPost, Json.asText, count, Json.items, bind, Except.bind, Except.map,
    throw, throwThe, MonadExceptOf.throw] at made
  repeat' split at made
  all_goals first
    | cases made; rfl
    | cases made

theorem Made.typed {body : Body} (made : body.Made) : body.Typed := by
  cases made with
  | profile field value made =>
    obtain ⟨field, text, known, rfl⟩ := profileUpdate_inv made
    exact .profile known text
  | post text embeds mentions positions parent made =>
    cases newPost_inv made
    exact .post text embeds mentions positions parent

/-! ## Reading bodies back -/

/-- The body that a document gives back: a parent that does not count as given is not in
the document. -/
def recovered : Body → Body
  | .profile field value => .profile field value
  | .post text embeds mentions positions parent =>
    .post text embeds mentions positions (if parent.truthy then parent else .null)

theorem toDocument_recovered (body : Body) : body.recovered.toDocument = body.toDocument := by
  cases body with
  | profile field value => rfl
  | post text embeds mentions positions parent =>
    by_cases given : parent.truthy = true
    · simp [recovered, toDocument, given]
    · simp [recovered, toDocument, given, show Json.truthy .null = false from rfl]

@[simp] theorem key_recovered (body : Body) : body.recovered.key = body.key := by
  cases body <;> rfl

/-- The members of the document of a post. -/
def postFields (text : Json) (embeds mentions positions : List Json) (parent : Json) :
    List (String × Json) :=
  [("text", text), ("embeds", .arr (embeds.map fun url => .obj [("url", url)])),
    ("mentions", .arr mentions), ("mentionsPositions", .arr positions)] ++
    if parent.truthy then [("parentUrl", parent)] else []

theorem toDocument_post (text : Json) (embeds mentions positions : List Json) (parent : Json) :
    (Body.post text embeds mentions positions parent).toDocument =
      .obj (postFields text embeds mentions positions parent) := rfl

section Post

variable (text : Json) (embeds mentions positions : List Json) (parent : Json)

theorem nodup_postFields :
    (keysOf (postFields text embeds mentions positions parent)).Nodup := by
  unfold postFields
  split <;> simp [keysOf]

theorem find?_postFields :
    find? "text" (postFields text embeds mentions positions parent) = some text ∧
    find? "embeds" (postFields text embeds mentions positions parent) =
      some (.arr (embeds.map fun url => .obj [("url", url)])) ∧
    find? "mentions" (postFields text embeds mentions positions parent) = some (.arr mentions) ∧
    find? "mentionsPositions" (postFields text embeds mentions positions parent) =
      some (.arr positions) := by
  simp [postFields, find?]

theorem find?_parentUrl :
    find? "parentUrl" (postFields text embeds mentions positions parent) =
      if parent.truthy then some parent else none := by
  by_cases given : parent.truthy = true
  · simp [postFields, find?, given]
  · simp [postFields, find?, given]

end Post

theorem regular_post {text parent : Json} {embeds mentions positions : List Json}
    (isText : text.Regular) (isEmbeds : Json.RegularItems embeds)
    (isMentions : Json.RegularItems mentions) (isPositions : Json.RegularItems positions)
    (isParent : parent.Regular) :
    (Body.post text embeds mentions positions parent).toDocument.Regular := by
  have urls : Json.RegularItems (embeds.map fun url => .obj [("url", url)]) := by
    refine Json.regularItems_iff.mpr fun item member => ?_
    obtain ⟨url, inside, rfl⟩ := List.mem_map.mp member
    exact ⟨by simp [keysOf], Json.regularItems_iff.mp isEmbeds url inside, trivial⟩
  rw [toDocument_post]
  refine ⟨nodup_postFields _ _ _ _ _, ?_⟩
  unfold postFields
  split
  · exact ⟨isText, urls, isMentions, isPositions, isParent, trivial⟩
  · exact ⟨isText, urls, isMentions, isPositions, trivial⟩

theorem regularItems_texts (given : List String) : Json.RegularItems (given.map Json.str) :=
  Json.regularItems_iff.mpr (by simp [Json.Regular])

theorem regularItems_numbers (given : List Int) : Json.RegularItems (given.map Json.int) :=
  Json.regularItems_iff.mpr (by simp [Json.Regular])

theorem regular_ofText? (text : Option String) : (Json.ofText? text).Regular := by
  cases text <;> trivial

theorem Typed.regular {body : Body} (typed : body.Typed) : body.toDocument.Regular := by
  cases typed with
  | profile known text => simp [toDocument, Json.Regular, Json.RegularFields, keysOf]
  | post text embeds mentions positions parent =>
    exact regular_post trivial (regularItems_texts embeds) (regularItems_numbers mentions)
      (regularItems_numbers positions) (regular_ofText? parent)

theorem sortItems_urls (embeds : List String) :
    Json.sortItems ((embeds.map Json.str).map fun url => .obj [("url", url)]) =
      (embeds.map Json.str).map fun url => .obj [("url", url)] := by
  rw [Json.sortItems_eq_map, List.map_map, List.map_map, List.map_map]
  refine List.map_congr_left ?_
  intro url _
  exact Json.sortKeys_singleton "url" (.str url)

theorem mapM_field_url (urls : List Json) :
    (urls.map fun url => Json.obj [("url", url)]).mapM (Json.field "url") = .ok urls := by
  induction urls with
  | nil => rfl
  | cons url rest ih =>
    rw [List.map_cons, List.mapM_cons, ih]
    rfl

theorem sortItems_numbers (given : List Int) :
    Json.sortItems (given.map Json.int) = given.map Json.int := by
  rw [Json.sortItems_eq_map, List.map_map]
  rfl

theorem sortKeys_ofText? (text : Option String) :
    (Json.ofText? text).sortKeys = .ofText? text := by
  cases text <;> rfl

theorem profileOfDocument_sortKeys {field : ProfileField}
    (known : ProfileField.ofCode? field.code = some field) (text : String) :
    profileOfDocument (Body.profile field (.str text)).toDocument.sortKeys =
      .ok (.profile field (.str text)) := by
  have distinct : (keysOf [("type", Json.int field.code), ("value", .str text)]).Nodup := by
    simp [keysOf]
  have atValue : find? "value" [("type", Json.int field.code), ("value", .str text)] =
      some (.str text) := by simp [find?]
  rw [profileOfDocument, toDocument, Json.field_sortKeys distinct rfl,
    Json.field_sortKeys distinct atValue]
  simp only [Json.sortKeys, Json.member_code known, bind, Except.bind, pure, Except.pure]

theorem postOfDocument_sortKeys (text : String) (embeds : List String)
    (mentions positions : List Int) (parent : Option String) :
    postOfDocument (Body.post (.str text) (embeds.map .str) (mentions.map .int)
        (positions.map .int) (.ofText? parent)).toDocument.sortKeys =
      .ok (Body.post (.str text) (embeds.map .str) (mentions.map .int)
        (positions.map .int) (.ofText? parent)).recovered := by
  have distinct := nodup_postFields (.str text) (embeds.map .str) (mentions.map .int)
    (positions.map .int) (.ofText? parent)
  obtain ⟨atText, atEmbeds, atMentions, atPositions⟩ := find?_postFields (.str text)
    (embeds.map .str) (mentions.map .int) (positions.map .int) (.ofText? parent)
  have atParent : ((if (Json.ofText? parent).truthy then some (Json.ofText? parent)
      else none).map Json.sortKeys).getD .null =
      if (Json.ofText? parent).truthy then .ofText? parent else .null := by
    split
    · exact sortKeys_ofText? parent
    · rfl
  rw [postOfDocument, toDocument_post, Json.field_sortKeys distinct atText,
    Json.fieldD_sortKeys distinct, Json.fieldD_sortKeys distinct,
    Json.fieldD_sortKeys distinct, Json.fieldD_sortKeys distinct, find?_parentUrl, atParent,
    atEmbeds, atMentions, atPositions]
  simp only [Option.map_some, Option.getD_some, Json.sortKeys, sortItems_urls, sortItems_numbers,
    Json.items, bind, Except.bind, pure, Except.pure, mapM_field_url, recovered]

end Body

/-! ## Reading message data back -/

namespace MessageData

structure Typed (data : MessageData) : Prop where
  type : MessageType.ofCode? data.type.code = some data.type
  account : ∃ number : Int, data.account = .int number
  timestamp : ∃ number : Int, data.timestamp = .int number
  network : Network.ofCode? data.network.code = some data.network
  body : data.body.Typed

/-- The data that a document gives back. -/
def recovered (data : MessageData) : MessageData :=
  { data with body := data.body.recovered }

theorem toDocument_recovered (data : MessageData) :
    data.recovered.toDocument = data.toDocument := by
  rw [toDocument, recovered, Body.toDocument_recovered, Body.key_recovered]
  rfl

theorem encode_recovered (data : MessageData) : data.recovered.encode = data.encode := by
  rw [encode, encode, toDocument_recovered]

variable {data : MessageData}

theorem nodup_toDocument (data : MessageData) :
    (keysOf [("type", .int data.type.code), ("fid", data.account),
      ("timestamp", data.timestamp), ("network", .int data.network.code),
      (data.body.key, data.body.toDocument)]).Nodup := by
  cases body : data.body <;> simp [keysOf, Body.key]

theorem regular_of_body {account timestamp : Int} (isAccount : data.account = .int account)
    (isTimestamp : data.timestamp = .int timestamp) (body : data.body.toDocument.Regular) :
    data.toDocument.Regular := by
  refine ⟨nodup_toDocument data, trivial, ?_, ?_, trivial, body, trivial⟩
  · rw [isAccount]
    trivial
  · rw [isTimestamp]
    trivial

theorem Typed.regular (typed : data.Typed) : data.toDocument.Regular := by
  obtain ⟨account, isAccount⟩ := typed.account
  obtain ⟨timestamp, isTimestamp⟩ := typed.timestamp
  exact regular_of_body isAccount isTimestamp typed.body.regular

theorem bodyOfDocument_sortKeys (typed : data.Typed) :
    bodyOfDocument data.toDocument.sortKeys = .ok (.ok data.body.recovered) := by
  obtain ⟨type, account, timestamp, network, body⟩ := data
  have distinct := nodup_toDocument ⟨type, account, timestamp, network, body⟩
  cases typed.body with
  | profile known text =>
    rw [bodyOfDocument, toDocument, Json.mentions_sortKeys distinct,
      Json.field_sortKeys distinct (show find? "userDataBody" _ = some _ by
        simp [find?, Body.key]; rfl)]
    simp [find?, Body.key, bind, Except.bind, pure, Except.pure,
      Body.profileOfDocument_sortKeys known, Body.recovered]
  | post text embeds mentions positions parent =>
    rw [bodyOfDocument, toDocument, Json.mentions_sortKeys distinct,
      Json.mentions_sortKeys distinct,
      Json.field_sortKeys distinct (show find? "castAddBody" _ = some _ by
        simp [find?, Body.key]; rfl)]
    simp [find?, Body.key, bind, Except.bind, pure, Except.pure, Body.postOfDocument_sortKeys]

/-- Typed data read back from their sorted document. -/
theorem ofDocument_sortKeys (typed : data.Typed) :
    ofDocument data.toDocument.sortKeys = .ok data.recovered := by
  have distinct := nodup_toDocument data
  obtain ⟨account, isAccount⟩ := typed.account
  obtain ⟨timestamp, isTimestamp⟩ := typed.timestamp
  have body := bodyOfDocument_sortKeys typed
  rw [ofDocument, body, toDocument, Json.field_sortKeys distinct rfl,
    Json.field_sortKeys distinct (show find? "fid" _ = some data.account by simp [find?]),
    Json.field_sortKeys distinct
      (show find? "timestamp" _ = some data.timestamp by simp [find?]),
    Json.field_sortKeys distinct
      (show find? "network" _ = some (.int data.network.code) by simp [find?])]
  simp only [Json.sortKeys, isAccount, isTimestamp, Json.member_code typed.type,
    Json.member_code typed.network, Json.toInt, bind, Except.bind, pure, Except.pure]
  rw [recovered, isAccount, isTimestamp]

end MessageData

end Provisioning
