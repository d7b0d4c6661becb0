import Provisioning.Run

/-!
# Reports

Documents of what a session has done and of what it holds: the transactions, the
requests, the state of a ledger, receipts, publications. Nothing here decides
anything; each report lists the parts of one value.
-/

namespace Provisioning

/-- Pairs of texts as an object. -/
def Report.pairs (pairs : List (String × String)) : Json :=
  .obj (pairs.map fun (key, value) => (key, .str value))

namespace Contract

def Transaction.report (transaction : Transaction) : Arg :=
  .record [("contract", .str transaction.contract), ("function", .str transaction.function),
    ("args", .list transaction.args), ("value", .int transaction.value),
    ("tx_hash", .str transaction.hash)]

def Event.report (event : Event) : Arg :=
  .record [("contract", .str event.contract), ("event", .str event.name),
    ("args", .record event.args)]

/-- The events of a receipt; of encoded ones only their number. -/
def Logs.report : Logs → Arg
  | .events list => .list (list.map Event.report)
  | .encoded entries => .int entries.length

def optionalInt : Option Int → Arg
  | some n => .int n
  | none => .null

def Receipt.report (receipt : Receipt) : Arg :=
  .record [("tx_hash", .str receipt.hash), ("status", .int receipt.status),
    ("block_number", optionalInt receipt.block), ("confirmed", .bool receipt.confirmed),
    ("logs", receipt.logs.report)]

/-- The order of keys in a report: by account, then by bytes. -/
def KeyEntry.before (a b : KeyEntry) : Bool :=
  a.account < b.account || (a.account == b.account && !Bytes.lt b.key a.key)

def KeyEntry.report (entry : KeyEntry) : Json :=
  .arr [.int entry.account, .str (Hex.encode entry.key), .int entry.state.code]

/-- The state of a ledger, without its records. -/
def Ledger.report (ledger : Ledger) : Json :=
  let counts (entries : List (String × Int)) : Json :=
    .obj (entries.map fun (key, value) => (key, .int value))
  .obj [("balances", counts ledger.balances), ("id_of", counts ledger.accounts),
    ("keys", .arr ((ledger.keys.mergeSort KeyEntry.before).map KeyEntry.report)),
    ("next_fid", .int ledger.nextAccount), ("block", .int ledger.block)]

end Contract

/-- A byte by its number. -/
def Report.byteMark (byte : UInt8) : List Char :=
  '\\' :: 'x' :: Hex.encodeChars [byte]

/-- A request; bytes of its body that are not UTF-8 are shown by their numbers. -/
def Http.Request.report (request : Http.Request) (path : String) : Json :=
  .obj [("method", .str request.method), ("url", .str request.url), ("path", .str path),
    ("params", Report.pairs request.params), ("headers", Report.pairs request.headers),
    ("data", .str (String.ofList (Utf8.decodeMarkedChars Report.byteMark request.body)))]

def Http.Response.report (response : Http.Response) : Json :=
  .obj [("status", .int response.status), ("ok", .bool response.ok),
    ("text", .str response.text)]

def DelegatedSigner.report (signer : DelegatedSigner) : List (String × Json) :=
  [("public_key", .str (Hex.encode signer.publicKey)),
    ("private_key", .str (Hex.encode signer.seed)), ("state", .str signer.state.name),
    ("active", .bool signer.isActive), ("repr", .str signer.text)]

def Publication.report (publication : Publication) : Json :=
  .obj [("hash", .str (Hex.marked publication.hash)), ("fid", publication.account),
    ("message_type", .str publication.type.name), ("node_response", publication.response)]

/-- What a run has brought about; the signer is shown in a given state. -/
def Provisioned.report (done : Provisioned) (signer : Json) : Json :=
  .obj [("fid", .int done.account), ("owner", .str done.owner), ("signer", signer),
    ("signer_public_key", .str done.signer.keyText), ("name", done.name),
    ("receipts", .arr (done.publications.map Publication.report))]

namespace Report

/-- The state of the ledger that a session has, if it has one. -/
def state? (session : Session) : Option Json :=
  match session.chain with
  | .ledger state => some state.report
  | .node _ => none

def transactions (happenings : List Happening) : List Arg :=
  happenings.filterMap fun happening =>
    match happening with
    | .sent transaction => some transaction.report
    | _ => none

def requests (happenings : List Happening) : List Json :=
  happenings.filterMap fun happening =>
    match happening with
    | .requested request path => some (request.report path)
    | _ => none

/-- The waits, each as the text of its seconds. -/
def waits (happenings : List Happening) : List Json :=
  happenings.filterMap fun happening =>
    match happening with
    | .slept seconds => some (.str (Decimal.floatText seconds))
    | _ => none

/-- The order of levels. -/
def rank : Level → Nat
  | .debug => 0
  | .info => 1
  | .warning => 2
  | .error => 3

/-- The notes of at least some level. -/
def notes (least : Level) (happenings : List Happening) : List (Level × Source × String) :=
  happenings.filterMap fun happening =>
    match happening with
    | .noted level source text =>
      if rank least ≤ rank level then some (level, source, text) else none
    | _ => none

def printedLines (happenings : List Happening) : List String :=
  happenings.filterMap fun happening =>
    match happening with
    | .printed line => some line
    | _ => none

/-- Drops the items that equal the one before them. -/
def dropRepeated : List Json → List Json
  | [] => []
  | [item] => [item]
  | a :: b :: rest => if a == b then dropRepeated (b :: rest) else a :: dropRepeated (b :: rest)

/-- The calls of a node, without those that ask for its chain and without
repetitions. -/
def calls (happenings : List Happening) : List Json :=
  dropRepeated (happenings.filterMap fun happening =>
    match happening with
    | .called method params =>
      if method = "eth_chainId" then none else some (.arr [.str method, params])
    | _ => none)

end Report

end Provisioning
