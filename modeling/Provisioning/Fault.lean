import Provisioning.Json.Reader
import Provisioning.Json.Display

/-!
# Faults in given values

A fault says why a given value cannot be used: a document lacks a member or holds
the wrong kind of value, a text is no numeral or no bytes, a value does not fit its
ABI type, a signature is malformed, or one of the rules of messages, accounts and
signers is broken (`Refusal`). Two families matter to the rest: a *value fault* is
a value of the right kind that is wrong, a *kind fault* a value of the wrong kind.
Callers that turn faults into failures of their own catch by family.
-/

namespace Provisioning

/-- The rules that a caller can break. -/
inductive Refusal where
  | beforeEpoch
  | postTooLong (limit : Nat)
  | postEmpty
  | tooManyEmbeds (limit : Nat)
  | tooManyMentions (limit : Nat)
  | mentionsUnpaired
  | valueTooLong (field : String) (limit : Nat)
  | invalidUsername (name : String)
  | noBody
  | invalidAccount (shown : String)
  | notMember (shown : String) (enumeration : String)
  | seedLength
  | notCustody (owner custody : String)
  | unknownContract (name : String)
  | unknownView (contract function : String)
  | unknownFunction (contract function : String)
  | noAccount

def Refusal.message : Refusal → String
  | .beforeEpoch => "Timestamp predates network epoch"
  | .postTooLong limit => s!"Cast text exceeds {limit} bytes"
  | .postEmpty => "Cast needs text or an embed"
  | .tooManyEmbeds limit => s!"At most {limit} embeds"
  | .tooManyMentions limit => s!"At most {limit} mentions"
  | .mentionsUnpaired => "mentions and mentions_positions differ in length"
  | .valueTooLong field limit => s!"{field} value exceeds {limit} bytes"
  | .invalidUsername name => "Invalid username: " ++ Text.quoted name
  | .noBody => "Message data has no known body"
  | .invalidAccount shown => s!"Invalid fid: {shown}"
  | .notMember shown enumeration => s!"{shown} is not a valid {enumeration}"
  | .seedLength => "Ed25519 private key must be 32 bytes (or 64 with public key)"
  | .notCustody owner custody => s!"Owner {owner} is not the custody account {custody}"
  | .unknownContract name => s!"Unknown contract: {name}"
  | .unknownView contract function => s!"Unknown view: {contract}.{function}"
  | .unknownFunction contract function => s!"Unknown function: {contract}.{function}"
  | .noAccount => "no fid or invalid fid"

/-- How a signature can fail to name a signer. -/
inductive SignatureFault where
  | recoveryByte
  | length
  | empty
  | outOfRange
  | noPoint

/-- Why a value does not fit a type, or bytes do not hold one. -/
inductive AbiFault where
  | kind
  | bounds
  | claim
  | shortData
  | pointer
  | padding

/-- Why the authority of a location names no host. -/
inductive AuthorityFault where
  /-- Brackets of one kind only. -/
  | bracket
  /-- Brackets around an address of a version that does not read. -/
  | version
  /-- Brackets around an address of four octets. -/
  | octets
  /-- Brackets around what is no address. -/
  | noAddress (host : String)
  /-- A character that is equivalent to a delimiter. -/
  | delimiter (authority : String)

def AuthorityFault.message : AuthorityFault → String
  | .bracket => "Invalid IPv6 URL"
  | .version => "IPvFuture address is invalid"
  | .octets => "An IPv4 address cannot be in brackets"
  | .noAddress host => Text.quoted host ++ " does not appear to be an IPv4 or IPv6 address"
  | .delimiter authority =>
    s!"netloc '{authority}' contains invalid characters under NFKC normalization"

/-- Why a given value cannot be used. -/
inductive Fault where
  | refusal (rule : Refusal)
  | absent (key : String)
  | kind (detail : String)
  | operation (detail : String)
  | tooFew
  | integer (shown : String)
  | indefinite
  | infinite
  | zeroDivision
  | hex (position : Nat)
  | base64
  | base64Character
  | document (error : Json.DocumentError)
  | abi (fault : AbiFault)
  | signature (fault : SignatureFault)
  | custodyDigits
  | custodyLength (size : Nat)
  | custodyNegative
  | function
  | arguments
  | event
  | noEvents
  | address (shown : String)
  | addressDigits (shown : String)
  | authority (fault : AuthorityFault)
  | url
  | file

namespace Fault

/-- A line and a column, both from one, of a place in a text. -/
def place (text : List Char) : Nat × Nat :=
  text.foldl (fun (line, column) c => if c = '\n' then (line + 1, 1) else (line, column + 1))
    (1, 1)

/-- What a reader missed, in words. -/
def missedText : Json.Expectation → String
  | .value => "Expecting value"
  | .key => "Expecting property name enclosed in double quotes"
  | .colon => "Expecting ':' delimiter"
  | .comma => "Expecting ',' delimiter"
  | .end_ => "Extra data"
  | .closingQuote => "Unterminated string starting at"
  | .printable => "Invalid control character at"
  | .escape => "Invalid \\escape"
  | .unit => "Invalid \\uXXXX escape"

def documentText : Json.DocumentError → String
  | .encoding => "invalid bytes"
  | .text error text =>
    let index := text.length - error.remaining
    let (line, column) := place (text.take index)
    s!"{missedText error.missed}: line {line} column {column} (char {index})"

/-- Digits in lower case behind a mark. -/
def marked (digits : String) : String :=
  match digits.toList.map Char.toLower with
  | '0' :: 'x' :: rest => "0x" ++ String.ofList rest
  | lower => "0x" ++ String.ofList lower

/-- The wording of a fault, as far as a text can carry it on. -/
def message : Fault → String
  | .refusal rule => rule.message
  | .absent key => Text.quoted key
  | .kind detail => detail
  | .operation detail => detail
  | .integer shown => s!"invalid literal for int() with base 10: {shown}"
  | .indefinite => "cannot convert float NaN to integer"
  | .infinite => "cannot convert float infinity to integer"
  | .zeroDivision => "float floor division by zero"
  | .hex position => s!"non-hexadecimal number found in fromhex() arg at position {position}"
  | .base64 => "Incorrect padding"
  | .base64Character => "string argument should contain only ASCII characters"
  | .document error => documentText error
  | .custodyDigits => "Non-hexadecimal digit found"
  | .custodyLength size =>
    s!"The private key must be exactly 32 bytes long, instead of {size} bytes."
  | .authority fault => fault.message
  | .address shown =>
    "Unknown format " ++ Text.quoted shown ++ ", attempted to normalize to " ++
      Text.quoted (marked shown)
  | .addressDigits shown =>
    "when sending a str, it must be a hex string. Got: " ++ Text.quoted shown
  | _ => ""

/-- A value of the right kind that is wrong. -/
def isValue : Fault → Bool
  | .refusal _ | .integer _ | .indefinite | .hex _ | .base64 | .base64Character
  | .document _ | .abi .claim | .signature .recoveryByte | .custodyDigits
  | .custodyLength _ | .custodyNegative | .authority _ | .address _
  | .addressDigits _ => true
  | _ => false

/-- A value of the wrong kind. -/
def isKind : Fault → Bool
  | .kind _ => true
  | _ => false

end Fault

end Provisioning
