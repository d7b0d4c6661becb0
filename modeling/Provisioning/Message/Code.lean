import Provisioning.Json.Access

/-!
# Codes of messages

The enumerations that messages carry as integers. Each names its members and keeps
a form for codes that are none, which a message put together field by field can
hold but no reader produces: `ofCode?` accepts members only.
-/

namespace Provisioning

inductive MessageType where
  | castAdd
  | userDataAdd
  | unassigned (code : Int)
deriving DecidableEq

namespace MessageType

def code : MessageType → Int
  | .castAdd => 1
  | .userDataAdd => 11
  | .unassigned code => code

def ofCode? : Int → Option MessageType
  | 1 => some .castAdd
  | 11 => some .userDataAdd
  | _ => none

def ofCode (code : Int) : MessageType := (ofCode? code).getD (.unassigned code)

def name : MessageType → String
  | .castAdd => "CAST_ADD"
  | .userDataAdd => "USER_DATA_ADD"
  | .unassigned code => Numeral.intText code

end MessageType

/-- The network that a message is meant for. -/
inductive Network where
  | mainnet
  | testnet
  | devnet
  | unassigned (code : Int)
deriving DecidableEq

namespace Network

def code : Network → Int
  | .mainnet => 1
  | .testnet => 2
  | .devnet => 3
  | .unassigned code => code

def ofCode? : Int → Option Network
  | 1 => some .mainnet
  | 2 => some .testnet
  | 3 => some .devnet
  | _ => none

def ofCode (code : Int) : Network := (ofCode? code).getD (.unassigned code)

def name : Network → String
  | .mainnet => "MAINNET"
  | .testnet => "TESTNET"
  | .devnet => "DEVNET"
  | .unassigned code => Numeral.intText code

def ofName? : String → Option Network
  | "MAINNET" => some .mainnet
  | "TESTNET" => some .testnet
  | "DEVNET" => some .devnet
  | _ => none

end Network

/-- The fields of a profile. -/
inductive ProfileField where
  | picture
  | display
  | bio
  | url
  | username
  | unassigned (code : Int)
deriving DecidableEq

namespace ProfileField

def code : ProfileField → Int
  | .picture => 1
  | .display => 2
  | .bio => 3
  | .url => 5
  | .username => 6
  | .unassigned code => code

def ofCode? : Int → Option ProfileField
  | 1 => some .picture
  | 2 => some .display
  | 3 => some .bio
  | 5 => some .url
  | 6 => some .username
  | _ => none

def ofCode (code : Int) : ProfileField := (ofCode? code).getD (.unassigned code)

def name : ProfileField → String
  | .picture => "PFP"
  | .display => "DISPLAY"
  | .bio => "BIO"
  | .url => "URL"
  | .username => "USERNAME"
  | .unassigned code => Numeral.intText code

/-- The greatest length of a value, in bytes of UTF-8. -/
def limit : ProfileField → Nat
  | .display => 32
  | .username => 16
  | _ => 256

end ProfileField

inductive HashScheme where
  | blake3
  | unassigned (code : Int)
deriving DecidableEq

namespace HashScheme

def code : HashScheme → Int
  | .blake3 => 1
  | .unassigned code => code

def ofCode? : Int → Option HashScheme
  | 1 => some .blake3
  | _ => none

def ofCode (code : Int) : HashScheme := (ofCode? code).getD (.unassigned code)

def name : HashScheme → String
  | .blake3 => "BLAKE3"
  | .unassigned code => Numeral.intText code

end HashScheme

inductive SignatureScheme where
  | ed25519
  | eip712
  | unassigned (code : Int)
deriving DecidableEq

namespace SignatureScheme

def code : SignatureScheme → Int
  | .ed25519 => 1
  | .eip712 => 2
  | .unassigned code => code

def ofCode? : Int → Option SignatureScheme
  | 1 => some .ed25519
  | 2 => some .eip712
  | _ => none

def ofCode (code : Int) : SignatureScheme := (ofCode? code).getD (.unassigned code)

def name : SignatureScheme → String
  | .ed25519 => "ED25519"
  | .eip712 => "EIP712"
  | .unassigned code => Numeral.intText code

end SignatureScheme

end Provisioning
