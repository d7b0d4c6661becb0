import Provisioning.Json.Display
import Provisioning.Settings

/-!
# Showing settings

The text of settings names every field. Secrets are shown by a mark that tells only
whether there is one.
-/

namespace Provisioning.Settings

/-- A secret: ten stars, or nothing if it is empty. -/
def secretText (secret : String) : String :=
  let shown := if secret = "" then "" else "**********"
  s!"SecretStr({Text.quoted shown})"

/-- What is shown if there is no value. -/
def optionText (shown : String → String) : Option String → String
  | some text => shown text
  | none => "None"

def networkText (network : Network) : String :=
  s!"<Network.{network.name}: {Numeral.intText network.code}>"

/-- The fields with their values, secrets in clear. -/
def document (settings : Settings) : Json :=
  let optional (value : Option String) : Json := (value.map Json.str).getD .null
  .obj [("rpc_url", .str settings.nodeUrl), ("custody_private_key", .str settings.custodyKey),
    ("hub_url", .str settings.hubUrl), ("hub_rpc_auth", optional settings.hubCredentials),
    ("recovery_address", optional settings.recoveryAddress),
    ("network", .int settings.network.code), ("chain_id", .int settings.chainId),
    ("fname_url", .str settings.nameUrl), ("id_gateway_address", .str settings.accountGateway),
    ("id_registry_address", .str settings.accountRegistry),
    ("key_gateway_address", .str settings.keyGateway),
    ("key_registry_address", .str settings.keyRegistry),
    ("signer_settle_seconds", .float settings.settleSeconds),
    ("poll_signer_visibility", .bool settings.pollsVisibility),
    ("signer_visibility_timeout", .float settings.visibilityTimeout),
    ("signer_poll_interval", .float settings.pollInterval),
    ("verify_supplied_signer", .bool settings.verifiesSuppliedKey),
    ("http_timeout", .float settings.httpTimeout),
    ("tx_timeout", .float settings.transactionTimeout)]

/-- The fields with the texts of their values. -/
def fieldTexts (settings : Settings) : List (String × String) :=
  [("rpc_url", Text.quoted settings.nodeUrl),
    ("custody_private_key", secretText settings.custodyKey),
    ("hub_url", Text.quoted settings.hubUrl),
    ("hub_rpc_auth", optionText secretText settings.hubCredentials),
    ("recovery_address", optionText Text.quoted settings.recoveryAddress),
    ("network", networkText settings.network),
    ("chain_id", Numeral.intText settings.chainId),
    ("fname_url", Text.quoted settings.nameUrl),
    ("id_gateway_address", Text.quoted settings.accountGateway),
    ("id_registry_address", Text.quoted settings.accountRegistry),
    ("key_gateway_address", Text.quoted settings.keyGateway),
    ("key_registry_address", Text.quoted settings.keyRegistry),
    ("signer_settle_seconds", Decimal.floatText settings.settleSeconds),
    ("poll_signer_visibility", Json.boolText settings.pollsVisibility),
    ("signer_visibility_timeout", Decimal.floatText settings.visibilityTimeout),
    ("signer_poll_interval", Decimal.floatText settings.pollInterval),
    ("verify_supplied_signer", Json.boolText settings.verifiesSuppliedKey),
    ("http_timeout", Decimal.floatText settings.httpTimeout),
    ("tx_timeout", Decimal.floatText settings.transactionTimeout)]

/-- The text of settings. -/
def text (settings : Settings) : String :=
  let fields := settings.fieldTexts.map fun (name, value) => name ++ "=" ++ value
  "ProvisioningConfig(" ++ String.intercalate ", " fields ++ ")"

end Provisioning.Settings
