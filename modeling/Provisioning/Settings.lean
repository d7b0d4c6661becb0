import Provisioning.Decimal.Arithmetic
import Provisioning.Message.Code

/-!
# Settings

What a session is told before it begins: where the node, the hub and the naming
authority are, which key owns the account, and how a fresh key is waited for.
-/

namespace Provisioning

structure Settings where
  nodeUrl : String
  custodyKey : String
  hubUrl : String
  /-- Pairs of a user and a password for a restricted hub. -/
  hubCredentials : Option String
  /-- Where an account can be recovered to; the owner itself if not given. -/
  recoveryAddress : Option String
  network : Network
  chainId : Int
  nameUrl : String
  accountGateway : String
  accountRegistry : String
  keyGateway : String
  keyRegistry : String
  /-- How long a fresh key is left alone, in seconds. -/
  settleSeconds : Binary64
  /-- Whether the hub is asked if it has seen a fresh key. -/
  pollsVisibility : Bool
  visibilityTimeout : Binary64
  pollInterval : Binary64
  /-- Whether a given key is looked up in the key registry. -/
  verifiesSuppliedKey : Bool
  httpTimeout : Binary64
  transactionTimeout : Binary64

namespace Settings

/-- The settings that hold unless others are given. -/
def ofEndpoints (nodeUrl custodyKey hubUrl : String) : Settings where
  nodeUrl := nodeUrl
  custodyKey := custodyKey
  hubUrl := hubUrl
  hubCredentials := none
  recoveryAddress := none
  network := .mainnet
  chainId := 10
  nameUrl := "https://fnames.farcaster.xyz"
  accountGateway := "0x00000000fc25870c6ed6b6c7e41fb078b7656f69"
  accountRegistry := "0x00000000fc6c5f01fc30151999387bb99a9f489b"
  keyGateway := "0x00000000fc56947c7e7183f8ca4b62398caadf0b"
  keyRegistry := "0x00000000fc1237824fb747abde0ff18990e59b7e"
  settleSeconds := Binary64.ofInt 30
  pollsVisibility := false
  visibilityTimeout := Binary64.ofInt 60
  pollInterval := Binary64.ofInt 2
  verifiesSuppliedKey := false
  httpTimeout := Binary64.ofInt 30
  transactionTimeout := Binary64.ofInt 120

end Settings

end Provisioning
