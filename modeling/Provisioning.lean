import Provisioning.Bytes
import Provisioning.Bytes.Hex
import Provisioning.Bytes.Base64
import Provisioning.Text.Utf8
import Provisioning.Text.Encoding
import Provisioning.Text.Digit
import Provisioning.Text.Blank
import Provisioning.Text.Case
import Provisioning.Text.Quoted
import Provisioning.Decimal.Shortest
import Provisioning.Decimal.Numeral
import Provisioning.Json.Writer
import Provisioning.Json.Reader
import Provisioning.Json.Display
import Provisioning.Crypto.Sha512
import Provisioning.Crypto.Hmac
import Provisioning.Crypto.Keccak
import Provisioning.Crypto.Blake3
import Provisioning.Crypto.Secp256k1
import Provisioning.Crypto.Ed25519
import Provisioning.Json.Access
import Provisioning.Message
import Provisioning.Failure
import Provisioning.Ethereum.Abi
import Provisioning.Signer.Custody
import Provisioning.Decimal.Arithmetic
import Provisioning.Http
import Provisioning.Http.Location
import Provisioning.Clock
import Provisioning.Contract.Ledger
import Provisioning.Session
import Provisioning.Settings
import Provisioning.Contract.Call
import Provisioning.Hub.Credentials
import Provisioning.Run
import Provisioning.Settings.Reader
import Provisioning.Settings.Display
import Provisioning.Contract.Interface
import Provisioning.Report
import Provisioning.Failure.Parts
import Provisioning.Ethereum.FeeTransaction
import Provisioning.Contract.Errand
import Provisioning.Contract.Invocation
import Provisioning.Contract.EventLog
import Provisioning.Contract.Remote
import Provisioning.Message.Amend
import Provisioning.Http.Client
import Provisioning.CommandLine
import Provisioning.Main
import Provisioning.Http.Authority
import Provisioning.Text.Parts
import Provisioning.Proofs.Bytes.Base64
import Provisioning.Proofs.Json.Numeral
import Provisioning.Proofs.Json.RoundTrip
import Provisioning.Proofs.Json.SortKeys
import Provisioning.Proofs.Message.Typed
import Provisioning.Proofs.Message.Wire
import Provisioning.Proofs.Session.Runs
import Provisioning.Proofs.Session.Talk
import Provisioning.Proofs.Session.Exchange
import Provisioning.Proofs.Contract.Ledger
import Provisioning.Proofs.Session.Chain
import Provisioning.Proofs.Run.Account
import Provisioning.Proofs.Run.Authorization
import Provisioning.Proofs.Run.Publication
import Provisioning.Proofs.Run.Stages
import Provisioning.Proofs.Run.Submission
import Provisioning.Proofs.Run.Resumption
import Provisioning.Proofs.Http.Location
import Provisioning.Proofs.Hub.Listing
import Provisioning.Proofs.Run.Settling
import Provisioning.Proofs.Json.Reading
import Provisioning.Proofs.Json.Sameness
import Provisioning.Proofs.Message.Canonical
import Provisioning.Proofs.Message.Commitment
import Provisioning.Proofs.Hub.Rejection
import Provisioning.Proofs.Run.SingleSubmission
import Provisioning.Proofs.Bytes.Positional
import Provisioning.Proofs.Ethereum.Abi
import Provisioning.Proofs.Signer.KeyRequest
import Provisioning.Proofs.Contract.KeyAddition
import Provisioning.Proofs.Run.NameClaim
import Provisioning.Proofs.Run.Polling
import Provisioning.Proofs.Run.Registration
import Provisioning.Proofs.Run.RequestedKey
import Provisioning.Proofs.Contract.History
import Provisioning.Proofs.Contract.Errand
import Provisioning.Proofs.Contract.NodeTransaction
import Provisioning.Proofs.Session.Moves
import Provisioning.Proofs.Run.StageMoves
import Provisioning.Proofs.Run.Itinerary
import Provisioning.Proofs.Session.Performs
import Provisioning.Proofs.Signer.NameProof
import Provisioning.Proofs.Run.Accepted
import Provisioning.Proofs.Run.Unhindered
import Provisioning.Proofs.CommandLine.DryRun
import Provisioning.Proofs.Decimal.Shortest
import Provisioning.Proofs.Json.Float
import Provisioning.Proofs.Session.Abreast
import Provisioning.Proofs.Run.Credentials
import Provisioning.Proofs.Run.ChainFailure
import Provisioning.Proofs.Contract.Verdict
import Provisioning.Proofs.Contract.Attribution
import Provisioning.Proofs.Session.Calm
import Provisioning.Proofs.Run.Documented
import Provisioning.Proofs.Run.NameText
import Provisioning.Proofs.CommandLine.ExitCode
import Provisioning.Proofs.Message.Equality
import Provisioning.Proofs.Run.BoundName
import Provisioning.Proofs.Hub.FirstCredential
import Provisioning.Proofs.Message.WellFormed
import Provisioning.Proofs.Http.Response
import Provisioning.Proofs.Json.CanonicalForm
import Provisioning.Proofs.Message.WireForm
import Provisioning.Proofs.Signer.Binding
import Provisioning.Proofs.Message.Username
import Provisioning.Proofs.Run.FallbackName
import Provisioning.Proofs.Hub.SignerEvents
import Provisioning.Proofs.Settings.Endpoints
