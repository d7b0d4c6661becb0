import Provisioning.CommandLine.Options
import Provisioning.Run
import Provisioning.Settings.Reader

/-!
# Runs from the command line

A command line provisions the account of the settings, or goes through a dry run:
the same steps for a well-known development key, with a ledger in memory and with
services that accept everything. What was brought about is printed. A fresh key is
printed also if the run fails after it was authorized, so that it is not lost.
-/

namespace Provisioning.CommandLine

open Session

/-- The custody key of dry runs; everybody knows it. -/
def developmentKey : String :=
  "0xac0974bec39a17e36ba4a6b4d238ff944bacb478cbed5efcae784d7bf4f2ff80"

/-- What the settings of a dry run begin with. -/
def dryRunSettings : List (String × Json) :=
  [("rpc_url", .str "http://localhost:8545"), ("custody_private_key", .str developmentKey),
    ("hub_url", .str "http://localhost:3381"), ("signer_settle_seconds", .int 0)]

/-- A ledger on which the owner has a balance of one unit, and an account costs a
thousandth of it. -/
def dryRunLedger (owner : String) : Contract.Ledger :=
  .create owner (10 ^ 18) (10 ^ 15) 1000

/-- A session that begins, with answers that are queued for a dry run. -/
def opening (clock : Clock) (seeds : List Bytes) (queue : List Answer) : Session :=
  ⟨clock, seeds, 0, .ledger (dryRunLedger ""), { Peers.accepting with queue }, [], none⟩

/-- The provisioner of the settings; the session gets the chain that goes with it. -/
def setUp (dryRun : Bool) (sources : Settings.Sources) : Action Provisioner := do
  let given := if dryRun then dryRunSettings else []
  let settings ← Chain.settle (Settings.ofSources { sources with given })
  let provisioner ← require (Provisioner.ofSettings settings)
  if dryRun then Chain.setChain (.ledger (dryRunLedger provisioner.custody.address))
  else Chain.setChain (.node (← require (Contract.Node.ofSettings settings [])))
  return provisioner

def print (line : String) : Action Unit :=
  record (.printed line)

/-- What a line begins with that holds the secret of a signer. -/
def keyLabel : String := "signer private key (store it): "

/-- Prints the secret of a signer. -/
def printKey (signer : DelegatedSigner) : Action Unit :=
  print (keyLabel ++ Hex.marked signer.seed)

/-- A text with blanks behind it up to a width. -/
def fill (width : Nat) (text : String) : String :=
  text ++ String.ofList (List.replicate (width - text.length) ' ')

def publicationLine (publication : Publication) : String :=
  "  " ++ fill 14 publication.type.name ++ " " ++ Hex.marked publication.hash

/-- What is printed of a run, but for the key. -/
def lines (done : Provisioned) : List String :=
  ["fid:    " ++ Numeral.intText done.account, "owner:  " ++ done.owner,
    "name:   " ++ done.name.text, "signer: " ++ done.signer.keyText] ++
    done.publications.map publicationLine

/-- Runs, and prints what came of it. The key is printed unless it was given. -/
def provision (options : Options) (provisioner : Provisioner) : Action Unit := do
  let key := options.signerKey.map fun text => SigningKey.material (.str text)
  let done ← tryCatch (provisioner.run key (.str options.text)) fun failure => do
    match (← get).kept with
    | some signer => if key.isNone then printKey signer
    | none => pure ()
    throw failure
  (lines done).forM print
  if key.isNone then printKey done.signer

/-- Whether a failure is reported in one line. -/
def isReported : Failure → Bool
  | .fault fault => fault.isValue
  | _ => true

/-- Does what the options say, and passes on what fails. -/
def attempt (options : Options) (sources : Settings.Sources) : Action Nat := do
  let provisioner ← setUp options.dryRun sources
  provision options provisioner
  return 0

/-- Does what the options say; the result is the exit code. -/
def perform (options : Options) (sources : Settings.Sources) : Action Nat :=
  tryCatch (attempt options sources) fun failure => do
    if isReported failure then
      note .error .commandLine failure.message
      return 1
    else throw failure

/-- How a command line ends. -/
inductive Ending where
  /-- It was not understood, or asked for help. -/
  | refused (code : Nat)
  | done (code : Nat)
  /-- A fault that is not reported. -/
  | failed (failure : Failure)

/-- Runs a command line in a session. -/
def execute (command : Command) (sources : Settings.Sources) (session : Session) :
    Ending × Session :=
  match command with
  | .help => (.refused 0, session)
  | .unusable => (.refused 2, session)
  | .run options =>
    match StateT.run (ExceptT.run (perform options sources)) session with
    | (.ok code, session) => (.done code, session)
    | (.error failure, session) => (.failed failure, session)

/-- The least level of the notes that are shown. -/
def leastLevel : Command → Level
  | .run options => if options.verbose then .debug else .info
  | _ => .info

end Provisioning.CommandLine
