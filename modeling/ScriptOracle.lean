import ScriptOracle.CommandLine.Arguments
import ScriptOracle.CommandLine.Command
import ScriptOracle.CommandLine.Session
import ScriptOracle.Crypto.Aes
import ScriptOracle.Crypto.Blake3
import ScriptOracle.Crypto.Chain
import ScriptOracle.Crypto.Curve
import ScriptOracle.Crypto.Sha256
import ScriptOracle.Crypto.Keccak
import ScriptOracle.Crypto.Sha512
import ScriptOracle.Crypto.Signature
import ScriptOracle.Word256
import ScriptOracle.Gate.Basic
import ScriptOracle.Gate.Call
import ScriptOracle.Gate.Outcome
import ScriptOracle.Gate.Refusal
import ScriptOracle.Gate.Transport
import ScriptOracle.Json.Basic
import ScriptOracle.Json.Printer
import ScriptOracle.Json.Reader
import ScriptOracle.Json.Record
import ScriptOracle.Main
import ScriptOracle.Net.Client
import ScriptOracle.Number.Decimal
import ScriptOracle.Number.Double
import ScriptOracle.Number.Layout
import ScriptOracle.Number.Shortest
import ScriptOracle.Proofs.Gate.Abort
import ScriptOracle.Proofs.Gate.Accounts
import ScriptOracle.Proofs.Gate.Addresses
import ScriptOracle.Proofs.Gate.Quota
import ScriptOracle.Proofs.Sandbox.Abort
import ScriptOracle.Proofs.Sandbox.Audit
import ScriptOracle.Proofs.Sandbox.Breakdown
import ScriptOracle.Proofs.Sandbox.Isolation
import ScriptOracle.Proofs.Sandbox.Response
import ScriptOracle.Proofs.Script.Answers
import ScriptOracle.Proofs.Secrets.Agreement
import ScriptOracle.Proofs.Secrets.Cipher
import ScriptOracle.Proofs.Secrets.Package
import ScriptOracle.Proofs.Word256.RoundTrip
import ScriptOracle.ReturnType
import ScriptOracle.Sandbox.Disk
import ScriptOracle.Sandbox.Fault
import ScriptOracle.Sandbox.Lock
import ScriptOracle.Sandbox.Request
import ScriptOracle.Sandbox.Runner
import ScriptOracle.Sandbox.Scratch
import ScriptOracle.Settings
import ScriptOracle.Sandbox.Submission
import ScriptOracle.Script.Capability
import ScriptOracle.Script.Convert
import ScriptOracle.Script.Data
import ScriptOracle.Script.Eval
import ScriptOracle.Script.Grammar
import ScriptOracle.Script.Heap
import ScriptOracle.Script.Machine
import ScriptOracle.Script.Modules
import ScriptOracle.Script.Native
import ScriptOracle.Script.Numeral
import ScriptOracle.Script.Operator
import ScriptOracle.Script.Result
import ScriptOracle.Script.Syntax
import ScriptOracle.Script.Task
import ScriptOracle.Script.Token
import ScriptOracle.Script.Units
import ScriptOracle.Script.Value
import ScriptOracle.Secrets.Agreement
import ScriptOracle.Secrets.Cipher
import ScriptOracle.Secrets.Config
import ScriptOracle.Secrets.Envelope
import ScriptOracle.Secrets.Fault
import ScriptOracle.Secrets.Key
import ScriptOracle.Secrets.Package
import ScriptOracle.Secrets.Signing
import ScriptOracle.Secrets.Verifier
import ScriptOracle.Service.MediaType
import ScriptOracle.Service.Problem
import ScriptOracle.Service.Router
import ScriptOracle.Text.Base64
import ScriptOracle.Text.Case
import ScriptOracle.Text.Hexadecimal
import ScriptOracle.Text.Letter
import ScriptOracle.Text.Shown
import ScriptOracle.Text.Utf8
import ScriptOracle.Url.Basic
import ScriptOracle.Url.Form
import ScriptOracle.Url.Host
import ScriptOracle.Url.Percent
import ScriptOracle.Url.Reader
import ScriptOracle.Proofs.Net.Traffic
import ScriptOracle.Proofs.Sandbox.Directories
import ScriptOracle.Proofs.Sandbox.Lock
import ScriptOracle.Proofs.Sandbox.Scratch
import ScriptOracle.Proofs.Sandbox.Submission
import ScriptOracle.Proofs.CommandLine.Session
import ScriptOracle.Proofs.Service.Building
import ScriptOracle.Proofs.Service.Evaluate
import ScriptOracle.Proofs.Script.Pleas
import ScriptOracle.Proofs.Gate.Omissions
import ScriptOracle.Proofs.Gate.Caps
import ScriptOracle.Proofs.Gate.Failures
import ScriptOracle.Proofs.Secrets.Joining
import ScriptOracle.Proofs.Secrets.Order
import ScriptOracle.Proofs.Secrets.Rigidity
import ScriptOracle.Proofs.Word256.Doubles
import ScriptOracle.Proofs.Sandbox.Limits
import ScriptOracle.Proofs.Secrets.Grammar
import ScriptOracle.Proofs.Secrets.Forethought
import ScriptOracle.Proofs.Sandbox.Grammar
import ScriptOracle.Proofs.Sandbox.Rereading
import ScriptOracle.Proofs.Secrets.Fetching
import ScriptOracle.Proofs.Net.Failures
import ScriptOracle.Proofs.Net.Capping
import ScriptOracle.Proofs.Gate.Spelling
import ScriptOracle.Proofs.Script.Access
import ScriptOracle.Proofs.Url.Form
import ScriptOracle.Proofs.Gate.Merging
import ScriptOracle.Proofs.Script.Forms
import ScriptOracle.Proofs.Script.Progress
import ScriptOracle.Proofs.Script.Wrapping
import ScriptOracle.Proofs.Script.ArrayLike
import ScriptOracle.Proofs.Script.Buffer
