import EntitySync.Entity
import EntitySync.Files.Tree
import EntitySync.Main
import EntitySync.Proofs.RecordIdentity
import EntitySync.Proofs.Merging
import EntitySync.Proofs.Deleting
import EntitySync.Proofs.BatchPatch
import EntitySync.Proofs.UniqueIds
import EntitySync.Proofs.FirstRejection
import EntitySync.Proofs.Acceptance
import EntitySync.Proofs.Replay
import EntitySync.Proofs.LongestRun
import EntitySync.Proofs.Session
import EntitySync.Proofs.TokenHistory
import EntitySync.Proofs.Independence
import EntitySync.Proofs.Resumption
import EntitySync.Proofs.RoundTrip
import EntitySync.Proofs.Lockstep
import EntitySync.Proofs.Refusal
import EntitySync.Proofs.Json.Bytes
import EntitySync.Proofs.Json.Numeral
import EntitySync.Proofs.Json.Literal
import EntitySync.Proofs.Json.Printed
import EntitySync.Proofs.Json.Parsed
import EntitySync.Proofs.Machine
import EntitySync.Proofs.Concordance
import EntitySync.Proofs.Printable
import EntitySync.Proofs.Chaining
import EntitySync.Proofs.Decoding
import EntitySync.Proofs.Encoding
import EntitySync.Proofs.Commutation
import EntitySync.Proofs.Frame
import EntitySync.Proofs.TypedView
import EntitySync.Proofs.EndpointUrl
import EntitySync.Proofs.NormalForm
import EntitySync.Proofs.Confinement
import EntitySync.Proofs.Layers
import EntitySync.Proofs.Authorization
import EntitySync.Proofs.Login
import EntitySync.Proofs.Disclosure
import EntitySync.Proofs.Agreement
import EntitySync.Proofs.EmptyToken
import EntitySync.Proofs.RecordDeletion
import EntitySync.Proofs.RecordFields
