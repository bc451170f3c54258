import Keyguard.Main
import Keyguard.Store.Session
import Keyguard.Proofs.Files.Replacing
import Keyguard.Proofs.Files.Places
import Keyguard.Proofs.Files.Trail
import Keyguard.Proofs.Files.Contents
import Keyguard.Proofs.Credential.Ledger
import Keyguard.Proofs.Credential.LostTable
import Keyguard.Proofs.Credential.SizeWrites
import Keyguard.Proofs.Settings.Assignments
import Keyguard.Proofs.Store.Influence
import Keyguard.Proofs.Settings.Rows
import Keyguard.Proofs.Store.Isolation
import Keyguard.Proofs.Settings.Importing
import Keyguard.Proofs.Decimal.Shortest
import Keyguard.Proofs.Json.Numerals
import Keyguard.Proofs.Json.Reading
import Keyguard.Proofs.Gesture.Rereading
import Keyguard.Proofs.Gesture.Samples
import Keyguard.Proofs.Files.Writing
import Keyguard.Proofs.Credential.HashWrites
import Keyguard.Proofs.Files.Lasting
import Keyguard.Proofs.Gesture.RoundTrip
import Keyguard.Proofs.Store.Twins
import Keyguard.Proofs.Store.Reopening
import Keyguard.Proofs.Command.Tasks
import Keyguard.Proofs.Settings.Exports
import Keyguard.Proofs.Command.Sequences
import Keyguard.Proofs.Settings.Copying
import Keyguard.Proofs.Settings.Transactions
import Keyguard.Proofs.Store.Removal
import Keyguard.Proofs.Store.IdleLocks
import Keyguard.Proofs.Text.ByteOrder
import Keyguard.Proofs.Decimal.Fields
import Keyguard.Proofs.Decimal.Order
import Keyguard.Proofs.Sorting
import Keyguard.Proofs.Gesture.Unlocking
import Keyguard.Proofs.Settings.Denoted
import Keyguard.Proofs.Settings.LastWrites
import Keyguard.Proofs.Settings.Integers
import Keyguard.Proofs.Files.Collisions
import Keyguard.Proofs.Store.Migrating
import Keyguard.Proofs.Json.Texts
import Keyguard.Proofs.Configuration
