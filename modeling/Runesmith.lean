import Runesmith.Main
import Runesmith.Proofs.Bytes
import Runesmith.Proofs.Script
import Runesmith.Proofs.Varint
import Runesmith.Proofs.Rune.Id
import Runesmith.Proofs.Rune.Name
import Runesmith.Proofs.Rune.Spaced
import Runesmith.Proofs.Entry
import Runesmith.Proofs.Runestone.Fields
import Runesmith.Proofs.Runestone.Message
import Runesmith.Proofs.Runestone.Decipher
import Runesmith.Proofs.Runestone.RoundTrip
import Runesmith.Proofs.Runestone.Acceptance
import Runesmith.Proofs.Observation
import Runesmith.Proofs.Mint.Stages
import Runesmith.Proofs.Mint.Broadcast
import Runesmith.Proofs.Node
import Runesmith.Proofs.Wallet.Locking
import Runesmith.Proofs.Wallet.LockSet
import Runesmith.Proofs.Wallet.Vetting
import Runesmith.Proofs.Wallet.Locked
import Runesmith.Proofs.Mint.Guarded
import Runesmith.Proofs.Mint.Spendable
import Runesmith.Proofs.Transaction.Reader
import Runesmith.Proofs.Transaction.RoundTrip
import Runesmith.Proofs.Completion
import Runesmith.Proofs.FeeRate
import Runesmith.Proofs.Runestone.Mint
import Runesmith.Proofs.Mint.Honest
import Runesmith.Proofs.Wallet.OwnLocks
import Runesmith.Proofs.Mint.Session
import Runesmith.Proofs.Text
import Runesmith.Proofs.Address.Checksum
import Runesmith.Proofs.Address.Regroup
import Runesmith.Proofs.Address.Encoding
import Runesmith.Proofs.Address.Witness
import Runesmith.Proofs.Address.Base58
import Runesmith.Proofs.Address.Legacy
import Runesmith.Proofs.Mint.Book
import Runesmith.Proofs.Mint.Order
import Runesmith.Proofs.Runestone.WellFormed
import Runesmith.Proofs.Mint.Unfunded
import Runesmith.Proofs.Runestone.Reordering
import Runesmith.Proofs.Config
import Runesmith.Proofs.Failing
import Runesmith.Proofs.Mint.Refusals
import Runesmith.Proofs.Mint.Judging
import Runesmith.Proofs.Node.Error
import Runesmith.Proofs.Completion.Replies
import Runesmith.Proofs.Runestone.UnknownTags
import Runesmith.Proofs.Address.Typos
import Runesmith.Proofs.Varint.Code
import Runesmith.Proofs.Transaction.Grammar
import Runesmith.Proofs.Number.Decimal
import Runesmith.Proofs.Number.Figure
import Runesmith.Proofs.Amount
import Runesmith.Proofs.Script.Walk
import Runesmith.Proofs.Mint.Skeleton
import Runesmith.Proofs.Results
import Runesmith.Proofs.Number.Binary64
import Runesmith.Proofs.Amount.Faults
import Runesmith.Proofs.Mint.Request
import Runesmith.Proofs.Entry.Reading
import Runesmith.Proofs.Index
import Runesmith.Proofs.Pile
import Runesmith.Proofs.Address.Dust
import Runesmith.Proofs.Mint.Fitting
import Runesmith.Proofs.Index.Sync
import Runesmith.Proofs.Rune.Delta
import Runesmith.Proofs.Address.Lossless
import Runesmith.Proofs.Config.Spelling
import Runesmith.Proofs.Config.Blank
import Runesmith.Proofs.Config.Respelling
import Runesmith.Proofs.Text.Point
import Runesmith.Proofs.Json.Writing
import Runesmith.Proofs.Mint.Report
import Runesmith.Proofs.Mint.Exclusion
