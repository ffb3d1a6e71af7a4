import Checkout.Events.Channel
import Checkout.Events.Hooks
import Checkout.Gateway.Log
import Checkout.Main
import Checkout.Rehearsal.DrillReader
import Checkout.Rehearsal.Summary
import Checkout.Rehearsal.WorkReader
import Checkout.Settings.Json
import Checkout.Proofs.Money
import Checkout.Proofs.Number.Calculation
import Checkout.Proofs.Number.Width
import Checkout.Proofs.Text
import Checkout.Proofs.Money.Text
import Checkout.Proofs.Money.Steps
import Checkout.Proofs.Json.Reader
import Checkout.Proofs.Store.Calm
import Checkout.Proofs.Store.Effects
import Checkout.Proofs.Store.Accounts
import Checkout.Proofs.Store.Catalog
import Checkout.Proofs.Objections
import Checkout.Proofs.Store.Placing
import Checkout.Proofs.Store.Progress
import Checkout.Proofs.Store.Cancelling
import Checkout.Proofs.Store.Honest
import Checkout.Proofs.Store.Change
import Checkout.Proofs.Store.Keeping.Rows
import Checkout.Proofs.Store.Keeping.Goods
import Checkout.Proofs.Store.Keeping.Ledger
import Checkout.Proofs.Store.Keeping
import Checkout.Proofs.Shop.Operation
import Checkout.Proofs.Shop.Run
import Checkout.Proofs.Shop.Turn
import Checkout.Proofs.Shop.Creation
import Checkout.Proofs.Shop.Ledger
import Checkout.Proofs.Shop.Origin
import Checkout.Proofs.Shop.Stock
import Checkout.Proofs.Shop.Coupons
import Checkout.Proofs.Shop.Conduct
import Checkout.Proofs.Shop.Absence
import Checkout.Proofs.Shop.Settling
import Checkout.Proofs.History
import Checkout.Proofs.Gateway.Moves
import Checkout.Proofs.Gateway.Runs
import Checkout.Proofs.Gateway.Trial
import Checkout.Proofs.Shop.Cancellation
import Checkout.Proofs.Shop.Payments
import Checkout.Proofs.Shop.News
import Checkout.Proofs.Shop.Moves
import Checkout.Proofs.Shop.Agreement
import Checkout.Proofs.Shop.Grounds
import Checkout.Proofs.Shop.Verification
import Checkout.Proofs.Shop.Opening
import Checkout.Proofs.Shop.Stage
import Checkout.Proofs.Shop.Wholeness
import Checkout.Proofs.Shop.Answering
import Checkout.Proofs.Shop.Asking
import Checkout.Proofs.Shop.Lifecycle
import Checkout.Proofs.Shop.Tidings
import Checkout.Proofs.Shop.Announcements
import Checkout.Proofs.Shop.Delivery
import Checkout.Proofs.Shop.Redelivery
import Checkout.Proofs.Gateway.Places
import Checkout.Proofs.Gateway.Window
import Checkout.Proofs.Gateway.Attempts
import Checkout.Proofs.Store.Halves
import Checkout.Proofs.Store.Race
import Checkout.Proofs.Card
import Checkout.Proofs.Card.Masking
import Checkout.Proofs.Shop.Secrecy
import Checkout.Proofs.Store.Hiding
import Checkout.Proofs.Shop.Ownership
import Checkout.Proofs.Store.Returns
import Checkout.Proofs.Shop.Archival
import Checkout.Proofs.Store.Outlook
import Checkout.Proofs.Store.Footprint
import Checkout.Proofs.Shop.Trade
import Checkout.Proofs.Shop.Independence
import Checkout.Proofs.Messages
import Checkout.Proofs.Pricing.Exact
import Checkout.Proofs.Pricing.Growth
import Checkout.Proofs.Events.Handling
import Checkout.Proofs.Gateway.Replies
import Checkout.Proofs.Shop.Acceptance
import Checkout.Proofs.Shop.Strides
import Checkout.Proofs.Shop.Sweep
import Checkout.Proofs.Shop.Points
import Checkout.Proofs.Settings
