import TagListing.Main
import TagListing.Json.Printer
import TagListing.Tag.Reader
import TagListing.Tag.Decode
import TagListing.Fleet.Address
import TagListing.Rehearsal.Scene
import TagListing.Proofs.Database.Ledger
import TagListing.Proofs.Database.Budget
import TagListing.Proofs.Settings.LastTouch
import TagListing.Proofs.Service.Epoch
import TagListing.Proofs.Tag.Served
import TagListing.Proofs.Fleet.Accounts
import TagListing.Proofs.Database.Steady
import TagListing.Proofs.Settings.Override
import TagListing.Proofs.Http.Guarded
import TagListing.Proofs.Tag.Withheld
import TagListing.Proofs.Database.Fetched
import TagListing.Proofs.Service.Loading
import TagListing.Proofs.Tag.Shapes
import TagListing.Proofs.Fleet.Fares
import TagListing.Proofs.Database.Retirement
import TagListing.Proofs.Settings.Getters
import TagListing.Proofs.Settings.Modes
import TagListing.Proofs.Fleet.Sizes
