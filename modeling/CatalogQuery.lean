import CatalogQuery.Filter.Form
import CatalogQuery.Main
import CatalogQuery.Proofs.Pagination.ChainWalk
import CatalogQuery.Proofs.Session.PinnedBody
import CatalogQuery.Proofs.Text.Digits
import CatalogQuery.Proofs.Timestamp.Text
import CatalogQuery.Proofs.Filter.Reading
import CatalogQuery.Proofs.Filter.WireForm
import CatalogQuery.Proofs.Filter.FormRows
import CatalogQuery.Proofs.Search.Compilation
import CatalogQuery.Proofs.Session.Logbook
import CatalogQuery.Proofs.Session.Place
import CatalogQuery.Proofs.Pagination.Provenance
import CatalogQuery.Proofs.Pagination.Description
import CatalogQuery.Proofs.Pagination.ModeCoherence
import CatalogQuery.Proofs.Pagination.HistoryReach
import CatalogQuery.Proofs.Pagination.NumberedWalk
import CatalogQuery.Proofs.Pagination.Standing
import CatalogQuery.Proofs.Session.Replay
import CatalogQuery.Proofs.Store.PageAddress
import CatalogQuery.Proofs.Store.Isolation
import CatalogQuery.Proofs.Store.ReservedNames
import CatalogQuery.Proofs.Session.Continuation
import CatalogQuery.Proofs.Command.Search
import CatalogQuery.Proofs.Session.Reopening
import CatalogQuery.Proofs.Pagination.HistoryContent
import CatalogQuery.Proofs.Pagination.PagerFlags
import CatalogQuery.Proofs.Filter.RowMeaning
import CatalogQuery.Proofs.Store.AddressReading
import CatalogQuery.Proofs.Filter.PredicateFields
import CatalogQuery.Proofs.Session.Rejection
import CatalogQuery.Proofs.Store.AbsentNames
import CatalogQuery.Proofs.Command.ServedList
import CatalogQuery.Proofs.Pagination.Envelope
import CatalogQuery.Proofs.Store.Subscriptions
