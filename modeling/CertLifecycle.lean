import CertLifecycle.Cbor.Head
import CertLifecycle.Cbor.Names
import CertLifecycle.Cbor.Reader
import CertLifecycle.Cbor.Writer
import CertLifecycle.Collection.Dictionary
import CertLifecycle.Collection.Distinct
import CertLifecycle.Compliance.Check
import CertLifecycle.Compliance.Decoder
import CertLifecycle.Compliance.Violation
import CertLifecycle.Config.Basic
import CertLifecycle.Fixture.Basic
import CertLifecycle.Ip.Address
import CertLifecycle.Ip.V4
import CertLifecycle.Ip.V6
import CertLifecycle.Json.Basic
import CertLifecycle.Json.Fields
import CertLifecycle.Json.Parser
import CertLifecycle.Json.Printer
import CertLifecycle.Json.Token
import CertLifecycle.Log.Directive
import CertLifecycle.Log.Event
import CertLifecycle.Log.Setup
import CertLifecycle.Manifest.Certificate
import CertLifecycle.Manifest.Meta
import CertLifecycle.Manifest.Names
import CertLifecycle.Manifest.Request
import CertLifecycle.Manifest.Secret
import CertLifecycle.Manifest.Terms
import CertLifecycle.Predicate.Basic
import CertLifecycle.Predicate.Tests
import CertLifecycle.Proofs.Cbor.Head
import CertLifecycle.Proofs.Cbor.Items
import CertLifecycle.Proofs.Cbor.Names
import CertLifecycle.Proofs.Collection.Arrival
import CertLifecycle.Proofs.Collection.History
import CertLifecycle.Proofs.Collection.SameElements
import CertLifecycle.Proofs.Collection.SetComparison
import CertLifecycle.Proofs.Collection.Traversal
import CertLifecycle.Proofs.Compliance.Addresses
import CertLifecycle.Proofs.Compliance.Fixture
import CertLifecycle.Proofs.Compliance.NamesOnly
import CertLifecycle.Proofs.Compliance.Report
import CertLifecycle.Proofs.Compliance.Respelling
import CertLifecycle.Proofs.Fixture.Issuance
import CertLifecycle.Proofs.Ip.Normal
import CertLifecycle.Proofs.Ip.Text
import CertLifecycle.Proofs.Json.Fields
import CertLifecycle.Proofs.Json.RoundTrip
import CertLifecycle.Proofs.Json.Tokens
import CertLifecycle.Proofs.Manifest.RoundTrip
import CertLifecycle.Proofs.Predicate.Flattening
import CertLifecycle.Proofs.Reconcile.Delivery
import CertLifecycle.Proofs.Reconcile.Interleaving
import CertLifecycle.Proofs.Reconcile.Key
import CertLifecycle.Proofs.Reconcile.Owners
import CertLifecycle.Proofs.Reconcile.Queue
import CertLifecycle.Proofs.Reconcile.Run
import CertLifecycle.Proofs.Selector.Composition
import CertLifecycle.Proofs.Selector.Grammar
import CertLifecycle.Proofs.Selector.RoundTrip
import CertLifecycle.Proofs.Store.Filtering
import CertLifecycle.Proofs.Store.History
import CertLifecycle.Proofs.Store.OrderedMap
import CertLifecycle.Proofs.Store.Outage
import CertLifecycle.Proofs.Text.ByteOrder
import CertLifecycle.Proofs.Text.Case
import CertLifecycle.Proofs.Text.Trim
import CertLifecycle.Proofs.Uri.Authority
import CertLifecycle.Proofs.Uri.Domain
import CertLifecycle.Proofs.Uri.Encoding
import CertLifecycle.Proofs.Uri.Host
import CertLifecycle.Proofs.Uri.Reread
import CertLifecycle.Proofs.Uri.Urn
import CertLifecycle.Reconcile.Correlator
import CertLifecycle.Reconcile.Key
import CertLifecycle.Reconcile.Queue
import CertLifecycle.Resource.Certificate
import CertLifecycle.Resource.Duration
import CertLifecycle.Resource.KeyUsage
import CertLifecycle.Resource.Meta
import CertLifecycle.Resource.Names
import CertLifecycle.Resource.Request
import CertLifecycle.Resource.Secret
import CertLifecycle.Resource.StoredObject
import CertLifecycle.Selector.Basic
import CertLifecycle.Selector.Parser
import CertLifecycle.Store.Basic
import CertLifecycle.Store.Error
import CertLifecycle.Store.Lister
import CertLifecycle.Store.Listing
import CertLifecycle.Text.Alphanumeric
import CertLifecycle.Text.Blank
import CertLifecycle.Text.Bytes
import CertLifecycle.Text.Digits
import CertLifecycle.Text.Printable
import CertLifecycle.Text.Quoted
import CertLifecycle.Text.Ranges
import CertLifecycle.Text.Split
import CertLifecycle.Uri.Basic
import CertLifecycle.Uri.Domain
import CertLifecycle.Uri.Encoding
import CertLifecycle.Uri.Host
import CertLifecycle.Uri.Parser
import CertLifecycle.Uri.Segments
