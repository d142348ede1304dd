import Lexicon.Description
import Lexicon.Json.Tags
import Lexicon.Loader.Journal
import Lexicon.Proofs.Region.Grammar
import Lexicon.Session
import Lexicon.Settings.Load
import Lexicon.Region.Draft
import Lexicon.Proofs.Region.Draft
import Lexicon.Proofs.Storage.Extent
import Lexicon.Proofs.Volume.Written
import Lexicon.Proofs.Catalog.Sources
import Lexicon.Proofs.Loader.Protocol
import Lexicon.Proofs.Loader.Resolution
import Lexicon.Proofs.Search.Ranking
import Lexicon.Proofs.Search.Merging
import Lexicon.Proofs.Volume.Listing
import Lexicon.Proofs.Dictionary.Leaves
import Lexicon.Proofs.Dictionary.Listing
import Lexicon.Proofs.Dictionary.Merging
import Lexicon.Proofs.Collection.Ledger
import Lexicon.Proofs.Session.LifeCycle
import Lexicon.Proofs.Settings.Precedence
import Lexicon.Proofs.Loader.Repetition
import Lexicon.Proofs.Locale.Tag
import Lexicon.Proofs.Loader.Independence
import Lexicon.Proofs.Volume.Ranking
import Lexicon.Proofs.Region.Cuts
import Lexicon.Proofs.Volume.Reopening
import Lexicon.Proofs.Dictionary.Lookups
import Lexicon.Proofs.Text.Casing
import Lexicon.Proofs.Text.Trimming
import Lexicon.Proofs.Locale.Grammar
import Lexicon.Proofs.Json.Quoted
import Lexicon.Proofs.Locale.Spelling
import Lexicon.Proofs.Bundle.Lookup
import Lexicon.Proofs.Dictionary.Appending
import Lexicon.Proofs.Storage.Quarantine
import Lexicon.Proofs.Catalog.Enumeration
import Lexicon.Proofs.Collection.Operations
import Lexicon.Proofs.Dictionary.Silence
import Lexicon.Proofs.Json.Record
import Lexicon.Proofs.Settings.Partial
import Lexicon.Proofs.Catalog.Naming
import Lexicon.Proofs.Region.Unambiguous
import Lexicon.Proofs.Catalog.Package
