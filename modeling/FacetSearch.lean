import FacetSearch.Numeric.Numeral
import FacetSearch.Text.Blank
import FacetSearch.Text.Split
import FacetSearch.Text.Word
import FacetSearch.Json.Writer
import FacetSearch.Json.Shape
import FacetSearch.Json.Record
import FacetSearch.Query
import FacetSearch.Settings
import FacetSearch.Clause.Matching
import FacetSearch.Clause.OfFilters
import FacetSearch.Document
import FacetSearch.Store
import FacetSearch.Response
import FacetSearch.Engine
import FacetSearch.Token
import FacetSearch.Main
import FacetSearch.Proofs.Acceptance
import FacetSearch.Proofs.Totals
import FacetSearch.Proofs.Prediction
import FacetSearch.Proofs.Failure
import FacetSearch.Proofs.Buckets
import FacetSearch.Proofs.Counters
import FacetSearch.Proofs.Order
import FacetSearch.Proofs.Prices
import FacetSearch.Proofs.RangeSelection
import FacetSearch.Proofs.Levels
import FacetSearch.Proofs.Pages
import FacetSearch.Proofs.FilterOrder
import FacetSearch.Proofs.PriceSelection
import FacetSearch.Proofs.Hits
import FacetSearch.Proofs.FacetIndependence
import FacetSearch.Proofs.Ranking
import FacetSearch.Proofs.DocumentOrder
import FacetSearch.Proofs.JsonEquality
import FacetSearch.Proofs.Rendering
import FacetSearch.Proofs.QueryRoundTrip
import FacetSearch.Proofs.Integers
import FacetSearch.Proofs.Upserts
import FacetSearch.Proofs.Indexing
import FacetSearch.Proofs.EntityRoundTrip
import FacetSearch.Proofs.ResultRoundTrip
import FacetSearch.Proofs.Accounting
import FacetSearch.Proofs.TokenIsolation
import FacetSearch.Proofs.Widening
import FacetSearch.Proofs.NestedViews
import FacetSearch.Proofs.Pruning
import FacetSearch.Proofs.TopKeys
import FacetSearch.Proofs.RangePartition
import FacetSearch.Proofs.SingleValues
import FacetSearch.Proofs.CounterOrder
import FacetSearch.Proofs.SortedHits
import FacetSearch.Proofs.CompositeKeys
import FacetSearch.Proofs.Subgroups
import FacetSearch.Proofs.NestedKeys
import FacetSearch.Proofs.Tolerance
import FacetSearch.Proofs.QueryBuilding
import FacetSearch.Proofs.CounterHistory
import FacetSearch.Proofs.ArrayGrouping
import FacetSearch.Proofs.DecimalRank
import FacetSearch.Proofs.NumberText
import FacetSearch.Proofs.RangeTokens
import FacetSearch.Proofs.OptionalClauses
import FacetSearch.Proofs.Lifetimes
import FacetSearch.Proofs.LinkedTexts
import FacetSearch.Proofs.RequestScopes
import FacetSearch.Proofs.CompositeScripts
