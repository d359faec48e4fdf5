import FacetSearch.Numeric.Decimal
import FacetSearch.StableSort
import FacetSearch.Upsert
/-!
Measurements of the search path and their text export. There are counters and histograms, plain ones
and ones with a series per value of a label. The export lists the families by name and the series of
a family by label value; a labelled family without series is left out.
-/

namespace FacetSearch

/-- A histogram: how many samples fell into each bucket and into none, and the sum of all. -/
structure Histogram where
  /-- The upper ends of the buckets with the samples that fell into each, ascending. -/
  buckets : List (Binary64 × Nat)
  count : Nat := 0
  sum : Binary64 := .zero

namespace Histogram

def ofBounds (bounds : List Binary64) : Histogram := { buckets := bounds.map fun b => (b, 0) }

/-- Counts a sample in the first bucket whose end is not below it. -/
def fill (x : Binary64) : List (Binary64 × Nat) → List (Binary64 × Nat)
  | [] => []
  | (bound, n) :: rest =>
    if x.le bound then (bound, n + 1) :: rest else (bound, n) :: fill x rest

def observe (h : Histogram) (x : Binary64) : Histogram where
  buckets := fill x h.buckets
  count := h.count + 1
  sum := h.sum.add x

/-- For each bucket, the samples in it and in those before it. -/
def cumulative (below : Nat) : List (Binary64 × Nat) → List (Binary64 × Nat)
  | [] => []
  | (bound, n) :: rest => (bound, below + n) :: cumulative (below + n) rest

end Histogram

/-- Values by label, one for each label that was seen. -/
abbrev Series (α : Type) := List (String × α)

namespace Series

/-- Changes the value of a label, starting from `fresh` for a new one. -/
def update {α : Type} (series : Series α) (label : String) (fresh : α) (change : α → α) :
    Series α :=
  let current := ((series.find? fun entry => entry.1 = label).map Prod.snd).getD fresh
  upsert (fun entry => entry.1 = label) (label, change current) series

/-- The series in the order of their labels. -/
def sorted {α : Type} (series : Series α) : Series α :=
  stableSort (fun a b => !decide (b.1 < a.1)) series

end Series

structure Metrics where
  /-- Searches that succeeded, by kind. -/
  searches : Series Binary64
  /-- Searches that failed, by cause. -/
  errors : Series Binary64
  counters : Binary64
  entities : Binary64
  /-- Durations of searches, by kind. -/
  searchLatency : Series Histogram
  compileLatency : Histogram

namespace Metrics

/-- A bucket bound, given in units of a ten-thousandth. -/
def tenThousandths (n : Nat) : Binary64 := (Decimal.mk n (-4)).toBinary64 false

/-- The buckets for durations of searches, in seconds. -/
def searchBounds : List Binary64 :=
  [10, 50, 100, 250, 500, 1000, 2500, 5000, 10000].map tenThousandths

/-- The buckets for durations of compilations, in seconds. -/
def compileBounds : List Binary64 := [1, 5, 10, 50, 100, 500].map tenThousandths

def empty : Metrics where
  searches := []
  errors := []
  counters := .zero
  entities := .zero
  searchLatency := []
  compileLatency := .ofBounds compileBounds

/-- The step of a count. -/
def one : Binary64 := .ofInt 1

def recordSearch (m : Metrics) (kind : String) (seconds : Binary64) (entities counters : Nat) :
    Metrics :=
  { m with
    searches := m.searches.update kind .zero (·.add one)
    searchLatency := m.searchLatency.update kind (.ofBounds searchBounds) (·.observe seconds)
    entities := m.entities.add (.ofInt entities)
    counters := m.counters.add (.ofInt counters) }

def recordCompile (m : Metrics) (seconds : Binary64) : Metrics :=
  { m with compileLatency := m.compileLatency.observe seconds }

def recordError (m : Metrics) (cause : String) : Metrics :=
  { m with errors := m.errors.update cause .zero (·.add one) }

/-! ## Export -/

/-- One character of a label value. -/
def escape (c : Char) : List Char :=
  if c = '\\' then ['\\', '\\']
  else if c = '"' then ['\\', '"']
  else if c = '\n' then ['\\', 'n']
  else [c]

def label (name value : String) : String :=
  name ++ "=\"" ++ String.ofList (value.toList.flatMap escape) ++ "\""

def sampleName (name : String) (labels : List String) : String :=
  if labels.isEmpty then name else name ++ "\x7b" ++ ",".intercalate labels ++ "\x7d"

def sample (name : String) (labels : List String) (value : String) : String :=
  sampleName name labels ++ " " ++ value

def histogramLines (name : String) (labels : List String) (h : Histogram) : List String :=
  (Histogram.cumulative 0 h.buckets).map
      (fun entry =>
        sample (name ++ "_bucket") (labels ++ [label "le" (entry.1.text .plain)])
          (toString entry.2))
    ++ [sample (name ++ "_bucket") (labels ++ [label "le" "+Inf"]) (toString h.count),
        sample (name ++ "_sum") labels (h.sum.text .plain),
        sample (name ++ "_count") labels (toString h.count)]

/-- A family of samples: its name, what it measures, its type, and the lines of its samples. -/
structure Family where
  name : String
  help : String
  type : String
  samples : List String

namespace Family

def lines (family : Family) : List String :=
  ["# HELP " ++ family.name ++ " " ++ family.help, "# TYPE " ++ family.name ++ " " ++ family.type]
    ++ family.samples

end Family

/-- A counter without label. -/
def counterFamily (name help : String) (value : Binary64) : Family :=
  ⟨name, help, "counter", [sample name [] (value.text .plain)]⟩

/-- A counter per value of a label. -/
def counterSeries (name help labelName : String) (series : Series Binary64) : Family :=
  ⟨name, help, "counter",
    series.sorted.map fun entry => sample name [label labelName entry.1] (entry.2.text .plain)⟩

def families (m : Metrics) : List Family :=
  let latency := "facetq_search_latency_seconds"
  [{ name := "facetq_compile_latency_seconds"
     help := "Query compilation latency"
     type := "histogram"
     samples := histogramLines "facetq_compile_latency_seconds" [] m.compileLatency },
   counterFamily "facetq_counters_returned_total" "Total number of facet counters returned"
     m.counters,
   counterFamily "facetq_entities_returned_total" "Total number of typed entities returned"
     m.entities,
   counterSeries "facetq_search_errors_total" "Total number of failed searches by cause" "cause"
     m.errors,
   { name := latency
     help := "End-to-end search latency"
     type := "histogram"
     samples := m.searchLatency.sorted.flatMap fun entry =>
       histogramLines latency [label "kind" entry.1] entry.2 },
   counterSeries "facetq_searches_total" "Total number of searches by kind" "kind"
     m.searches].filter fun family => !family.samples.isEmpty

def lines (m : Metrics) : List String := m.families.flatMap Family.lines

end Metrics

end FacetSearch
