import Flowchart.Store.Basic

/-! # The nesting of a chart

Charts refer to their subgraphs, and two charts may well refer to each other. A region is the
nesting of a chart unfolded into a tree; a subgraph that is nested in two places stands in it
twice. A chart that is nested in itself, directly or through others, has no region.

Along a chain of subgraphs in which no chart comes twice there are no more charts than the store
has, so a nesting that goes deeper than that never ends.
-/

namespace Flowchart

/-- A chart and the regions of its subgraphs. -/
inductive Region where
  | mk (chart : ChartId) (inner : List Region)
  deriving Inhabited

namespace Region

/-- The chart of a region. -/
def chart : Region → ChartId
  | mk c _ => c

/-- The regions of the subgraphs. -/
def inner : Region → List Region
  | mk _ rs => rs

mutual

/-- Every chart of a region in reading order, once for each place where it stands. -/
def charts : Region → List ChartId
  | mk c rs => c :: chartsOfAll rs

/-- Every chart of some regions. -/
def chartsOfAll : List Region → List ChartId
  | [] => []
  | r :: rest => r.charts ++ chartsOfAll rest

end

mutual

/-- The edges of a region: those of the chart itself, then those of its subgraphs. An edge has its
number from its place in this list. -/
def links (s : Store) : Region → List EdgeId
  | mk c rs => (s.chart c).edges ++ linksOfAll s rs

/-- The edges of some regions. -/
def linksOfAll (s : Store) : List Region → List EdgeId
  | [] => []
  | r :: rest => r.links s ++ linksOfAll s rest

end

end Region

namespace Store

/-- The region of a chart, if its nesting is no deeper than a bound. -/
def regionWithin? (s : Store) : Nat → ChartId → Option Region
  | 0, _ => none
  | depth + 1, c => ((s.chart c).subgraphs.mapM (s.regionWithin? depth)).map (.mk c)

/-- The region of a chart, if its nesting ends. -/
def region? (s : Store) (c : ChartId) : Option Region :=
  s.regionWithin? (s.charts.size + 1) c

end Store

end Flowchart
