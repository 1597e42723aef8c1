import Flowchart.Keyword.Basic

/-! # Layout options -/

namespace Flowchart

/-- The keys of the layout options of a directive. -/
inductive FlowchartOption where
  | arrowMarkerAbsolute
  | curve
  | defaultRenderer
  | diagramPadding
  | htmlLabels
  | nodeSpacing
  | padding
  | rankSpacing
  | subGraphTitleMargin
  | titleTopMargin
  | useMaxWidth
  | wrappingWidth
  deriving DecidableEq, Repr

namespace FlowchartOption

/-- The key of an option as it is written. -/
def name : FlowchartOption → String
  | arrowMarkerAbsolute => "arrowMarkerAbsolute"
  | curve => "curve"
  | defaultRenderer => "defaultRenderer"
  | diagramPadding => "diagramPadding"
  | htmlLabels => "htmlLabels"
  | nodeSpacing => "nodeSpacing"
  | padding => "padding"
  | rankSpacing => "rankSpacing"
  | subGraphTitleMargin => "subGraphTitleMargin"
  | titleTopMargin => "titleTopMargin"
  | useMaxWidth => "useMaxWidth"
  | wrappingWidth => "wrappingWidth"

instance : Keyword FlowchartOption where
  kind := "flowchart option"
  members := [arrowMarkerAbsolute, curve, defaultRenderer, diagramPadding, htmlLabels, nodeSpacing,
    padding, rankSpacing, subGraphTitleMargin, titleTopMargin, useMaxWidth, wrappingWidth]
  name := name

theorem ofName?_name (o : FlowchartOption) : Keyword.ofName? o.name = some o := by
  cases o <;> decide

end FlowchartOption

end Flowchart
