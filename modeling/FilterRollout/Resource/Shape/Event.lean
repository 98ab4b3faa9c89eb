import FilterRollout.Resource.Shape.Metadata

/-! Fields of events. -/

namespace FilterRollout.Shape

/-- How often an event has been repeated, and when last. -/
def eventSeries : Shape := .record [] (int32.fields ["count"] ++ [("lastObservedTime", .time .microseconds)])

/-- Where an event comes from. -/
def eventSource : Shape := .record [] (text.fields ["component", "host"])

/-- The fields of an event other than its metadata, its reason and its source. -/
def otherEvent : List (String × Shape) :=
  text.fields ["action", "message", "reportingComponent", "reportingInstance", "type"] ++ int32.fields ["count"] ++
  (Shape.time .seconds).fields ["firstTimestamp", "lastTimestamp"] ++
  objectReference.fields ["involvedObject", "related"] ++
  [("eventTime", .time .microseconds), ("series", eventSeries)]

end FilterRollout.Shape
