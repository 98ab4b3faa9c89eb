import FilterRollout.SortedMap
import FilterRollout.Text.Split

/-! Label selectors in the equality form of list requests: what a map of labels is written as, and what a store
reads out of it. -/

namespace FilterRollout.LabelSelector

/-- One `key=value` part per label, in the order of the keys. The empty text selects everything. -/
def ofLabels (labels : SortedMap String) : String :=
  Text.join "," (labels.toList.map fun label => label.1 ++ "=" ++ label.2)

/-- The labels that a selector asks for. Parts without an equality sign ask for nothing. -/
def requirements (selector : String) : List (String × String) :=
  (Text.split ',' selector).filterMap (Text.cut? '=')

/-- Whether the labels have every value that the selector asks for. -/
def admits (selector : String) (labels : SortedMap String) : Bool :=
  (requirements selector).all fun label => labels.get? label.1 == some label.2

example : requirements "a=1,,b,c=d=e" = [("a", "1"), ("c", "d=e")] := by decide +kernel

end FilterRollout.LabelSelector
