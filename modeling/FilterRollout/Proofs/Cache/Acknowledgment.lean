import FilterRollout.Cache.Event
import Mathlib.Data.Finset.Card

/-! When the reports about an image are complete: as many different hosts report success as there are ready replicas. -/

namespace FilterRollout.CacheEvent

/-- The hosts of the reports of success, one for each report. -/
def successHosts (events : List CacheEvent) : List String :=
  (events.filter (·.outcome = .success)).map (·.host)

theorem mem_keys_readyHosts {events : List CacheEvent} {host : String} :
    host ∈ (readyHosts events).keys ↔ host ∈ successHosts events := by
  simp [readyHosts, SortedMap.mem_keys_ofList, successHosts, Function.comp_def]

theorem length_keys_readyHosts (events : List CacheEvent) :
    (readyHosts events).keys.length = (successHosts events).toFinset.card := by
  rw [← List.toFinset_card_of_nodup (readyHosts events).nodup_keys]
  congr 1
  ext host
  simp [mem_keys_readyHosts]

theorem acknowledged_iff {events : List CacheEvent} {ready : Int} :
    acknowledged events ready = true ↔ ((successHosts events).toFinset.card : Int) = ready := by
  rw [acknowledged, length_keys_readyHosts]
  simp only [Bool.and_eq_true, decide_eq_true_eq, beq_iff_eq]
  omega

end FilterRollout.CacheEvent
