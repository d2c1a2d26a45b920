import SeriesReplica.Point.Basic

/-!
Regular points to fill nodes with.
-/
namespace SeriesReplica.Scenario

/-- Points of one measurement at equal distances. Their values grow by a half, and if sensors are
given, the points are dealt to them in turn. -/
def evenPoints (measurement : String) (start step : Int) (count : Nat) (sensors : Option Nat) :
    List Point :=
  (List.range count).map fun i =>
    { measurement := measurement
      timestamp := .ofInt (start + i * step)
      tags := match sensors with
        | some n => (∅ : Point.Tags).insert "sensor" ("s" ++ toString (i % n))
        | none => ∅
      fields := (∅ : Point.Fields).insert "value" (.float (.ofRatio false i 2)) }

end SeriesReplica.Scenario
