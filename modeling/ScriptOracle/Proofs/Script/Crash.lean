import ScriptOracle.Proofs.Script.Breakdown
import ScriptOracle.Proofs.Script.Manner.Machine

/-!
# Where a machine breaks down

The host breaks down at one kind of act and at no other. A machine that is carried along by the host ends
so exactly if such an act is in its trail, and the act tells over which value of which heap. In whatever
manner all is done that is under way, that value is one whose data may be taken.
-/

namespace ScriptOracle.Script

/-- The heap and the value over which an act breaks the host down. -/
def Act.broken? : Act -> Option (Heap × Value)
  | .crash heap value => some (heap, value)
  | _ => none

/-- The heaps and values over which the host breaks down along a trail. -/
def breakdowns (trail : List Config) : List (Heap × Value) :=
  trail.filterMap fun config => config.act.broken?

variable {engine : Engine} {machine : Machine} {heap : Heap} {first second : List Config}

theorem breakdowns_append :
    breakdowns (first ++ second) = breakdowns first ++ breakdowns second :=
  List.filterMap_append

/-! ## One step -/

/-- The host has broken down at the end exactly if it did so along the trail. -/
def Crashes (trail : List Config) (ending : Ending) : Prop :=
  ending = .crashed ↔ breakdowns trail ≠ []

theorem Crashes.silent {result : Except Halt Flow} (before : Crashes first (.finished heap result)) :
    breakdowns first = [] := by
  by_contra some
  cases before.mpr some

theorem Crashes.behind {result : Except Halt Flow} {ending : Ending}
    (before : Crashes first (.finished heap result)) (rest : Crashes second ending) :
    Crashes (first ++ second) ending := by
  rw [Crashes, breakdowns_append, before.silent, List.nil_append]
  exact rest

end ScriptOracle.Script
