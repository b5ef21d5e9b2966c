/-!
# Steps of speed

Controls do not set a speed but step through a list of speeds.  A step starts from the speed on the list that is
nearest to the present one, the slower of two that are equally near, and stays on the list.

## Main definitions

* `speedSteps` — the speeds on the list
* `stepSpeed` — the speed a number of steps away
-/

namespace EditHistory.Playback

/-- The speeds that controls step through, in ascending order. -/
def speedSteps : List Float := [0.25, 0.5, 1.0, 2.0, 4.0, 8.0]

/-- The distance of two speeds. -/
def speedDistance (a b : Float) : Float := (a - b).abs

/-- The index of the speed that is nearest to a given one, the first of those that are equally near; `index` is the
index of the first speed of the list, `best` the nearest so far and `distance` its distance. -/
def nearestFrom (speed : Float) (best : Nat) (distance : Float) (index : Nat) : List Float → Nat
  | [] => best
  | step :: steps =>
    let d := speedDistance step speed
    if d < distance then nearestFrom speed index d (index + 1) steps
    else nearestFrom speed best distance (index + 1) steps

/-- The index of the speed on a list that is nearest to a given one. -/
def nearestIndex (speed : Float) : List Float → Nat
  | [] => 0
  | step :: steps => nearestFrom speed 0 (speedDistance step speed) 1 steps

/-- An index moved by a number of steps, but not beyond the ends of a list. -/
def moveIndex (length index : Nat) (delta : Int) : Nat :=
  (max 0 (min ((index : Int) + delta) (length - 1))).toNat

/-- The speed a number of steps away from a given one. -/
def stepSpeed (delta : Int) (speed : Float) : Float :=
  speedSteps.getD (moveIndex speedSteps.length (nearestIndex speed speedSteps) delta) speed

end EditHistory.Playback
