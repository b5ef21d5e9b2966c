import EditHistory.Value

/-!
# Playback options

Options are given as an object: `speed`, and `auto_play`, also spelled `autoPlay`.  What an object does not mention
keeps its value, and fields with other names mean nothing.

## Main definitions

* `Options` — the speed and whether playback starts by itself
* `Options.update` — options changed by an object
* `Options.updateAll` — options changed by a full set of values
-/

namespace EditHistory.Playback

/-- The speed of playback and whether it starts by itself. -/
structure Options where
  speed : Float
  autoPlay : Bool

namespace Options

/-- Normal speed, started by hand. -/
def standard : Options := ⟨1.0, false⟩

/-- Why options are refused. -/
inductive Error where
  | badSpeed (value : Value)
  /-- The speed is an integer beyond the largest double. -/
  | speedTooLarge
  /-- The options are not an object. -/
  | notAnObject

/-- The wording of an error. -/
def Error.message : Error → String
  | .badSpeed v => "Playback speed must be a positive number, got " ++ v.shown
  | .speedTooLarge => "Playback speed is too large"
  | .notAnObject => "Playback options must be an object"

/-- A speed read from a number: whatever is at most zero is refused. -/
def readSpeedNumber (v : Value) (x : Number) : Except Error Float :=
  if x.le (.int 0) then .error (.badSpeed v)
  else match x.toFloat? with
    | none => .error .speedTooLarge
    | some speed => .ok speed

/-- A speed read from a value, which must be a number; a switch is none. -/
def readSpeed (v : Value) : Except Error Float :=
  match v with
  | .int n => readSpeedNumber v (.int n)
  | .float x => readSpeedNumber v (.float x)
  | _ => .error (.badSpeed v)

/-- The switch that the fields set: the last of the two spellings counts. -/
def readAutoPlay? : List (String × Value) → Option Bool
  | [] => none
  | (key, v) :: rest =>
    (readAutoPlay? rest).or (if key = "auto_play" ∨ key = "autoPlay" then some v.truthy else none)

/-- The options with what the fields mention changed. -/
def updateFields (o : Options) (fields : List (String × Value)) : Except Error Options :=
  let autoPlay := (readAutoPlay? fields).getD o.autoPlay
  match Value.lookup? fields "speed" with
  | none => .ok ⟨o.speed, autoPlay⟩
  | some v => (readSpeed v).map fun speed => ⟨speed, autoPlay⟩

/-- The options changed by a value: nothing changes nothing, an object changes what it mentions. -/
def update (o : Options) : Value → Except Error Options
  | .null => .ok o
  | .object fields => o.updateFields fields
  | _ => .error .notAnObject

end Options

end EditHistory.Playback
