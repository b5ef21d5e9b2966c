import EditHistory.Value

/-!
# Edit commands

The commands of a revision log: insert text, delete a range, style a range, or carry out a group of commands.  Any
integer may stand as a position; applying a command clamps it into the document.  A history handed in from outside
may hold, in the place of a command, a value that is none: such a `foreign` entry can be carried around but not
applied.

## Main definitions

* `Command` — an entry of a revision
* `Command.IsReal` — no foreign entry, at any depth
* `Command.leaves` — the ungrouped commands, in order
-/

namespace EditHistory

/-- An entry of a revision. -/
inductive Command where
  /-- Insert a text at a position. -/
  | insert (position : Int) (text : List Char) (timestamp : Int)
  /-- Remove the half-open range from `start` to `stop`. -/
  | delete (start stop : Int) (timestamp : Int)
  /-- Attach properties to the half-open range from `start` to `stop`. -/
  | style (start stop : Int) (properties : List (String × Value)) (timestamp : Int)
  /-- Carry out several commands in order. -/
  | group (parts : List Command) (timestamp : Int)
  /-- A value that is not a command. -/
  | foreign (value : Value)

namespace Command

instance : Inhabited Command := ⟨.foreign .null⟩

mutual

/-- The ungrouped commands of a command, in the order in which they are carried out. -/
def leaves : Command → List Command
  | .group parts _ => leavesOfAll parts
  | c => [c]

/-- The ungrouped commands of several commands. -/
def leavesOfAll : List Command → List Command
  | [] => []
  | c :: cs => leaves c ++ leavesOfAll cs

end

/-- Whether the command is a value that is not a command. -/
def isForeign : Command → Bool
  | .foreign _ => true
  | _ => false

/-- Whether the command only attaches properties. -/
def isStyle : Command → Bool
  | .style .. => true
  | _ => false

/-- A command without a foreign entry at any depth. -/
def IsReal (c : Command) : Prop :=
  ∀ l ∈ c.leaves, l.isForeign = false

/-- The command as it is shown inside a message. -/
def shown : Command → String
  | .insert position text timestamp =>
    "InsertCommand(begin_index=" ++ showInt position ++ ", text=" ++ String.ofList (Text.quoted text) ++
      ", timestamp=" ++ showInt timestamp ++ ")"
  | .delete start stop timestamp =>
    "DeleteCommand(start_index=" ++ showInt start ++ ", end_index=" ++ showInt stop ++
      ", timestamp=" ++ showInt timestamp ++ ")"
  | .style start stop properties timestamp =>
    "StyleCommand(start_index=" ++ showInt start ++ ", end_index=" ++ showInt stop ++
      ", properties=" ++ (Value.object properties).shown ++ ", timestamp=" ++ showInt timestamp ++ ")"
  | .group parts timestamp =>
    "MultiCommand(subcommands=(" ++ showNat parts.length ++ "), timestamp=" ++ showInt timestamp ++ ")"
  | .foreign value => value.shown

end Command

end EditHistory
