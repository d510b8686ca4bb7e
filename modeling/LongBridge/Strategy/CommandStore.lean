import LongBridge.Effects.Environment
import LongBridge.Strategy.Commands

namespace LongBridge.Strategy
open Effects

abbrev Happening := Event ports PyExc

-- The durable store as its documented answers describe it: the commands put into
-- it, and by command id the events appended to each.
structure Ledger where
  commands : List Command
  log : String → List CommandEvent

namespace Ledger

def empty : Ledger := ⟨[],fun _ => []⟩

def last (ledger : Ledger) (command : Command) : Option CommandEvent := (ledger.log command.commandId).getLast?

-- A command nobody has moved yet is queued.
def state (ledger : Ledger) (command : Command) : CommandState :=
  ((ledger.last command).map CommandEvent.state).getD .queued

def append (ledger : Ledger) (command : Command) (event : CommandEvent) : Ledger :=
  { ledger with log := fun id => if id = command.commandId then ledger.log id ++ [event] else ledger.log id }

def add (ledger : Ledger) (command : Command) : Ledger := { ledger with commands := ledger.commands ++ [command] }

-- Nothing is kept under the id of this command.
def Fresh (ledger : Ledger) (command : Command) : Prop :=
  ledger.log command.commandId = [] ∧ ∀ other ∈ ledger.commands, other.commandId ≠ command.commandId

def Lists (ledger : Ledger) (listed : List Command) : Prop :=
  ∀ command, command ∈ listed ↔ command ∈ ledger.commands ∧ command.executionMode = "live"

-- A claim moves a queued command on; whatever else it writes is the store's.
def Claimed (before : Ledger) (command : Command) (after : Ledger) : Prop :=
  before.state command = .queued ∧ ∃ details, after = before.append command ⟨.claimed,details⟩

-- The store's answers and what they leave in it. A write that raises may have
-- happened; an id is the content of its command, so that a command which is not
-- new is there already; nothing else that happens in a run reaches the store.
def Step (before : Ledger) (event : Happening) (after : Ledger) : Prop :=
  match event with
  | .answered _ .listLiveCommands (.ok listed) => after = before ∧ before.Lists listed
  | .answered _ (.currentState command) (.ok state) => after = before ∧ state = before.state command
  | .answered _ (.commandEvents command) (.ok events) => after = before ∧ events = before.log command.commandId
  | .answered _ (.appendEvent command next details _) (.ok true) => after = before.append command ⟨next,details⟩
  | .answered _ (.appendEvent command next details _) (.error _) =>
    after = before ∨ after = before.append command ⟨next,details⟩
  | .answered _ (.enqueue command) (.ok true) => before.Fresh command ∧ after = before.add command
  | .answered _ (.enqueue command) (.ok false) => command ∈ before.commands ∧ after = before
  | .answered _ (.enqueue command) (.error _) => after = before ∨ before.Fresh command ∧ after = before.add command
  | .answered _ (.claimDue command _ _) (.ok true) => Claimed before command after
  | .answered _ (.claimDue command _ _) (.error _) => after = before ∨ Claimed before command after
  | _ => after = before

abbrev Follows := Effects.Follows Step

@[simp] theorem append_same (ledger : Ledger) (command : Command) (event : CommandEvent) :
    (ledger.append command event).log command.commandId = ledger.log command.commandId ++ [event] := if_pos rfl

@[simp] theorem append_commands (ledger : Ledger) (command : Command) (event : CommandEvent) :
    (ledger.append command event).commands = ledger.commands := rfl

@[simp] theorem add_commands (ledger : Ledger) (command : Command) :
    (ledger.add command).commands = ledger.commands ++ [command] := rfl

@[simp] theorem add_state (ledger : Ledger) (command other : Command) :
    (ledger.add command).state other = ledger.state other := rfl

theorem state_append_same (ledger : Ledger) (command : Command) (event : CommandEvent) :
    (ledger.append command event).state command = event.state := by simp [state,last]

end Ledger

-- The events of a run that write to the command store.
def isCommandWrite : Happening → Bool
  | .answered _ (.appendEvent _ _ _ _) _ => true
  | .answered _ (.enqueue _) _ => true
  | .answered _ (.claimDue _ _ _) _ => true
  | _ => false

theorem still_unless_write {event : Happening} (reads : isCommandWrite event = false) : Still Ledger.Step event := by
  intro before after step
  cases event with
  | answered held call answer =>
    cases call <;> cases answer <;> first | exact step | exact step.1 | simp [isCommandWrite] at reads
  | fault held error => exact step
  | marked label => exact step

theorem ledger_unless_write {events : List Happening} {before after : Ledger}
    (reads : ∀ event ∈ events, isCommandWrite event = false) (follows : before.Follows events after) : after = before :=
  follows_still (fun event member => still_unless_write (reads event member)) follows

end LongBridge.Strategy
