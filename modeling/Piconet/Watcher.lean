import Piconet.Properties
import Piconet.Registry

/-!
# Watchers

A watcher listens to the registry and reacts to what it hears by rules: a rule names a kind of
change, and the commands to carry out when such a change is announced. Commands are carried out on
the spot, in the middle of the announcement. `Sighting` is the record a watcher leaves.
-/

namespace Piconet

/-- A rule whose steps are of type `α`. -/
structure RuleOf (α : Type) where
  on : Registry.Notice.Kind
  /-- only changes of this profile -/
  uuid : Option String
  steps : List α
  /-- how many more times the rule applies -/
  times : Nat

/-- What a watcher, or anyone else, can ask for at any time. -/
inductive Command where
  | request (q : Registry.Request)
  | get (uuid : String)
  | profiles
  | subscribe (name : String) (rules : List (RuleOf Command))
  | unsubscribe (name : String)
  | dropWatcher (name : String)
  | hold (point : String)
  | release (point : String)
  | fail (point : String)
  | unfail (point : String)
  | setProperties (path : String) (batch : Option PropertyBatch)
  | setPower (path : String) (on : Option Bool)
  | push (path : String) (batch : PropertyBatch)
  | power (path : String) (on : Bool)
  | endChanges (path : String)
  | endPower (path : String)
  | nothing
  /-- lets go of a device -/
  | drop (handle : String)
  | deviceAdded (path : String)
  | deviceRemoved (path : String)
  | shutdown
  | dropManager
  | withDevice (path : String)
  /-- something nobody can do -/
  | unknown

abbrev Rule := RuleOf Command

/-- Whether the rule applies to a change. -/
def RuleOf.applies {α : Type} (r : RuleOf α) (n : Registry.Notice) : Bool :=
  0 < r.times && r.on = n.kind && r.uuid.all fun u => n.profile?.any (·.uuid = u)

/-- A listener with rules. -/
structure Watcher where
  name : String
  rules : List Rule
  /-- somebody keeps the watcher; otherwise it lasts only as long as it is being notified -/
  kept : Bool := true

/-- Counts an application of a rule. -/
def Watcher.spend (w : Watcher) (rule : Nat) : Watcher :=
  { w with rules := w.rules.modify rule fun r => { r with times := r.times - 1 } }

/-- What everybody can see of a device. -/
structure DeviceView where
  path : String
  address : Option String
  name : Option String
  rssi : Int16
  capabilities : Capabilities
  connected : Bool
  usable : Bool
  initialized : Bool
  role : Option Role
  connections : List String
  provisioned : Option String
  deriving DecidableEq, Repr

/-- What comes of a command. -/
inductive Answer where
  | nothing
  | flag (b : Bool)
  | count (n : Nat)
  | registry (r : Registry.Reply)
  | profile (profile : Option Profile)
  | profiles (profiles : List Profile)
  | device (view : Option DeviceView)
  /-- what was asked for names something that is not there -/
  | refused

/-- The record of a watcher. -/
inductive Sighting where
  | heard (watcher : String) (kind : Registry.Notice.Kind) (uuid : Option String)
  | did (watcher : String) (answer : Answer)

end Piconet
