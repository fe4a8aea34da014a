import Piconet.Error
import Piconet.Profile

/-!
# The profile registry

The registry keeps connection profiles in the order in which they were stored, one for each
UUID. `Registry.handle` is what a request does to it and what it announces to its listeners.
-/

namespace Piconet

/-- The stored profiles. -/
structure Registry where
  profiles : List Profile := []
  /-- the initial set of profiles is complete -/
  loaded : Bool := true
  /-- why submitted profiles are turned down, while they are -/
  rejection : Option String := none
  /-- how many profiles were submitted, accepted or not -/
  submissions : Nat := 0
  deriving DecidableEq, Repr, Inhabited

namespace Registry

/-- A change that listeners hear of. -/
inductive Notice where
  | added (profile : Profile)
  | removed (profile : Profile)
  | updated (profile : Profile)
  | loaded
  deriving DecidableEq, Repr

/-- The kind of a change. -/
inductive Notice.Kind where
  | added
  | removed
  | updated
  | loaded
  deriving DecidableEq, Repr

def Notice.kind : Notice → Notice.Kind
  | added _ => .added
  | removed _ => .removed
  | updated _ => .updated
  | loaded => .loaded

/-- The profile a change is about. -/
def Notice.profile? : Notice → Option Profile
  | added p | removed p | updated p => some p
  | loaded => none

/-- The registry before its profiles are read. -/
def unloaded : Registry := { loaded := false }

/-- The stored profile with a UUID. -/
def get? (r : Registry) (uuid : String) : Option Profile := r.profiles.find? (·.uuid = uuid)

/-- Whether a profile with a UUID is stored. -/
def contains (r : Registry) (uuid : String) : Bool := (r.get? uuid).isSome

/-- The UUIDs of the stored profiles, in the order in which these are stored. -/
def uuids (r : Registry) : List String := r.profiles.map (·.uuid)

/-- Stores a profile as the newest, instead of the one with its UUID. -/
def insert (r : Registry) (p : Profile) : Registry :=
  { r with profiles := r.profiles.filter (·.uuid ≠ p.uuid) ++ [p] }

/-- Replaces the profile with the same UUID, at its place. -/
def replace (r : Registry) (p : Profile) : Registry :=
  { r with profiles := r.profiles.map fun q => if q.uuid = p.uuid then p else q }

def erase (r : Registry) (uuid : String) : Registry :=
  { r with profiles := r.profiles.filter (·.uuid ≠ uuid) }

/-- All profiles that there are have been stored. -/
def markLoaded (r : Registry) : Registry := { r with loaded := true }

/-- Submissions are turned down for a reason, or no longer. -/
def reject (r : Registry) (reason : Option String) : Registry := { r with rejection := reason }

/-- Counts a submitted profile. -/
def countSubmission (r : Registry) : Registry := { r with submissions := r.submissions + 1 }

/-! ## Requests -/

/-- What anybody can ask of the registry. -/
inductive Request where
  | insert (profile : Profile)
  | update (profile : Profile)
  | remove (uuid : String)
  /-- hands in a profile, which may be turned down -/
  | submit (profile : Profile)
  | markLoaded
  /-- turns profiles that are handed in down for a reason, or no longer -/
  | reject (reason : Option String)
  deriving DecidableEq, Repr

/-- What the registry answers. -/
inductive Reply where
  | nothing
  /-- the UUID of the profile that was stored or removed, if there was one -/
  | uuid (uuid : Option String)
  | submitted (result : Except ConnectionError String)

/-- What a request does, and the change that is to be announced. A request that changes nothing
that listeners know of announces nothing. -/
def handle (r : Registry) : Request → Registry × Option Notice
  | .insert p => (r.insert p, some (.added p))
  | .update p => if r.contains p.uuid then (r.replace p, some (.updated p)) else (r, none)
  | .remove uuid =>
    match r.get? uuid with
    | some p => (r.erase uuid, some (.removed p))
    | none => (r, none)
  | .submit p =>
    match r.rejection with
    | some _ => (r.countSubmission, none)
    | none => (r.countSubmission.insert p, some (.added p))
  | .markLoaded => if r.loaded then (r, none) else (r.markLoaded, some .loaded)
  | .reject reason => (r.reject reason, none)

/-- What a request answers. -/
def reply (r : Registry) : Request → Reply
  | .insert p => .uuid (some p.uuid)
  | .update p => .uuid (if r.contains p.uuid then some p.uuid else none)
  | .remove uuid => .uuid (if r.contains uuid then some uuid else none)
  | .submit p => .submitted (r.rejection.elim (.ok p.uuid) fun why => .error (.providerRejected why))
  | .markLoaded | .reject _ => .nothing

end Registry

end Piconet
