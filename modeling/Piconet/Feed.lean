/-!
# Feeds

A feed is the receiving end of a subscription: what its source sent and nobody has taken yet. A
`silent` feed gets nothing more but does not end either.
-/

namespace Piconet

/-- Whether a feed's source still sends. -/
inductive Feed.Link where
  | live
  | silent
  | closed
  deriving DecidableEq, Repr

/-- A subscription to a source, with what it has not handed on yet. -/
structure Feed (α : Type) where
  /-- the path of the object that sends -/
  source : String
  queue : List α := []
  link : Feed.Link := .live
  deriving Repr

namespace Feed

variable {α : Type}

/-- What the path sends reaches this feed. -/
def hears (f : Feed α) (path : String) : Bool := f.link = .live && f.source = path

def push (f : Feed α) (a : α) : Feed α := { f with queue := f.queue ++ [a] }

/-- The source is done; what was sent before can still be taken. -/
def close (f : Feed α) : Feed α := { f with link := .closed }

def silence (f : Feed α) : Feed α := { f with link := .silent }

/-- Nothing will ever be taken again. -/
def exhausted (f : Feed α) : Bool := f.queue.isEmpty && f.link = .closed

end Feed

end Piconet
