import Piconet.Monitor
import Piconet.Transport.Peer
import Mathlib.Logic.Function.Basic
import Mathlib.Data.List.Basic
import Mathlib.Tactic.Tauto

/-!
# Two streams of signals

BlueZ tells of objects that come in one stream and of objects that go in another. Each stream keeps its
own order, and `select!` takes from either, so a monitor may take a removal before the addition that was
sent first. It also subscribes to one stream before the other.

A `Chronicle` records which signals were sent and which the monitor took, both in the order in which it
happened. Two things may go wrong about a path. The signals are taken out of order
(`Chronicle.Overtaken`), or the last one is never heard because it was sent between the two subscriptions
(`Chronicle.Missed`). Nothing else does: what was taken last about a path asks for the same as what was
sent last if and only if neither happened (`Chronicle.adds_eq_iff`).
-/

namespace Piconet

open Function (update)

/-! ## Requests -/

namespace Monitor

/-- The path that a request is about. -/
def Request.path : Request → String
  | add path | remove path => path

/-- A request to take up a device. -/
def Request.adds : Request → Bool
  | add _ => true
  | remove _ => false

@[simp] theorem Request.path_add (path : String) : (add path).path = path := rfl

@[simp] theorem Request.path_remove (path : String) : (remove path).path = path := rfl

@[simp] theorem Request.adds_add (path : String) : (add path).adds = true := rfl

@[simp] theorem Request.adds_remove (path : String) : (remove path).adds = false := rfl

/-- What a signal about an object comes to, if it is about the given interface. -/
def request? (object : ObjectSignal) (interface : String) (request : String → Request) : Option Request :=
  if object.interfaces.contains interface then some (request object.path) else none

/-- What the queued signals of objects that came ask of the manager, the earliest first. -/
def additions (m : Monitor) (interface : String) : List Request :=
  (m.added.filter (·.interfaces.contains interface)).map (.add ·.path)

/-- What the queued signals of objects that went ask of the manager, the earliest first. -/
def removals (m : Monitor) (interface : String) : List Request :=
  (m.removed.filter (·.interfaces.contains interface)).map (.remove ·.path)

/-- A request that is taken is the first one of its stream; the other stream stays as it is. -/
theorem additions_take (m : Monitor) (interface : String) (branch : Branch) :
    m.additions interface = ((m.take interface branch).2.filter (·.adds)).toList ++
      (m.take interface branch).1.additions interface := by
  cases branch with
  | stop => rfl
  | added =>
    rw [take]
    split
    · next s rest queue =>
      by_cases carries : interface ∈ s.interfaces <;> simp [additions, queue, carries, Option.filter]
    · rfl
  | removed =>
    rw [take]
    split
    · next s rest queue => by_cases carries : interface ∈ s.interfaces <;> simp [additions, carries]
    · rfl

/-- The same for requests to let go of a device. -/
theorem removals_take (m : Monitor) (interface : String) (branch : Branch) :
    m.removals interface = ((m.take interface branch).2.filter (!·.adds)).toList ++
      (m.take interface branch).1.removals interface := by
  cases branch with
  | stop => rfl
  | added =>
    rw [take]
    split
    · next s rest queue => by_cases carries : interface ∈ s.interfaces <;> simp [removals, carries]
    · rfl
  | removed =>
    rw [take]
    split
    · next s rest queue =>
      by_cases carries : interface ∈ s.interfaces <;> simp [removals, queue, carries, Option.filter]
    · rfl

/-- A signal that an object came is queued with its kind. -/
theorem added_append (m : Monitor) (object : ObjectSignal) (interface : String) :
    let m' : Monitor := { m with added := m.added ++ [object] }
    m'.additions interface =
        m.additions interface ++ ((request? object interface .add).filter (·.adds)).toList ∧
      m'.removals interface =
        m.removals interface ++ ((request? object interface .add).filter (!·.adds)).toList := by
  by_cases carries : interface ∈ object.interfaces <;>
    simp [additions, removals, request?, Option.filter, carries]

/-- So is a signal that it went. -/
theorem removed_append (m : Monitor) (object : ObjectSignal) (interface : String) :
    let m' : Monitor := { m with removed := m.removed ++ [object] }
    m'.additions interface =
        m.additions interface ++ ((request? object interface .remove).filter (·.adds)).toList ∧
      m'.removals interface =
        m.removals interface ++ ((request? object interface .remove).filter (!·.adds)).toList := by
  by_cases carries : interface ∈ object.interfaces <;>
    simp [additions, removals, request?, Option.filter, carries]

/-- It makes no difference whether a list is filtered before an element is struck out or afterwards. -/
theorem filter_erase (requests : List Request) (keep : Request → Bool) (rq : Request) :
    (requests.erase rq).filter keep = (requests.filter keep).erase rq := by
  induction requests with
  | nil => rfl
  | cons first rest ih =>
    by_cases here : first = rq
    · subst here
      rw [List.erase_cons_head, List.filter_cons]
      split
      · rw [List.erase_cons_head]
      · next dropped =>
        refine (List.erase_of_not_mem fun mem => ?_).symm
        exact dropped (List.mem_filter.1 mem).2
    · rw [List.erase_cons_tail (by simpa using here), List.filter_cons, List.filter_cons]
      split
      · rw [List.erase_cons_tail (by simpa using here), ih]
      · exact ih

/-- When a request is struck out that stands in front of its stream, each stream has what is left of it. -/
theorem filter_erase_of_front {requests rest : List Request} {keep : Request → Bool} {rq : Request}
    (front : ((some rq).filter keep).toList ++ rest = requests.filter keep) :
    rest = (requests.erase rq).filter keep := by
  rw [filter_erase, ← front]
  by_cases kept : keep rq = true
  · simp [Option.filter, kept]
  · have other : rq ∉ rest := fun mem =>
      kept (List.mem_filter.1 (front ▸ List.mem_append_right _ mem)).2
    simp [Option.filter, kept, List.erase_of_not_mem other]

/-- It is one of those that are there. -/
theorem mem_of_front {requests rest : List Request} {keep : Request → Bool} {rq : Request}
    (front : ((some rq).filter keep).toList ++ rest = requests.filter keep) (kept : keep rq = true) :
    rq ∈ requests := by
  have mem : rq ∈ requests.filter keep := by
    rw [← front]
    simp [Option.filter, kept]
  exact (List.mem_filter.1 mem).1

end Monitor

/-! ## What was sent and what was taken -/

/-- How far a monitor has come with its start. -/
inductive Outset where
  | away
  /-- it is subscribed to the signals of objects that come -/
  | half
  /-- it is subscribed to the signals of objects that go as well -/
  | both
  /-- it asked for all objects, and this is the answer -/
  | listed (tree : List (String × Interfaces))
  /-- it had the manager take up what was listed, and follows the signals -/
  | begun

/-- A signal about the device interface, as the request that it comes to, with its place among all of
them in the order in which the peer sent them. -/
structure Dispatch where
  number : ℕ
  request : Monitor.Request
  deriving DecidableEq, Repr

/-- The latest signal about a path in a list that has the latest first. -/
def latest (l : List Dispatch) (path : String) : Option Dispatch := l.find? (·.request.path = path)

theorem latest_cons (s : Dispatch) (l : List Dispatch) :
    latest (s :: l) = update (latest l) s.request.path (some s) := by
  funext path
  rw [latest, List.find?_cons, Function.update_apply]
  by_cases about : s.request.path = path
  · simp [about]
  · simp [about, Ne.symm about, latest]

theorem mem_of_latest {l : List Dispatch} {path : String} {s : Dispatch} (last : latest l path = some s) :
    s ∈ l ∧ s.request.path = path :=
  ⟨List.mem_of_find?_eq_some last, by simpa using List.find?_some last⟩

/-- The history of a monitor: the signals about the device interface that its peer sent, those that wait
in the queues of the monitor, and those that it took. -/
structure Chronicle where
  outset : Outset := .away
  /-- how many signals had been sent when the monitor subscribed to those of objects that come -/
  additions : Option ℕ := none
  /-- how many signals had been sent when the monitor subscribed to those of objects that go -/
  removals : Option ℕ := none
  /-- what the peer sent, the latest first -/
  sent : List Dispatch := []
  /-- what waits in one of the two queues, in the order in which it was sent -/
  waiting : List Dispatch := []
  /-- what the monitor took, the latest first -/
  taken : List Dispatch := []

namespace Chronicle

variable {c : Chronicle} {s t : Dispatch} {path : String}

/-- The monitor was subscribed to signals of this kind when the signal was sent. -/
def Hears (c : Chronicle) (s : Dispatch) : Bool :=
  (if s.request.adds then c.additions else c.removals).any (· ≤ s.number)

/-- The signal that comes next if it comes to the request. -/
def next (c : Chronicle) (request : Monitor.Request) : Dispatch := ⟨c.sent.length, request⟩

/-- The peer sends a signal, which waits if the monitor is subscribed to it. It is of no interest if it is
not about the device interface. -/
def send (c : Chronicle) (interface : String) (object : ObjectSignal) (request : String → Monitor.Request) :
    Chronicle :=
  if object.interfaces.contains interface then
    { c with
      sent := c.next (request object.path) :: c.sent
      waiting := if c.Hears (c.next (request object.path)) then
        c.waiting ++ [c.next (request object.path)] else c.waiting }
  else c

/-- The monitor takes the first signal that waits and comes to the request, if it takes any. -/
def pass (c : Chronicle) : Option Monitor.Request → Chronicle
  | none => c
  | some rq =>
    { c with
      waiting := c.waiting.eraseP (·.request = rq)
      taken := (c.waiting.find? (·.request = rq)).toList ++ c.taken }

/-- A signal about the path is yet to be taken. -/
def Awaits (c : Chronicle) (path : String) : Prop := ∃ s ∈ c.waiting, s.request.path = path

/-- **The monitor took the signals about a path out of order**: the one that it took last had been sent
before another one, which it took earlier from its other stream. -/
def Overtaken (c : Chronicle) (path : String) : Prop :=
  ∃ s, latest c.taken path = some s ∧ ∃ t ∈ c.taken, t.request.path = path ∧ s.number < t.number

/-- **The monitor missed the signal about a path that was sent last**: it heard that an object came, and
was not yet subscribed when the peer told that it went. -/
def Missed (c : Chronicle) (path : String) : Prop :=
  ∃ s t, s ∈ c.sent ∧ s.request = .add path ∧ c.Hears s ∧
    latest c.sent path = some t ∧ t.request = .remove path ∧ ¬ c.Hears t

instance (c : Chronicle) (path : String) : Decidable (c.Overtaken path) :=
  decidable_of_iff
    ((latest c.taken path).any fun s => decide (∃ t ∈ c.taken, t.request.path = path ∧ s.number < t.number))
    (by simp [Overtaken, Option.any_eq_true])

instance (c : Chronicle) (path : String) : Decidable (c.Missed path) :=
  decidable_of_iff
    ((∃ s ∈ c.sent, s.request = .add path ∧ c.Hears s) ∧
      (latest c.sent path).any fun t => decide (t.request = .remove path ∧ ¬ c.Hears t))
    (by
      simp only [Missed, Option.any_eq_true, decide_eq_true_iff]
      constructor
      · rintro ⟨⟨s, mem, added, heard⟩, t, last, removed, unheard⟩
        exact ⟨s, t, mem, added, heard, last, removed, unheard⟩
      · rintro ⟨s, t, mem, added, heard, last, removed, unheard⟩
        exact ⟨⟨s, mem, added, heard⟩, t, last, removed, unheard⟩)

/-! ### Two queues -/

/-- Each stream keeps the order in which its signals were sent. -/
structure Numbered (c : Chronicle) : Prop where
  below : ∀ s ∈ c.sent, s.number < c.sent.length
  later : c.sent.Pairwise fun s t => t.number < s.number
  /-- nothing that the monitor was subscribed to gets lost -/
  heard : ∀ s, s ∈ c.taken ∨ s ∈ c.waiting ↔ s ∈ c.sent ∧ c.Hears s
  queued : c.waiting.Pairwise fun s t => s.number < t.number
  first : ∀ s ∈ c.taken, ∀ t ∈ c.waiting, s.request = t.request → s.number < t.number
  inStream : c.taken.Pairwise fun s t => s.request = t.request → t.number < s.number
  away : c.outset = .away ↔ c.additions = none
  half : c.outset = .away ∨ c.outset = .half ↔ c.removals = none
  /-- the monitor subscribed to signals of objects that come first -/
  order : ∀ a r, c.additions = some a → c.removals = some r → a ≤ r
  upTo : ∀ n, c.additions = some n ∨ c.removals = some n → n ≤ c.sent.length

namespace Numbered

theorem opening : Numbered {} where
  below := by simp
  later := .nil
  heard := by simp
  queued := .nil
  first := by simp
  inStream := .nil
  away := by simp
  half := by simp
  order := by simp
  upTo := by simp

/-- A monitor that has asked for all objects hears everything. -/
theorem hears_next (numbered : c.Numbered) (both : c.removals.isSome) (request : Monitor.Request) :
    c.Hears (c.next request) = true := by
  obtain ⟨r, subscribed⟩ := Option.isSome_iff_exists.1 both
  have some' : c.additions ≠ none := fun none => by
    have away := numbered.half.1 (.inl (numbered.away.2 none))
    exact absurd (away.symm.trans subscribed) (by simp)
  obtain ⟨a, before⟩ := Option.ne_none_iff_exists'.1 some'
  rw [Hears, subscribed, before, next]
  split
  · simpa using numbered.upTo a (.inl before)
  · simpa using numbered.upTo r (.inr subscribed)

/-- A later signal of the same kind is heard as well. -/
theorem hears_later (heard : c.Hears s = true) (same : s.request.adds = t.request.adds)
    (later : s.number ≤ t.number) : c.Hears t = true := by
  rw [Hears] at heard ⊢
  rw [← same]
  obtain ⟨n, subscribed, upTo⟩ := (Option.any_eq_true _ _).1 heard
  exact (Option.any_eq_true _ _).2 ⟨n, subscribed, by simpa using Nat.le_trans (by simpa using upTo) later⟩

/-- After a removal that was heard everything is. -/
theorem hears_after (numbered : c.Numbered) (heard : c.Hears s = true) (removal : s.request.adds = false)
    (later : s.number ≤ t.number) : c.Hears t = true := by
  cases kind : t.request.adds with
  | false => exact hears_later heard (removal.trans kind.symm) later
  | true =>
    rw [Hears, if_neg (by simp [removal])] at heard
    obtain ⟨r, subscribed, upTo⟩ := (Option.any_eq_true _ _).1 heard
    have some' : c.additions ≠ none := fun none => by
      have away := numbered.half.1 (.inl (numbered.away.2 none))
      exact absurd (away.symm.trans subscribed) (by simp)
    obtain ⟨a, before⟩ := Option.ne_none_iff_exists'.1 some'
    rw [Hears, if_pos kind, before]
    have order := numbered.order a r before subscribed
    simp only [decide_eq_true_iff] at upTo
    simpa using Nat.le_trans order (Nat.le_trans upTo later)

/-- A signal is sent, and waits if it is heard. -/
theorem send (numbered : c.Numbered) (interface : String) (object : ObjectSignal)
    (request : String → Monitor.Request) : (c.send interface object request).Numbered := by
  by_cases carries : object.interfaces.contains interface = true
  · let s := c.next (request object.path)
    have fresh (t : Dispatch) (mem : t ∈ c.taken ∨ t ∈ c.waiting) : t.number < s.number :=
      numbered.below t ((numbered.heard t).1 mem).1
    rw [Chronicle.send, if_pos carries]
    refine ⟨fun t mem => ?_, ?_, fun t => ?_, ?_, ?_, numbered.inStream, numbered.away, numbered.half,
      numbered.order, fun n subscribed => Nat.le_succ_of_le (numbered.upTo n subscribed)⟩
    · rcases List.mem_cons.1 mem with rfl | mem
      · exact Nat.lt_succ_self _
      · exact Nat.lt_succ_of_lt (numbered.below t mem)
    · exact List.pairwise_cons.2 ⟨numbered.below, numbered.later⟩
    · have hears : ∀ t, Hears { c with
          sent := s :: c.sent
          waiting := if c.Hears s then c.waiting ++ [s] else c.waiting } t = c.Hears t := fun _ => rfl
      change t ∈ c.taken ∨ t ∈ (if c.Hears s then c.waiting ++ [s] else c.waiting) ↔
        t ∈ s :: c.sent ∧ c.Hears t = true
      have before := numbered.heard t
      by_cases heard : c.Hears s = true
      · rw [if_pos heard, List.mem_append, List.mem_singleton, ← or_assoc, before, List.mem_cons]
        constructor
        · rintro (⟨mem, hears⟩ | rfl)
          · exact ⟨.inr mem, hears⟩
          · exact ⟨.inl rfl, heard⟩
        · rintro ⟨rfl | mem, hears⟩
          · exact .inr rfl
          · exact .inl ⟨mem, hears⟩
      · rw [if_neg heard, before, List.mem_cons]
        constructor
        · rintro ⟨mem, hears⟩
          exact ⟨.inr mem, hears⟩
        · rintro ⟨rfl | mem, hears⟩
          · exact absurd hears heard
          · exact ⟨mem, hears⟩
    · change List.Pairwise _ (if c.Hears s then c.waiting ++ [s] else c.waiting)
      split
      · refine List.pairwise_append.2 ⟨numbered.queued, List.pairwise_singleton _ _, fun t mem u mem' => ?_⟩
        rw [List.mem_singleton.1 mem']
        exact fresh t (.inr mem)
      · exact numbered.queued
    · intro t mem u mem' same
      change u ∈ (if c.Hears s then c.waiting ++ [s] else c.waiting) at mem'
      split at mem'
      · rcases List.mem_append.1 mem' with old | new
        · exact numbered.first t mem u old same
        · rw [List.mem_singleton.1 new]
          exact fresh t (.inl mem)
      · exact numbered.first t mem u mem' same
  · rw [Chronicle.send, if_neg carries]
    exact numbered

/-- A signal is taken, the first of its kind that waits. -/
theorem pass (numbered : c.Numbered) (request : Option Monitor.Request) : (c.pass request).Numbered := by
  cases request with
  | none => exact numbered
  | some rq =>
    cases found : c.waiting.find? (·.request = rq) with
    | none =>
      have unasked : ∀ s ∈ c.waiting, ¬ (decide (s.request = rq)) = true := by
        simpa using List.find?_eq_none.1 found
      rw [Chronicle.pass, found, List.eraseP_of_forall_not unasked]
      exact numbered
    | some s =>
      obtain ⟨asked, before, after, queue, others⟩ := List.find?_eq_some_iff_append.1 found
      have asked : s.request = rq := by simpa using asked
      have others : ∀ t ∈ before, t.request ≠ rq := fun t mem => by simpa using others t mem
      have rest : c.waiting.eraseP (·.request = rq) = before ++ after := by
        rw [queue, List.eraseP_append_right _ (by simpa using others), List.eraseP_cons_of_pos (by simpa using asked)]
      have mem_iff (t : Dispatch) : t ∈ c.waiting ↔ t = s ∨ t ∈ before ++ after := by
        rw [queue]
        simp only [List.mem_append, List.mem_cons]
        tauto
      rw [Chronicle.pass, found, rest]
      refine ⟨numbered.below, numbered.later, fun t => ?_, ?_, fun t mem u mem' same => ?_, ?_, numbered.away,
        numbered.half, numbered.order, numbered.upTo⟩
      · change t ∈ s :: c.taken ∨ t ∈ before ++ after ↔ t ∈ c.sent ∧ c.Hears t = true
        rw [← numbered.heard t, mem_iff, List.mem_cons]
        tauto
      · have ordered := numbered.queued
        rw [queue] at ordered
        exact ordered.sublist ((List.Sublist.refl before).append (List.sublist_cons_self s after))
      · rcases List.mem_cons.1 mem with rfl | mem
        · -- what waits before it asks for something else
          have later : u ∈ after := by
            refine (List.mem_append.1 mem').resolve_left fun first => others u first ?_
            exact same.symm.trans asked
          have ordered := numbered.queued
          rw [queue] at ordered
          exact (List.pairwise_cons.1 (List.pairwise_append.1 ordered).2.1).1 u later
        · exact numbered.first t mem u ((mem_iff u).2 (.inr mem')) same
      · refine List.pairwise_cons.2 ⟨fun t mem same => ?_, numbered.inStream⟩
        exact numbered.first t mem s ((mem_iff s).2 (.inl rfl)) same.symm

/-- Nothing is heard of a stream that the monitor is not subscribed to. -/
theorem not_mem_of_deaf (numbered : c.Numbered) (deaf : c.Hears s = false) :
    s ∉ c.taken ∧ s ∉ c.waiting := by
  have unheard : ¬ (s ∈ c.taken ∨ s ∈ c.waiting) := fun mem => by
    exact absurd ((numbered.heard s).1 mem).2 (by simp [deaf])
  exact not_or.1 unheard

/-- The monitor subscribes to the signals of objects that come. -/
theorem subscribeAdded (numbered : c.Numbered) (away : c.outset = .away) :
    ({ c with outset := .half, additions := some c.sent.length } : Chronicle).Numbered := by
  have none := numbered.away.1 away
  have none' := numbered.half.1 (.inl away)
  refine ⟨numbered.below, numbered.later, fun s => ?_, numbered.queued, numbered.first, numbered.inStream,
    by simp, by simp [none'], fun a r _ subscribed => ?_, fun n subscribed => ?_⟩
  · have deaf : c.Hears s = false := by simp [Hears, none, none']
    refine iff_of_false (not_or.2 (numbered.not_mem_of_deaf deaf)) ?_
    rintro ⟨mem, heard⟩
    have below := numbered.below s mem
    rw [Hears] at heard
    split at heard
    · simp only [Option.any_some, decide_eq_true_iff] at heard
      exact absurd below (Nat.not_lt.2 heard)
    · simp [none'] at heard
  · exact absurd (none'.symm.trans subscribed) (by simp)
  · rcases subscribed with subscribed | subscribed
    · exact Nat.le_of_eq (Option.some.inj subscribed).symm
    · exact absurd (none'.symm.trans subscribed) (by simp)

/-- The monitor subscribes to the signals of objects that go. -/
theorem subscribeRemoved (numbered : c.Numbered) (half : c.outset = .half) :
    ({ c with outset := .both, removals := some c.sent.length } : Chronicle).Numbered := by
  have none := numbered.half.1 (.inr half)
  refine ⟨numbered.below, numbered.later, fun s => ?_, numbered.queued, numbered.first, numbered.inStream,
    ?_, by simp, fun a r subscribed now => ?_, fun n subscribed => ?_⟩
  · rw [show (({ c with outset := .both, removals := some c.sent.length } : Chronicle).taken) = c.taken from rfl]
    by_cases kind : s.request.adds = true
    · rw [numbered.heard s, Hears, Hears, if_pos kind, if_pos kind]
    · have deaf : c.Hears s = false := by simp [Hears, kind, none]
      refine iff_of_false (not_or.2 (numbered.not_mem_of_deaf deaf)) ?_
      rintro ⟨mem, heard⟩
      rw [Hears, if_neg kind] at heard
      simp only [Option.any_some, decide_eq_true_iff] at heard
      exact absurd (numbered.below s mem) (Nat.not_lt.2 heard)
  · rw [← numbered.away, half]
    simp
  · obtain rfl := Option.some.inj now
    exact numbered.upTo a (.inl subscribed)
  · rcases subscribed with subscribed | subscribed
    · exact numbered.upTo n (.inl subscribed)
    · exact Nat.le_of_eq (Option.some.inj subscribed).symm

/-- The order of signals is the one in which they were sent, and a number belongs to one of them. -/
theorem number_le_of_latest (numbered : c.Numbered) (last : latest c.sent path = some t) (mem : s ∈ c.sent)
    (about : s.request.path = path) : s = t ∨ s.number < t.number := by
  obtain ⟨-, before, after, sent, others⟩ := List.find?_eq_some_iff_append.1 last
  have ordered := numbered.later
  rw [sent] at mem ordered
  rcases List.mem_append.1 mem with early | late
  · exact absurd about (by simpa using others s early)
  · rcases List.mem_cons.1 late with same | late
    · exact .inl same
    · exact .inr ((List.pairwise_cons.1 (List.pairwise_append.1 ordered).2.1).1 s late)

/-- What was taken last was taken after everything else about the path. -/
theorem number_lt_of_latest (numbered : c.Numbered) (last : latest c.taken path = some s) (mem : t ∈ c.taken)
    (same : t.request = s.request) (other : t ≠ s) : t.number < s.number := by
  obtain ⟨about, before, after, taken, others⟩ := List.find?_eq_some_iff_append.1 last
  have ordered := numbered.inStream
  rw [taken] at mem ordered
  rcases List.mem_append.1 mem with early | late
  · exact absurd (same ▸ about) (by simpa using others t early)
  · refine (List.pairwise_cons.1 (List.pairwise_append.1 ordered).2.1).1 t ?_ same.symm
    exact (List.mem_cons.1 late).resolve_left other

end Numbered

/-- **When the monitor is right about a path.** When everything that was heard has been taken, what was
taken last about a path asks for the same as what was sent last, unless the last signals were taken out of
order or the last one was missed. -/
theorem adds_eq_iff (numbered : c.Numbered) (drained : c.waiting = []) (last : latest c.taken path = some s)
    (sent : latest c.sent path = some t) :
    s.request.adds = t.request.adds ↔ ¬ c.Overtaken path ∧ ¬ c.Missed path := by
  have taken (u : Dispatch) : u ∈ c.taken ↔ u ∈ c.sent ∧ c.Hears u := by
    rw [← numbered.heard u, drained]
    simp
  obtain ⟨memS, aboutS⟩ := mem_of_latest last
  obtain ⟨memT, aboutT⟩ := mem_of_latest sent
  obtain ⟨sentS, heardS⟩ := (taken s).1 memS
  -- two signals about one path that ask for the same are the same request
  have request_eq {u v : Dispatch} (u_path : u.request.path = path) (v_path : v.request.path = path)
      (same : u.request.adds = v.request.adds) : u.request = v.request := by
    rcases u with ⟨_, _ | _⟩ <;> rcases v with ⟨_, _ | _⟩ <;> simp_all [Monitor.Request.path, Monitor.Request.adds]
  have order := numbered.number_le_of_latest sent sentS aboutS
  constructor
  · intro same
    have heardT : c.Hears t = true :=
      order.elim (fun eq => eq ▸ heardS) fun lt => Numbered.hears_later heardS same (Nat.le_of_lt lt)
    have sameST : t = s := by
      by_contra other
      have before := numbered.number_lt_of_latest last ((taken t).2 ⟨memT, heardT⟩)
        (request_eq aboutT aboutS same.symm) other
      rcases order with rfl | after
      · exact other rfl
      · exact absurd before (Nat.not_lt.2 (Nat.le_of_lt after))
    subst sameST
    constructor
    · rintro ⟨s', last', u, memU, aboutU, later⟩
      obtain rfl := Option.some.inj (last.symm.trans last')
      rcases numbered.number_le_of_latest sent ((taken u).1 memU).1 aboutU with rfl | earlier
      · exact absurd later (Nat.lt_irrefl _)
      · exact absurd later (Nat.not_lt.2 (Nat.le_of_lt earlier))
    · rintro ⟨u, t', -, -, -, sent', -, unheard⟩
      obtain rfl := Option.some.inj (sent.symm.trans sent')
      exact unheard heardT
  · rintro ⟨inOrder, notMissed⟩
    rcases order with rfl | later
    · rfl
    · -- the last signal was not heard, or else it would have been taken before
      have unheard : ¬ c.Hears t = true := fun heard =>
        inOrder ⟨s, last, t, (taken t).2 ⟨memT, heard⟩, aboutT, later⟩
      by_contra other
      cases kind : s.request.adds with
      | false => exact unheard (numbered.hears_after heardS kind (Nat.le_of_lt later))
      | true =>
        have kindT : t.request.adds = false := by
          cases kindT : t.request.adds with
          | false => rfl
          | true => exact absurd (kind.trans kindT.symm) other
        refine notMissed ⟨s, t, sentS, ?_, heardS, sent, ?_, unheard⟩
        · exact request_eq (v := ⟨0, .add path⟩) aboutS rfl kind
        · exact request_eq (v := ⟨0, .remove path⟩) aboutT rfl kindT

/-- A path of which nothing was taken was not misjudged. -/
theorem not_overtaken_of_untaken (untaken : latest c.taken path = none) : ¬ c.Overtaken path := by
  rintro ⟨s, last, -⟩
  exact absurd (untaken.symm.trans last) (by simp)

theorem not_missed_of_untaken (numbered : c.Numbered) (drained : c.waiting = [])
    (untaken : latest c.taken path = none) : ¬ c.Missed path := by
  rintro ⟨s, t, sent, added, heard, -⟩
  have taken : s ∈ c.taken := ((numbered.heard s).2 ⟨sent, heard⟩).resolve_right (by simp [drained])
  exact List.find?_eq_none.1 untaken s taken (by simp [added, Monitor.Request.path])

end Chronicle

end Piconet
