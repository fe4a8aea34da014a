import Piconet.Proofs.Notification

/-!
# Every listener hears of every change once

A `Ledger` is kept beside a run: the changes that were made, each with the subscriptions whose
listeners were there at the time, and the deliveries in the order in which they happened. A listener
that changes the registry inside a notification has that change announced first, so what is being
announced is a stack of changes, and `Ledger.Tallies` says that it is the stack of announcements on
the agenda: what the changes on it still owe is what is left of their announcements, and all other
changes owe nothing. A listener that came after some of the changes has seen or is about to see the
others (`Ledger.Follows`), and in order as long as no change comes in the middle of another.

Deliveries are noted from the agenda. That they are the calls of listeners, and what watchers record, is
shown in `Piconet.Proofs.Sightings`.
-/

namespace Piconet

open Registry (Notice Contents)

/-! ## What is written down -/

/-- A change of the registry. -/
structure Ledger.Change where
  notice : Notice
  /-- the subscriptions whose listeners were there when it was made -/
  living : List Subscription
  /-- the changes that were being announced when it was made, the innermost first -/
  within : List Nat

/-- A listener's notification of a change, which goes by its number. -/
structure Ledger.Delivery where
  change : Nat
  notice : Notice
  listener : Listener
  deriving DecidableEq

/-- Changes of a registry and notifications of them, as they came. -/
structure Ledger where
  /-- the changes of the registry, in the order in which they were made -/
  changes : List Ledger.Change := []
  /-- the deliveries, in the order in which they happened -/
  deliveries : List Ledger.Delivery := []
  /-- the changes that are being announced, the innermost first -/
  current : List Nat := []

namespace Ledger

/-- What the subscriptions that were there are to get of a change: one notification each. -/
def Change.owed (change : Change) (k : Nat) : List Delivery :=
  change.living.map fun s => ⟨k, change.notice, s.listener⟩

/-- The notifications of a change. -/
def deliveriesOf (L : Ledger) (k : Nat) : List Delivery := L.deliveries.filter (·.change = k)

/-- What a listener has been told. -/
def seenBy (L : Ledger) (l : Listener) : List Notice :=
  (L.deliveries.filter (·.listener = l)).map (·.notice)

/-- **One listener has been notified**: the change owes one delivery less, and the announcement has one listener
less. -/
def deliver (L : Ledger) (n : Notice) (l : Listener) : Ledger :=
  match L.current with
  | k :: _ => { L with deliveries := L.deliveries ++ [⟨k, n, l⟩] }
  | [] => L

/-- All listeners of a change were notified, and it is off the stack. -/
def close (L : Ledger) : Ledger := { L with current := L.current.tail }

/-- **A change is made**: it owes a delivery to each listener there is, and is announced to these first of all.
-/
def record (L : Ledger) (n : Notice) (living : List Subscription) : Ledger where
  changes := L.changes ++ [⟨n, living, L.current⟩]
  deliveries := L.deliveries
  current := L.changes.length :: L.current

/-- What a move adds to the ledger: the delivery of a notification to one listener, or a change with those who
are to be notified of it. -/
def note (L : Ledger) (b : Bench) (m : Bench.Move) : Ledger :=
  match b.announcing? m, b.change? m with
  | some (n, l :: _), _ => L.deliver n l
  | some (_, []), _ => L.close
  | none, some (h, n) => L.record n h.living
  | none, none => L

/-- **Every change has been delivered** to the subscriptions that were there, in their order, once to
each of them and to nobody else. -/
structure Complete (L : Ledger) : Prop where
  /-- a change has been delivered to all to whom it was owed, in their order -/
  delivered : ∀ k change, L.changes[k]? = some change → L.deliveriesOf k = change.owed k
  /-- and nothing has been delivered that was no change -/
  known : ∀ x ∈ L.deliveries, ∃ change, L.changes[x.change]? = some change

end Ledger

namespace Bench

/-- Runs from one bench to another, with the ledger that is kept of their moves. -/
inductive Logs (L : Ledger) (b : Bench) : Ledger → Bench → Prop
  | refl : Logs L b L b
  | move {L' : Ledger} {c d : Bench} (m : Move) (logs : Logs L b L' c) (made : c.make m = some d) :
      Logs L b (L'.note c m) d

/-- A ledger that was kept from the opening of a bench on. -/
def Logged (b : Bench) (L : Ledger) : Prop :=
  ∃ g t isLoaded manager naming, Logs {} (opening g t isLoaded manager naming) L b

end Bench

/-! ## Runs that are given move by move -/

/-- The ledger of moves that are made one after the other. -/
def Ledger.noteAll (L : Ledger) : Bench → List Bench.Move → Ledger
  | _, [] => L
  | b, m :: ms =>
    match b.make m with
    | some c => (L.note b m).noteAll c ms
    | none => L

theorem Bench.Logs.trans {L L' L'' : Ledger} {b c d : Bench} (first : Logs L b L' c)
    (second : Logs L' c L'' d) : Logs L b L'' d := by
  induction second with
  | refl => exact first
  | move m _ made ih => exact ih.move m made

/-- The ledger of a run may be computed from its moves. -/
theorem Bench.logs_makeAll (L : Ledger) (b : Bench) (ms : List Move) :
    Logs L b (L.noteAll b ms) (b.makeAll ms) := by
  induction ms generalizing L b with
  | nil => exact .refl
  | cons m ms ih =>
    simp only [Ledger.noteAll, makeAll]
    cases made : b.make m with
    | some c => exact (Logs.refl.move m made).trans (ih (L.note b m) c)
    | none => exact .refl

/-! ## What is owed -/

namespace Ledger

variable {L : Ledger} {k j : Nat} {n : Notice} {l : Listener} {ls : List Listener} {ks : List Nat}
  {rest : List (Notice × List Listener)} {living : List Subscription}

/-- What is left of an announcement is what a change still owes. -/
def Owes (L : Ledger) (k : Nat) (a : Notice × List Listener) : Prop :=
  ∃ change, L.changes[k]? = some change ∧ a.1 = change.notice ∧
    L.deliveriesOf k ++ a.2.map (fun l => ⟨k, a.1, l⟩) = change.owed k

/-- **The ledger tallies with the agenda.** -/
structure Tallies (L : Ledger) (c : Core) : Prop where
  pending : List.Forall₂ L.Owes L.current c.announcements
  distinct : L.current.Nodup
  finished : ∀ k change, L.changes[k]? = some change → k ∉ L.current →
    L.deliveriesOf k = change.owed k
  known : ∀ x ∈ L.deliveries, ∃ change, L.changes[x.change]? = some change
  given : ∀ change ∈ L.changes, ∀ s ∈ change.living, s.listener.number < c.nextId

theorem tallies_opening (isLoaded : Bool) (naming : Naming) : Tallies {} (.opening isLoaded naming) where
  pending := .nil
  distinct := List.nodup_nil
  finished _ _ found := absurd found (by simp)
  known _ mem := absurd mem (by simp)
  given _ mem := absurd mem (by simp)

/-- A delivery is one of the change that is being announced. -/
theorem deliveriesOf_deliver (turn : L.current = k :: ks) (n : Notice) (l : Listener) :
    (L.deliver n l).deliveriesOf j =
      L.deliveriesOf j ++ if k = j then [⟨k, n, l⟩] else [] := by
  simp only [deliver, turn, deliveriesOf, List.filter_append, List.filter_singleton]
  split <;> simp_all

theorem changes_deliver (n : Notice) (l : Listener) : (L.deliver n l).changes = L.changes := by
  rw [deliver]
  split <;> rfl

theorem current_deliver (n : Notice) (l : Listener) : (L.deliver n l).current = L.current := by
  rw [deliver]
  split <;> rfl

/-- Only changes owe anything. -/
theorem Owes.lt {a : Notice × List Listener} (owes : L.Owes k a) : k < L.changes.length := by
  obtain ⟨change, found, -⟩ := owes
  exact (List.getElem?_eq_some_iff.1 found).1

/-- A notification is one that its change owes. -/
theorem Owes.deliver (turn : L.current = k :: ks) (owes : L.Owes k (n, l :: ls)) :
    (L.deliver n l).Owes k (n, ls) := by
  obtain ⟨change, found, same, paid⟩ := owes
  refine ⟨change, by rw [changes_deliver, found], same, ?_⟩
  rw [deliveriesOf_deliver turn, if_pos rfl, List.append_assoc]
  exact paid

/-- A notification of another change settles nothing. -/
theorem Owes.spared {a : Notice × List Listener} (turn : L.current = k :: ks) (other : j ≠ k)
    (owes : L.Owes j a) : (L.deliver n l).Owes j a := by
  obtain ⟨change, found, same, paid⟩ := owes
  refine ⟨change, by rw [changes_deliver, found], same, ?_⟩
  rw [deliveriesOf_deliver turn, if_neg (Ne.symm other), List.append_nil]
  exact paid

/-- What an earlier change owes it still owes after a change that comes in the middle of it. -/
theorem Owes.record {a : Notice × List Listener} (owes : L.Owes k a) (n : Notice)
    (living : List Subscription) : (L.record n living).Owes k a := by
  have lt := owes.lt
  obtain ⟨change, found, same, paid⟩ := owes
  exact ⟨change, (List.getElem?_append_left lt).trans found, same, paid⟩

/-- On the stack of what is being announced everything is owed by a change, and every change owes. -/
theorem owes_of_forall₂ {as : List (Notice × List Listener)} (pending : List.Forall₂ L.Owes ks as) :
    (∀ k ∈ ks, ∃ a, L.Owes k a) ∧ ∀ a ∈ as, ∃ k, L.Owes k a := by
  induction pending with
  | nil => exact ⟨fun _ mem => absurd mem List.not_mem_nil, fun _ mem => absurd mem List.not_mem_nil⟩
  | cons owes _ ih =>
    exact ⟨List.forall_mem_cons.2 ⟨⟨_, owes⟩, ih.1⟩, List.forall_mem_cons.2 ⟨⟨_, owes⟩, ih.2⟩⟩

namespace Tallies

variable {c c' : Core} (tallies : L.Tallies c)

include tallies

/-- The change that is being announced. -/
theorem turn {a : Notice × List Listener} (before : c.announcements = a :: rest) :
    ∃ k ks, L.current = k :: ks ∧ L.Owes k a ∧ List.Forall₂ L.Owes ks rest := by
  have pending := tallies.pending
  rw [before] at pending
  obtain ⟨k, ks, owes, others, current⟩ := List.forall₂_cons_right_iff.1 pending
  exact ⟨k, ks, current, owes, others⟩

theorem deliver (before : c.announcements = (n, l :: ls) :: rest)
    (after : c'.announcements = (n, ls) :: rest) (nextId : c'.nextId = c.nextId) :
    (L.deliver n l).Tallies c' := by
  obtain ⟨k, ks, turn, owes, others⟩ := tallies.turn before
  have distinct := tallies.distinct
  rw [turn] at distinct
  refine ⟨?_, ?_, ?_, ?_, ?_⟩
  · obtain ⟨long, others⟩ := List.forall₂_iff_zip.1 others
    rw [current_deliver, turn, after]
    refine .cons (owes.deliver turn) (List.forall₂_iff_zip.2 ⟨long, fun {j a} mem => ?_⟩)
    refine (others mem).spared turn ?_
    rintro rfl
    exact (List.nodup_cons.1 distinct).1 (List.of_mem_zip mem).1
  · rw [current_deliver]
    exact tallies.distinct
  · intro j change found past
    rw [changes_deliver] at found
    rw [current_deliver] at past
    have other : k ≠ j := by
      rintro rfl
      exact past (by rw [turn]; exact List.mem_cons_self)
    rw [deliveriesOf_deliver turn, if_neg other, List.append_nil]
    exact tallies.finished j change found past
  · intro x mem
    rw [changes_deliver]
    simp only [Ledger.deliver, turn] at mem
    rcases List.mem_append.1 mem with mem | new
    · exact tallies.known x mem
    · obtain ⟨change, found, -⟩ := owes
      rw [List.mem_singleton.1 new]
      exact ⟨change, found⟩
  · rw [changes_deliver, nextId]
    exact tallies.given

theorem close (before : c.announcements = (n, []) :: rest) (after : c'.announcements = rest)
    (nextId : c'.nextId = c.nextId) : L.close.Tallies c' := by
  obtain ⟨k, ks, turn, ⟨change, found, -, paid⟩, others⟩ := tallies.turn before
  have distinct := tallies.distinct
  rw [turn] at distinct
  have current : L.close.current = ks := by rw [Ledger.close, turn, List.tail_cons]
  refine ⟨?_, ?_, ?_, tallies.known, ?_⟩
  · rw [current, after]
    exact others
  · rw [current]
    exact distinct.of_cons
  · intro j change' found' past
    rw [current] at past
    by_cases same : j = k
    · subst same
      obtain rfl := Option.some.inj (found.symm.trans found')
      exact (List.append_nil _).symm.trans paid
    · refine tallies.finished j change' found' ?_
      rw [turn]
      exact List.not_mem_cons_of_ne_of_not_mem same past
  · rw [nextId]
    exact tallies.given

theorem record (given : ∀ s ∈ living, s.listener.number < c.nextId)
    (after : c'.announcements = (n, living.map (·.listener)) :: c.announcements)
    (nextId : c'.nextId = c.nextId) : (L.record n living).Tallies c' := by
  have silent : L.deliveriesOf L.changes.length = [] := by
    refine List.filter_eq_nil_iff.2 fun x mem same => ?_
    obtain ⟨change, found⟩ := tallies.known x mem
    rw [of_decide_eq_true same] at found
    exact absurd (List.getElem?_eq_some_iff.1 found).1 (Nat.lt_irrefl _)
  have new : (L.record n living).changes[L.changes.length]? = some ⟨n, living, L.current⟩ :=
    List.getElem?_concat_length
  refine ⟨?_, ?_, ?_, ?_, ?_⟩
  · rw [after]
    refine .cons ⟨_, new, rfl, ?_⟩ (tallies.pending.imp fun _ _ owes => owes.record n living)
    rw [show (L.record n living).deliveriesOf L.changes.length = [] from silent, List.nil_append,
      List.map_map]
    rfl
  · refine List.nodup_cons.2 ⟨fun mem => ?_, tallies.distinct⟩
    obtain ⟨a, owes⟩ := (owes_of_forall₂ tallies.pending).1 _ mem
    exact absurd owes.lt (Nat.lt_irrefl _)
  · intro j change found past
    have other := List.ne_of_not_mem_cons past
    have lt : j < (L.changes ++ [(⟨n, living, L.current⟩ : Change)]).length :=
      (List.getElem?_eq_some_iff.1 found).1
    rw [List.length_append, List.length_singleton] at lt
    have old : j < L.changes.length := by omega
    exact tallies.finished j change ((List.getElem?_append_left old).symm.trans found)
      (List.not_mem_of_not_mem_cons past)
  · intro x mem
    obtain ⟨change, found⟩ := tallies.known x mem
    exact ⟨change, (List.getElem?_append_left (List.getElem?_eq_some_iff.1 found).1).trans found⟩
  · rw [nextId]
    exact List.forall_mem_append.2 ⟨tallies.given, by simpa using given⟩

/-- What announces nothing and notifies nobody leaves the ledger as it is. -/
theorem still (after : c'.announcements = c.announcements) (nextId : c.nextId ≤ c'.nextId) :
    L.Tallies c' := by
  refine ⟨?_, tallies.distinct, tallies.finished, tallies.known, ?_⟩
  · rw [after]
    exact tallies.pending
  · exact fun change mem s living => Nat.lt_of_lt_of_le (tallies.given change mem s living) nextId

end Tallies

/-! ## Moves -/

section Moves

variable {b c : Bench} {m : Bench.Move} {h : Host}

/-- A change is recorded with those who are subscribed to the registry when it is made. -/
theorem note_of_change (next : b.announcing? m = none) (made : b.change? m = some (h, n)) :
    L.note b m = L.record n h.living := by
  simp only [note, next, made]

/-- Nothing is recorded of any other move. -/
theorem note_of_none (next : b.announcing? m = none) (made : b.change? m = none) :
    L.note b m = L := by
  simp only [note, next, made]

/-- **A move keeps the ledger tallied.** -/
theorem Tallies.note (tallies : L.Tallies b.host.core) (once : b.host.core.Once)
    (informs : b.Informs m c) : (L.note b m).Tallies c.host.core := by
  cases informs with
  | hears n l ls rest next before after registry subscriptions nextId =>
    rw [show L.note b m = L.deliver n l by simp only [Ledger.note, next]]
    exact tallies.deliver before after nextId
  | closes n rest next before after registry subscriptions nextId =>
    rw [show L.note b m = L.close by simp only [Ledger.note, next]]
    exact tallies.close before after nextId
  | changes h n next made fewer after contents subscriptions nextId =>
    rw [note_of_change next made]
    exact tallies.record (fun s mem => once.given s (fewer mem)) after nextId
  | aside next made hushed =>
    rw [note_of_none next made]
    exact tallies.still hushed.announcements hushed.nextId_le

end Moves

/-! ## What a listener has seen -/

/-- What a listener is still to be told. -/
def pendingFor (l : Listener) (as : List (Notice × List Listener)) : List Notice :=
  (as.filter fun a => l ∈ a.2).map (·.1)

/-- **A listener follows the changes** from a time on when there were so many of them and the registry
held so much: it has seen those since, or is about to, in their order unless one of them came in the
middle of another. -/
structure Follows (start : Nat) (x : Contents) (s : Subscription) (L : Ledger) (c : Core) : Prop where
  old : s.listener.number < c.nextId
  start_le : start ≤ L.changes.length
  contents : c.registry.contents =
    ((L.changes.drop start).map (·.notice)).foldl Notice.apply x
  seen : s ∈ c.subscriptions → (∀ change ∈ L.changes.drop start, change.within = []) →
    L.seenBy s.listener ++ pendingFor s.listener c.announcements =
      (L.changes.drop start).map (·.notice)

/-- A listener sees what is delivered to it. -/
theorem seenBy_deliver (turn : L.current = k :: ks) (n : Notice) (l' : Listener) :
    (L.deliver n l').seenBy l = L.seenBy l ++ if l' = l then [n] else [] := by
  simp only [deliver, turn, seenBy, List.filter_append, List.map_append, List.filter_singleton]
  split <;> simp_all

/-- A listener is still to be notified of each change that has it on its list. -/
theorem pendingFor_cons (l : Listener) (a : Notice × List Listener)
    (as : List (Notice × List Listener)) :
    pendingFor l (a :: as) = (if l ∈ a.2 then [a.1] else []) ++ pendingFor l as := by
  simp only [pendingFor, List.filter_cons, decide_eq_true_eq]
  split <;> rfl

/-- Whoever is notified is not notified of the same change again. -/
theorem not_mem_of_once {c : Core} (once : c.Once)
    (before : c.announcements = (n, l :: ls) :: rest) : l ∉ ls := by
  have mem : (n, l :: ls) ∈ c.announcements := by
    rw [before]
    exact List.mem_cons_self
  obtain ⟨duty, due, announces⟩ := List.mem_filterMap.1 mem
  cases duty with
  | announce n' ls' =>
    obtain ⟨rfl, rfl⟩ := Prod.mk.inj (Option.some.inj announces)
    exact (List.nodup_cons.1 (once.heard _ _ due)).1
  | _ => exact absurd announces (by simp [Duty.announcement?])

namespace Follows

variable {start : Nat} {x : Contents} {s : Subscription} {c c' : Core}
  (follows : L.Follows start x s c)

include follows

theorem deliver (tallies : L.Tallies c) (once : c.Once)
    (before : c.announcements = (n, l :: ls) :: rest) (after : c'.announcements = (n, ls) :: rest)
    (registry : c'.registry = c.registry) (subscriptions : c'.subscriptions = c.subscriptions)
    (nextId : c'.nextId = c.nextId) : (L.deliver n l).Follows start x s c' := by
  obtain ⟨k, ks, turn, -⟩ := tallies.turn before
  have single := not_mem_of_once once before
  refine ⟨nextId ▸ follows.old, ?_, ?_, ?_⟩
  · rw [changes_deliver]
    exact follows.start_le
  · rw [changes_deliver, registry]
    exact follows.contents
  · rw [changes_deliver, subscriptions]
    intro mem inOrder
    have seen := follows.seen mem inOrder
    rw [before, pendingFor_cons] at seen
    rw [seenBy_deliver turn, after, pendingFor_cons, ← seen, List.append_assoc]
    congr 1
    -- the listener is told now, or it is told later if it was to be told later
    by_cases same : l = s.listener
    · subst same
      simp [single]
    · simp [same, Ne.symm same]

theorem close (before : c.announcements = (n, []) :: rest) (after : c'.announcements = rest)
    (registry : c'.registry = c.registry) (subscriptions : c'.subscriptions = c.subscriptions)
    (nextId : c'.nextId = c.nextId) : L.close.Follows start x s c' := by
  refine ⟨nextId ▸ follows.old, follows.start_le, registry ▸ follows.contents, ?_⟩
  rw [subscriptions, after]
  intro mem inOrder
  have seen := follows.seen mem inOrder
  rwa [before, pendingFor_cons, if_neg List.not_mem_nil, List.nil_append] at seen

theorem record (tallies : L.Tallies c) (fewer : living ⊆ c.subscriptions)
    (after : c'.announcements = (n, living.map (·.listener)) :: c.announcements)
    (contents : c'.registry.contents = n.apply c.registry.contents)
    (subscriptions : c'.subscriptions = living) (nextId : c'.nextId = c.nextId) :
    (L.record n living).Follows start x s c' := by
  have changes : (L.record n living).changes.drop start =
      L.changes.drop start ++ [⟨n, living, L.current⟩] :=
    List.drop_append_of_le_length follows.start_le
  refine ⟨nextId ▸ follows.old, ?_, ?_, ?_⟩
  · exact Nat.le_trans follows.start_le (by simp [Ledger.record])
  · rw [changes, contents, follows.contents, List.map_append, List.foldl_append]
    rfl
  · rw [changes, subscriptions]
    intro mem inOrder
    obtain ⟨before, alone⟩ := List.forall_mem_append.1 inOrder
    have seen := follows.seen (fewer mem) before
    -- nothing else is being announced, so the listener has seen all changes but this
    have idle : c.announcements = [] := by
      have pending := tallies.pending
      rw [show L.current = [] from alone _ (List.mem_singleton_self _)] at pending
      exact List.forall₂_nil_left_iff.1 pending
    have told : s.listener ∈ living.map (·.listener) := List.mem_map_of_mem mem
    rw [idle] at seen
    rw [after, idle, pendingFor_cons, if_pos told, List.map_append, ← seen]
    simp [pendingFor, Ledger.record, seenBy]

theorem still (hushed : c.Hushed c') : L.Follows start x s c' := by
  refine ⟨Nat.lt_of_lt_of_le follows.old hushed.nextId_le, follows.start_le,
    hushed.contents.trans follows.contents, ?_⟩
  rw [hushed.announcements]
  intro mem
  rcases hushed.subscriptions s mem with mem | new
  · exact follows.seen mem
  · exact absurd follows.old (Nat.not_lt.2 new)

end Follows

/-- **A move keeps a listener following.** -/
theorem Follows.note {start : Nat} {x : Contents} {s : Subscription} {b c : Bench} {m : Bench.Move}
    (follows : L.Follows start x s b.host.core) (tallies : L.Tallies b.host.core)
    (once : b.host.core.Once) (informs : b.Informs m c) :
    (L.note b m).Follows start x s c.host.core := by
  cases informs with
  | hears n l ls rest next before after registry subscriptions nextId =>
    rw [show L.note b m = L.deliver n l by simp only [Ledger.note, next]]
    exact follows.deliver tallies once before after registry subscriptions nextId
  | closes n rest next before after registry subscriptions nextId =>
    rw [show L.note b m = L.close by simp only [Ledger.note, next]]
    exact follows.close before after registry subscriptions nextId
  | changes h n next made fewer after contents subscriptions nextId =>
    rw [note_of_change next made]
    exact follows.record tallies fewer after contents subscriptions nextId
  | aside next made hushed =>
    rw [note_of_none next made]
    exact follows.still hushed

/-- What is delivered of a change is owed. -/
theorem Tallies.mem_owed {c : Core} (tallies : L.Tallies c) {change : Change} {x : Delivery}
    (found : L.changes[k]? = some change) (mem : x ∈ L.deliveriesOf k) : x ∈ change.owed k := by
  by_cases current : k ∈ L.current
  · obtain ⟨a, change', found', -, paid⟩ := (owes_of_forall₂ tallies.pending).1 k current
    obtain rfl := Option.some.inj (found.symm.trans found')
    rw [← paid]
    exact List.mem_append_left _ mem
  · rwa [← tallies.finished k change found current]

/-- Nobody hears of anything before having subscribed. -/
theorem Tallies.heard {c : Core} (tallies : L.Tallies c) {x : Delivery} (mem : x ∈ L.deliveries) :
    x.listener.number < c.nextId := by
  obtain ⟨change, found⟩ := tallies.known x mem
  obtain ⟨s, living, same⟩ := List.mem_map.1
    (tallies.mem_owed found (List.mem_filter.2 ⟨mem, decide_eq_true rfl⟩))
  rw [← same]
  exact tallies.given change (List.mem_of_getElem? found) s living

/-- Nobody is to hear of anything made before having subscribed. -/
theorem Tallies.awaited {c : Core} (tallies : L.Tallies c) {a : Notice × List Listener}
    (mem : a ∈ c.announcements) (listens : l ∈ a.2) : l.number < c.nextId := by
  obtain ⟨k, change, found, -, paid⟩ := (owes_of_forall₂ tallies.pending).2 a mem
  have owed : (⟨k, a.1, l⟩ : Delivery) ∈ change.owed k := by
    rw [← paid]
    exact List.mem_append_right _ (List.mem_map.2 ⟨l, listens, rfl⟩)
  obtain ⟨s, living, same⟩ := List.mem_map.1 owed
  rw [← (Delivery.mk.inj same).2.2]
  exact tallies.given change (List.mem_of_getElem? found) s living

/-- **A listener that subscribes follows from then on.** -/
theorem Tallies.follows {c c' : Core} (tallies : L.Tallies c) (hushed : c.Hushed c')
    {s : Subscription} (new : s ∉ c.subscriptions) (there : s ∈ c'.subscriptions)
    (once : c'.Once) : L.Follows L.changes.length c'.registry.contents s c' := by
  have fresh : c.nextId ≤ s.listener.number :=
    (hushed.subscriptions s there).resolve_left new
  refine ⟨once.given s there, Nat.le_refl _, by rw [List.drop_length]; rfl, fun _ _ => ?_⟩
  have unseen : L.seenBy s.listener = [] := by
    refine List.map_eq_nil_iff.2 (List.filter_eq_nil_iff.2 fun x mem same => ?_)
    have heard := tallies.heard mem
    rw [of_decide_eq_true same] at heard
    exact absurd heard (Nat.not_lt.2 fresh)
  have unasked : pendingFor s.listener c'.announcements = [] := by
    rw [hushed.announcements]
    refine List.map_eq_nil_iff.2 (List.filter_eq_nil_iff.2 fun a mem listens => ?_)
    exact absurd (tallies.awaited mem (of_decide_eq_true listens)) (Nat.not_lt.2 fresh)
  rw [unseen, unasked, List.drop_length]
  rfl

/-- When nothing is being announced everything has been delivered. -/
theorem Tallies.complete {c : Core} (tallies : L.Tallies c) (quiet : c.isQuiet) : L.Complete := by
  have current : L.current = [] := by
    have pending := tallies.pending
    rw [Core.announcements_of_quiet quiet] at pending
    exact List.forall₂_nil_right_iff.1 pending
  refine ⟨fun k change found => tallies.finished k change found ?_, tallies.known⟩
  rw [current]
  exact List.not_mem_nil

end Ledger

/-! ## Runs -/

namespace Bench

variable {L L' : Ledger} {b c : Bench}

/-- Nothing is put to the registry in a move that goes on with an announcement. -/
theorem announcing?_of_put {m : Move} {put : Host × Registry.Request} (puts : b.put? m = some put) :
    b.announcing? m = none := by
  cases m with
  | act =>
    rw [announcing?]
    split
    · next n ls ds next =>
      have silent : b.put? .act = none := by simp only [put?, request?, next]
      exact absurd (silent.symm.trans puts) (by simp)
    · rfl
  | _ => rfl

namespace Informs

variable {m : Move} {h : Host} {n : Notice} (informs : b.Informs m c)

include informs

/-- A change is written down, and made. -/
theorem of_change (next : b.announcing? m = none) (made : b.change? m = some (h, n)) :
    L.note b m = L.record n h.living ∧
      c.host.registry.contents = n.apply b.host.registry.contents := by
  refine ⟨Ledger.note_of_change next made, ?_⟩
  cases informs with
  | hears n l ls rest next' | closes n rest next' => exact absurd (next.symm.trans next') (by simp)
  | changes h' n' next' made' fewer after contents =>
    obtain ⟨-, rfl⟩ := Prod.mk.inj (Option.some.inj (made.symm.trans made'))
    exact contents
  | aside next' made' => exact absurd (made.symm.trans made') (by simp)

/-- A move that the ledger does not note neither changes what is stored nor notifies anybody. -/
theorem of_none (next : b.announcing? m = none) (made : b.change? m = none) :
    L.note b m = L ∧ b.host.core.Hushed c.host.core := by
  refine ⟨Ledger.note_of_none next made, ?_⟩
  cases informs with
  | hears n l ls rest next' | closes n rest next' => exact absurd (next.symm.trans next') (by simp)
  | changes h' n' next' made' => exact absurd (made.symm.trans made') (by simp)
  | aside next' made' hushed => exact hushed

/-- Nothing but changes is written down as one, and nothing else changes what listeners know of. -/
theorem unchanged (made : b.change? m = none) : (L.note b m).changes = L.changes ∧
    c.host.registry.contents = b.host.registry.contents := by
  cases informs with
  | hears n l ls rest next before after registry =>
    rw [show L.note b m = L.deliver n l by simp only [Ledger.note, next]]
    exact ⟨Ledger.changes_deliver n l, congrArg Registry.contents registry⟩
  | closes n rest next before after registry =>
    rw [show L.note b m = L.close by simp only [Ledger.note, next]]
    exact ⟨rfl, congrArg Registry.contents registry⟩
  | changes h n next made' => exact absurd (made.symm.trans made') (by simp)
  | aside next _ hushed =>
    rw [Ledger.note_of_none next made]
    exact ⟨rfl, hushed.contents⟩

/-- Nothing is announced and nobody is notified while somebody subscribes. -/
theorem of_subscribed {s : Subscription} (new : s ∉ b.host.core.subscriptions)
    (there : s ∈ c.host.core.subscriptions) :
    L.note b m = L ∧ b.host.core.Hushed c.host.core := by
  cases informs with
  | hears _ _ _ _ _ _ _ _ subscriptions | closes _ _ _ _ _ _ subscriptions =>
    exact absurd (subscriptions ▸ there) new
  | changes h n _ _ fewer _ _ subscriptions => exact absurd (fewer (subscriptions ▸ there)) new
  | aside next made hushed => exact ⟨Ledger.note_of_none next made, hushed⟩

end Informs

/-- **A ledger that is kept from a bench on tallies** if it did at first, and those that followed
follow. -/
theorem Logs.keeps (logs : Logs L b L' c) (reached : Reachable free b)
    (tallies : L.Tallies b.host.core) :
    Reachable free c ∧ L'.Tallies c.host.core ∧
      ∀ start x s, L.Follows start x s b.host.core → L'.Follows start x s c.host.core := by
  induction logs with
  | refl => exact ⟨reached, tallies, fun _ _ _ follows => follows⟩
  | move m logs made ih =>
    obtain ⟨reached, tallies, follow⟩ := ih
    have informs := informs_of_make reached made
    refine ⟨reached.trans (Reaches.refl.move m (fun _ _ _ => trivial) made),
      tallies.note reached.once informs, fun start x s follows => ?_⟩
    exact (follow start x s follows).note tallies reached.once informs

/-- **The ledger of every run tallies with its agenda.** -/
theorem Logged.tallies (logged : b.Logged L) : Reachable free b ∧ L.Tallies b.host.core := by
  obtain ⟨g, t, isLoaded, manager, naming, logs⟩ := logged
  obtain ⟨reached, tallies, -⟩ :=
    logs.keeps ⟨g, t, isLoaded, manager, naming, .refl⟩ (Ledger.tallies_opening isLoaded naming)
  exact ⟨reached, tallies⟩

/-- **Every change of the registry is notified exactly once**, whatever listeners do when they are notified.
When nobody is being notified, each change has been delivered to the subscriptions whose listeners existed when
it was made, in the order of their subscriptions, once to each of them and to nobody else (`Ledger.Complete`). A
request is a change and is recorded with all who are subscribed, or it changes nothing and nobody is told; no
other move makes a change. And a listener that applies the notifications it gets to what was stored when it
subscribed (`Notice.apply`) arrives at what is stored, if no change was made inside the notification of another
one since. -/
theorem notified_once (logged : b.Logged L) :
    (b.host.core.isQuiet → L.Complete) ∧
    (∀ m c h q, b.make m = some c → b.put? m = some (h, q) →
      (∀ n, h.registry.change? q = some n → L.note b m = L.record n h.living ∧
        c.host.registry.contents = n.apply b.host.registry.contents) ∧
      (h.registry.change? q = none → L.note b m = L ∧
        c.host.core.announcements = b.host.core.announcements ∧
        c.host.registry.contents = b.host.registry.contents)) ∧
    (∀ m c, b.make m = some c → b.put? m = none → (L.note b m).changes = L.changes ∧
      c.host.registry.contents = b.host.registry.contents) ∧
    ∀ m c s, b.make m = some c → s ∉ b.host.subscriptions → s ∈ c.host.subscriptions →
      ∀ L' d, Logs (L.note b m) c L' d → d.host.core.isQuiet → s ∈ d.host.subscriptions →
        (∀ change ∈ L'.changes.drop L.changes.length, change.within = []) →
          (L'.seenBy s.listener).foldl Notice.apply c.host.registry.contents =
            d.host.registry.contents := by
  obtain ⟨reached, tallies⟩ := logged.tallies
  refine ⟨tallies.complete, ?_, ?_, ?_⟩
  · intro m c h q made put
    have informs := informs_of_make reached made
    have next := announcing?_of_put put
    refine ⟨fun n change => ?_, fun change => ?_⟩
    · exact informs.of_change next (by simp [change?, put, change])
    · obtain ⟨same, hushed⟩ := informs.of_none next (by simp [change?, put, change])
      exact ⟨same, hushed.announcements, hushed.contents⟩
  · intro m c made put
    exact (informs_of_make reached made).unchanged (by rw [change?, put, Option.bind_none])
  · intro m c s made new there L' d logs quiet still inOrder
    have informs := informs_of_make reached made
    have reached' : Reachable free c := reached.trans (Reaches.refl.move m (fun _ _ _ => trivial) made)
    obtain ⟨same, hushed⟩ := informs.of_subscribed (L := L) new there
    have follows : (L.note b m).Follows L.changes.length c.host.registry.contents s c.host.core := by
      rw [same]
      exact tallies.follows hushed new there reached'.once
    obtain ⟨-, -, follow⟩ := logs.keeps reached' (tallies.note reached.once informs)
    have followed := follow _ _ _ follows
    have seen := followed.seen still inOrder
    rw [Core.announcements_of_quiet quiet] at seen
    rw [show L'.seenBy s.listener = _ from (List.append_nil _).symm.trans seen]
    exact followed.contents.symm

/-- A watcher removes what is stored, in the middle of being notified of it. -/
def removing : List Move :=
  [.step (.command (.subscribe "V" [⟨.added, none, [.request (.remove "u")], 1⟩])),
    .step (.command (.subscribe "W" [])), .step (.command (.request (.insert fitting)))] ++
    List.replicate 15 .act

/-- The bench on which a watcher removed what was stored. -/
def removed : Bench := (opening .bluez4 .unreachable false none).makeAll removing

/-- What was written down of it. -/
def removals : Ledger := Ledger.noteAll {} (opening .bluez4 .unreachable false none) removing

/-- Another watcher comes late, -/
def lateComer : Move := .step (.command (.subscribe "X" []))

/-- A run in which something is stored again. -/
def storing : List Move :=
  .step (.command (.request (.insert fitting))) :: List.replicate 9 .act

theorem logged_removed : removed.Logged removals := ⟨_, _, _, _, _, logs_makeAll _ _ _⟩

/-- The change that comes in the middle of another is delivered first, and the watcher that came late
has seen what makes nothing into what is stored. -/
theorem notified_once_removed :
    removals.Complete ∧ removals.deliveries.map (fun x => (x.change, x.listener)) =
        [(0, .watcher 0), (1, .watcher 0), (1, .watcher 1), (0, .watcher 1)] ∧
      (let c := removed.makeAll [lateComer]
       let L := (removals.note removed lateComer).noteAll c storing
       L.seenBy (.watcher 2) = [.added fitting] ∧
        (L.seenBy (.watcher 2)).foldl Notice.apply c.host.registry.contents =
          (c.makeAll storing).host.registry.contents) := by
  obtain ⟨delivered, -, -, followed⟩ := notified_once logged_removed
  refine ⟨delivered (by decide), by decide, by decide, ?_⟩
  exact followed lateComer _ ⟨2, .watcher 2⟩ rfl (by decide) (by decide) _ _
    (logs_makeAll _ _ storing) (by decide) (by decide) (by decide)

end Bench

end Piconet
