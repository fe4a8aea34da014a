import Piconet.Proofs.Identifiers

/-!
# Event streams are faithful

Whoever keeps the events of a device can tell from them what the device looks like
(`Device.appearance`): each event says what one property has become (`Appearance.see`), and each
that reports a property reports another value than the one it had (`Appearance.News`). A change of a
device and the events that report it come in one step of the core (`Core.Change.voiced`), so what a
receiver was told leads from what the device looked like when the receiver was set up to what it
looks like now, at all times.
-/

namespace Piconet

open Function (update)
open Bench (free)

/-! ## What events tell -/

/-- What events tell of a device. -/
structure Appearance where
  initialized : Bool
  address : Option String
  name : Option String
  rssi : Int16
  capabilities : Capabilities
  connected : Bool
  usable : Bool
  deriving DecidableEq

/-- What a device looks like. -/
def Device.appearance (d : Device) : Appearance where
  initialized := d.initialized
  address := d.address.map (·.text)
  name := d.name
  rssi := d.rssi
  capabilities := d.capabilities
  connected := d.connected
  usable := d.usable

namespace Appearance

variable {u v w : Appearance} {es es' : List Event}

/-- What a device looks like after an event, to one who follows its events. -/
def see (v : Appearance) : Event → Appearance
  | .initialized success => { v with initialized := success }
  | .address text => { v with address := some text }
  | .name text => { v with name := text }
  | .rssi level => { v with rssi := level }
  | .capabilities caps => { v with capabilities := caps }
  | .connected up => { v with connected := up }
  | .usable usable => { v with usable := usable }

/-- An event that reports a property reports another value than the one known. -/
def News (v : Appearance) : Event → Prop
  | .initialized _ => True
  | .address text => v.address ≠ some text
  | .name text => v.name ≠ text
  | .rssi level => v.rssi ≠ level
  | .capabilities caps => v.capabilities ≠ caps
  | .connected up => v.connected ≠ up
  | .usable usable => v.usable ≠ usable

/-- Each event of a stream is news when it comes. -/
def AllNews : Appearance → List Event → Prop
  | _, [] => True
  | v, e :: es => v.News e ∧ (v.see e).AllNews es

/-- Events are news one after the other. -/
theorem allNews_append :
    v.AllNews (es ++ es') ↔ v.AllNews es ∧ (es.foldl see v).AllNews es' := by
  induction es generalizing v with
  | nil => exact (iff_of_eq (true_and _)).symm
  | cons e es ih =>
    rw [List.cons_append, AllNews, ih, AllNews, List.foldl_cons, and_assoc]

end Appearance

/-- Events lead from what a device looked like to what it looks like, and each is news when it
comes. -/
structure Tells (es : List Event) (v w : Appearance) : Prop where
  result : es.foldl Appearance.see v = w
  news : v.AllNews es

namespace Tells

variable {u v w : Appearance} {es es' : List Event} {e : Event}

theorem refl (v : Appearance) : Tells [] v v := ⟨rfl, trivial⟩

theorem single (news : v.News e) : Tells [e] v (v.see e) := ⟨rfl, news, trivial⟩

/-- What is told in two parts is told in one. -/
theorem append (first : Tells es u v) (second : Tells es' v w) : Tells (es ++ es') u w where
  result := by rw [List.foldl_append, first.result, second.result]
  news := by
    rw [Appearance.allNews_append, first.result]
    exact ⟨first.news, second.news⟩

/-- What is told of a property that may have changed, if there is anything to tell. -/
theorem ite {changed : Bool} {e? : Option Event}
    (told : changed → ∃ e, e? = some e ∧ v.News e ∧ v.see e = w) (same : changed = false → v = w) :
    Tells (if changed then e?.toList else []) v w := by
  cases changed with
  | true =>
    obtain ⟨e, rfl, news, rfl⟩ := told rfl
    exact single news
  | false =>
    obtain rfl := same rfl
    exact refl v

/-- What is told of a property that changed if two values of it differ. -/
theorem field {α : Type} [DecidableEq α] {x y : α} (news : x ≠ y → v.News e) (seen : v.see e = w)
    (same : x = y → v = w) : Tells (if decide (x ≠ y) then (some e).toList else []) v w :=
  ite (fun changed => ⟨e, rfl, news (of_decide_eq_true changed), seen⟩)
    fun kept => same (not_not.1 (of_decide_eq_false kept))

end Tells

/-! ## What is told of an update -/

namespace Device

variable {d e : Device} {es : List Event} {stored : List Profile}

/-- Changed properties are looked through one by one, and each gives one event or none. -/
theorem filterMap_filter {α β : Type} (keep : α → Bool) (f : α → Option β) (as : List α) :
    (as.filter keep).filterMap f = as.flatMap fun a => if keep a then (f a).toList else [] := by
  induction as with
  | nil => rfl
  | cons a as ih =>
    rw [List.filter_cons, List.flatMap_cons, ← ih]
    cases keep a with
    | true => cases h : f a <;> simp [h]
    | false => rfl

/-- **The events of an update tell what it did**, property by property. -/
theorem tells_eventsFor (initialized : e.initialized = d.initialized)
    (address : e.address = d.address ∨ d.address = none) :
    Tells (e.eventsFor (d.changes e)) d.appearance e.appearance := by
  rw [eventsFor, Changes.toList, filterMap_filter]
  -- each property in its turn is seen to be what it has become
  let v₁ : Appearance := { d.appearance with address := e.address.map (·.text) }
  let v₂ : Appearance := { v₁ with name := e.name }
  let v₃ : Appearance := { v₂ with rssi := e.rssi }
  let v₄ : Appearance := { v₃ with capabilities := e.capabilities }
  let v₅ : Appearance := { v₄ with connected := e.connected }
  have last : { v₅ with usable := e.usable } = e.appearance := by
    simp only [v₅, v₄, v₃, v₂, v₁, appearance, initialized]
  have addressed : Tells (if decide (d.address ≠ e.address) then (e.event? .address).toList else [])
      d.appearance v₁ := by
    refine .ite (fun changed => ?_) fun kept => ?_
    · have unknown : d.address = none :=
        address.resolve_left fun same => of_decide_eq_true changed same.symm
      obtain ⟨a, known⟩ : ∃ a, e.address = some a :=
        Option.ne_none_iff_exists'.1 fun none => of_decide_eq_true changed (unknown.trans none.symm)
      refine ⟨.address a.text, by rw [event?, known]; rfl, ?_, ?_⟩
      · simp [Appearance.News, appearance, unknown]
      · simp [v₁, Appearance.see, known]
    · have same : d.address = e.address := not_not.1 (of_decide_eq_false kept)
      exact congrArg (fun a => { d.appearance with address := Option.map KnownAddress.text a }) same
  rw [← last]
  exact addressed.append
    (.append (.field id rfl (congrArg fun x => { v₁ with name := x }))
    (.append (.field id rfl (congrArg fun x => { v₂ with rssi := x }))
    (.append (.field id rfl (congrArg fun x => { v₃ with capabilities := x }))
    (.append (.field id rfl (congrArg fun x => { v₄ with connected := x }))
    (.append (.field id rfl (congrArg fun x => { v₅ with usable := x })) (.refl _))))))

/-- The events of a batch of properties tell what it did. -/
theorem tells_merge (d : Device) (b : PropertyBatch) :
    Tells ((d.merge b).eventsFor (d.changes (d.merge b))) d.appearance (d.merge b).appearance := by
  refine tells_eventsFor rfl ?_
  cases known : d.address with
  | none => exact .inr rfl
  | some a => exact .inl (address_merge known b)

/-- To look through the registry shows nowhere but in the candidates. -/
theorem appearance_survey (d : Device) (stored : List Profile) :
    (d.survey stored).appearance = d.appearance := by
  rw [survey_eq]
  rfl

/-- **What an edit of a device tells** is what it does. -/
theorem Edit.tells (edit : d.Edit stored e es) (reported : d.initialized → d.reported) :
    Tells es d.appearance e.appearance := by
  cases edit with
  | bus | power => exact .refl _
  | batch b =>
    split
    · rw [appearance_survey]
      exact d.tells_merge b
    · exact d.tells_merge b
  | fetch b =>
    have same : ({ (d.merge b).survey stored with bound := true } : Device).appearance =
        (d.merge b).appearance := appearance_survey _ _
    rw [same]
    exact d.tells_merge b
  | report success first =>
    -- discovery does not end twice, so it has not succeeded before
    have fresh : d.initialized = false :=
      Bool.eq_false_iff.2 fun initialized => absurd (reported initialized) (by simp [first])
    have told : ({ d with reported := true, initialized := d.initialized || success } :
        Device).appearance = d.appearance.see (.initialized success) := by
      simp [appearance, Appearance.see, fresh]
    rw [told]
    exact .single trivial

end Device

/-! ## What a change of the core tells -/

variable {law : Core → Registry.Request → Prop} {scope : Core.Scope} {c c' : Core}
  {s : Option (DeviceId × Profile)} {id : DeviceId} {d e : Device} {name : String}

/-- The receiver of a name. -/
def Host.receiver? (h : Host) (name : String) : Option Receiver :=
  h.receivers.find? (·.name = name)

/-- Adds events to those that a receiver keeps. -/
def Receiver.append (r : Receiver) (es : List Event) : Receiver := { r with events := r.events ++ es }

theorem Receiver.append_nil (r : Receiver) : r.append [] = r := by
  rw [append, List.append_nil]

theorem Receiver.append_append (r : Receiver) (es es' : List Event) :
    (r.append es).append es' = r.append (es ++ es') :=
  congrArg (fun all => { r with events := all }) (List.append_assoc _ _ _)

/-- The receivers of one device are told, and the others are not. -/
theorem tell_eq (id : DeviceId) (es : List Event) (rs : List Receiver) :
    tell id es rs = rs.map fun r => if r.device = id then r.append es else r := by
  rw [tell]
  induction es generalizing rs with
  | nil => simp [Receiver.append]
  | cons e es ih =>
    rw [List.foldl_cons, ih, List.map_map]
    apply List.map_congr_left
    intro r _
    by_cases same : r.device = id <;> simp [Receiver.append, same]

/-- Events may be told in two parts. -/
theorem tell_append (id : DeviceId) (es es' : List Event) (rs : List Receiver) :
    tell id (es ++ es') rs = tell id es' (tell id es rs) := List.foldl_append

/-- Each receiver of the device is told. -/
theorem find?_tell (id : DeviceId) (es : List Event) (rs : List Receiver) (name : String) :
    (tell id es rs).find? (·.name = name) =
      (rs.find? (·.name = name)).map fun r => if r.device = id then r.append es else r := by
  rw [tell_eq, List.find?_map]
  congr 2
  funext r
  by_cases same : r.device = id <;> simp [Receiver.append, same]

/-- What a device says of itself when it changes. -/
inductive Device.Voices (d : Device) : List Event → Device → Prop
  /-- nothing, as nothing of it can be seen -/
  | silent {e : Device} (appearance : d.appearance = e.appearance) (reported : d.reported = e.reported) :
      Voices d [] e
  | edit {stored : List Profile} {es : List Event} {e : Device} (edit : d.Edit stored e es) :
      Voices d es e
  | usable (usable : Bool) (other : d.usable ≠ usable)
      (due : usable = true → d.gate.ready ∨ d.provisioned.isSome) :
      Voices d [.usable usable] { d with usable }

/-- What is said of a device from one moment to the next. Of a device that is gone nothing is said. -/
inductive Device.Utters : Option Device → List Event → Option Device → Prop
  | voices {es : List Event} {d e : Device} (voices : d.Voices es e) : Utters (some d) es (some e)
  | gone (x : Option Device) : Utters x [] none

theorem Device.Utters.same (x : Option Device) : Utters x [] x := by
  cases x with
  | none => exact .gone none
  | some d => exact .voices (.silent rfl rfl)

/-- A device that is there after a change was there before it. -/
theorem Device.Utters.of_some {x y : Option Device} {es : List Event} (utters : Utters x es y)
    (there : y = some e) : ∃ d, x = some d ∧ d.Voices es e := by
  cases utters with
  | voices voices =>
    obtain rfl := Option.some.inj there
    exact ⟨_, rfl, voices⟩
  | gone => exact absurd there (by simp)

/-- What a device says of itself tells what became of it. -/
theorem Device.Voices.tells {es : List Event} (voices : d.Voices es e)
    (reported : d.initialized → d.reported) : Tells es d.appearance e.appearance := by
  cases voices with
  | silent appearance => exact appearance ▸ .refl _
  | edit edit => exact edit.tells reported
  | usable usable other => exact .single other

namespace Core

/-- A device that discovery succeeded for has told so. -/
def Reported (c : Core) : Prop :=
  ∀ id d, c.devices id = some d → d.initialized → d.reported

/-- What receivers are told was reported by their devices. -/
theorem Step.reported (step : Step law c s c') (reported : c.Reported) : c'.Reported := by
  intro id e there initialized
  rcases step.origin there with ⟨d, found, revises⟩ | ⟨-, -, -, path, g, t, rfl⟩
  · have before := reported id d found
    cases revises with
    | same | start | session | power | decide | turnedDown | handedIn | conclude =>
      exact before initialized
    | edit _ _ edit _ _ =>
      cases edit with
      | bus | power => exact before initialized
      | report => rfl
      | batch b =>
        split at initialized
        · rw [Device.survey_eq] at initialized
          rw [if_pos ‹_›, Device.survey_eq]
          exact before initialized
        · rw [if_neg ‹_›]
          exact before initialized
      | fetch b =>
        rw [Device.survey_eq] at initialized ⊢
        exact before initialized
    | hear _ hears _ =>
      rw [Device.hear_eq hears] at initialized ⊢
      exact before initialized
    | adopt =>
      rw [Device.track_eq] at initialized ⊢
      exact before initialized
  · exact absurd initialized (by simp [Device.fresh])

/-- **What a change does to a device it tells its receivers**, if it keeps its hands off a name: the
receiver of the name gets the events of at most one device, and these are what that device says of
itself; of all others nothing can be seen that was not seen before. -/
theorem Change.voiced (change : Change law scope c s c') (kept : ¬ scope.roster name) :
    ∃ id es, c'.receivers.find? (·.name = name) = (tell id es c.receivers).find? (·.name = name) ∧
      ∀ j, j ≠ c.nextId → Device.Utters (c.devices j) (if j = id then es else []) (c'.devices j) := by
  -- nothing is told where nothing can be seen
  have silent (receivers : c'.receivers.find? (·.name = name) = c.receivers.find? (·.name = name))
      (same : ∀ j, j ≠ c.nextId → Device.Utters (c.devices j) [] (c'.devices j)) :
      ∃ id es, c'.receivers.find? (·.name = name) =
          (tell id es c.receivers).find? (·.name = name) ∧
        ∀ j, j ≠ c.nextId → Device.Utters (c.devices j) (if j = id then es else []) (c'.devices j) := by
    refine ⟨0, [], receivers, fun j old => ?_⟩
    rw [ite_self]
    exact same j old
  -- one device is told of
  have told {j : DeviceId} {d x : Device} {es : List Event} (found : c.devices j = some d)
      (voices : d.Voices es x) :
      ∀ i, i ≠ c.nextId →
        Device.Utters (c.devices i) (if i = j then es else []) (update c.devices j (some x) i) := by
    intro i _
    by_cases same : i = j
    · subst same
      rw [if_pos rfl, found, Function.update_self]
      exact .voices voices
    · rw [if_neg same, Function.update_of_ne same]
      exact .same _
  have revised {j : DeviceId} {d x : Device} (found : c.devices j = some d)
      (appearance : d.appearance = x.appearance) (reported : d.reported = x.reported) :
      ∀ i, i ≠ c.nextId → Device.Utters (c.devices i) [] (update c.devices j (some x) i) := by
    intro i old
    have utters := told found (.silent appearance reported) i old
    rwa [ite_self] at utters
  cases change with
  | enlist | cancel | reported | endRuns | comeUp | defer | summon | requestUnheard | request
  | heardByAll | watched | turn | unmoved | late | concede => exact silent rfl fun j _ => .same _
  | receivers rs stay => exact silent ((stay name).resolve_left kept) fun j _ => .same _
  | create path g t =>
    refine silent rfl fun j old => ?_
    change Device.Utters (c.devices j) [] (update c.devices c.nextId _ j)
    rw [Function.update_of_ne old]
    exact .same _
  | destroy j =>
    refine silent rfl fun i _ => ?_
    change Device.Utters (c.devices i) [] (update c.devices j none i)
    rw [Function.update_apply]
    split
    · exact .gone _
    · exact .same _
  | startRun j d found | session j d s found | findPower run j d on quiet found
  | turnedDown j d ds name why next found | handedIn j d ds name lives next found =>
    exact silent rfl (revised found rfl rfl)
  | moved n j ls ds d x next found hears =>
    refine silent rfl (revised found ?_ ?_)
    · rw [Device.hear_eq hears]
      rfl
    · rw [Device.hear_eq hears]
  | adopt j d uuid ds next found =>
    refine silent rfl (revised found ?_ ?_)
    · rw [Device.track_eq]
      rfl
    · rw [Device.track_eq]
  | edit j d x es ds next quiet found edit up => exact ⟨j, es, rfl, told found (.edit edit)⟩
  | decide j d ds usable next found decided =>
    by_cases same : d.usable = usable
    · refine silent (by rw [if_pos same]) (revised found ?_ rfl)
      rw [← same]
    · refine ⟨j, [.usable usable], by rw [if_neg same], told found (.usable usable same ?_)⟩
      rintro rfl
      exact .inl (Device.ready_of_decided decided)
  | conclude j d ds next found =>
    by_cases same : d.usable = d.provisioned.isSome
    · refine silent (by rw [if_pos same]) (revised found ?_ rfl)
      rw [← same]
    · refine ⟨j, [.usable d.provisioned.isSome], by rw [if_neg same], told found (.usable _ same ?_)⟩
      exact .inr

/-! ## What a receiver was told -/

/-- The receiver of a name was told something of its device, in the events that it handed on and those
that it keeps. -/
structure Gathers (name : String) (id : DeviceId) (R : List Event → Option Device → Prop)
    (es : List Event) (c : Core) : Prop where
  /-- the device is not another one that got the identifier later -/
  known : id < c.nextId
  told : ∃ r, c.receivers.find? (·.name = name) = some r ∧ r.device = id ∧
    R (es ++ r.events) (c.devices id)

/-- What a device says of itself adds to what it said before. -/
def Adds (R : List Event → Option Device → Prop) (id : DeviceId) (c : Core) : Prop :=
  ∀ es es' x, R es (c.devices id) → Device.Utters (c.devices id) es' x → R (es ++ es') x

variable {R : List Event → Option Device → Prop} {es : List Event}

/-- **A receiver keeps hearing of its device**, step by step. -/
theorem Change.gathers (change : Change law scope c s c') (kept : ¬ scope.roster name)
    (adds : c.Adds R id) (gathers : c.Gathers name id R es) : c'.Gathers name id R es := by
  obtain ⟨known, r, found, rfl, heard⟩ := gathers
  obtain ⟨j, es', receivers, devices⟩ := change.voiced kept
  have after : c'.receivers.find? (·.name = name) =
      some (if r.device = j then r.append es' else r) := by
    rw [receivers, find?_tell, found, Option.map_some]
  refine ⟨Nat.lt_of_lt_of_le known change.step.nextId_le, _, after, by split <;> rfl, ?_⟩
  have added := adds _ _ _ heard (devices r.device (Nat.ne_of_lt known))
  by_cases mine : r.device = j
  · rw [if_pos mine] at added ⊢
    rwa [Receiver.append, ← List.append_assoc]
  · rw [if_neg mine, List.append_nil] at added
    rwa [if_neg mine]

/-- A receiver that nobody replaces gathers what the steps in between add. -/
theorem Changes.gathers {P : Core → Prop} (changes : Changes law scope c c') (kept : ¬ scope.roster name)
    (stable : ∀ c s c', Step law c s c' → P c → P c') (adds : ∀ c, P c → c.Adds R id) (holds : P c)
    (gathers : c.Gathers name id R es) : c'.Gathers name id R es := by
  suffices both : P c' ∧ c'.Gathers name id R es from both.2
  induction changes with
  | refl => exact ⟨holds, gathers⟩
  | tail _ change ih =>
    obtain ⟨holds, gathers⟩ := ih
    exact ⟨stable _ _ _ change.step holds, change.gathers kept (adds _ holds) gathers⟩

/-- The receiver of a name was told what became of its device since that looked a certain way. -/
abbrev Follows (name : String) (id : DeviceId) (v : Appearance) (es : List Event) (c : Core) : Prop :=
  c.Gathers name id (fun es x => ∀ d, x = some d → Tells es v d.appearance) es

/-- Each step adds events that tell how its device came to look as it does. -/
theorem Reported.adds {v : Appearance} (reported : c.Reported) :
    c.Adds (fun es x => ∀ d, x = some d → Tells es v d.appearance) id := by
  intro es es' x tells utters e there
  obtain ⟨d, found, voices⟩ := utters.of_some there
  exact (tells d found).append (voices.tells (reported id d found))

end Core

namespace Bench

variable {b c c' : Bench} {es : List Event} {v : Appearance}

/-! ## All runs -/

/-- The events of a receiver that a move hands on. -/
def handsOn (b : Bench) (name : String) : Move → List Event
  | .report => (b.host.receiver? name).elim [] (·.events)
  | .act | .step _ | .poll _ | .follow _ => []

/-- The runs in which the receiver of a name is kept, with the events that it has handed on. -/
inductive Hears (name : String) (b : Bench) : List Event → Bench → Prop
  | refl : Hears name b [] b
  | move {es : List Event} {c c' : Bench} (m : Move) (heard : Hears name b es c)
      (kept : c.receiver? m ≠ some name) (made : c.make m = some c') :
      Hears name b (es ++ c.handsOn name m) c'

/-- To hear events takes a run of the bench. -/
theorem Hears.reaches (heard : Hears name b es c) : Reaches free b c := by
  induction heard with
  | refl => exact .refl
  | move m _ _ made ih => exact ih.move m (fun _ _ _ => trivial) made

/-- **In every run the queued events of a receiver lead to what its device looks like.** -/
theorem Reachable.reported {law : Law} (reached : Reachable law b) : b.host.core.Reported :=
  reached.core_induction (fun _ _ _ _ found => absurd found (by simp [Core.opening]))
    fun _ _ _ reported step => step.reported reported

/-- A receiver that hands its events on has been told them all the same. -/
theorem gathers_clear {R : List Event → Option Device → Prop} (gathers : c.host.core.Gathers name id R es) :
    c.clear.host.core.Gathers name id R (es ++ c.handsOn name .report) := by
  obtain ⟨known, r, found, device, heard⟩ := gathers
  have handed : c.handsOn name .report = r.events := by
    have looked : c.host.receiver? name = some r := found
    rw [handsOn, looked]
    rfl
  have after : (c.host.receivers.map fun r => { r with events := [] }).find? (·.name = name) =
      some { r with events := [] } := by
    rw [List.find?_map]
    exact congrArg (Option.map _) found
  refine ⟨known, _, after, device, ?_⟩
  rw [handed, List.append_nil]
  exact heard

/-- A receiver keeps hearing of its device in a move. -/
theorem gathers_make {m : Move} {P : Core → Prop} {R : List Event → Option Device → Prop}
    (reached : Reachable free c) (kept : c.receiver? m ≠ some name) (made : c.make m = some c')
    (stable : ∀ c s c', Core.Step free c s c' → P c → P c') (adds : ∀ c, P c → c.Adds R id)
    (holds : P c.host.core) (gathers : c.host.core.Gathers name id R es) :
    c'.host.core.Gathers name id R (es ++ c.handsOn name m) := by
  by_cases report : m = .report
  · subst report
    obtain ⟨-, made⟩ := Option.ite_none_right_eq_some.1 made
    obtain rfl := Option.some.inj made
    exact gathers_clear gathers
  · have off : ¬ (c.scopeOf m).roster name := by
      rintro (same | listed)
      · exact report same
      · exact kept listed
    have nothing : c.handsOn name m = [] := by
      cases m with
      | report => exact absurd rfl report
      | _ => rfl
    rw [nothing, List.append_nil]
    rcases reached.changes_make made with changes | ⟨-, s, change⟩
    · exact changes.gathers off stable adds holds gathers
    · exact change.gathers off (adds _ holds) gathers

/-- A receiver follows its device through a move. -/
theorem follows_make {m : Move} (reached : Reachable free c) (kept : c.receiver? m ≠ some name)
    (made : c.make m = some c') (follows : c.host.core.Follows name id v es) :
    c'.host.core.Follows name id v (es ++ c.handsOn name m) :=
  gathers_make (P := Core.Reported) reached kept made (fun _ _ _ step reported => step.reported reported)
    (fun _ reported => reported.adds) reached.reported follows

/-- **Event streams are faithful.** Take what a device looks like when a receiver of its events is obtained, and
apply to it, in their order, the events that the receiver has handed on since and those that it has queued: that
is what the device looks like now, however much happened in between. And each of these events that reports a
property brings a value other than the one known before it, so nothing is said twice. -/
theorem tells_of_hears {d e : Device} (reached : Reachable free b)
    (obtained : b.host.receiver? name = some { name, device := id })
    (found : b.host.device? id = some d) (heard : Hears name b es c)
    (there : c.host.device? id = some e) :
    ∃ r, c.host.receiver? name = some r ∧ r.device = id ∧
      (es ++ r.events).foldl Appearance.see d.appearance = e.appearance ∧
      d.appearance.AllNews (es ++ r.events) := by
  suffices follows : c.host.core.Follows name id d.appearance es by
    obtain ⟨-, r, found, device, tells⟩ := follows
    exact ⟨r, found, device, (tells e there).result, (tells e there).news⟩
  clear there
  induction heard with
  | refl =>
    refine ⟨reached.upkeep.known id d found, _, obtained, rfl, fun x there => ?_⟩
    obtain rfl := Option.some.inj (found.symm.trans there)
    exact .refl _
  | move m heard kept made ih =>
    exact follows_make (reached.trans heard.reaches) kept made ih

/-- A bench whose only device is being brought up, and whose events somebody just came to keep;
after the moves given. -/
def overheard (ms : List Move) : Bench :=
  (opening .bluez4 (.stub (offering "1103-0")) true none).makeAll
    (([.step (.command (.request (.insert fitting))), .act, .step (.newDevice "D" "/d" none {}),
      .step (.run "D"), .poll 1, .act, .act, .act, .act, .act, .step (.listen "D" "W")] : List Move) ++ ms)

theorem reachable_overheard (ms : List Move) : Reachable free (overheard ms) :=
  ⟨_, _, _, _, _, reaches_makeAll _ _ fun _ _ => trivial⟩

/-- The device comes up and becomes usable, and its receiver hands on that it did. -/
theorem hears_overheard :
    Hears "W" (overheard []) [.initialized true, .usable true] (overheard [.act, .act, .report]) := by
  have up : Hears "W" (overheard []) [] (overheard [.act]) :=
    Hears.refl.move .act (by decide) (by rfl)
  have usable : Hears "W" (overheard []) [] (overheard [.act, .act]) :=
    up.move .act (by decide) (by rfl)
  exact usable.move .report (by decide) (by rfl)

/-- A receiver that was obtained during discovery is told of the initialization, of usability and of what came
after these. -/
theorem tells_overheard :
    ∃ d e r, (overheard []).host.device? 0 = some d ∧ d.initialized = false ∧
      (overheard [.act, .act, .report]).host.device? 0 = some e ∧
      (overheard [.act, .act, .report]).host.receiver? "W" = some r ∧ r.device = 0 ∧
      ([Event.initialized true, .usable true] ++ r.events).foldl Appearance.see d.appearance =
        e.appearance ∧
      d.appearance.AllNews ([.initialized true, .usable true] ++ r.events) := by
  have found : (overheard []).host.device? 0 = some (((overheard []).host.device? 0).get (by rfl)) :=
    (Option.some_get _).symm
  have there : (overheard [.act, .act, .report]).host.device? 0 =
      some (((overheard [.act, .act, .report]).host.device? 0).get (by rfl)) :=
    (Option.some_get _).symm
  obtain ⟨r, told⟩ :=
    tells_of_hears (reachable_overheard []) (by rfl) found hears_overheard there
  exact ⟨_, _, r, found, by rfl, there, told⟩

end Bench

end Piconet
