import Dataflow.Port.Store
import Dataflow.Proofs.KeyMap

/-!
# A store as its queues

Everything a store answers is read off the queues of its ports: two stores with the same answer
of `PortStore.queue` for every port are equal (`PortStore.ext_queue`).  So an operation is known by
what it does to the queues, and what the engine does to them is one kind of thing only: it changes
the queues of one actor in one direction, `PortStore.mapSide`.

* `PortStore.queue_mapSide` — the queues afterwards, those of other actors and of the other
  direction included.
* `PortStore.setQueue_eq_mapSide` — putting a queue in the place of a port's changes that queue and
  nothing else.
* `PortStore.mapSide_mapSide`, `PortStore.mapSide_congr`, `PortStore.mapSide_congr_at`,
  `PortStore.mapSide_eq_self` — the laws by which several changes are one.
-/

namespace Dataflow

/-! ## Port sets -/

namespace PortSet

/-- Applies a function to the queues of one direction. -/
def mapSide (ports : PortSet) (direction : Direction) (f : String → Queue → Queue) : PortSet :=
  match direction with
  | .input => { ports with inputs := ports.inputs.mapNamed f }
  | .output => { ports with outputs := ports.outputs.mapNamed f }

theorem get?_side_mapSide (ports : PortSet) (direction other : Direction)
    (f : String → Queue → Queue) (port : String) :
    ((ports.mapSide direction f).side other).get? port =
      if other = direction then ((ports.side other).get? port).map (f port)
      else (ports.side other).get? port := by
  cases direction <;> cases other <;> simp [mapSide, side]

theorem get?_side_setQueue (ports : PortSet) (direction other : Direction) (port name : String)
    (queue : Queue) :
    ((ports.setQueue direction port queue).side other).get? name =
      if other = direction ∧ name = port then some queue else (ports.side other).get? name := by
  by_cases same : name = port
  · subst same
    cases direction <;> cases other <;> simp [setQueue, side]
  · cases direction <;> cases other <;> simp [setQueue, side, same]

/-- Port sets with the same queues are equal. -/
theorem ext_get? {first second : PortSet}
    (h : ∀ direction port, (first.side direction).get? port = (second.side direction).get? port) :
    first = second := by
  have inputs : first.inputs = second.inputs := KeyMap.ext_get? (h .input)
  have outputs : first.outputs = second.outputs := KeyMap.ext_get? (h .output)
  cases first
  cases second
  simp_all

end PortSet

namespace PortStore

/-! ## Finding queues -/

theorem queue_of_ports? {store : PortStore} {actor : ActorRef} {ports : PortSet}
    (h : store.ports? actor = some ports) (direction : Direction) (port : String) :
    store.queue actor direction port =
      match (ports.side direction).get? port with
      | none => .error (.unknownPort actor port direction)
      | some queue => .ok queue := by
  unfold queue
  generalize store.ports? actor = known at h
  subst h
  rfl

theorem queue_of_ports?_none {store : PortStore} {actor : ActorRef}
    (h : store.ports? actor = none) (direction : Direction) (port : String) :
    store.queue actor direction port = .error (.unknownActor actor) := by
  simp only [queue, h]

theorem queue_eq_ok_iff {store : PortStore} {actor : ActorRef} {direction : Direction}
    {port : String} {queue : Queue} :
    store.queue actor direction port = .ok queue ↔
      ∃ ports, store.ports? actor = some ports ∧
        (ports.side direction).get? port = some queue := by
  cases known : store.ports? actor with
  | none => simp [queue_of_ports?_none known]
  | some ports =>
      rw [queue_of_ports? known]
      cases found : (ports.side direction).get? port <;> simp [found]

/-- The only ways in which a port is not found. -/
theorem queue_eq_error {store : PortStore} {actor : ActorRef} {direction : Direction}
    {port : String} {e : PortError} (h : store.queue actor direction port = .error e) :
    e = .unknownActor actor ∨ e = .unknownPort actor port direction := by
  cases known : store.ports? actor with
  | none =>
      rw [queue_of_ports?_none known] at h
      cases h
      exact Or.inl rfl
  | some ports =>
      rw [queue_of_ports? known] at h
      split at h
      · cases h
        exact Or.inr rfl
      · cases h

/-! ## Stores with the same queues -/

theorem ext_ports? {first second : PortStore}
    (h : ∀ actor, first.ports? actor = second.ports? actor) : first = second := by
  have same : first.actors = second.actors := KeyMap.ext_get? fun name => h ⟨name⟩
  cases first
  cases second
  simp_all

/-- The ports of an actor are known from the answers for all of them. -/
theorem ports?_eq_of_queue {first second : PortStore} {actor : ActorRef}
    (h : ∀ direction port, first.queue actor direction port = second.queue actor direction port) :
    first.ports? actor = second.ports? actor := by
  cases known : first.ports? actor with
  | none =>
      cases known' : second.ports? actor with
      | none => rfl
      | some ports =>
          have answer := h .input ""
          rw [queue_of_ports?_none known, queue_of_ports? known'] at answer
          split at answer <;> simp at answer
  | some ports =>
      cases known' : second.ports? actor with
      | none =>
          have answer := h .input ""
          rw [queue_of_ports?_none known', queue_of_ports? known] at answer
          split at answer <;> simp at answer
      | some ports' =>
          congr 1
          refine PortSet.ext_get? fun direction port => ?_
          have answer := h direction port
          rw [queue_of_ports? known, queue_of_ports? known'] at answer
          split at answer <;> split at answer <;> simp_all

/-- Stores that answer the same for every port are equal. -/
theorem ext_queue {first second : PortStore}
    (h : ∀ actor direction port,
      first.queue actor direction port = second.queue actor direction port) : first = second :=
  ext_ports? fun actor => ports?_eq_of_queue (h actor)

/-! ## Changing the ports of one actor -/

@[simp] theorem ports?_setPorts_self (store : PortStore) (actor : ActorRef) (ports : PortSet) :
    (store.setPorts actor ports).ports? actor = some ports :=
  KeyMap.get?_insert_self ..

theorem ports?_setPorts_of_ne (store : PortStore) {actor other : ActorRef} (h : other ≠ actor)
    (ports : PortSet) : (store.setPorts actor ports).ports? other = store.ports? other :=
  KeyMap.get?_insert_of_ne _ (fun same => h (by cases other; cases actor; simp_all)) _

/-- Putting a port set in its own place. -/
theorem setPorts_self {store : PortStore} {actor : ActorRef} {ports : PortSet}
    (h : store.ports? actor = some ports) : store.setPorts actor ports = store := by
  refine ext_ports? fun other => ?_
  by_cases same : other = actor
  · rw [same, ports?_setPorts_self, h]
  · exact ports?_setPorts_of_ne _ same _

/-- Of two port sets that are put in one place the later one stays. -/
@[simp] theorem setPorts_setPorts (store : PortStore) (actor : ActorRef)
    (first second : PortSet) :
    (store.setPorts actor first).setPorts actor second = store.setPorts actor second := by
  refine ext_ports? fun other => ?_
  by_cases same : other = actor
  · rw [same, ports?_setPorts_self, ports?_setPorts_self]
  · rw [ports?_setPorts_of_ne _ same, ports?_setPorts_of_ne _ same, ports?_setPorts_of_ne _ same]

/-- Answers for an actor depend on that actor's ports alone. -/
theorem queue_congr {first second : PortStore} {actor : ActorRef}
    (h : first.ports? actor = second.ports? actor) (direction : Direction) (port : String) :
    first.queue actor direction port = second.queue actor direction port := by
  rw [queue, queue, h]

/-- Applies a function to the queues of an actor in one direction. -/
def mapSide (store : PortStore) (actor : ActorRef) (direction : Direction)
    (f : String → Queue → Queue) : PortStore :=
  match store.ports? actor with
  | none => store
  | some ports => store.setPorts actor (ports.mapSide direction f)

theorem queue_mapSide (store : PortStore) (actor other : ActorRef)
    (direction way : Direction) (f : String → Queue → Queue) (port : String) :
    (store.mapSide actor direction f).queue other way port =
      if other = actor ∧ way = direction then (store.queue other way port).map (f port)
      else store.queue other way port := by
  cases known : store.ports? actor with
  | none =>
      simp only [mapSide, known]
      split
      · rename_i here
        rw [here.1, queue_of_ports?_none known]
        rfl
      · rfl
  | some ports =>
      simp only [mapSide, known]
      by_cases same : other = actor
      · subst same
        rw [queue_of_ports? (ports?_setPorts_self ..), queue_of_ports? known,
          PortSet.get?_side_mapSide]
        by_cases here : way = direction
        · rw [if_pos here, if_pos ⟨rfl, here⟩]
          cases (ports.side way).get? port <;> rfl
        · rw [if_neg here, if_neg fun h => here h.2]
      · rw [if_neg fun h => same h.1]
        exact queue_congr (ports?_setPorts_of_ne _ same _) way port

theorem queue_mapSide_self {store : PortStore} {actor : ActorRef} {direction : Direction}
    {port : String} {queue : Queue} (f : String → Queue → Queue)
    (h : store.queue actor direction port = .ok queue) :
    (store.mapSide actor direction f).queue actor direction port = .ok (f port queue) := by
  rw [queue_mapSide, if_pos ⟨rfl, rfl⟩, h]
  rfl

theorem queue_mapSide_of_ne {store : PortStore} {actor other : ActorRef}
    {direction way : Direction} (f : String → Queue → Queue) (port : String)
    (h : ¬(other = actor ∧ way = direction)) :
    (store.mapSide actor direction f).queue other way port = store.queue other way port := by
  rw [queue_mapSide, if_neg h]

/-- A queue after a change is what became of one before it. -/
theorem exists_of_queue_mapSide {store : PortStore} {actor other : ActorRef}
    {direction way : Direction} {f : String → Queue → Queue} {port : String} {queue : Queue}
    (found : (store.mapSide actor direction f).queue other way port = .ok queue) :
    ∃ old, store.queue other way port = .ok old ∧
      queue = if other = actor ∧ way = direction then f port old else old := by
  rw [queue_mapSide] at found
  cases before : store.queue other way port with
  | error e =>
      rw [before] at found
      split at found <;> cases found
  | ok old =>
      rw [before] at found
      split at found
      · rename_i here
        cases found
        exact ⟨old, rfl, (if_pos here).symm⟩
      · rename_i apart
        cases found
        exact ⟨queue, rfl, (if_neg apart).symm⟩

/-- Two changes of the same queues, one after the other, are one change. -/
theorem mapSide_mapSide (store : PortStore) (actor : ActorRef) (direction : Direction)
    (f g : String → Queue → Queue) :
    (store.mapSide actor direction f).mapSide actor direction g =
      store.mapSide actor direction fun port queue => g port (f port queue) := by
  refine ext_queue fun other way port => ?_
  rw [queue_mapSide, queue_mapSide, queue_mapSide]
  split
  · cases store.queue other way port <;> rfl
  · rfl

/-- Changes that agree on the queues that are there are the same change. -/
theorem mapSide_congr {store : PortStore} {actor : ActorRef} {direction : Direction}
    {f g : String → Queue → Queue}
    (h : ∀ port queue, store.queue actor direction port = .ok queue →
      f port queue = g port queue) :
    store.mapSide actor direction f = store.mapSide actor direction g := by
  refine ext_queue fun other way port => ?_
  rw [queue_mapSide, queue_mapSide]
  split
  · rename_i here
    obtain ⟨rfl, rfl⟩ := here
    cases found : store.queue other way port with
    | error e => rfl
    | ok queue => exact congrArg Except.ok (h port queue found)
  · rfl

/-- Changes that agree on the queue of one port and on all the others. -/
theorem mapSide_congr_at {store : PortStore} {actor : ActorRef} {direction : Direction}
    {port : String} {queue : Queue} (found : store.queue actor direction port = .ok queue)
    {f g : String → Queue → Queue} (here : f port queue = g port queue)
    (elsewhere : ∀ name other, name ≠ port → f name other = g name other) :
    store.mapSide actor direction f = store.mapSide actor direction g := by
  refine mapSide_congr fun name other found' => ?_
  by_cases same : name = port
  · subst same
    obtain rfl : queue = other := by simpa [found] using found'
    exact here
  · exact elsewhere name other same

/-- A change that changes none of the queues that are there. -/
theorem mapSide_eq_self {store : PortStore} {actor : ActorRef} {direction : Direction}
    {f : String → Queue → Queue}
    (h : ∀ port queue, store.queue actor direction port = .ok queue → f port queue = queue) :
    store.mapSide actor direction f = store := by
  refine ext_queue fun other way port => ?_
  rw [queue_mapSide]
  split
  · rename_i here
    obtain ⟨rfl, rfl⟩ := here
    cases found : store.queue other way port with
    | error e => rfl
    | ok queue => exact congrArg Except.ok (h port queue found)
  · rfl

/-! ## Changing one queue -/

/-- The change of the queue of one port. -/
def onlyAt (port : String) (change : Queue → Queue) (name : String) (queue : Queue) : Queue :=
  if name = port then change queue else queue

/-- Putting a queue in the place of a port's. -/
theorem setQueue_eq_mapSide {store : PortStore} {actor : ActorRef} {direction : Direction}
    {port : String} {queue : Queue} (h : store.queue actor direction port = .ok queue)
    (replacement : Queue) :
    store.setQueue actor direction port replacement =
      store.mapSide actor direction (onlyAt port fun _ => replacement) := by
  obtain ⟨ports, known, found⟩ := queue_eq_ok_iff.1 h
  refine ext_queue fun other way name => ?_
  rw [queue_mapSide, setQueue, known, Option.getD_some]
  by_cases same : other = actor
  · subst same
    rw [queue_of_ports? (ports?_setPorts_self ..), queue_of_ports? known,
      PortSet.get?_side_setQueue]
    by_cases here : way = direction ∧ name = port
    · obtain ⟨rfl, rfl⟩ := here
      rw [if_pos ⟨rfl, rfl⟩, if_pos ⟨rfl, rfl⟩, found]
      simp [onlyAt, Except.map]
    · rw [if_neg here]
      by_cases side : way = direction
      · have different : name ≠ port := fun eq => here ⟨side, eq⟩
        rw [if_pos ⟨rfl, side⟩]
        cases (ports.side way).get? name with
        | none => rfl
        | some old => simp [onlyAt, different, Except.map]
      · rw [if_neg fun h => side h.2]
  · rw [if_neg fun h => same h.1]
    exact queue_congr (ports?_setPorts_of_ne _ same _) way name

/-- A port that is there is another one than a port that is not. -/
theorem ne_of_queue {store : PortStore} {actor : ActorRef} {direction : Direction}
    {port missing : String} {queue : Queue} {e : PortError}
    (found : store.queue actor direction port = .ok queue)
    (absent : store.queue actor direction missing = .error e) : port ≠ missing := by
  rintro rfl
  rw [found] at absent
  cases absent

theorem mapSide_onlyAt_congr {store : PortStore} {actor : ActorRef} {direction : Direction}
    {port : String} {queue : Queue} (found : store.queue actor direction port = .ok queue)
    {f g : Queue → Queue} (same : f queue = g queue) :
    store.mapSide actor direction (onlyAt port f) =
      store.mapSide actor direction (onlyAt port g) := by
  refine mapSide_congr_at found ?_ fun name other different => ?_
  · rw [onlyAt, onlyAt, if_pos rfl, if_pos rfl, same]
  · rw [onlyAt, onlyAt, if_neg different, if_neg different]

/-- Putting a queue in its own place. -/
theorem mapSide_onlyAt_self {store : PortStore} {actor : ActorRef} {direction : Direction}
    {port : String} {queue : Queue} (found : store.queue actor direction port = .ok queue) :
    store.mapSide actor direction (onlyAt port fun _ => queue) = store := by
  calc store.mapSide actor direction (onlyAt port fun _ => queue)
      = store.mapSide actor direction (onlyAt port fun other => other) :=
        mapSide_onlyAt_congr found rfl
    _ = store := mapSide_eq_self fun _ _ _ => ite_self _

theorem fst_append (actor : ActorRef) (port : String) (token : Token) (queue : Queue) :
    (append actor port token queue).1 =
      if queue.slotsAvailable 1 then { queue with tokens := queue.tokens ++ [token] }
      else queue := by
  by_cases room : queue.slotsAvailable 1 = true
  · simp only [append, Queue.write?, if_pos room]
  · simp only [append, Queue.write?, if_neg room]

theorem onQueue_of_ok {α : Type} {store : PortStore} {actor : ActorRef} {direction : Direction}
    {port : String} {queue : Queue} (h : store.queue actor direction port = .ok queue)
    (work : Queue → Queue × Except PortError α) :
    store.onQueue actor direction port work =
      (store.mapSide actor direction (onlyAt port fun _ => (work queue).1), (work queue).2) := by
  simp only [onQueue, h, setQueue_eq_mapSide h]

theorem onQueue_of_error {α : Type} {store : PortStore} {actor : ActorRef}
    {direction : Direction} {port : String} {e : PortError}
    (h : store.queue actor direction port = .error e)
    (work : Queue → Queue × Except PortError α) :
    store.onQueue actor direction port work = (store, .error e) := by
  simp only [onQueue, h]

/-- Whether the port is there or not, at most its queue is changed. -/
theorem fst_onQueue {α : Type} (store : PortStore) (actor : ActorRef) (direction : Direction)
    (port : String) (work : Queue → Queue × Except PortError α) :
    (store.onQueue actor direction port work).1 =
      store.mapSide actor direction (onlyAt port fun queue => (work queue).1) := by
  cases found : store.queue actor direction port with
  | ok queue =>
      rw [onQueue_of_ok found]
      exact mapSide_onlyAt_congr found rfl
  | error e =>
      rw [onQueue_of_error found]
      exact (mapSide_eq_self fun _ _ found' => if_neg (ne_of_queue found' found)).symm

/-- Work that leaves the queue as it is when it fails leaves the whole store as it is, whether the
port was missing or the work failed. -/
theorem onQueue_refused {α : Type} {store : PortStore} {actor : ActorRef}
    {direction : Direction} {port : String} {work : Queue → Queue × Except PortError α}
    {e : PortError}
    (keeps : ∀ queue e, (work queue).2 = .error e → (work queue).1 = queue)
    (refused : (store.onQueue actor direction port work).2 = .error e) :
    (store.onQueue actor direction port work).1 = store := by
  cases found : store.queue actor direction port with
  | error missing => rw [onQueue_of_error found]
  | ok queue =>
      rw [onQueue_of_ok found] at refused ⊢
      have same : (work queue).1 = queue := keeps queue e refused
      rw [same]
      exact mapSide_onlyAt_self found

theorem append_refused {actor : ActorRef} {port : String} {token : Token} {queue : Queue}
    {e : PortError}
    (refused : (append actor port token queue).2 = .error e) :
    (append actor port token queue).1 = queue := by
  unfold append at refused ⊢
  cases written : queue.write? token with
  | none => rfl
  | some next =>
      rw [written] at refused
      cases refused

/-- Work on one port leaves every other one alone. -/
theorem queue_onQueue_of_ne {α : Type} {store : PortStore} {actor other : ActorRef}
    {direction way : Direction} {port name : String} {queue : Queue}
    {work : Queue → Queue × Except PortError α}
    (different : ¬(actor = other ∧ direction = way ∧ port = name))
    (found : store.queue actor direction port = .ok queue) :
    (store.onQueue other way name work).1.queue actor direction port = .ok queue := by
  rw [fst_onQueue, queue_mapSide, found]
  split
  · rename_i here
    rw [Except.map, onlyAt, if_neg fun same => different ⟨here.1, here.2, same⟩]
  · rfl

/-- Putting a queue in the place of a port's, whether the port is there or not. -/
theorem queue_setQueue_eq_ok_iff {store : PortStore} {actor other : ActorRef}
    {direction way : Direction} {port name : String} {queue replacement : Queue} :
    (store.setQueue actor direction port replacement).queue other way name = .ok queue ↔
      if other = actor ∧ way = direction ∧ name = port then replacement = queue
      else store.queue other way name = .ok queue := by
  by_cases same : other = actor
  · subst same
    rw [setQueue, queue_of_ports? (ports?_setPorts_self ..), PortSet.get?_side_setQueue]
    by_cases here : way = direction ∧ name = port
    · rw [if_pos here, if_pos ⟨rfl, here⟩, Except.ok.injEq]
    · rw [if_neg here, if_neg fun all => here all.2]
      cases known : store.ports? other with
      | none =>
          rw [queue_of_ports?_none known]
          refine iff_of_false ?_ nofun
          cases way <;> nofun
      | some ports => rw [queue_of_ports? known, Option.getD_some]
  · rw [if_neg fun all => same all.1, setQueue, queue_congr (ports?_setPorts_of_ne _ same _)]

end PortStore

end Dataflow
