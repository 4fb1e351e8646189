import Mathlib.Data.List.Nodup
import ServiceHost.Connections.Routing
import ServiceHost.Proofs.Counting

/-!
# Permits and connections are conserved

A permit is free, with the accepting loop, or with a connection that is not closed; no move loses or
makes one (`Routing.permits_change`).  A connection goes through its stages in one order
(`ConnectionRecord.Step`), whatever the others do, so it is counted once, when its sniffing is over,
and reaches at most the server of its own class.

The main statement is `Routing.connections_conserved`, about all states that moves lead to.
-/

namespace ServiceHost

/-- What is known of one connection: its stage, the classes under which it was counted and the
servers that it reached, the latest first. -/
structure ConnectionRecord where
  /-- None if it was not accepted so far. -/
  stage : Option ConnectionStage
  classes : List ConnectionClass
  deliveries : List Protocol

namespace ConnectionRecord

/-- One step of a connection. -/
inductive Step : ConnectionRecord → ConnectionRecord → Prop
  | accepted {cs : List ConnectionClass} {ds : List Protocol} :
      Step ⟨none, cs, ds⟩ ⟨some .sniffed, cs, ds⟩
  | recognised {cs : List ConnectionClass} {ds : List Protocol} (p : Protocol) :
      Step ⟨some .sniffed, cs, ds⟩ ⟨some (.offered p), .routed p :: cs, ds⟩
  | rejected {cs : List ConnectionClass} {ds : List Protocol} :
      Step ⟨some .sniffed, cs, ds⟩ ⟨some .closed, .rejected :: cs, ds⟩
  | queued {cs : List ConnectionClass} {ds : List Protocol} (p : Protocol) :
      Step ⟨some (.offered p), cs, ds⟩ ⟨some (.queued p), cs, ds⟩
  | delivered {cs : List ConnectionClass} {ds : List Protocol} (p : Protocol) :
      Step ⟨some (.queued p), cs, ds⟩ ⟨some (.served p), cs, p :: ds⟩
  | abandoned {cs : List ConnectionClass} {ds : List Protocol} (p : Protocol) :
      Step ⟨some (.offered p), cs, ds⟩ ⟨some .closed, cs, ds⟩
  | discarded {cs : List ConnectionClass} {ds : List Protocol} (p : Protocol) :
      Step ⟨some (.queued p), cs, ds⟩ ⟨some .closed, cs, ds⟩
  | ended {cs : List ConnectionClass} {ds : List Protocol} (p : Protocol) :
      Step ⟨some (.served p), cs, ds⟩ ⟨some .closed, cs, ds⟩

/-- Whether the classes and the deliveries of a connection are those of its stage. -/
def IsSound (record : ConnectionRecord) : Prop :=
  match record.stage with
  | none | some .sniffed => record.classes = [] ∧ record.deliveries = []
  | some (.offered p) | some (.queued p) => record.classes = [.routed p] ∧ record.deliveries = []
  | some (.served p) => record.classes = [.routed p] ∧ record.deliveries = [p]
  | some .closed =>
    record.classes = [.rejected] ∧ record.deliveries = [] ∨
      ∃ p, record.classes = [.routed p] ∧ (record.deliveries = [] ∨ record.deliveries = [p])

theorem IsSound.step {before after : ConnectionRecord} (hsound : before.IsSound)
    (hstep : Step before after) : after.IsSound := by
  cases hstep with
  | accepted => exact hsound
  | recognised p =>
      obtain ⟨rfl, rfl⟩ := hsound
      exact ⟨rfl, rfl⟩
  | rejected =>
      obtain ⟨rfl, rfl⟩ := hsound
      exact Or.inl ⟨rfl, rfl⟩
  | queued p => exact hsound
  | delivered p =>
      obtain ⟨rfl, rfl⟩ := hsound
      exact ⟨rfl, rfl⟩
  | abandoned p =>
      obtain ⟨rfl, rfl⟩ := hsound
      exact Or.inr ⟨p, rfl, Or.inl rfl⟩
  | discarded p =>
      obtain ⟨rfl, rfl⟩ := hsound
      exact Or.inr ⟨p, rfl, Or.inl rfl⟩
  | ended p =>
      obtain ⟨rfl, rfl⟩ := hsound
      exact Or.inr ⟨p, rfl, Or.inr rfl⟩

/-- What a connection was counted under and where it was delivered is never taken back. -/
theorem Step.grows {before after : ConnectionRecord} (hstep : Step before after) :
    before.classes <:+ after.classes ∧ before.deliveries <:+ after.deliveries := by
  cases hstep <;> simp

/-- Whether a connection was accepted and its sniffing is over. -/
def IsDecided (record : ConnectionRecord) : Prop :=
  ∃ stage, record.stage = some stage ∧ stage ≠ .sniffed

/-- A connection has one class when its sniffing is over, and none before. -/
theorem IsSound.classes {record : ConnectionRecord} (hsound : record.IsSound) :
    (record.IsDecided → ∃ kind, record.classes = [kind]) ∧
      (¬ record.IsDecided → record.classes = []) := by
  obtain ⟨stage, classes, deliveries⟩ := record
  unfold IsSound at hsound
  unfold IsDecided
  cases stage with
  | none => simp_all
  | some stage =>
      cases stage with
      | sniffed => simp_all
      | closed =>
          simp only at hsound
          rcases hsound with ⟨rfl, -⟩ | ⟨p, rfl, -⟩ <;> simp
      | _ => simp_all

/-- A connection reaches at most one server, that of its only class. -/
theorem IsSound.deliveries {record : ConnectionRecord} (hsound : record.IsSound) :
    record.deliveries = [] ∨
      ∃ p, record.deliveries = [p] ∧ record.classes = [.routed p] := by
  obtain ⟨stage, classes, deliveries⟩ := record
  unfold IsSound at hsound
  cases stage with
  | none => exact Or.inl hsound.2
  | some stage =>
      cases stage with
      | served p => exact Or.inr ⟨p, hsound.2, hsound.1⟩
      | closed =>
          simp only at hsound
          rcases hsound with ⟨-, hnone⟩ | ⟨p, hclass, hnone | hone⟩
          · exact Or.inl hnone
          · exact Or.inl hnone
          · exact Or.inr ⟨p, hone, hclass⟩
      | _ => exact Or.inl hsound.2

end ConnectionRecord

namespace Routing

variable {r s : Routing} {c d : Nat} {p : Protocol} {old stage : ConnectionStage}

/-- The classes under which a connection was counted, the latest first. -/
def classesOf (r : Routing) (connection : Nat) : List ConnectionClass :=
  (r.counted.filter (·.1 == connection)).map (·.2)

/-- The servers that a connection reached, the latest first. -/
def deliveriesOf (r : Routing) (connection : Nat) : List Protocol :=
  (r.delivered.filter (·.1 == connection)).map (·.2)

/-- What is known of a connection. -/
def record (r : Routing) (connection : Nat) : ConnectionRecord :=
  ⟨r.connections[connection]?, r.classesOf connection, r.deliveriesOf connection⟩

/-- The permits that the accepting loop holds. -/
def loopPermits (r : Routing) : Nat :=
  if r.phase = .accepting then 1 else 0

/-- All permits: the free ones, those of connections, and that of the loop. -/
def permits (r : Routing) : Nat :=
  r.available + r.openConnections + r.loopPermits

/-! ## What the parts of a move do -/

theorem queue_withQueue_self (queue : List Nat) : (r.withQueue p queue).queue p = queue := by
  cases p <;> rfl

theorem queue_withQueue_of_ne {other : Protocol} (queue : List Nat) (h : other ≠ p) :
    (r.withQueue p queue).queue other = r.queue other := by
  cases p <;> cases other <;> first | rfl | exact absurd rfl h

theorem connections_withQueue (queue : List Nat) :
    (r.withQueue p queue).connections = r.connections := by
  cases p <;> rfl

theorem held_withQueue (queue : List Nat) (hold : r.connections[c]? = some old) :
    (r.withQueue p queue).connections[c]? = some old := by
  rw [connections_withQueue]
  exact hold

theorem record_withQueue (queue : List Nat) : (r.withQueue p queue).record = r.record := by
  cases p <;> rfl

theorem permits_withQueue (queue : List Nat) : (r.withQueue p queue).permits = r.permits := by
  cases p <;> rfl

theorem queue_shut : (r.shut p).queue = r.queue := by
  cases p <;> rfl

theorem connections_shut : (r.shut p).connections = r.connections := by
  cases p <;> rfl

theorem record_shut : (r.shut p).record = r.record := by
  cases p <;> rfl

theorem permits_shut : (r.shut p).permits = r.permits := by
  cases p <;> rfl

theorem record_eq (hold : r.connections[c]? = some old) :
    r.record c = ⟨some old, r.classesOf c, r.deliveriesOf c⟩ := by
  rw [record, hold]

theorem record_toStage_self (hold : r.connections[c]? = some old) :
    (r.toStage c stage).record c = ⟨some stage, r.classesOf c, r.deliveriesOf c⟩ := by
  simp only [record, toStage, getElem?_set_of_some hold]
  rfl

theorem record_toStage_of_ne (h : d ≠ c) : (r.toStage c stage).record d = r.record d := by
  simp only [record, toStage, List.getElem?_set_ne (Ne.symm h)]
  rfl

theorem classesOf_count_self (kind : ConnectionClass) :
    (r.count c kind).classesOf c = kind :: r.classesOf c := by
  simp [classesOf, count]

theorem record_count_of_ne (kind : ConnectionClass) (h : d ≠ c) :
    (r.count c kind).record d = r.record d := by
  simp [record, classesOf, deliveriesOf, count, Ne.symm h]

theorem deliveriesOf_deliver_self : (r.deliver c p).deliveriesOf c = p :: r.deliveriesOf c := by
  simp [deliveriesOf, deliver]

theorem record_deliver_of_ne (h : d ≠ c) : (r.deliver c p).record d = r.record d := by
  simp [record, classesOf, deliveriesOf, deliver, Ne.symm h]

theorem record_finish : (r.finish c).record = (r.toStage c .closed).record := rfl

theorem openConnections_toStage (stage : ConnectionStage) (hold : r.connections[c]? = some old) :
    (r.toStage c stage).openConnections + (if old = .closed then 0 else 1) =
      r.openConnections + (if stage = .closed then 0 else 1) := by
  have hbalance := countP_set_add (b := stage) (· != .closed) hold
  unfold openConnections toStage
  cases old <;> cases stage <;> simpa using hbalance

/-- A connection takes its permit along. -/
theorem permits_toStage (hold : r.connections[c]? = some old) (hopen : old ≠ .closed)
    (hstays : stage ≠ .closed) : (r.toStage c stage).permits = r.permits := by
  have hbalance := openConnections_toStage stage hold
  rw [if_neg hopen, if_neg hstays] at hbalance
  have hsame : (r.toStage c stage).openConnections = r.openConnections := by omega
  unfold permits
  rw [hsame]
  rfl

/-- A connection that is closed gives its permit back. -/
theorem permits_finish (hold : r.connections[c]? = some old) (hopen : old ≠ .closed) :
    (r.finish c).permits = r.permits := by
  have hbalance := openConnections_toStage .closed hold
  rw [if_neg hopen, if_pos rfl] at hbalance
  show r.available + 1 + (r.toStage c .closed).openConnections + r.loopPermits = r.permits
  unfold permits
  omega

/-! ## What a move does -/

/-- What moves make of a state. -/
inductive Change (r : Routing) : Routing → Prop
  | acquire (hphase : r.phase = .idle) (hfree : 0 < r.available) :
      Change r { r with phase := .accepting, available := r.available - 1 }
  | accept (hphase : r.phase = .accepting) :
      Change r { r with phase := .idle, connections := r.connections ++ [.sniffed] }
  /-- The loop gives its permit back, to start anew or to end. -/
  | release {phase : AcceptPhase} (hphase : r.phase = .accepting) (hleft : phase ≠ .accepting) :
      Change r { r with phase := phase, available := r.available + 1 }
  | stop (hphase : r.phase ≠ .accepting) : Change r { r with phase := .stopped }
  | recognise {c : Nat} (p : Protocol) (hold : r.connections[c]? = some .sniffed) :
      Change r ((r.count c (.routed p)).toStage c (.offered p))
  | reject {c : Nat} (hold : r.connections[c]? = some .sniffed) :
      Change r ((r.count c .rejected).finish c)
  | enqueue {c : Nat} {p : Protocol} (hold : r.connections[c]? = some (.offered p))
      (hroom : (r.queue p).length < backlog) :
      Change r ((r.withQueue p (r.queue p ++ [c])).toStage c (.queued p))
  | abandon {c : Nat} {p : Protocol} (hold : r.connections[c]? = some (.offered p)) :
      Change r (r.finish c)
  | serve {c : Nat} {p : Protocol} {rest : List Nat} (hqueue : r.queue p = c :: rest) :
      Change r (((r.withQueue p rest).deliver c p).toStage c (.served p))
  | close {c : Nat} {p : Protocol} (hold : r.connections[c]? = some (.served p)) :
      Change r (r.finish c)
  | leave (p : Protocol) : Change r (r.shut p)
  | discard {c : Nat} {p : Protocol} {rest : List Nat} (hqueue : r.queue p = c :: rest) :
      Change r ((r.withQueue p rest).finish c)

theorem change_of_move {move : RoutingMove} (hmove : r.move? move = some s) : r.Change s := by
  cases move with
  | acquire =>
      obtain ⟨⟨hphase, hfree⟩, hmove⟩ := Option.ite_none_right_eq_some.mp hmove
      obtain rfl := Option.some.inj hmove
      exact .acquire hphase hfree
  | accept =>
      obtain ⟨hphase, hmove⟩ := Option.ite_none_right_eq_some.mp hmove
      obtain rfl := Option.some.inj hmove
      exact .accept hphase
  | retry =>
      obtain ⟨hphase, hmove⟩ := Option.ite_none_right_eq_some.mp hmove
      obtain rfl := Option.some.inj hmove
      exact .release hphase (by decide)
  | stop =>
      obtain ⟨-, hmove⟩ := Option.ite_none_left_eq_some.mp hmove
      obtain rfl := Option.some.inj hmove
      unfold stopped
      split
      · rename_i hphase
        exact .release hphase (by decide)
      · rename_i hphase
        exact .stop hphase
  | recognise c p =>
      obtain ⟨hold, hmove⟩ := Option.ite_none_right_eq_some.mp hmove
      obtain rfl := Option.some.inj hmove
      exact .recognise p hold
  | reject c =>
      obtain ⟨hold, hmove⟩ := Option.ite_none_right_eq_some.mp hmove
      obtain rfl := Option.some.inj hmove
      exact .reject hold
  | enqueue c =>
      simp only [move?] at hmove
      split at hmove
      · rename_i p hold
        obtain ⟨⟨-, hroom⟩, hmove⟩ := Option.ite_none_right_eq_some.mp hmove
        obtain rfl := Option.some.inj hmove
        exact .enqueue hold hroom
      · exact absurd hmove (by simp)
  | abandon c =>
      simp only [move?] at hmove
      split at hmove
      · rename_i p hold
        obtain ⟨-, hmove⟩ := Option.ite_none_left_eq_some.mp hmove
        obtain rfl := Option.some.inj hmove
        exact .abandon hold
      · exact absurd hmove (by simp)
  | serve p =>
      obtain ⟨-, hmove⟩ := Option.ite_none_right_eq_some.mp hmove
      split at hmove
      · exact absurd hmove (by simp)
      · rename_i c rest hqueue
        obtain rfl := Option.some.inj hmove
        exact .serve hqueue
  | close c =>
      simp only [move?] at hmove
      split at hmove
      · rename_i p hold
        obtain rfl := Option.some.inj hmove
        exact .close hold
      · exact absurd hmove (by simp)
  | leave p =>
      obtain ⟨-, hmove⟩ := Option.ite_none_right_eq_some.mp hmove
      obtain rfl := Option.some.inj hmove
      exact .leave p
  | discard p =>
      obtain ⟨-, hmove⟩ := Option.ite_none_left_eq_some.mp hmove
      split at hmove
      · exact absurd hmove (by simp)
      · rename_i c rest hqueue
        obtain rfl := Option.some.inj hmove
        exact .discard hqueue

/-! ## Queues -/

/-- The queues hold connections that wait in them, each once, and no more than there is room for. -/
structure QueuesInOrder (r : Routing) : Prop where
  queued : ∀ p c, c ∈ r.queue p → r.connections[c]? = some (.queued p)
  nodup : ∀ p, (r.queue p).Nodup
  bounded : ∀ p, (r.queue p).length ≤ backlog

theorem QueuesInOrder.head (hqueues : r.QueuesInOrder) {rest : List Nat}
    (hqueue : r.queue p = c :: rest) : r.connections[c]? = some (.queued p) :=
  hqueues.queued p c (by rw [hqueue]; exact List.mem_cons_self)

/-- Queues stay in order while those that wait in them stay where they are. -/
theorem QueuesInOrder.of_kept (hqueues : r.QueuesInOrder) (hqueue : s.queue = r.queue)
    (hkept : ∀ (p : Protocol) (c : Nat), r.connections[c]? = some (ConnectionStage.queued p) →
      s.connections[c]? = some (ConnectionStage.queued p)) :
    s.QueuesInOrder where
  queued p c hmem := hkept p c (hqueues.queued p c (by rwa [hqueue] at hmem))
  nodup p := by rw [hqueue]; exact hqueues.nodup p
  bounded p := by rw [hqueue]; exact hqueues.bounded p

/-- Whoever does not wait in a queue may go on to any stage. -/
theorem QueuesInOrder.toStage (hqueues : r.QueuesInOrder) (hold : r.connections[c]? = some old)
    (houtside : ∀ p, old ≠ .queued p) : (r.toStage c stage).QueuesInOrder := by
  refine hqueues.of_kept rfl fun p d hd => ?_
  have hne : c ≠ d := by
    rintro rfl
    rw [hold] at hd
    exact houtside p (Option.some.inj hd)
  exact (List.getElem?_set_ne hne).trans hd

/-- A queue is replaced by one that holds no others than before, but for a connection that is outside
all other queues and goes on to its stage. -/
theorem QueuesInOrder.replace (hqueues : r.QueuesInOrder) {queue : List Nat}
    (hold : r.connections[c]? = some old) (houtside : ∀ q, q ≠ p → old ≠ .queued q)
    (hmembers : ∀ d ∈ queue, d ∈ r.queue p ∨ d = c) (hself : c ∈ queue → stage = .queued p)
    (hnodup : queue.Nodup) (hbounded : queue.length ≤ backlog) :
    ((r.withQueue p queue).toStage c stage).QueuesInOrder := by
  have hsame : ((r.withQueue p queue).toStage c stage).queue p = queue := queue_withQueue_self _
  have hother : ∀ q, q ≠ p → ((r.withQueue p queue).toStage c stage).queue q = r.queue q :=
    fun q hq => queue_withQueue_of_ne _ hq
  have hstage : ((r.withQueue p queue).toStage c stage).connections =
      r.connections.set c stage := by
    rw [Routing.toStage, connections_withQueue]
  refine ⟨fun q d hd => ?_, fun q => ?_, fun q => ?_⟩
  · rw [hstage]
    by_cases hq : q = p
    · subst hq
      rw [hsame] at hd
      by_cases hdc : d = c
      · subst hdc
        rw [hself hd]
        exact getElem?_set_of_some hold
      · rw [List.getElem?_set_ne (Ne.symm hdc)]
        exact hqueues.queued q d ((hmembers d hd).resolve_right hdc)
    · rw [hother q hq] at hd
      have hqueued := hqueues.queued q d hd
      have hne : c ≠ d := by
        rintro rfl
        rw [hold] at hqueued
        exact houtside q hq (Option.some.inj hqueued)
      exact (List.getElem?_set_ne hne).trans hqueued
  · by_cases hq : q = p
    · subst hq
      rwa [hsame]
    · rw [hother q hq]
      exact hqueues.nodup q
  · by_cases hq : q = p
    · subst hq
      rwa [hsame]
    · rw [hother q hq]
      exact hqueues.bounded q

theorem QueuesInOrder.enqueue (hqueues : r.QueuesInOrder)
    (hold : r.connections[c]? = some (.offered p)) (hroom : (r.queue p).length < backlog) :
    ((r.withQueue p (r.queue p ++ [c])).toStage c (.queued p)).QueuesInOrder := by
  have hnew : c ∉ r.queue p := by
    intro hmem
    have hqueued := hqueues.queued p c hmem
    rw [hold] at hqueued
    exact absurd (Option.some.inj hqueued) (by simp)
  have hnodup : (r.queue p ++ [c]).Nodup :=
    List.concat_eq_append ▸ (hqueues.nodup p).concat hnew
  refine hqueues.replace hold (by simp) (fun d hd => ?_) (fun _ => rfl) hnodup ?_
  · simpa using hd
  · rw [List.length_append]
    exact hroom

/-- The head of a queue leaves it for any stage. -/
theorem QueuesInOrder.dequeue (hqueues : r.QueuesInOrder) {rest : List Nat}
    (hqueue : r.queue p = c :: rest) :
    ((r.withQueue p rest).toStage c stage).QueuesInOrder := by
  obtain ⟨hgone, hnodup⟩ := List.nodup_cons.mp (hqueue ▸ hqueues.nodup p)
  have hbounded := hqueues.bounded p
  rw [hqueue, List.length_cons] at hbounded
  refine hqueues.replace (hqueues.head hqueue) (fun q hq h => ?_) (fun d hd => ?_)
    (fun hmem => absurd hmem hgone) hnodup (by omega)
  · exact hq (ConnectionStage.queued.inj h).symm
  · rw [hqueue]
    exact Or.inl (List.mem_cons_of_mem c hd)

theorem QueuesInOrder.change (hqueues : r.QueuesInOrder) (hchange : r.Change s) :
    s.QueuesInOrder := by
  cases hchange with
  | acquire => exact hqueues.of_kept rfl fun _ _ hd => hd
  | accept =>
      refine hqueues.of_kept rfl fun p d hd => ?_
      have hlt := (List.getElem?_eq_some_iff.mp hd).1
      exact (List.getElem?_append_left hlt).trans hd
  | release => exact hqueues.of_kept rfl fun _ _ hd => hd
  | stop => exact hqueues.of_kept rfl fun _ _ hd => hd
  | @recognise c p hold =>
      have hcounted : (r.count c (.routed p)).QueuesInOrder := hqueues.of_kept rfl fun _ _ hd => hd
      exact hcounted.toStage hold (by simp)
  | @reject c hold =>
      have hcounted : (r.count c .rejected).QueuesInOrder := hqueues.of_kept rfl fun _ _ hd => hd
      exact (hcounted.toStage hold (by simp)).of_kept rfl fun _ _ hd => hd
  | enqueue hold hroom => exact hqueues.enqueue hold hroom
  | abandon hold => exact (hqueues.toStage hold (by simp)).of_kept rfl fun _ _ hd => hd
  | serve hqueue => exact (hqueues.dequeue hqueue).of_kept rfl fun _ _ hd => hd
  | close hold => exact (hqueues.toStage hold (by simp)).of_kept rfl fun _ _ hd => hd
  | leave p =>
      refine hqueues.of_kept queue_shut fun q d hd => ?_
      rw [connections_shut]
      exact hd
  | discard hqueue => exact (hqueues.dequeue hqueue).of_kept rfl fun _ _ hd => hd

/-! ## Permits -/

/-- **No move loses or makes a permit.** -/
theorem permits_change (hqueues : r.QueuesInOrder) (hchange : r.Change s) :
    s.permits = r.permits := by
  cases hchange with
  | acquire hphase hfree =>
      have hbefore : r.loopPermits = 0 := by rw [loopPermits, hphase]; rfl
      show r.available - 1 + r.openConnections + 1 = r.permits
      unfold permits
      omega
  | accept hphase =>
      have hbefore : r.loopPermits = 1 := by rw [loopPermits, hphase]; rfl
      show r.available + List.countP (· != .closed) (r.connections ++ [.sniffed]) + 0 = r.permits
      unfold permits openConnections
      rw [List.countP_append, hbefore]
      rfl
  | @release phase hphase hleft =>
      have hbefore : r.loopPermits = 1 := by rw [loopPermits, hphase]; rfl
      show r.available + 1 + r.openConnections + (if phase = .accepting then 1 else 0) = r.permits
      rw [if_neg hleft]
      unfold permits
      omega
  | stop hphase =>
      have hbefore : r.loopPermits = 0 := by rw [loopPermits, if_neg hphase]
      show r.available + r.openConnections + 0 = r.permits
      unfold permits
      omega
  | @recognise c p hold =>
      exact permits_toStage (r := r.count c (.routed p)) hold (by simp) (by simp)
  | @reject c hold => exact permits_finish (r := r.count c .rejected) hold (by simp)
  | enqueue hold hroom =>
      exact (permits_toStage (held_withQueue _ hold) (by simp) (by simp)).trans
        (permits_withQueue _)
  | abandon hold => exact permits_finish hold (by simp)
  | @serve c p rest hqueue =>
      have hheld := held_withQueue (p := p) rest (hqueues.head hqueue)
      exact (permits_toStage (r := (r.withQueue p rest).deliver c p) hheld (by simp)
        (by simp)).trans (permits_withQueue rest)
  | close hold => exact permits_finish hold (by simp)
  | leave p => exact permits_shut
  | @discard c p rest hqueue =>
      have hheld := held_withQueue (p := p) rest (hqueues.head hqueue)
      exact (permits_finish hheld (by simp)).trans (permits_withQueue rest)

/-! ## Connections -/

/-- A move that takes one connection a step on and leaves the others alone. -/
theorem record_of_single (hself : (r.record c).Step (s.record c))
    (hothers : ∀ d, d ≠ c → s.record d = r.record d) (d : Nat) :
    s.record d = r.record d ∨ (r.record d).Step (s.record d) := by
  by_cases hd : d = c
  · subst hd
    exact Or.inr hself
  · exact Or.inl (hothers d hd)

/-- A connection that goes on to another stage, and nothing else. -/
theorem record_toStage_step (hsame : s.record = r.record) (hold : s.connections[c]? = some old)
    (hstep : ∀ {classes : List ConnectionClass} {deliveries : List Protocol},
      ConnectionRecord.Step ⟨some old, classes, deliveries⟩ ⟨some stage, classes, deliveries⟩)
    (d : Nat) : (s.toStage c stage).record d = r.record d ∨
      (r.record d).Step ((s.toStage c stage).record d) := by
  refine record_of_single (c := c) ?_ (fun d hd => ?_) d
  · rw [← hsame, record_eq hold, record_toStage_self hold]
    exact hstep
  · rw [record_toStage_of_ne hd, hsame]

/-- **A move takes a connection at most one step on.** -/
theorem record_change (hqueues : r.QueuesInOrder) (hchange : r.Change s) :
    ∀ d, s.record d = r.record d ∨ (r.record d).Step (s.record d) := by
  cases hchange with
  | acquire => exact fun _ => Or.inl rfl
  | accept =>
      refine record_of_single (c := r.connections.length) ?_ fun d hd => ?_
      · simp only [record, List.getElem?_eq_none (Nat.le_refl _), List.getElem?_concat_length]
        exact .accepted
      · rw [record, List.getElem?_append]
        split
        · rfl
        · rename_i hnew
          have hbefore : r.connections[d]? = none := List.getElem?_eq_none (by omega)
          rw [record, hbefore, List.getElem?_eq_none (by simp; omega)]
          rfl
  | release => exact fun _ => Or.inl rfl
  | stop => exact fun _ => Or.inl rfl
  | @recognise c p hold =>
      refine record_of_single (c := c) ?_ fun d hd => ?_
      · rw [record_eq hold, record_toStage_self (r := r.count c (.routed p)) hold,
          classesOf_count_self]
        exact .recognised p
      · rw [record_toStage_of_ne hd, record_count_of_ne _ hd]
  | @reject c hold =>
      refine record_of_single (c := c) ?_ fun d hd => ?_
      · rw [record_eq hold, record_finish, record_toStage_self (r := r.count c .rejected) hold,
          classesOf_count_self]
        exact .rejected
      · rw [record_finish, record_toStage_of_ne hd, record_count_of_ne _ hd]
  | enqueue hold hroom =>
      exact record_toStage_step (record_withQueue _) (held_withQueue _ hold) (.queued _)
  | abandon hold => exact record_toStage_step rfl hold (.abandoned _)
  | @serve c p rest hqueue =>
      have hheld := held_withQueue (p := p) rest (hqueues.head hqueue)
      refine record_of_single (c := c) ?_ fun d hd => ?_
      · rw [← record_withQueue (p := p) rest, record_eq hheld,
          record_toStage_self (r := (r.withQueue p rest).deliver c p) hheld,
          deliveriesOf_deliver_self]
        exact .delivered p
      · rw [record_toStage_of_ne hd, record_deliver_of_ne hd, record_withQueue]
  | close hold => exact record_toStage_step rfl hold (.ended _)
  | leave p => exact fun d => Or.inl (congrFun record_shut d)
  | @discard c p rest hqueue =>
      have hheld := held_withQueue (p := p) rest (hqueues.head hqueue)
      exact record_toStage_step (record_withQueue rest) hheld (.discarded _)

/-! ## All states -/

/-- What holds in all states that moves lead to. -/
structure Sound (maxConnections : Nat) (r : Routing) : Prop where
  permits_eq : r.permits = maxConnections
  queues : r.QueuesInOrder
  records : ∀ c, (r.record c).IsSound

theorem Sound.start (maxConnections : Nat) : Sound maxConnections (.start maxConnections) where
  permits_eq := rfl
  queues := by
    refine ⟨fun p c hmem => ?_, fun p => ?_, fun p => ?_⟩ <;> cases p
    · exact absurd hmem List.not_mem_nil
    · exact absurd hmem List.not_mem_nil
    all_goals simp [queue, Routing.start]
  records _ := ⟨rfl, rfl⟩

theorem Sound.change {maxConnections : Nat} (hsound : Sound maxConnections r)
    (hchange : r.Change s) : Sound maxConnections s where
  permits_eq := (permits_change hsound.queues hchange).trans hsound.permits_eq
  queues := hsound.queues.change hchange
  records c := by
    rcases record_change hsound.queues hchange c with hsame | hstep
    · rw [hsame]
      exact hsound.records c
    · exact (hsound.records c).step hstep

theorem Reachable.sound {maxConnections : Nat} (hreach : Reachable maxConnections r) :
    Sound maxConnections r := by
  induction hreach with
  | start => exact .start maxConnections
  | next _ _ hmove ih => exact ih.change (change_of_move hmove)

theorem moves?_cons {move : RoutingMove} {moves : List RoutingMove} :
    r.moves? (move :: moves) = some s ↔
      ∃ t, r.move? move = some t ∧ t.moves? moves = some s := by
  simp [moves?, Option.bind_eq_some_iff]

theorem Reachable.moves {maxConnections : Nat} {moves : List RoutingMove}
    (hreach : Reachable maxConnections r) (hmoves : r.moves? moves = some s) :
    Reachable maxConnections s := by
  induction moves generalizing r with
  | nil => exact Option.some.inj hmoves ▸ hreach
  | cons move moves ih =>
      obtain ⟨t, hmove, hrest⟩ := moves?_cons.mp hmoves
      exact ih (hreach.next move hmove) hrest

/-- A class once counted and a delivery once made are never taken back. -/
theorem Sound.grows_change {maxConnections : Nat} (hsound : Sound maxConnections r)
    (hchange : r.Change s) (c : Nat) :
    r.classesOf c <:+ s.classesOf c ∧ r.deliveriesOf c <:+ s.deliveriesOf c := by
  show (r.record c).classes <:+ (s.record c).classes ∧
    (r.record c).deliveries <:+ (s.record c).deliveries
  rcases record_change hsound.queues hchange c with hsame | hstep
  · rw [hsame]
    exact ⟨List.suffix_refl _, List.suffix_refl _⟩
  · exact hstep.grows

theorem Sound.grows {maxConnections : Nat} {moves : List RoutingMove}
    (hsound : Sound maxConnections r) (hmoves : r.moves? moves = some s) (c : Nat) :
    r.classesOf c <:+ s.classesOf c ∧ r.deliveriesOf c <:+ s.deliveriesOf c := by
  induction moves generalizing r with
  | nil =>
      obtain rfl := Option.some.inj hmoves
      exact ⟨List.suffix_refl _, List.suffix_refl _⟩
  | cons move moves ih =>
      obtain ⟨t, hmove, hrest⟩ := moves?_cons.mp hmoves
      have hchange := change_of_move hmove
      have hfirst := hsound.grows_change hchange c
      have hlater := ih (hsound.change hchange) hrest
      exact ⟨hfirst.1.trans hlater.1, hfirst.2.trans hlater.2⟩

theorem Sound.not_delivered_of_rejected {maxConnections : Nat} (hsound : Sound maxConnections r)
    (hrejected : ConnectionClass.rejected ∈ r.classesOf c) : r.deliveriesOf c = [] := by
  rcases (hsound.records c).deliveries with hnone | ⟨p, -, hclass⟩
  · exact hnone
  · have hmem : ConnectionClass.rejected ∈ [ConnectionClass.routed p] := hclass ▸ hrejected
    exact absurd hmem (by simp)

theorem Sound.length_classesOf_le {maxConnections : Nat} (hsound : Sound maxConnections r)
    (c : Nat) : (r.classesOf c).length ≤ 1 := by
  show (r.record c).classes.length ≤ 1
  by_cases hdecided : (r.record c).IsDecided
  · obtain ⟨kind, hkind⟩ := (hsound.records c).classes.1 hdecided
    simp [hkind]
  · have hnone := (hsound.records c).classes.2 hdecided
    simp [hnone]

/-- **Permits and connections are conserved.**  Whatever the order of the moves, in every state that
they lead to

* the free permits, the connections that are not closed and the permit with which the loop waits for
  a connection are all permits that there are;
* a connection has reached at most one server, and that is the one of its only class;
* a connection that is counted as rejected has reached no server and never will;
* a connection is counted under one class when its sniffing is over, and under none before, and a
  class once counted stays. -/
theorem connections_conserved {maxConnections : Nat} {r : Routing}
    (hreach : Reachable maxConnections r) :
    r.available + r.openConnections + (if r.phase = .accepting then 1 else 0) = maxConnections ∧
    ∀ c,
      (r.deliveriesOf c = [] ∨
        ∃ p, r.deliveriesOf c = [p] ∧ r.classesOf c = [.routed p]) ∧
      (ConnectionClass.rejected ∈ r.classesOf c →
        ∀ moves s, r.moves? moves = some s → s.deliveriesOf c = []) ∧
      ((r.record c).IsDecided → ∃ kind, r.classesOf c = [kind] ∧
        ∀ moves s, r.moves? moves = some s → s.classesOf c = [kind]) ∧
      (¬ (r.record c).IsDecided → r.classesOf c = []) := by
  have hsound := hreach.sound
  refine ⟨hsound.permits_eq, fun c => ⟨(hsound.records c).deliveries, ?_, ?_, ?_⟩⟩
  · intro hrejected moves s hmoves
    have hgrows := hsound.grows hmoves c
    exact (hreach.moves hmoves).sound.not_delivered_of_rejected (hgrows.1.subset hrejected)
  · intro hdecided
    obtain ⟨kind, hkind⟩ := (hsound.records c).classes.1 hdecided
    refine ⟨kind, hkind, fun moves s hmoves => ?_⟩
    have hgrows : (r.record c).classes <:+ s.classesOf c := (hsound.grows hmoves c).1
    rw [hkind] at hgrows
    exact (hgrows.eq_of_length_le ((hreach.moves hmoves).sound.length_classesOf_le c)).symm
  · exact (hsound.records c).classes.2

/-- Two connections at once, of which one is served and one rejected, and the loop waits for the
third. -/
def servedBesideRejected : List RoutingMove :=
  [.acquire, .accept, .recognise 0 .rpc, .acquire, .accept, .enqueue 0, .serve .rpc, .reject 1,
    .acquire]

theorem connections_conserved_served_beside_rejected :
    ∃ r, (Routing.start 2).moves? servedBesideRejected = some r ∧
      r.connections = [.served .rpc, .closed] ∧
      r.available + r.openConnections + 1 = 2 ∧
      (∃ p, r.deliveriesOf 0 = [p] ∧ r.classesOf 0 = [.routed p]) ∧
      (∃ kind, r.classesOf 0 = [kind] ∧ ∀ moves s, r.moves? moves = some s →
        s.classesOf 0 = [kind]) ∧
      ∀ moves s, r.moves? moves = some s → s.deliveriesOf 1 = [] := by
  have hmoves : (Routing.start 2).moves? servedBesideRejected =
      some { available := 0, phase := .accepting, connections := [.served .rpc, .closed],
             counted := [(1, .rejected), (0, .routed .rpc)], delivered := [(0, .rpc)] } := by
    decide
  obtain ⟨hpermits, hconnections⟩ := connections_conserved (Reachable.start.moves hmoves)
  obtain ⟨hdelivered, -, hclass, -⟩ := hconnections 0
  obtain ⟨-, hrejected, -, -⟩ := hconnections 1
  exact ⟨_, hmoves, rfl, hpermits, hdelivered.resolve_left (by decide),
    hclass ⟨_, rfl, by decide⟩, hrejected (by decide)⟩

end Routing

end ServiceHost
