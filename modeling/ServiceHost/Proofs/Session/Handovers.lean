import Mathlib.Data.List.Perm.Basic
import ServiceHost.Session.Timeline
import ServiceHost.Proofs.Session.Output

/-!
# Hand-overs

`Timeline.Step` is one thing that happens in a session: a publisher begins to hand a value over, the
first in line enters the channel, the writer makes a step, a producer learns what became of its
value.  They happen in any order, and the clock and the sink do as they like, so a `Timeline.Run`
is any interleaving of the producers with the writer and with the end of the session.

All values that were sent are accounted for at every moment (`Accounts`): each is taken, turned away,
in the channel or in line, in the order of sending.  From this `handover_exactly_once` reads off
what producers can rely on.
-/

namespace ServiceHost.Session

/-- Something that is seen of a session. -/
inductive Occurrence where
  /-- A publisher began to hand a value over. -/
  | sent (publisher : Nat) (handover : Handover)
  /-- The writer did something. -/
  | did (action : Action)
  /-- A producer learned whether its value was taken. -/
  | returned (id : Nat) (taken : Bool)

namespace Occurrence

/-- The value that was sent. -/
@[simp] def sent? : Occurrence → Option Handover
  | .sent _ handover => some handover
  | _ => none

/-- The value that a publisher sent. -/
@[simp] def sentBy? (publisher : Nat) : Occurrence → Option Handover
  | .sent p handover => if p = publisher then some handover else none
  | _ => none

@[simp] def action? : Occurrence → Option Action
  | .did action => some action
  | _ => none

/-- The hand-over that has come to this end. -/
@[simp] def returned? (outcome : Bool) : Occurrence → Option Nat
  | .returned id taken => if taken = outcome then some id else none
  | _ => none

end Occurrence

/-- What was seen of a session, in order. -/
abbrev Trace := List Occurrence

namespace Trace

/-- The values that were sent. -/
def sent (trace : Trace) : List Handover :=
  trace.filterMap Occurrence.sent?

/-- The values that one publisher sent. -/
def sentBy (publisher : Nat) (trace : Trace) : List Handover :=
  trace.filterMap (Occurrence.sentBy? publisher)

/-- What the writer did. -/
def actions (trace : Trace) : List Action :=
  trace.filterMap Occurrence.action?

/-- The values that the writer took. -/
def taken (trace : Trace) : List Handover :=
  Session.taken trace.actions

/-- The hand-overs whose producers learned that the value was taken, or that it was not. -/
def returned (outcome : Bool) (trace : Trace) : List Nat :=
  trace.filterMap (Occurrence.returned? outcome)

variable (trace more : Trace)

@[simp] theorem sent_nil : sent [] = [] := rfl

@[simp] theorem actions_nil : actions [] = [] := rfl

@[simp] theorem taken_nil : taken [] = [] := rfl

@[simp] theorem returned_nil (outcome : Bool) : returned outcome [] = [] := rfl

@[simp] theorem sent_cons (o : Occurrence) : sent (o :: more) = o.sent?.toList ++ sent more :=
  filterMap_cons_toList _ o more

@[simp] theorem actions_cons (o : Occurrence) :
    actions (o :: more) = o.action?.toList ++ actions more :=
  filterMap_cons_toList _ o more

@[simp] theorem returned_cons (outcome : Bool) (o : Occurrence) :
    returned outcome (o :: more) = (o.returned? outcome).toList ++ returned outcome more :=
  filterMap_cons_toList _ o more

@[simp] theorem sent_append : sent (trace ++ more) = sent trace ++ sent more :=
  List.filterMap_append

@[simp] theorem sentBy_append (p : Nat) :
    sentBy p (trace ++ more) = sentBy p trace ++ sentBy p more :=
  List.filterMap_append

@[simp] theorem actions_append : actions (trace ++ more) = actions trace ++ actions more :=
  List.filterMap_append

@[simp] theorem taken_append : taken (trace ++ more) = taken trace ++ taken more := by
  simp [taken]

@[simp] theorem taken_cons (o : Occurrence) :
    taken (o :: more) = Session.taken o.action?.toList ++ taken more := by
  simp [taken]

@[simp] theorem returned_append (outcome : Bool) :
    returned outcome (trace ++ more) = returned outcome trace ++ returned outcome more :=
  List.filterMap_append

/-- What one publisher sent is some of what was sent, in the same order. -/
theorem sentBy_sublist (p : Nat) : (sentBy p trace).Sublist (sent trace) := by
  induction trace with
  | nil => exact List.Sublist.refl _
  | cons o trace ih =>
      have hfirst : (o.sentBy? p).toList.Sublist o.sent?.toList := by
        cases o with
        | sent q value =>
            simp only [Occurrence.sentBy?, Occurrence.sent?]
            split <;> simp
        | _ => simp
      rw [sent_cons, sentBy, filterMap_cons_toList]
      exact hfirst.append ih

@[simp] theorem sent_did (done : List Action) : sent (done.map .did) = [] := by
  simp [sent]

@[simp] theorem actions_did (done : List Action) : actions (done.map .did) = done := by
  induction done with
  | nil => rfl
  | cons action done ih => simpa [actions] using ih

@[simp] theorem taken_did (done : List Action) : taken (done.map .did) = Session.taken done := by
  simp [taken]

@[simp] theorem returned_did (outcome : Bool) (done : List Action) :
    returned outcome (done.map .did) = [] := by
  simp [returned]

end Trace

namespace Timeline

/-- One thing that happens in a session, and what is seen of it. -/
inductive Step : Timeline → Trace → Timeline → Prop
  | send {t t' : Timeline} {p : Nat} {payload : Payload} (h : t.send? p payload = some t') :
      Step t [.sent p ⟨t.nextId, payload⟩] t'
  | clone (t : Timeline) (p : Nat) : Step t [] (t.clone p)
  | drop (t : Timeline) (p : Nat) : Step t [] (t.drop p)
  | cancel (t : Timeline) : Step t [] t.cancel
  /-- The clock and the sink do as they like. -/
  | outside (t : Timeline) (now : Nat) (sink : Sink) : Step t [] { t with now, sink }
  | work {t : Timeline} {writer : Writer} {done : List Action}
      (h : t.writer.step? t.situation = some (writer, done)) :
      Step t (done.map .did) (done.foldl apply { t with writer })
  /-- The first in line enters the channel. -/
  | enter {t : Timeline} {first : Handover} {rest : List Handover} (hopen : t.isClosed = false)
      (hroom : t.offered = none) (hline : t.waiting = first :: rest) :
      Step t [] { t with offered := some first, waiting := rest }
  /-- A producer learns that its value was taken. -/
  | acknowledge {t : Timeline} {before after : List Nat} {id : Nat}
      (h : t.taken = before ++ id :: after) :
      Step t [.returned id true]
        { t with taken := before ++ after, settled := t.settled ++ [(id, true)] }
  /-- The session is over, and the value in the channel is lost. -/
  | dismiss {t : Timeline} {lost : Handover} (hclosed : t.isClosed = true)
      (h : t.offered = some lost) :
      Step t [.returned lost.id false]
        { t with offered := none, settled := t.settled ++ [(lost.id, false)] }
  /-- The session is over, and a value in line does not enter the channel. -/
  | turnAway {t : Timeline} {before after : List Handover} {lost : Handover}
      (hclosed : t.isClosed = true) (h : t.waiting = before ++ lost :: after) :
      Step t [.returned lost.id false]
        { t with waiting := before ++ after, settled := t.settled ++ [(lost.id, false)] }

/-- Any number of things that happen one after another. -/
inductive Run (start : Timeline) : Trace → Timeline → Prop
  | nil : Run start [] start
  | snoc {trace more : Trace} {t t' : Timeline} (run : Run start trace t) (step : Step t more t') :
      Run start (trace ++ more) t'

theorem Run.trans {start t t' : Timeline} {trace later : Trace} (h : Run start trace t)
    (hlater : Run t later t') : Run start (trace ++ later) t' := by
  induction hlater with
  | nil => simpa using h
  | snoc _ step ih =>
      rw [← List.append_assoc]
      exact ih.snoc step

/-! ## Every value is accounted for -/

/-- The values that are neither taken nor turned away: the one in the channel, and those in line. -/
def pending (t : Timeline) : List Handover :=
  t.offered.toList ++ t.waiting

/-- The account of the values in a session of which this was seen. -/
structure Accounts (t : Timeline) (trace : Trace) : Prop where
  /-- Hand-overs are numbered in the order of sending. -/
  numbered : trace.sent.map (·.id) = List.range t.nextId
  /-- Values are taken in the order of sending, and the rest stands in that order too. -/
  order : (trace.taken ++ t.pending).Sublist trace.sent
  /-- Every value that was sent is taken, turned away or pending, and only one of these. -/
  share : (trace.sent.map (·.id)).Perm
    (trace.taken.map (·.id) ++ trace.returned false ++ t.pending.map (·.id))
  /-- The producer of every value that was taken knows it, or is about to learn it. -/
  told : (trace.taken.map (·.id)).Perm (trace.returned true ++ t.taken)
  /-- Nothing is turned away before the end. -/
  refused : trace.returned false ≠ [] → t.isClosed = true
  /-- What producers learned is on record. -/
  recorded : ∀ id outcome, (id, outcome) ∈ t.settled ↔ id ∈ trace.returned outcome
  /-- What was taken has become data frames. -/
  delivers : t.writer.phase.Delivers trace.actions

variable {t t' : Timeline} {trace more : Trace}

/-- What the actions of a writer change, besides its sink and the log: a value that is taken leaves
the channel. -/
theorem foldl_apply (done : List Action) (t : Timeline) :
    (done.foldl apply t).writer = t.writer ∧ (done.foldl apply t).waiting = t.waiting ∧
      (done.foldl apply t).nextId = t.nextId ∧ (done.foldl apply t).settled = t.settled ∧
      (done.foldl apply t).taken = t.taken ++ (Session.taken done).map (·.id) ∧
      (done.foldl apply t).offered = if Session.taken done = [] then t.offered else none := by
  induction done generalizing t with
  | nil => simp
  | cons action done ih =>
      obtain ⟨hwriter, hwaiting, hnext, hsettled, htaken, hoffered⟩ := ih (t.apply action)
      rw [List.foldl_cons, hwriter, hwaiting, hnext, hsettled, htaken, hoffered]
      cases action <;> simp [apply]

/-- A step of the writer takes nothing, or the value in the channel. -/
theorem taken_cases {writer : Writer} {done : List Action}
    (h : t.writer.step? t.situation = some (writer, done)) :
    Session.taken done = [] ∨ ∃ value, Session.taken done = [value] ∧ t.offered = some value := by
  have hoffer : ∀ value, t.situation.offer = .value value → t.offered = some value := by
    intro value hvalue
    simp only [situation, offer] at hvalue
    split at hvalue
    · rename_i handover hoffered
      rw [hoffered, (Offer.value.inj hvalue)]
    · split at hvalue <;> cases hvalue
  cases Writer.move_of_step? h with
  | @took handover _ _ _ hvalue | @skipped handover _ _ _ _ hvalue | @brokeDown handover _ _ _ _ hvalue =>
      exact Or.inr ⟨handover, by simp, hoffer handover hvalue⟩
  | _ => exact Or.inl (by simp)

/-- A session that is over takes no step of its writer. -/
theorem step?_of_isClosed (h : t.isClosed = true) : t.writer.step? t.situation = none := by
  unfold isClosed Writer.result? at h
  unfold Writer.step?
  split at h
  · rename_i result hphase
    rw [hphase]
  · simp at h

theorem accounts_start (hoffered : t.offered = none) (hwaiting : t.waiting = [])
    (htaken : t.taken = []) (hnext : t.nextId = 0) (hsettled : t.settled = [])
    (hdelivers : t.writer.phase.Delivers []) : Accounts t [] where
  numbered := by simp [hnext]
  order := by simp [pending, hoffered, hwaiting]
  share := by simp [pending, hoffered, hwaiting]
  told := by simp [htaken]
  refused := by simp
  recorded := by simp [hsettled]
  delivers := hdelivers

/-- A step that shows nothing and moves no value keeps the account. -/
theorem Accounts.unmoved (h : Accounts t trace) (hwriter : t'.writer = t.writer)
    (hnext : t'.nextId = t.nextId) (hpending : t'.pending = t.pending)
    (htaken : t'.taken = t.taken) (hsettled : t'.settled = t.settled) : Accounts t' trace where
  numbered := by rw [hnext, h.numbered]
  order := by rw [hpending]; exact h.order
  share := by rw [hpending]; exact h.share
  told := by rw [htaken]; exact h.told
  refused := by rw [isClosed, hwriter]; exact h.refused
  recorded := by rw [hsettled]; exact h.recorded
  delivers := by rw [hwriter]; exact h.delivers

/-- A step of the writer keeps the account. -/
theorem Accounts.work (h : Accounts t trace) {writer : Writer} {done : List Action}
    (hstep : t.writer.step? t.situation = some (writer, done)) :
    Accounts (done.foldl apply { t with writer }) (trace ++ done.map .did) := by
  obtain ⟨hwriter, hwaiting, hnext, hsettled, htaken, hoffered⟩ := foldl_apply done { t with writer }
  have hopen : t.isClosed ≠ true := fun hclosed => by simp [step?_of_isClosed hclosed] at hstep
  have hpending : Session.taken done ++ (done.foldl apply { t with writer }).pending = t.pending := by
    rw [pending, hoffered, hwaiting]
    rcases taken_cases hstep with hnone | ⟨value, hone, hvalue⟩
    · simp [hnone, pending]
    · simp [hone, hvalue, pending]
  constructor
  · simpa [hnext] using h.numbered
  · have horder := h.order
    rw [← hpending] at horder
    simpa using horder
  · have hshare := h.share
    rw [← hpending] at hshare
    rw [List.perm_iff_count] at hshare ⊢
    intro id
    have hid := hshare id
    simp only [Trace.sent_append, Trace.sent_did, Trace.taken_append, Trace.taken_did,
      Trace.returned_append, Trace.returned_did, List.map_append, List.count_append,
      List.append_nil] at hid ⊢
    omega
  · have htold := h.told.append_right ((Session.taken done).map (·.id))
    simpa [htaken] using htold
  · intro hrefused
    exact (hopen (h.refused (by simpa using hrefused))).elim
  · simpa [hsettled] using h.recorded
  · rw [hwriter, Trace.actions_append, Trace.actions_did]
    exact delivers_step h.delivers (Writer.move_of_step? hstep)

/-- A value that is turned away leaves the pending ones. -/
theorem Accounts.turnedAway (h : Accounts t trace) {before after : List Handover} {lost : Handover}
    (hclosed : t.isClosed = true) (hpending : t.pending = before ++ lost :: after)
    (hwriter : t'.writer = t.writer) (hnext : t'.nextId = t.nextId) (htaken : t'.taken = t.taken)
    (hpending' : t'.pending = before ++ after)
    (hsettled : t'.settled = t.settled ++ [(lost.id, false)]) :
    Accounts t' (trace ++ [.returned lost.id false]) := by
  constructor
  · simpa [hnext] using h.numbered
  · have hsub : (before ++ after).Sublist (before ++ lost :: after) :=
      (List.sublist_cons_self lost after).append_left before
    have horder := h.order
    rw [hpending] at horder
    simpa [hpending'] using (hsub.append_left trace.taken).trans horder
  · have hshare := h.share
    rw [hpending] at hshare
    rw [List.perm_iff_count] at hshare ⊢
    intro id
    have hid := hshare id
    simp [hpending', List.count_append, List.count_cons] at hid ⊢
    omega
  · simpa [htaken] using h.told
  · intro _
    rw [isClosed, hwriter]
    exact hclosed
  · intro id outcome
    cases outcome <;> simp [hsettled, h.recorded]
  · simpa [hwriter] using h.delivers

/-- **Everything that happens keeps the account.** -/
theorem Accounts.step (h : Accounts t trace) (hstep : Step t more t') :
    Accounts t' (trace ++ more) := by
  cases hstep with
  | @send _ p payload hsend =>
      unfold send? at hsend
      split at hsend
      · obtain rfl := by simpa using hsend
        constructor
        · simp [h.numbered, List.range_succ]
        · have horder := h.order.append_right [⟨t.nextId, payload⟩]
          simpa [pending] using horder
        · have hshare := h.share.append_right [t.nextId]
          simpa [pending] using hshare
        · simpa using h.told
        · simpa [isClosed] using h.refused
        · simpa using h.recorded
        · simpa using h.delivers
      · simp at hsend
  | clone p =>
      rw [List.append_nil]
      unfold clone
      split
      · exact h.unmoved rfl rfl rfl rfl rfl
      · exact h
  | drop | cancel | outside =>
      rw [List.append_nil]
      exact h.unmoved rfl rfl rfl rfl rfl
  | work hwork => exact h.work hwork
  | enter hopen hroom hline =>
      rw [List.append_nil]
      exact h.unmoved rfl rfl (by simp [pending, hroom, hline]) rfl rfl
  | @acknowledge before after id htaken =>
      constructor
      · simpa using h.numbered
      · simpa [pending] using h.order
      · simpa [pending] using h.share
      · have htold := h.told
        rw [htaken] at htold
        rw [List.perm_iff_count] at htold ⊢
        intro other
        have hother := htold other
        simp [List.count_append, List.count_cons] at hother ⊢
        omega
      · simpa [isClosed] using h.refused
      · intro other outcome
        cases outcome <;> simp [h.recorded]
      · simpa using h.delivers
  | @dismiss lost hclosed hoffered =>
      have hpending : t.pending = [] ++ lost :: t.waiting := by simp [pending, hoffered]
      exact h.turnedAway hclosed hpending rfl rfl rfl (by simp [pending]) rfl
  | @turnAway before after lost hclosed hwaiting =>
      have hpending : t.pending = t.offered.toList ++ before ++ lost :: after := by
        simp [pending, hwaiting]
      exact h.turnedAway hclosed hpending rfl rfl rfl (by simp [pending]) rfl

theorem Run.accounts {start : Timeline} (hrun : Run start trace t) (h : Accounts start []) :
    Accounts t trace := by
  induction hrun with
  | nil => exact h
  | snoc _ step ih => exact ih.step step

/-! ## What producers learn -/

/-- Whether the producer of a hand-over can go on now and learn this. -/
def CanLearn (t : Timeline) (id : Nat) (taken : Bool) : Prop :=
  ∃ t', Step t [.returned id taken] t'

theorem canLearn_true_iff {id : Nat} : CanLearn t id true ↔ id ∈ t.taken := by
  constructor
  · rintro ⟨t', hstep⟩
    generalize hmore : [Occurrence.returned id true] = more at hstep
    cases hstep with
    | acknowledge htaken =>
        obtain rfl := by simpa using hmore
        simp [htaken]
    | work =>
        obtain ⟨_, _, _, hdid, _⟩ := List.map_eq_cons_iff.mp hmore.symm
        cases hdid
    | _ => simp at hmore
  · intro hmem
    obtain ⟨before, after, htaken⟩ := List.append_of_mem hmem
    exact ⟨_, .acknowledge htaken⟩

theorem canLearn_false_iff {id : Nat} :
    CanLearn t id false ↔ t.isClosed = true ∧ id ∈ t.pending.map (·.id) := by
  constructor
  · rintro ⟨t', hstep⟩
    generalize hmore : [Occurrence.returned id false] = more at hstep
    cases hstep with
    | dismiss hclosed hoffered =>
        obtain rfl := by simpa using hmore
        exact ⟨hclosed, by simp [pending, hoffered]⟩
    | turnAway hclosed hwaiting =>
        obtain rfl := by simpa using hmore
        exact ⟨hclosed, by simp [pending, hwaiting]⟩
    | work =>
        obtain ⟨_, _, _, hdid, _⟩ := List.map_eq_cons_iff.mp hmore.symm
        cases hdid
    | _ => simp at hmore
  · rintro ⟨hclosed, hmem⟩
    obtain ⟨lost, hlost, rfl⟩ := List.mem_map.mp hmem
    rcases List.mem_append.mp hlost with hoffered | hwaiting
    · exact ⟨_, .dismiss hclosed (by simpa using hoffered)⟩
    · obtain ⟨before, after, hline⟩ := List.append_of_mem hwaiting
      exact ⟨_, .turnAway hclosed hline⟩

/-- A session that is over stays over, and its writer does nothing. -/
theorem Step.of_isClosed (hstep : Step t more t') (h : t.isClosed = true) :
    t'.isClosed = true ∧ more.actions = [] := by
  cases hstep with
  | send hsend =>
      unfold send? at hsend
      split at hsend
      · obtain rfl := by simpa using hsend
        exact ⟨h, rfl⟩
      · simp at hsend
  | clone p =>
      unfold Timeline.clone
      split
      · exact ⟨h, rfl⟩
      · exact ⟨h, rfl⟩
  | work hwork => simp [step?_of_isClosed h] at hwork
  | _ => exact ⟨h, rfl⟩

theorem Run.of_isClosed (hrun : Run t more t') (h : t.isClosed = true) :
    t'.isClosed = true ∧ more.actions = [] := by
  induction hrun with
  | nil => exact ⟨h, rfl⟩
  | snoc _ step ih =>
      obtain ⟨hclosed, hnothing⟩ := step.of_isClosed ih.1
      exact ⟨hclosed, by simp [ih.2, hnothing]⟩

namespace Accounts

theorem nodup_share (h : Accounts t trace) :
    (trace.taken.map (·.id) ++ trace.returned false ++ t.pending.map (·.id)).Nodup := by
  rw [← h.share.nodup_iff, h.numbered]
  exact List.nodup_range

theorem mem_taken_iff (h : Accounts t trace) (id : Nat) :
    id ∈ trace.taken.map (·.id) ↔ id ∈ trace.returned true ∨ CanLearn t id true := by
  rw [canLearn_true_iff, ← List.mem_append]
  exact h.told.mem_iff

/-- A producer that learns that its value was lost can be sure of it. -/
theorem not_mem_taken (h : Accounts t trace) {id : Nat}
    (hlost : id ∈ trace.returned false ∨ CanLearn t id false) : id ∉ trace.taken.map (·.id) := by
  intro htaken
  have hnodup := h.nodup_share
  rw [List.append_assoc, List.nodup_append] at hnodup
  refine hnodup.2.2 id htaken id ?_ rfl
  rcases hlost with hreturned | hlearns
  · exact List.mem_append_left _ hreturned
  · exact List.mem_append_right _ (canLearn_false_iff.mp hlearns).2

/-- In a session that is over, producers whose values were not taken learn it. -/
theorem learns_of_isClosed (h : Accounts t trace) (hclosed : t.isClosed = true)
    {value : Handover} (hsent : value ∈ trace.sent) (htaken : value.id ∉ trace.taken.map (·.id)) :
    value.id ∈ trace.returned false ∨ CanLearn t value.id false := by
  have hmem : value.id ∈ trace.sent.map (·.id) := List.mem_map_of_mem hsent
  rw [h.share.mem_iff, List.append_assoc, List.mem_append, List.mem_append] at hmem
  rw [canLearn_false_iff]
  rcases hmem.resolve_left htaken with hreturned | hpending
  · exact Or.inl hreturned
  · exact Or.inr ⟨hclosed, hpending⟩

/-- A producer learns only once what became of its value. -/
theorem nodup_returned (h : Accounts t trace) :
    (trace.returned true ++ trace.returned false).Nodup := by
  obtain ⟨hshare, -, -⟩ := List.nodup_append.mp h.nodup_share
  have htold := h.told.append_right (trace.returned false)
  have hnodup := htold.nodup_iff.mp hshare
  exact hnodup.sublist ((List.sublist_append_left _ _).append_right _)

/-- The data frames are those of values that were taken, each once and in that order. -/
theorem dataFrames_prefix (h : Accounts t trace) :
    dataFrames (written trace.actions) <+: valueFrames trace.taken := by
  rcases h.delivers.cases with hall | ⟨⟨earlier, last, rest, hactions, hearlier, hfailed⟩, -⟩
  · exact hall ▸ List.prefix_refl _
  · have hquiet : written rest = [] := by
      rw [written, List.filterMap_eq_nil_iff]
      intro action hmem
      have hfailure := hfailed action hmem
      cases action <;> simp_all
    rw [Trace.taken, hactions]
    have hdata : dataFrames (written (earlier ++ .took last :: rest)) =
        valueFrames (Session.taken earlier) := by
      simpa [hquiet, AllDelivered] using hearlier
    rw [hdata, Session.taken_append, valueFrames_append]
    exact List.prefix_append _ _

/-- Hand-overs that were sent later have greater numbers. -/
theorem increasing (h : Accounts t trace) : trace.sent.Pairwise fun a b => a.id < b.id := by
  have hids : (trace.sent.map (·.id)).Pairwise (· < ·) := by
    rw [h.numbered]
    exact List.pairwise_lt_range
  exact List.pairwise_map.mp hids

/-- The values of one publisher are taken in the order in which it sent them. -/
theorem order_of_publisher (h : Accounts t trace) {p : Nat} {a b : Handover}
    (htaken : [a, b].Sublist trace.taken) (ha : a ∈ trace.sentBy p) (hb : b ∈ trace.sentBy p) :
    [a, b].Sublist (trace.sentBy p) := by
  have hsent : trace.taken.Sublist trace.sent :=
    (List.sublist_append_left _ _).trans h.order
  have hlt : a.id < b.id := List.pairwise_iff_forall_sublist.mp h.increasing (htaken.trans hsent)
  have hown := h.increasing.sublist (trace.sentBy_sublist p)
  obtain ⟨before, after, heq⟩ := List.append_of_mem ha
  rw [heq] at hb hown ⊢
  rw [List.pairwise_append, List.pairwise_cons] at hown
  rcases List.mem_append.mp hb with hbefore | hlater
  · have := hown.2.2 b hbefore a List.mem_cons_self
    omega
  · rcases List.mem_cons.mp hlater with rfl | hafter
    · omega
    · exact (List.Sublist.cons_cons a (List.singleton_sublist.mpr hafter)).trans
        (List.sublist_append_right _ _)

end Accounts

/-! ## The scheduler of scripts -/

/-- Whether a session can come to this point. -/
def Reaches (t t' : Timeline) : Prop :=
  ∃ trace, Run t trace t'

theorem Reaches.refl (t : Timeline) : Reaches t t := ⟨[], .nil⟩

theorem Reaches.trans {t'' : Timeline} (h : Reaches t t') (hlater : Reaches t' t'') :
    Reaches t t'' := by
  obtain ⟨trace, hrun⟩ := h
  obtain ⟨later, hrun'⟩ := hlater
  exact ⟨_, hrun.trans hrun'⟩

theorem Step.reaches (h : Step t more t') : Reaches t t' := ⟨_, Run.nil.snoc h⟩

theorem runWriter_reaches (steps : Nat) (t : Timeline) : Reaches t (runWriter steps t) := by
  induction steps generalizing t with
  | zero => exact Reaches.refl t
  | succ steps ih =>
      unfold runWriter
      split
      · rename_i t' hstep
        obtain ⟨⟨writer, done⟩, hwork, rfl⟩ := Option.map_eq_some_iff.mp hstep
        exact (Step.work hwork).reaches.trans (ih _)
      · exact Reaches.refl t

/-- The producers of all values that were taken learn it. -/
theorem acknowledge_reaches (ids : List Nat) (t : Timeline) (h : t.taken = ids) :
    Reaches t { t with taken := [], settled := t.settled ++ ids.map (·, true) } := by
  induction ids generalizing t with
  | nil =>
      rw [List.map_nil, List.append_nil, ← h]
      exact Reaches.refl t
  | cons id ids ih =>
      have hfirst := (@Step.acknowledge t [] _ _ h).reaches
      simpa using hfirst.trans (ih _ rfl)

/-- The producers of all values in line learn that the session is over. -/
theorem turnAway_reaches (line : List Handover) (t : Timeline) (hclosed : t.isClosed = true)
    (h : t.waiting = line) :
    Reaches t { t with waiting := [], settled := t.settled ++ line.map (·.id, false) } := by
  induction line generalizing t with
  | nil =>
      rw [List.map_nil, List.append_nil, ← h]
      exact Reaches.refl t
  | cons lost line ih =>
      have hfirst := (@Step.turnAway t [] _ _ hclosed h).reaches
      simpa using hfirst.trans (ih _ hclosed rfl)

/-- **A turn of the producers** is made of steps. -/
theorem runProducers_reaches (t : Timeline) : Reaches t t.runProducers := by
  refine (acknowledge_reaches t.taken t rfl).trans ?_
  unfold runProducers
  generalize ({ t with taken := [], settled := t.settled ++ t.taken.map (·, true) } : Timeline) = told
  simp only
  split
  · rename_i hclosed
    cases hoffered : told.offered with
    | none => simpa [hoffered] using turnAway_reaches told.waiting told hclosed rfl
    | some lost =>
        have hfirst := (Step.dismiss hclosed hoffered).reaches
        simpa using hfirst.trans (turnAway_reaches told.waiting _ hclosed rfl)
  · rename_i hopen
    split
    · rename_i first rest hroom hline
      exact (Step.enter (by simpa using hopen) hroom hline).reaches
    · exact Reaches.refl told

theorem takeTurns_reaches (turns : Nat) (t : Timeline) : Reaches t (takeTurns turns t) := by
  induction turns generalizing t with
  | zero => exact Reaches.refl t
  | succ turns ih =>
      exact (runProducers_reaches t).trans ((runWriter_reaches turnLength _).trans (ih _))

/-- Everything that happens at one moment of a script is made of steps. -/
theorem settle_reaches (t : Timeline) : Reaches t t.settle :=
  (runWriter_reaches turnLength t).trans
    ((takeTurns_reaches _ _).trans (runProducers_reaches _))

theorem passTime_reaches (target wakes : Nat) (t : Timeline) :
    Reaches t (passTime target wakes t) := by
  have hlast : ∀ (t : Timeline) (now : Nat), Reaches t { t with now }.settle := fun t now =>
    (Step.outside t now t.sink).reaches.trans (settle_reaches _)
  induction wakes generalizing t with
  | zero => exact hlast t target
  | succ wakes ih =>
      unfold passTime
      split
      · split
        · exact (hlast t _).trans (ih _)
        · exact hlast t target
      · exact hlast t target

/-- **Waiting in a script** is made of steps. -/
theorem wait_reaches (t : Timeline) (duration : Nat) : Reaches t (t.wait duration) :=
  (settle_reaches t).trans (passTime_reaches _ _ _)

/-! ## Exactly once, and in order -/

/-- **Hand-overs happen exactly once and in order.**  Whatever happened in a session so far, and in
whatever order,
- a producer learns that its value was taken, or can learn it now, exactly if the writer took it, and
  what it learns is what is on record;
- every value is taken at most once, and every producer learns only once what became of its value;
- of two values of one publisher the one that is taken first was sent first;
- a value whose producer learns that it was lost is not taken, and every data frame is that of a
  value that was taken, in the same order;
- when the session is over the writer does nothing more, whatever happens later, and the producer of
  every value that was not taken, also of one that is sent later, learns it or can learn it now. -/
theorem handover_exactly_once (options : Options) (sink : Sink) (cancelled : Bool) {trace : Trace}
    {t : Timeline} (h : Run { writer := { options }, sink, cancelled } trace t) :
    (∀ id, id ∈ trace.taken.map (·.id) ↔ id ∈ trace.returned true ∨ CanLearn t id true) ∧
    (∀ id outcome, (id, outcome) ∈ t.settled ↔ id ∈ trace.returned outcome) ∧
    (trace.taken.map (·.id)).Nodup ∧ (trace.returned true ++ trace.returned false).Nodup ∧
    (∀ p a b, [a, b].Sublist trace.taken → a ∈ trace.sentBy p → b ∈ trace.sentBy p →
      [a, b].Sublist (trace.sentBy p)) ∧
    (∀ id, id ∈ trace.returned false ∨ CanLearn t id false → id ∉ trace.taken.map (·.id)) ∧
    dataFrames (written trace.actions) <+: valueFrames trace.taken ∧
    (t.isClosed = true → ∀ later t', Run t later t' → later.actions = [] ∧
      ∀ value ∈ (trace ++ later).sent, value.id ∉ trace.taken.map (·.id) →
        value.id ∈ (trace ++ later).returned false ∨ CanLearn t' value.id false) := by
  have hstart : Accounts ({ writer := { options }, sink, cancelled } : Timeline) [] :=
    accounts_start rfl rfl rfl rfl rfl (Or.inl ⟨rfl, rfl⟩)
  have haccounts := h.accounts hstart
  have hnodup := haccounts.nodup_share
  rw [List.append_assoc] at hnodup
  refine ⟨haccounts.mem_taken_iff, haccounts.recorded, (List.nodup_append.mp hnodup).1,
    haccounts.nodup_returned, fun p a b => haccounts.order_of_publisher,
    fun id => haccounts.not_mem_taken, haccounts.dataFrames_prefix, ?_⟩
  intro hclosed later t' hlater
  obtain ⟨hclosed', hnothing⟩ := hlater.of_isClosed hclosed
  refine ⟨hnothing, fun value hsent htaken => ?_⟩
  have hlast := (h.trans hlater).accounts hstart
  refine hlast.learns_of_isClosed hclosed' hsent ?_
  simpa [Trace.taken, hnothing] using htaken

/-- Two publishers hand over one value each.  The session is cancelled behind the first, and the
second has entered the channel by then. -/
theorem handover_exactly_once_cancelled :
    ∃ trace t, Run { writer := { options := ⟨10, 100⟩ }, sink := .recorder {} } trace t ∧
      trace.taken.map (·.id) = [0] ∧ t.settled = [(0, true), (1, false)] ∧
      1 ∉ trace.taken.map (·.id) := by
  have hstart : Run { writer := { options := ⟨10, 100⟩ }, sink := .recorder {} } []
    { writer := { options := ⟨10, 100⟩ }, sink := .recorder {} } := .nil
  have hopened := (((hstart.snoc (.work rfl)).snoc (.work rfl)).snoc (.work rfl)).snoc (.work rfl)
  have hfirst := (hopened.snoc (@Step.send _ _ 0 (.value (.int 7)) rfl)).snoc (.clone _ 0)
  have hsecond := hfirst.snoc (@Step.send _ _ 1 (.value (.int 8)) rfl)
  have htook := ((hsecond.snoc (.enter rfl rfl rfl)).snoc (.work rfl)).snoc (.enter rfl rfl rfl)
  have hcancelled := (htook.snoc (.cancel _)).snoc (.work rfl)
  have hrun := (hcancelled.snoc (@Step.acknowledge _ [] [] 0 rfl)).snoc (.dismiss rfl rfl)
  obtain ⟨-, hrecorded, -, -, -, hlost, -⟩ := handover_exactly_once _ _ _ hrun
  have hreturned := (hrecorded 1 false).mp (by decide)
  exact ⟨_, _, hrun, rfl, rfl, hlost 1 (Or.inl hreturned)⟩

end Timeline

end ServiceHost.Session
