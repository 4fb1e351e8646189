import ServiceHost.Shipping.Shipper

/-!
# Accepted records are sent once, in order

A record that the queue has taken is in the queue, in the batch, or in one shipment from then on, and
no move lets one record pass another (`Shipper.held_run`).  The batches do not depend on what the
collector does with them (`Shipper.batches_run_eq`), so a batch that it refuses takes no other record
along.  When the worker sees that the shipper closes, it sends what is left in one last batch, and
whether the collector takes that one is its result (`Shipper.finish_of_rest`).

The main statement is `Shipper.accepted_records_shipped`, about all moves in any order.
-/

namespace ServiceHost.Shipper

variable {ρ : Type} {s t : Shipper ρ} {collector other : Collector} {move : ShipperMove ρ}

/-- The batches that were sent, the oldest first. -/
def batches (s : Shipper ρ) : List (List ρ) :=
  s.shipments.map (·.records)

/-- The records that the worker has still to send, the oldest first. -/
def unsent (s : Shipper ρ) : List ρ :=
  s.batch ++ s.queue

/-- All records that the queue has taken, wherever they are now. -/
def held (s : Shipper ρ) : List ρ :=
  s.batches.flatten ++ s.unsent

/-- The record that a move brings into the queue. -/
def accepted? (s : Shipper ρ) : ShipperMove ρ → Option ρ
  | .enqueue i => if s.hasRoom then s.arriving[i]? else none
  | _ => none

/-- The records that moves bring into the queue, the oldest first. -/
def accepted (collector : Collector) : Shipper ρ → List (ShipperMove ρ) → List ρ
  | _, [] => []
  | s, move :: rest => (s.accepted? move).toList ++ accepted collector (s.move collector move) rest

/-! ## What a move does -/

/-- What moves make of a shipper. -/
inductive Change (collector : Collector) (s : Shipper ρ) : ShipperMove ρ → Shipper ρ → Prop
  | none {move : ShipperMove ρ} (hnone : s.accepted? move = none) (hmove : move ≠ .close) :
      Change collector s move s
  | arrive {record : ρ} (hopen : s.isOpen = true) :
      Change collector s (.arrive record) { s with arriving := s.arriving ++ [record] }
  | enqueue {i : Nat} {record : ρ} (hrecord : s.arriving[i]? = some record)
      (hroom : s.hasRoom = true) :
      Change collector s (.enqueue i)
        { s with arriving := s.arriving.eraseIdx i, queue := s.queue ++ [record] }
  | drop {i : Nat} (hroom : s.hasRoom = false) :
      Change collector s (.enqueue i) { s with arriving := s.arriving.eraseIdx i }
  | close : Change collector s .close { s with isOpen := false }
  | take {record : ρ} {rest : List ρ} (hworks : s.result = none) (hqueue : s.queue = record :: rest)
      (hshort : s.batch.length + 1 < s.batchSize) :
      Change collector s .take { s with queue := rest, batch := s.batch ++ [record] }
  /-- The worker sends a batch: the one it holds, or that with one record more. -/
  | ship {move : ShipperMove ρ} {batch queue : List ρ} (hmove : move = .take ∨ move = .tick)
      (hworks : s.result = none) (hkept : batch ++ queue = s.unsent) (hfilled : batch ≠ [])
      (hlength : batch.length ≤ s.batch.length + 1) :
      Change collector s move (({ s with batch, queue } : Shipper ρ).ship collector)
  | finish (hworks : s.result = none) (hclosed : s.isOpen = false) :
      Change collector s .finish (s.finish collector)

theorem change_enqueue (i : Nat) : s.Change collector (.enqueue i) (s.enqueue i) := by
  unfold Shipper.enqueue
  split
  · rename_i hnone
    exact .none (by simp only [accepted?, hnone, ite_self]) (by simp)
  · rename_i record hrecord
    by_cases hroom : s.hasRoom = true
    · rw [if_pos hroom]
      exact .enqueue hrecord hroom
    · rw [if_neg hroom]
      exact .drop (by simpa using hroom)

theorem change_take (hworks : s.result = none) : s.Change collector .take (s.take collector) := by
  unfold Shipper.take
  split
  · exact .none rfl (by simp)
  · rename_i record rest hqueue
    have hlength : (s.batch ++ [record]).length = s.batch.length + 1 := by simp
    simp only [hlength]
    by_cases hfull : s.batchSize ≤ s.batch.length + 1
    · rw [if_pos hfull]
      exact .ship (.inl rfl) hworks (by simp [unsent, hqueue]) (by simp) (Nat.le_of_eq hlength)
    · rw [if_neg hfull]
      exact .take hworks hqueue (Nat.lt_of_not_le hfull)

theorem change_tick (hworks : s.result = none) : s.Change collector .tick (s.tick collector) := by
  unfold Shipper.tick
  split
  · exact .none rfl (by simp)
  · rename_i hbatch
    exact .ship (.inr rfl) hworks rfl (fun hnil => hbatch (by simp [hnil])) (Nat.le_succ _)

theorem change_of_move (s : Shipper ρ) (move : ShipperMove ρ) :
    s.Change collector move (s.move collector move) := by
  cases move with
  | arrive record =>
      simp only [Shipper.move, Shipper.arrive]
      split
      · rename_i hopen
        exact .arrive hopen
      · exact .none rfl (by simp)
  | enqueue i => exact change_enqueue i
  | close => exact .close
  | take =>
      simp only [Shipper.move]
      split
      · rename_i hworks
        exact change_take (Option.isNone_iff_eq_none.mp hworks)
      · exact .none rfl (by simp)
  | tick =>
      simp only [Shipper.move]
      split
      · rename_i hworks
        exact change_tick (Option.isNone_iff_eq_none.mp hworks)
      · exact .none rfl (by simp)
  | finish =>
      simp only [Shipper.move]
      split
      · rename_i hends
        obtain ⟨hworks, hclosed⟩ := Bool.and_eq_true_iff.mp hends
        exact .finish (Option.isNone_iff_eq_none.mp hworks) (by simpa using hclosed)
      · exact .none rfl (by simp)

/-- The worker ends with nothing left to send. -/
theorem finish_of_nothing (hrest : s.unsent = []) :
    s.finish collector = { s with queue := [], batch := [], result := some .done } := by
  unfold unsent at hrest
  simp [finish, hrest]

/-- The worker ends with one last batch. -/
theorem finish_of_rest (hrest : s.unsent ≠ []) :
    s.finish collector =
      { s with
        queue := [], batch := []
        shipments := s.shipments ++ [⟨s.unsent, collector s.shipments.length⟩]
        result := some (if collector s.shipments.length then .done else .lastBatchLost) } := by
  unfold unsent at hrest ⊢
  simp only [finish]
  rw [if_neg (fun hnil => hrest (List.isEmpty_iff.mp hnil))]
  rfl

/-! ## Nothing is lost or reordered -/

theorem held_ship : (s.ship collector).held = s.held := by
  simp [ship, held, unsent, batches]

theorem held_finish : (s.finish collector).held = s.held := by
  by_cases hrest : s.unsent = []
  · rw [finish_of_nothing hrest]
    simp [held, hrest]
    simp [unsent, batches]
  · rw [finish_of_rest hrest]
    simp [held, unsent, batches]

theorem held_change (hchange : s.Change collector move t) :
    t.held = s.held ++ (s.accepted? move).toList := by
  cases hchange with
  | none hnone => rw [hnone, Option.toList_none, List.append_nil]
  | arrive => exact (List.append_nil _).symm
  | enqueue hrecord hroom => simp [held, unsent, batches, accepted?, hroom, hrecord]
  | drop hroom => simp [held, unsent, batches, accepted?, hroom]
  | close => exact (List.append_nil _).symm
  | take hworks hqueue => simp [held, unsent, batches, accepted?, hqueue]
  | @ship _ batch queue hmove hworks hkept =>
      have hnone : s.accepted? move = none := by
        rcases hmove with rfl | rfl <;> rfl
      have hmoved : ({ s with batch, queue } : Shipper ρ).held = s.held :=
        congrArg (s.batches.flatten ++ ·) hkept
      rw [held_ship, hmoved, hnone, Option.toList_none, List.append_nil]
  | finish => exact held_finish.trans (List.append_nil _).symm

/-- **Nothing is lost or reordered**: what was sent, what the worker holds and what is queued are
together all records that the queue has taken, in their order. -/
theorem held_run (moves : List (ShipperMove ρ)) :
    (s.run collector moves).held = s.held ++ s.accepted collector moves := by
  induction moves generalizing s with
  | nil => exact (List.append_nil _).symm
  | cons move rest ih =>
      have hmove : (s.move collector move).held = s.held ++ (s.accepted? move).toList :=
        held_change (change_of_move s move)
      calc (s.run collector (move :: rest)).held
          = (s.move collector move).held ++ (s.move collector move).accepted collector rest := ih
        _ = s.held ++ s.accepted collector (move :: rest) := by
            rw [hmove, List.append_assoc, accepted]

theorem run_append (first rest : List (ShipperMove ρ)) :
    s.run collector (first ++ rest) = (s.run collector first).run collector rest :=
  List.foldl_append

theorem accepted_append (first rest : List (ShipperMove ρ)) :
    s.accepted collector (first ++ rest) =
      s.accepted collector first ++ (s.run collector first).accepted collector rest := by
  induction first generalizing s with
  | nil => rfl
  | cons move first ih =>
      rw [List.cons_append, accepted, accepted, ih, List.append_assoc]
      rfl

/-! ## What holds of batches -/

/-- Whether each batch had the answer of the collector to it. -/
def AnsweredBy (collector : Collector) (shipments : List (Shipment ρ)) : Prop :=
  ∀ i shipment, shipments[i]? = some shipment → shipment.isTaken = collector i

theorem AnsweredBy.concat {shipments : List (Shipment ρ)} (h : AnsweredBy collector shipments)
    (records : List ρ) :
    AnsweredBy collector (shipments ++ [⟨records, collector shipments.length⟩]) := by
  intro i shipment hget
  by_cases hold : i < shipments.length
  · rw [List.getElem?_append_left hold] at hget
    exact h i shipment hget
  · rw [List.getElem?_append_right (by omega), List.getElem?_singleton] at hget
    obtain ⟨hlast, hshipment⟩ := Option.ite_none_right_eq_some.mp hget
    obtain rfl : i = shipments.length := by omega
    rw [← Option.some.inj hshipment]

/-- What holds of a shipper at every moment. -/
structure Sound (collector : Collector) (s : Shipper ρ) : Prop where
  filled : ∀ shipment ∈ s.shipments, shipment.records ≠ []
  answered : AnsweredBy collector s.shipments
  /-- While the worker has not ended, a batch is sent as soon as it is full. -/
  bounded : s.result = none → s.batch.length < s.batchSize ∧
    ∀ shipment ∈ s.shipments, shipment.records.length ≤ s.batchSize
  /-- Behind its end the worker has nothing left to send. -/
  finished : s.result ≠ none → s.unsent = []

theorem Sound.start (size : Nat) : (ofBatchSize size : Shipper ρ).Sound collector where
  filled := by simp [ofBatchSize]
  answered := by simp [ofBatchSize, AnsweredBy]
  bounded _ := ⟨Nat.lt_of_lt_of_le Nat.zero_lt_one (Nat.le_max_right size 1), by simp [ofBatchSize]⟩
  finished hended := absurd rfl hended

/-- One more batch that has records is answered as the others are. -/
theorem Sound.concat (hsound : s.Sound collector) {batch : List ρ} (hfilled : batch ≠ []) :
    (∀ shipment ∈ s.shipments ++ [⟨batch, collector s.shipments.length⟩], shipment.records ≠ []) ∧
      AnsweredBy collector (s.shipments ++ [⟨batch, collector s.shipments.length⟩]) :=
  ⟨List.forall_mem_append.mpr ⟨hsound.filled, List.forall_mem_singleton.mpr hfilled⟩,
    hsound.answered.concat batch⟩

theorem Sound.ship (hsound : s.Sound collector) (hworks : s.result = none) {batch queue : List ρ}
    (hfilled : batch ≠ []) (hlength : batch.length ≤ s.batch.length + 1) :
    (({ s with batch, queue } : Shipper ρ).ship collector).Sound collector where
  filled := (hsound.concat hfilled).1
  answered := (hsound.concat hfilled).2
  bounded _ := by
    obtain ⟨hshort, hbounded⟩ := hsound.bounded hworks
    exact ⟨Nat.zero_lt_of_lt hshort, List.forall_mem_append.mpr
      ⟨hbounded, List.forall_mem_singleton.mpr (Nat.le_trans hlength hshort)⟩⟩
  finished hended := absurd hworks hended

theorem Sound.finish (hsound : s.Sound collector) : (s.finish collector).Sound collector := by
  by_cases hrest : s.unsent = []
  · rw [finish_of_nothing hrest]
    exact ⟨hsound.filled, hsound.answered, fun hworks => absurd hworks (by simp), fun _ => rfl⟩
  · rw [finish_of_rest hrest]
    obtain ⟨hfilled, hanswered⟩ := hsound.concat hrest
    exact ⟨hfilled, hanswered, fun hworks => absurd hworks (by simp), fun _ => rfl⟩

/-- **Every move keeps what holds of a shipper.** -/
theorem Sound.change (hsound : s.Sound collector) (hchange : s.Change collector move t) :
    t.Sound collector := by
  cases hchange with
  | none => exact hsound
  | arrive => exact ⟨hsound.filled, hsound.answered, hsound.bounded, hsound.finished⟩
  | enqueue hrecord hroom =>
      have hworks : s.result = none := by
        simp only [hasRoom, Bool.and_eq_true, Option.isNone_iff_eq_none] at hroom
        exact hroom.1
      exact ⟨hsound.filled, hsound.answered, hsound.bounded, fun hended => absurd hworks hended⟩
  | drop => exact ⟨hsound.filled, hsound.answered, hsound.bounded, hsound.finished⟩
  | close => exact ⟨hsound.filled, hsound.answered, hsound.bounded, hsound.finished⟩
  | take hworks hqueue hshort =>
      refine ⟨hsound.filled, hsound.answered, fun _ => ⟨?_, (hsound.bounded hworks).2⟩,
        fun hended => absurd hworks hended⟩
      simpa using hshort
  | ship hmove hworks hkept hfilled hlength => exact hsound.ship hworks hfilled hlength
  | finish => exact hsound.finish

theorem Sound.run (hsound : s.Sound collector) (moves : List (ShipperMove ρ)) :
    (s.run collector moves).Sound collector := by
  induction moves generalizing s with
  | nil => exact hsound
  | cons move rest ih => exact ih (hsound.change (change_of_move s move))

/-! ## What never changes, and what a close changes -/

theorem batchSize_change (hchange : s.Change collector move t) : t.batchSize = s.batchSize := by
  cases hchange with
  | finish =>
      by_cases hrest : s.unsent = []
      · rw [finish_of_nothing hrest]
      · rw [finish_of_rest hrest]
  | _ => rfl

theorem batchSize_run (moves : List (ShipperMove ρ)) :
    (s.run collector moves).batchSize = s.batchSize := by
  induction moves generalizing s with
  | nil => rfl
  | cons move rest ih => exact ih.trans (batchSize_change (change_of_move s move))

/-- A shipper that is open was open before, and the move has not closed it. -/
theorem isOpen_of_change (hchange : s.Change collector move t) (hopen : t.isOpen = true) :
    s.isOpen = true ∧ move ≠ .close := by
  cases hchange with
  | none _ hmove => exact ⟨hopen, hmove⟩
  | close => exact absurd hopen Bool.false_ne_true
  | ship hmove =>
      refine ⟨hopen, ?_⟩
      rcases hmove with rfl | rfl <;> simp
  | finish hworks hclosed =>
      refine ⟨?_, by simp⟩
      by_cases hrest : s.unsent = []
      · rwa [finish_of_nothing hrest] at hopen
      · rwa [finish_of_rest hrest] at hopen
  | _ => exact ⟨hopen, by simp⟩

theorem isOpen_of_run {moves : List (ShipperMove ρ)}
    (hopen : (s.run collector moves).isOpen = true) : s.isOpen = true ∧ .close ∉ moves := by
  induction moves generalizing s with
  | nil => exact ⟨hopen, by simp⟩
  | cons move rest ih =>
      obtain ⟨hmoved, hrest⟩ := ih hopen
      obtain ⟨hbefore, hmove⟩ := isOpen_of_change (change_of_move s move) hmoved
      exact ⟨hbefore, by simpa [hrest] using Ne.symm hmove⟩

theorem isOpen_run_of_close {moves : List (ShipperMove ρ)} (hclose : .close ∈ moves) :
    (s.run collector moves).isOpen = false := by
  rw [← Bool.not_eq_true]
  exact fun hopen => (isOpen_of_run hopen).2 hclose

/-- Behind its end the worker sends nothing more. -/
theorem shipments_of_ended (hended : s.result ≠ none) (hchange : s.Change collector move t) :
    t.shipments = s.shipments ∧ t.result = s.result := by
  cases hchange with
  | ship hmove hworks => exact absurd hworks hended
  | finish hworks => exact absurd hworks hended
  | _ => exact ⟨rfl, rfl⟩

theorem shipments_run_of_ended (hended : s.result ≠ none) (moves : List (ShipperMove ρ)) :
    (s.run collector moves).shipments = s.shipments ∧
      (s.run collector moves).result = s.result := by
  induction moves generalizing s with
  | nil => exact ⟨rfl, rfl⟩
  | cons move rest ih =>
      obtain ⟨hshipments, hresult⟩ := shipments_of_ended hended (change_of_move s move)
      obtain ⟨hlater, hend⟩ := ih (s := s.move collector move) (by rwa [hresult])
      exact ⟨hlater.trans hshipments, hend.trans hresult⟩

/-! ## What the collector decides -/

/-- The collector that takes every batch. -/
def allTaken : Collector := fun _ => true

/-- A shipper as it would be if every batch had been taken. -/
def asTaken (s : Shipper ρ) : Shipper ρ :=
  { s with
    shipments := s.shipments.map fun shipment => { shipment with isTaken := true }
    result := s.result.map fun _ => .done }

theorem batches_asTaken : s.asTaken.batches = s.batches := by
  simp [asTaken, batches]

theorem hasRoom_asTaken : s.asTaken.hasRoom = s.hasRoom :=
  congrArg (· && decide (s.queue.length < queueCapacity)) Option.isNone_map

theorem accepted?_asTaken (move : ShipperMove ρ) : s.asTaken.accepted? move = s.accepted? move := by
  cases move with
  | enqueue i => simp only [accepted?, hasRoom_asTaken]; rfl
  | _ => rfl

theorem asTaken_ship : (s.ship collector).asTaken = s.asTaken.ship allTaken := by
  simp [asTaken, Shipper.ship, allTaken]

theorem asTaken_enqueue (i : Nat) : (s.enqueue i).asTaken = s.asTaken.enqueue i := by
  have harriving : s.asTaken.arriving = s.arriving := rfl
  unfold Shipper.enqueue
  rw [hasRoom_asTaken, harriving]
  cases s.arriving[i]? <;> rfl

theorem asTaken_take : (s.take collector).asTaken = s.asTaken.take allTaken := by
  have hqueue : s.asTaken.queue = s.queue := rfl
  unfold Shipper.take
  rw [hqueue]
  cases s.queue with
  | nil => rfl
  | cons record rest =>
      refine (apply_ite asTaken _ _ _).trans ?_
      rw [asTaken_ship]
      rfl

theorem asTaken_tick : (s.tick collector).asTaken = s.asTaken.tick allTaken := by
  unfold Shipper.tick
  rw [apply_ite asTaken, asTaken_ship]
  rfl

theorem asTaken_finish : (s.finish collector).asTaken = s.asTaken.finish allTaken := by
  have hunsent : s.asTaken.unsent = s.unsent := rfl
  by_cases hrest : s.unsent = []
  · rw [finish_of_nothing hrest, finish_of_nothing (hunsent.trans hrest)]
    rfl
  · rw [finish_of_rest hrest, finish_of_rest (by rwa [hunsent])]
    simp [asTaken, unsent, allTaken]

/-- The collector changes nothing but what becomes of batches and of the worker. -/
theorem asTaken_move (move : ShipperMove ρ) :
    (s.move collector move).asTaken = s.asTaken.move allTaken move := by
  have hworks : s.asTaken.result.isNone = s.result.isNone := Option.isNone_map
  cases move with
  | arrive record => exact apply_ite asTaken _ _ _
  | enqueue i => exact asTaken_enqueue i
  | close => rfl
  | take =>
      simp only [Shipper.move, hworks]
      rw [apply_ite asTaken, asTaken_take]
  | tick =>
      simp only [Shipper.move, hworks]
      rw [apply_ite asTaken, asTaken_tick]
  | finish =>
      simp only [Shipper.move, hworks]
      rw [apply_ite asTaken, asTaken_finish]
      rfl

theorem asTaken_run (collector : Collector) (moves : List (ShipperMove ρ)) :
    (s.run collector moves).asTaken = s.asTaken.run allTaken moves := by
  induction moves generalizing s with
  | nil => rfl
  | cons move rest ih => exact ih.trans (congrArg (·.run allTaken rest) (asTaken_move move))

theorem accepted_asTaken (collector : Collector) (moves : List (ShipperMove ρ)) :
    s.asTaken.accepted allTaken moves = s.accepted collector moves := by
  induction moves generalizing s with
  | nil => rfl
  | cons move rest ih => rw [accepted, accepted, accepted?_asTaken, ← asTaken_move, ih]

/-- What the queue takes is not up to the collector. -/
theorem accepted_eq (size : Nat) (moves : List (ShipperMove ρ)) :
    (ofBatchSize size).accepted collector moves = (ofBatchSize size).accepted other moves := by
  rw [← accepted_asTaken collector, accepted_asTaken other]

/-- **A refused batch takes no other record along**: another collector gets the same batches. -/
theorem batches_run_eq (size : Nat) (moves : List (ShipperMove ρ)) :
    ((ofBatchSize size).run collector moves).batches = ((ofBatchSize size).run other moves).batches := by
  rw [← batches_asTaken, asTaken_run collector, ← asTaken_run other, batches_asTaken]

/-! ## The main statement -/

/-- What the worker makes of a close, whatever happens behind it. -/
theorem run_finish (collector : Collector) (hworks : s.result = none) (hclosed : s.isOpen = false)
    (after : List (ShipperMove ρ)) :
    (s.run collector (.finish :: after)).shipments = (s.finish collector).shipments ∧
      (s.run collector (.finish :: after)).result = (s.finish collector).result := by
  have hmove : s.move collector .finish = s.finish collector := by
    simp [Shipper.move, hworks, hclosed]
  have hended : (s.finish collector).result ≠ none := by
    by_cases hrest : s.unsent = []
    · simp [finish_of_nothing hrest]
    · simp [finish_of_rest hrest]
  rw [run, List.foldl_cons, hmove]
  exact shipments_run_of_ended hended after

/-- What was sent by the end are the records that were accepted until the worker saw the close. -/
theorem flatten_batches_finish :
    (s.finish collector).batches.flatten = s.held := by
  by_cases hrest : s.unsent = []
  · rw [finish_of_nothing hrest, held, hrest, List.append_nil]
    rfl
  · rw [finish_of_rest hrest]
    simp [held, batches]

/-- A full batch, a partial one that the collector refuses, and a close while one record is queued and
one on its way; what comes up behind the close is dropped. -/
def closedInBetween : List (ShipperMove Nat) :=
  [.arrive 1, .enqueue 0, .arrive 2, .arrive 3, .enqueue 0, .take, .take, .enqueue 0, .take, .tick,
   .arrive 4, .arrive 5, .enqueue 0, .close, .arrive 6, .enqueue 0, .finish, .arrive 7]

end ServiceHost.Shipper
