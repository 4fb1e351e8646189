import Mathlib.Data.Nat.Log
import ServiceHost.Proofs.Connections.SniffedOpening
import ServiceHost.Proofs.Opening.RequestGrammar

/-!
# How much is buffered while sniffing

The limit is looked at before a read, and a read takes what fits into the buffer, which has room for
1024 octets at least.  So it bounds what is buffered when a read starts (`Bounded`), and the last read
can go beyond it, up to the capacity that the buffer then has.  That capacity depends on what is
buffered alone (`capacityAt`), which makes the bound exact: whatever the limit is, there is a
connection that fills the largest buffer and is routed by octets behind the limit
(`sniffing_buffer_bound`).
-/

namespace ServiceHost

/-! ## Capacities -/

/-- How many octets fit into a buffer with this many that waits for more: the least of 1024, 2048,
4096, … with room for 1024 more. -/
def Sniffer.capacityAt (length : Nat) : Nat :=
  1024 * 2 ^ Nat.clog 2 ((length + 2047) / 1024)

namespace Sniffer

theorem add_le_capacityAt (length : Nat) : length + 1024 ≤ capacityAt length := by
  have hpower := Nat.le_pow_clog (b := 2) (by decide) ((length + 2047) / 1024)
  unfold capacityAt
  omega

/-- The least capacity is the one that is less than twice what is needed. -/
theorem capacityAt_eq {length k : Nat} (hroom : length + 1024 ≤ 1024 * 2 ^ k)
    (hleast : 1024 * 2 ^ k < 2 * (length + 1024)) : capacityAt length = 1024 * 2 ^ k := by
  have hclog : Nat.clog 2 ((length + 2047) / 1024) = k := by
    refine Nat.le_antisymm (Nat.clog_le_of_le_pow (by omega)) ?_
    cases k with
    | zero => exact Nat.zero_le _
    | succ k =>
        rw [Nat.pow_succ] at hleast
        exact (Nat.lt_clog_iff_pow_lt (by decide)).mpr (by omega)
  rw [capacityAt, hclog]

theorem capacityAt_zero : capacityAt 0 = 1024 :=
  capacityAt_eq (k := 0) (by decide) (by decide)

theorem capacityAt_lt (length : Nat) : capacityAt length < 2 * (length + 1024) := by
  unfold capacityAt
  generalize hk : Nat.clog 2 ((length + 2047) / 1024) = k
  cases k with
  | zero => omega
  | succ k =>
      have hpower : 2 ^ k < (length + 2047) / 1024 := Nat.pow_lt_of_lt_clog (by omega)
      rw [Nat.pow_succ]
      omega

theorem capacityAt_mono {length more : Nat} (h : length ≤ more) :
    capacityAt length ≤ capacityAt more :=
  Nat.mul_le_mul_left _ (Nat.pow_le_pow_right (by decide)
    (Nat.clog_mono_right 2 (Nat.div_le_div_right (by omega))))

end Sniffer

namespace Sniffing

open Sniffer

/-- Whether each of these arrivals can be the result of a read when its turn comes: octets are at
least one, and fit into the buffer. -/
def admitsAll (decompress : Preface.Decompress) (limit : Nat) : Sniffing → List Arrival → Bool
  | _, [] => true
  | s, arrival :: arrivals =>
    admits s arrival && admitsAll decompress limit (take decompress limit s arrival) arrivals

variable {decompress : Preface.Decompress} {limit : Nat}

/-! ## Before a read -/

/-- What bounds a sniffer that waits for a read. -/
structure Bounded (limit : Nat) (s : Sniffer) : Prop where
  below : s.buffer.length < limit
  capacity : s.capacity = capacityAt s.buffer.length

/-- The buffer grows to the capacity of what is buffered. -/
theorem grown_eq {s : Sniffer} (length : Nat) (hcapacity : s.capacity = capacityAt length)
    (hlength : length ≤ s.buffer.length) (hfits : s.buffer.length ≤ s.capacity) :
    s.grown = { s with capacity := capacityAt s.buffer.length } := by
  have hpower : s.capacity = 1024 * 2 ^ Nat.clog 2 ((length + 2047) / 1024) := hcapacity
  unfold Sniffer.grown Sniffer.leastRoom
  split
  · -- the buffer held a least read at least, so twice its size has the room that is missing
    rename_i hshort
    have hleast := add_le_capacityAt length
    have hdouble : max (2 * s.capacity) (s.buffer.length + 1024) =
        1024 * 2 ^ (Nat.clog 2 ((length + 2047) / 1024) + 1) := by
      rw [Nat.pow_succ]
      omega
    have hnext : capacityAt s.buffer.length =
        1024 * 2 ^ (Nat.clog 2 ((length + 2047) / 1024) + 1) :=
      capacityAt_eq (by omega) (by omega)
    rw [hdouble, hnext]
  · have hless := capacityAt_lt length
    have hsame : capacityAt s.buffer.length = s.capacity := by
      rw [hpower]
      exact capacityAt_eq (by omega) (by omega)
    rw [hsame]

/-- Asking for more keeps the bounds. -/
theorem askForMore_bounded {s next : Sniffer} {length : Nat}
    (hcapacity : s.capacity = capacityAt length) (hlength : length ≤ s.buffer.length)
    (hfits : s.buffer.length ≤ s.capacity)
    (h : s.askForMore limit = .waiting next) : Bounded limit next ∧ next.buffer = s.buffer := by
  unfold Sniffer.askForMore at h
  split at h
  · cases h
  rename_i hlimit
  obtain rfl := Sniffing.waiting.inj h
  rw [grown_eq length hcapacity hlength hfits]
  exact ⟨⟨Nat.not_le.mp hlimit, rfl⟩, rfl⟩

/-- Sniffing waits only by asking for more, with what was buffered. -/
theorem exists_askForMore_of_settle {s next : Sniffer}
    (h : s.settle decompress limit = .waiting next) :
    ∃ asking : Sniffer, asking.buffer = s.buffer ∧ asking.capacity = s.capacity ∧
      asking.askForMore limit = .waiting next := by
  have hfinish : ∀ protocol, s.finish limit protocol = .waiting next →
      ∃ asking : Sniffer, asking.buffer = s.buffer ∧ asking.capacity = s.capacity ∧
        asking.askForMore limit = .waiting next := by
    intro protocol hfinish
    unfold Sniffer.finish at hfinish
    split at hfinish
    · split at hfinish
      · cases hfinish
      · exact ⟨{ s with protocol := some protocol }, rfl, rfl, hfinish⟩
    · cases hfinish
  unfold Sniffer.settle at h
  split at h
  · exact hfinish _ h
  · split at h
    · exact hfinish _ h
    · cases h
    · split at h
      · split at h
        · exact ⟨s.sendSettings, rfl, rfl, h⟩
        · cases h
      · exact ⟨s, rfl, rfl, h⟩

/-- **One read keeps the bounds**, if it fits into the buffer. -/
theorem take_bounded {s next : Sniffer} (h : Bounded limit s) {octets : Octets}
    (hfits : octets.length ≤ s.room)
    (hnext : take decompress limit (.waiting s) (.octets octets) = .waiting next) :
    Bounded limit next ∧ next.buffer = s.buffer ++ octets := by
  have hleast := add_le_capacityAt s.buffer.length
  have hcapacity := h.capacity
  unfold Sniffer.room at hfits
  obtain ⟨asking, hbuffer, hsame, hasks⟩ := exists_askForMore_of_settle hnext
  have hlength : asking.buffer.length = s.buffer.length + octets.length := by
    rw [hbuffer, List.length_append]
  have hkept : asking.capacity = s.capacity := hsame
  obtain ⟨hbounded, hnextBuffer⟩ :=
    askForMore_bounded (hkept.trans h.capacity) (by omega) (by omega) hasks
  exact ⟨hbounded, hnextBuffer.trans hbuffer⟩

/-- A new connection has nothing in its buffer. -/
theorem start_bounded {isWritable : Bool} {s : Sniffer}
    (h : start decompress limit isWritable = .waiting s) : Bounded limit s ∧ s.buffer = [] := by
  obtain ⟨asking, hbuffer, hcapacity, hasks⟩ := exists_askForMore_of_settle h
  have hnone : asking.buffer.length = 0 := by simp [hbuffer]
  have hfirst : asking.capacity = capacityAt 0 := hcapacity.trans capacityAt_zero.symm
  obtain ⟨hbounded, hnext⟩ := askForMore_bounded hfirst (Nat.zero_le _) (by omega) hasks
  exact ⟨hbounded, hnext.trans hbuffer⟩

/-! ## All reads -/

/-- What bounds a read behind some others. -/
structure ReadFits (limit : Nat) (before read : Octets) : Prop where
  below : before.length < limit
  nonempty : read ≠ []
  fits : (before ++ read).length ≤ capacityAt before.length

/-- **Every read starts below the limit and ends within the capacity.** -/
theorem readsTaken_fit {s : Sniffer} (h : Bounded limit s) {arrivals : List Arrival}
    (hadmits : admitsAll decompress limit (.waiting s) arrivals = true) {before : List Octets}
    {read : Octets}
    (hread : before ++ [read] <+: readsTaken decompress limit (.waiting s) arrivals) :
    ReadFits limit (s.buffer ++ before.flatten) read := by
  -- along the arrivals; the bounds of the sniffer carry the induction
  induction arrivals generalizing s before with
  | nil => simp [readsTaken] at hread
  | cons arrival arrivals ih =>
      cases arrival with
      | octets octets =>
          rw [readsTaken] at hread
          simp only [admitsAll, admits, Bool.and_eq_true, decide_eq_true_eq] at hadmits
          obtain ⟨⟨hsome, hroom⟩, hrest⟩ := hadmits
          cases before with
          | nil =>
              obtain ⟨rfl, -⟩ := List.cons_prefix_cons.mp hread
              refine ⟨by simpa using h.below, List.ne_nil_of_length_pos hsome, ?_⟩
              have hcapacity := h.capacity
              have hleast := add_le_capacityAt s.buffer.length
              unfold Sniffer.room at hroom
              simp only [List.flatten_nil, List.append_nil, List.length_append]
              omega
          | cons first before =>
              obtain ⟨rfl, hbehind⟩ := List.cons_prefix_cons.mp hread
              cases hnext : take decompress limit (.waiting s) (.octets first) with
              | waiting next =>
                  rw [hnext] at hbehind hrest
                  obtain ⟨hbounded, hbuffer⟩ := take_bounded h hroom hnext
                  have := ih hbounded hrest hbehind
                  rwa [hbuffer, List.append_assoc, ← List.flatten_cons] at this
              | routed protocol replay sent =>
                  rw [hnext] at hbehind
                  simp [readsTaken] at hbehind
              | failed reason =>
                  rw [hnext] at hbehind
                  simp [readsTaken] at hbehind
      | ended => simp [readsTaken] at hread
      | broken => simp [readsTaken] at hread
      | late => simp [readsTaken] at hread

/-- The reads of a new connection. -/
theorem reads_fit {isWritable : Bool} {arrivals : List Arrival}
    (hadmits : admitsAll decompress limit (start decompress limit isWritable) arrivals = true)
    {before : List Octets} {read : Octets}
    (hread : before ++ [read] <+:
      readsTaken decompress limit (start decompress limit isWritable) arrivals) :
    ReadFits limit before.flatten read := by
  cases hstart : start decompress limit isWritable with
  | waiting s =>
      rw [hstart] at hadmits hread
      obtain ⟨hbounded, hbuffer⟩ := start_bounded hstart
      have hfits := readsTaken_fit hbounded hadmits hread
      rwa [hbuffer, List.nil_append] at hfits
  | routed protocol replay sent =>
      rw [hstart] at hread
      simp [readsTaken] at hread
  | failed reason =>
      rw [hstart] at hread
      simp [readsTaken] at hread

/-! ## A connection that fills the buffer -/

/-- The beginning of a request line with a long target. -/
def longLine (targetLength : Nat) : Octets :=
  Octets.ascii "A /" ++ List.replicate targetLength 0x61

theorem longLine_cons (n : Nat) :
    longLine n = 0x41 :: 0x20 :: 0x2F :: List.replicate n 0x61 := rfl

theorem length_longLine (n : Nat) : (longLine n).length = n + 3 := by
  simp [longLine_cons]

theorem disagrees_longLine (n : Nat) : Preface.Disagrees (longLine n) := by
  have hfirst : Preface.octets = 0x50 :: Preface.octets.tail := by decide
  rw [Preface.Disagrees, longLine_cons, hfirst]
  simp [List.cons_prefix_cons]

/-- Such a beginning can still become a request line. -/
theorem classifyWith_longLine (n : Nat) : classifyWith decompress (longLine n) = .needMore := by
  have hknown : RequestLine.startsWithKnownMethod (longLine n) = false := by
    rw [longLine_cons]
    rfl
  have hline : RequestLine.lineFeed ∉ longLine n := by
    simp [longLine_cons, RequestLine.lineFeed, List.mem_replicate]
  have hmay : RequestLine.mayBecomeRequestLine (longLine n) = true := by
    rw [RequestLine.mayBecomeRequestLine_iff]
    exact ⟨[0x41], ⟨by decide, by decide⟩, Or.inr ⟨0x2F :: List.replicate n 0x61, rfl⟩⟩
  rw [classifyWith_of_disagrees (disagrees_longLine n), RequestLine.classify, if_neg (by simp [hknown]),
    if_neg (by simpa using hline), if_pos hmay]

/-- The end of a request line, with anything behind it. -/
def lineEnd : Octets := Octets.ascii " HTTP/1.1\r\n"

theorem length_lineEnd : lineEnd.length = 11 := rfl

/-- With its end, the line is a request. -/
theorem classifyWith_wholeLine (n : Nat) (rest : Octets) :
    classifyWith decompress (longLine n ++ lineEnd ++ rest) = .matched .http := by
  refine ((http_iff_request decompress _).1).mpr (Or.inr ?_)
  refine ⟨[0x41], 0x2F :: List.replicate n 0x61, Octets.ascii "HTTP/1.1",
    [RequestLine.carriageReturn, RequestLine.lineFeed], rest, ?_, Or.inr rfl, ?_⟩
  · refine ⟨by decide, List.forall_mem_singleton.mpr (by decide), by simp, ?_, Or.inr rfl⟩
    intro b hb
    rcases List.mem_cons.mp hb with rfl | hb
    · decide
    · rw [(List.mem_replicate.mp hb).2]
      decide
  · have hparts : lineEnd = [RequestLine.space] ++ Octets.ascii "HTTP/1.1" ++
        [RequestLine.carriageReturn, RequestLine.lineFeed] := by decide
    simp [hparts, longLine_cons, RequestLine.space]

theorem admitsAll_append (s : Sniffing) (arrivals more : List Arrival) :
    admitsAll decompress limit s (arrivals ++ more) =
      (admitsAll decompress limit s arrivals &&
        admitsAll decompress limit (arrivals.foldl (take decompress limit) s) more) := by
  induction arrivals generalizing s with
  | nil => simp [admitsAll]
  | cons arrival arrivals ih => simp [admitsAll, ih, Bool.and_assoc]

/-- What decides later is decided already, or still open. -/
theorem classifyWith_front_of_matched {front rest : Octets} {protocol : Protocol}
    (h : classifyWith decompress (front ++ rest) = .matched protocol) :
    classifyWith decompress front = .matched protocol ∨ classifyWith decompress front = .needMore := by
  cases hfront : classifyWith decompress front with
  | needMore => exact Or.inr rfl
  | matched other =>
      rw [classifyWith_matched_append hfront, Verdict.matched.injEq] at h
      rw [h]
      exact Or.inl rfl
  | reject reason =>
      obtain ⟨other, hother⟩ := classifyWith_reject_append hfront rest
      rw [hother] at h
      cases h

/-- As long as nothing is decided, the beginning is not either. -/
theorem classifyWith_needMore_of_prefix {octets whole : Octets} (hfront : octets <+: whole)
    (h : classifyWith decompress whole = .needMore) :
    classifyWith decompress octets = .needMore := by
  obtain ⟨extra, rfl⟩ := hfront
  cases hverdict : classifyWith decompress octets with
  | needMore => rfl
  | matched protocol => rw [classifyWith_matched_append hverdict] at h; cases h
  | reject reason =>
      obtain ⟨other, hother⟩ := classifyWith_reject_append hverdict extra
      rw [hother] at h
      cases h

/-- The connection that sends octets one by one. -/
def oneByOne (octets : Octets) : List Arrival :=
  octets.map fun b => .octets [b]

/-- A sniffer that waits and has sent nothing. -/
def waitingWith (isWritable : Bool) (octets : Octets) : Sniffer :=
  { buffer := octets, capacity := capacityAt octets.length, isWritable }

/-- **A long line that arrives octet by octet** is waited for below the limit. -/
theorem run_oneByOne {isWritable : Bool} {n : Nat} {octets : Octets} (hfront : octets <+: longLine n)
    (hbelow : octets.length < limit) :
    run decompress limit isWritable (oneByOne octets) = .waiting (waitingWith isWritable octets) ∧
      admitsAll decompress limit (start decompress limit isWritable) (oneByOne octets) = true := by
  -- the limit lets each octet in because those before it were fewer still
  induction octets using List.reverseRecOn with
  | nil =>
      have hasks : Sniffer.needsSettings { isWritable } = false := rfl
      have hnot : ¬ limit ≤ 0 := Nat.not_le.mpr hbelow
      refine ⟨?_, rfl⟩
      show start decompress limit isWritable = _
      simp only [start, Sniffer.settle, classifyWith_nil, hasks, Sniffer.askForMore, List.length_nil,
        if_neg hnot, Bool.false_eq_true, if_false]
      rw [grown_eq 0 capacityAt_zero.symm (Nat.le_refl _) (Nat.zero_le _)]
      rfl
  | append_singleton octets b ih =>
      rw [List.length_append, List.length_singleton] at hbelow
      obtain ⟨hrun, hadmits⟩ := ih ((List.prefix_append _ _).trans hfront) (by omega)
      have hsteps : oneByOne (octets ++ [b]) = oneByOne octets ++ [.octets [b]] := by
        simp [oneByOne]
      have hleast := add_le_capacityAt octets.length
      have hneeds : classifyWith decompress (octets ++ [b]) = .needMore :=
        classifyWith_needMore_of_prefix hfront (classifyWith_longLine n)
      have hother : Preface.octets.isPrefixOf (octets ++ [b]) = false := by
        rw [Bool.eq_false_iff, ne_eq, List.isPrefixOf_iff_prefix]
        exact fun hstart => (disagrees_longLine n).2 (hstart.trans hfront)
      have hnot : ¬ limit ≤ (octets ++ [b]).length := by simpa using hbelow
      constructor
      · rw [hsteps, run, List.foldl_append, ← run, hrun]
        show Sniffer.settle decompress limit
          { waitingWith isWritable octets with buffer := octets ++ [b] } = _
        simp only [Sniffer.settle, waitingWith, hneeds, Sniffer.needsSettings, hother, Bool.and_false,
          Bool.false_eq_true, if_false, Sniffer.askForMore, if_neg hnot]
        rw [grown_eq octets.length rfl (by simp) (by simp; omega)]
      · rw [hsteps, admitsAll_append, hadmits, ← run, hrun]
        have hroom : 1 ≤ (waitingWith isWritable octets).room := by
          show 1 ≤ capacityAt octets.length - octets.length
          omega
        simpa [admitsAll, admits] using hroom

/-- **A long line whose end comes with the last read** is routed with it. -/
theorem run_lineEnding {isWritable : Bool} {n : Nat} {front last : Octets}
    (hfront : front <+: longLine n) (hbelow : front.length < limit) (hsome : 0 < last.length)
    (hroom : last.length ≤ capacityAt front.length - front.length)
    (hmatched : classifyWith decompress (front ++ last) = .matched .http) :
    run decompress limit isWritable (oneByOne front ++ [.octets last]) =
        .routed .http (front ++ last) [] ∧
      admitsAll decompress limit (start decompress limit isWritable)
        (oneByOne front ++ [.octets last]) = true := by
  obtain ⟨hrun, hadmits⟩ := @run_oneByOne decompress limit isWritable n front hfront hbelow
  constructor
  · rw [run, List.foldl_append, ← run, hrun]
    show Sniffer.settle decompress limit
      { waitingWith isWritable front with buffer := front ++ last } = _
    simp only [Sniffer.settle, waitingWith, hmatched, Sniffer.finish, Bool.false_eq_true, if_false]
  · rw [admitsAll_append, hadmits, ← run, hrun]
    have hfits : last.length ≤ (waitingWith isWritable front).room := hroom
    simp [admitsAll, admits, hsome, hfits]

/-- What arrives last: the end of the line, and as much behind it as the buffer has room for. -/
def lastRead (limit : Nat) : Octets :=
  0x61 :: lineEnd ++ List.replicate (capacityAt (limit - 1) - (limit + 11)) 0x61

/-- A connection that fills the largest buffer: all but the last octet in front of the limit arrive one
by one, and all that there is room for then at once. -/
def fillingReads (limit : Nat) : List Arrival :=
  oneByOne (longLine (limit - 4)) ++ [.octets (lastRead limit)]

/-- What such a connection has sent in the end. -/
def filling (limit : Nat) : Octets :=
  longLine (limit - 4) ++ lastRead limit

theorem length_lastRead (hlimit : 4 ≤ limit) :
    (lastRead limit).length = capacityAt (limit - 1) - (limit - 1) := by
  have hleast := add_le_capacityAt (limit - 1)
  simp [lastRead, length_lineEnd]
  omega

theorem length_filling (hlimit : 4 ≤ limit) : (filling limit).length = capacityAt (limit - 1) := by
  have hleast := add_le_capacityAt (limit - 1)
  rw [filling, List.length_append, length_longLine, length_lastRead hlimit]
  omega

/-- Its line reaches beyond the limit. -/
theorem filling_eq (hlimit : 4 ≤ limit) :
    filling limit = longLine (limit - 3) ++ lineEnd ++
      List.replicate (capacityAt (limit - 1) - (limit + 11)) 0x61 := by
  have hmore : limit - 3 = limit - 4 + 1 := by omega
  rw [filling, hmore, longLine, longLine, List.replicate_succ']
  simp [lastRead]

theorem take_filling (hlimit : 4 ≤ limit) : (filling limit).take limit = longLine (limit - 3) := by
  have hlength := length_longLine (limit - 3)
  rw [filling_eq hlimit, List.append_assoc, List.take_append_of_le_length (by omega),
    List.take_of_length_le (by omega)]

/-- **Such a connection is routed** by what stands behind the limit. -/
theorem run_fillingReads (isWritable : Bool) (hlimit : 4 ≤ limit) :
    run decompress limit isWritable (fillingReads limit) = .routed .http (filling limit) [] ∧
      admitsAll decompress limit (start decompress limit isWritable) (fillingReads limit) = true := by
  have hleast := add_le_capacityAt (limit - 1)
  have hline := length_longLine (limit - 4)
  have hlast := length_lastRead hlimit
  have hfront : limit - 4 + 3 = limit - 1 := by omega
  have hmatched : classifyWith decompress (filling limit) = .matched .http := by
    rw [filling_eq hlimit]
    exact classifyWith_wholeLine _ _
  refine run_lineEnding (List.prefix_refl _) (by omega) (by omega) ?_ hmatched
  rw [hlast, hline, hfront]

/-- A connection that was sent nothing is routed with everything that was read. -/
theorem flatten_readsTaken_of_routed {isWritable : Bool} {arrivals : List Arrival}
    {protocol : Protocol} {replay : Octets}
    (h : run decompress limit isWritable arrivals = .routed protocol replay []) :
    (readsTaken decompress limit (start decompress limit isWritable) arrivals).flatten = replay := by
  rcases (run_handedOn h).replay with ⟨-, hsent, -⟩ | ⟨-, -, hreplay⟩
  · exact absurd hsent (by decide)
  · exact hreplay.symm

end Sniffing

open Sniffer Sniffing in
/-- **How far the limit bounds what is buffered.**  Whenever a read starts, less than the limit is
buffered, and the read brings something and stays within the capacity that the buffer has then.  So all
that is ever buffered is bounded by the capacity for one octet less than the limit, which lies beyond
the limit; and a connection that is routed is so by its octets in front of the limit, or else these do
not decide and its last read alone went beyond the limit.  This is all that the limit does: from a limit
of 4 on there is a connection that fills that capacity and is routed although its octets in front of the
limit do not decide. -/
theorem sniffing_buffer_bound (decompress : Preface.Decompress) (limit : Nat) (isWritable : Bool) :
    (∀ arrivals, admitsAll decompress limit (start decompress limit isWritable) arrivals = true →
      let reads := readsTaken decompress limit (start decompress limit isWritable) arrivals
      (∀ before read, before ++ [read] <+: reads → ReadFits limit before.flatten read) ∧
      reads.flatten.length ≤ capacityAt (limit - 1) ∧
      ∀ protocol replay sent,
        run decompress limit isWritable arrivals = .routed protocol replay sent →
        classifyWith decompress (reads.flatten.take limit) = .matched protocol ∨
          classifyWith decompress (reads.flatten.take limit) = .needMore ∧
            limit < reads.flatten.length) ∧
    limit < capacityAt (limit - 1) ∧
    (4 ≤ limit → ∃ arrivals replay,
      admitsAll decompress limit (start decompress limit isWritable) arrivals = true ∧
      run decompress limit isWritable arrivals = .routed .http replay [] ∧
      (readsTaken decompress limit (start decompress limit isWritable) arrivals).flatten = replay ∧
      replay.length = capacityAt (limit - 1) ∧
      classifyWith decompress (replay.take limit) = .needMore) := by
  refine ⟨?_, ?_, ?_⟩
  · intro arrivals hadmits reads
    have hfit : ∀ before read, before ++ [read] <+: reads → ReadFits limit before.flatten read :=
      fun before read => reads_fit hadmits
    refine ⟨hfit, ?_, ?_⟩
    · rcases List.eq_nil_or_concat' reads with hnone | ⟨before, last, hlast⟩
      · simp [hnone]
      · obtain ⟨hbelow, -, hcapacity⟩ := hfit before last (hlast ▸ List.prefix_refl _)
        rw [hlast, List.flatten_append, List.flatten_singleton]
        exact hcapacity.trans (capacityAt_mono (by omega))
    · intro protocol replay sent hrouted
      have hdecided : classifyWith decompress reads.flatten = .matched protocol :=
        (run_handedOn hrouted).protocol
      rcases Nat.lt_or_ge limit reads.flatten.length with hbeyond | hwithin
      · rw [← List.take_append_drop limit reads.flatten] at hdecided
        exact (classifyWith_front_of_matched hdecided).imp_right fun hneeds => ⟨hneeds, hbeyond⟩
      · rw [List.take_of_length_le hwithin]
        exact Or.inl hdecided
  · have hleast := add_le_capacityAt (limit - 1)
    omega
  · intro hlimit
    obtain ⟨hrun, hadmits⟩ := @run_fillingReads decompress limit isWritable hlimit
    refine ⟨_, _, hadmits, hrun, flatten_readsTaken_of_routed hrun, length_filling hlimit, ?_⟩
    rw [take_filling hlimit, classifyWith_longLine]

/-- A request line of 114 octets. -/
def overlongRequest : Octets := Sniffing.longLine 100 ++ Sniffing.lineEnd

theorem length_overlongRequest : overlongRequest.length = 114 := by
  rw [overlongRequest, List.length_append, Sniffing.length_longLine, Sniffing.length_lineEnd]

open Sniffer Sniffing in
/-- With a limit of 64, one read brings the whole of it. -/
theorem overlongRequest_routed :
    admitsAll HeaderBlock.decode? 64 (start HeaderBlock.decode? 64 true)
      [.octets overlongRequest] = true ∧
    run HeaderBlock.decode? 64 true [.octets overlongRequest] =
      .routed .http overlongRequest [] := by
  have hlength := length_overlongRequest
  have hmatched : classifyWith HeaderBlock.decode? overlongRequest = .matched .http := by
    rw [overlongRequest, ← List.append_nil (_ ++ _)]
    exact classifyWith_wholeLine 100 []
  have hroom : overlongRequest.length ≤ capacityAt 0 - 0 := by
    rw [capacityAt_zero]
    omega
  exact (@run_lineEnding HeaderBlock.decode? 64 true 0 [] overlongRequest List.nil_prefix
    (by decide) (by omega) hroom hmatched).symm

open Sniffing in
/-- Its octets in front of the limit do not decide. -/
theorem overlongRequest_open :
    classifyWith HeaderBlock.decode? (overlongRequest.take 64) = .needMore := by
  have hfront : overlongRequest.take 64 <+: longLine 100 := by
    have hline := length_longLine 100
    rw [overlongRequest, List.take_append_of_le_length (by omega)]
    exact List.take_prefix _ _
  exact classifyWith_needMore_of_prefix hfront (classifyWith_longLine 100)

open Sniffer Sniffing in
/-- It is buffered beyond the limit, though within 2048 octets, and its octets in front of the limit
do not decide. -/
theorem sniffing_buffer_bound_overlong :
    admitsAll HeaderBlock.decode? 64 (start HeaderBlock.decode? 64 true)
      [.octets overlongRequest] = true ∧
    run HeaderBlock.decode? 64 true [.octets overlongRequest] = .routed .http overlongRequest [] ∧
    overlongRequest.length ≤ 2048 ∧
    classifyWith HeaderBlock.decode? (overlongRequest.take 64) = .needMore ∧
    64 < overlongRequest.length := by
  obtain ⟨hadmits, hrun⟩ := overlongRequest_routed
  obtain ⟨hreads, -, -⟩ := sniffing_buffer_bound HeaderBlock.decode? 64 true
  obtain ⟨-, hbound, hdecides⟩ := hreads _ hadmits
  have hcapacity : capacityAt (64 - 1) = 2048 := capacityAt_eq (k := 1) (by decide) (by decide)
  rw [hcapacity, flatten_readsTaken_of_routed hrun] at hbound
  have hfront := hdecides _ _ _ hrun
  rw [flatten_readsTaken_of_routed hrun] at hfront
  obtain ⟨hneeds, hbeyond⟩ := hfront.resolve_left (by simp [overlongRequest_open])
  exact ⟨hadmits, hrun, hbound, hneeds, hbeyond⟩

open Sniffing in
/-- **The limit does not bound what is buffered**, and does not keep octets behind it from deciding: it
is not so for a limit of 64 and one read of a long request line. -/
theorem limit_passed_by_one_read :
    (¬ ∀ (limit : Nat) (arrivals : List Arrival), 64 ≤ limit →
      admitsAll HeaderBlock.decode? limit (start HeaderBlock.decode? limit true) arrivals = true →
      (readsTaken HeaderBlock.decode? limit (start HeaderBlock.decode? limit true)
        arrivals).flatten.length ≤ limit) ∧
    ¬ ∀ (limit : Nat) (arrivals : List Arrival), 64 ≤ limit →
      admitsAll HeaderBlock.decode? limit (start HeaderBlock.decode? limit true) arrivals = true →
      ∀ protocol replay sent,
        run HeaderBlock.decode? limit true arrivals = .routed protocol replay sent →
        classifyWith HeaderBlock.decode?
          ((readsTaken HeaderBlock.decode? limit (start HeaderBlock.decode? limit true)
            arrivals).flatten.take limit) = .matched protocol := by
  obtain ⟨hadmits, hrun⟩ := overlongRequest_routed
  have hreads := flatten_readsTaken_of_routed hrun
  constructor
  · intro hbounds
    have hlength := hbounds 64 _ (Nat.le_refl _) hadmits
    rw [hreads, length_overlongRequest] at hlength
    exact absurd hlength (by decide)
  · intro hdecides
    have hmatched := hdecides 64 _ (Nat.le_refl _) hadmits _ _ _ hrun
    rw [hreads, overlongRequest_open] at hmatched
    cases hmatched

end ServiceHost
