import ServiceHost.Connections.Sniffing
import ServiceHost.Proofs.Connections.Replay
import ServiceHost.Proofs.Opening.Finality
import ServiceHost.Proofs.Opening.SettingsAck

/-!
# What sniffing does to a connection

While sniffing waits, its buffer is what has arrived, and the settings of the server went out
exactly if the client waited for them at the end of some read (`Tracks`).  Every read keeps this
(`settle_sound`), so it holds after any number of reads (`run_handedOn`).  A connection that is
handed on is replayed as it arrived, without the acknowledgement of those settings and without that
alone, and reading it again loses nothing (`routed_connection_is_replayed`).
-/

namespace ServiceHost

namespace Sniffing

/-- Whether the client stood waiting behind its whole preface at the end of one of its writes. -/
def ClientWaited (decompress : Preface.Decompress) (reads : List Octets) : Prop :=
  ∃ seen, seen <+: reads ∧ Preface.octets <+: seen.flatten ∧
    classifyWith decompress seen.flatten = .needMore

/-- What a waiting sniffer knows about the reads so far. -/
structure Tracks (decompress : Preface.Decompress) (reads : List Octets) (s : Sniffer) : Prop where
  buffer : s.buffer = reads.flatten
  settings : s.settingsSent = true ↔ ClientWaited decompress reads
  sent : s.sent = if s.settingsSent then Preface.serverSettings else []
  protocol : ∀ protocol, s.protocol = some protocol →
    classifyWith decompress reads.flatten = .matched protocol

/-- A connection handed on after these reads: its protocol is the one of everything that arrived,
and it is replayed as it is, unless the client waited for the settings of the server.  Then their
acknowledgement is taken out. -/
structure HandedOn (decompress : Preface.Decompress) (reads : List Octets) (protocol : Protocol)
    (replay sent : Octets) : Prop where
  protocol : classifyWith decompress reads.flatten = .matched protocol
  replay : (ClientWaited decompress reads ∧ sent = Preface.serverSettings ∧
      Preface.AckRemoved reads.flatten replay) ∨
    (¬ ClientWaited decompress reads ∧ sent = [] ∧ replay = reads.flatten)

variable {decompress : Preface.Decompress} {limit : Nat}

theorem clientWaited_concat (reads : List Octets) (octets : Octets) :
    ClientWaited decompress (reads ++ [octets]) ↔ ClientWaited decompress reads ∨
      (Preface.octets <+: (reads ++ [octets]).flatten ∧
        classifyWith decompress (reads ++ [octets]).flatten = .needMore) := by
  constructor
  · rintro ⟨seen, hseen, hpreface, hneeds⟩
    rcases List.prefix_concat_iff.mp hseen with rfl | hearlier
    · exact Or.inr ⟨hpreface, hneeds⟩
    · exact Or.inl ⟨seen, hearlier, hpreface, hneeds⟩
  · rintro (⟨seen, hseen, hwaits⟩ | hwaits)
    · exact ⟨seen, hseen.trans (List.prefix_append _ _), hwaits⟩
    · exact ⟨_, List.prefix_refl _, hwaits⟩

/-- What holds of sniffing at the end of these reads. -/
def Sound (decompress : Preface.Decompress) (reads : List Octets) : Sniffing → Prop
  | .waiting s => Tracks decompress reads s
  | .routed protocol replay sent => HandedOn decompress reads protocol replay sent
  | .failed _ => True

/-- More room changes nothing that is known. -/
theorem askForMore_sound {reads : List Octets} {s : Sniffer} (h : Tracks decompress reads s) :
    Sound decompress reads (s.askForMore limit) := by
  unfold Sniffer.askForMore
  split
  · trivial
  · show Tracks decompress reads s.grown
    unfold Sniffer.grown
    split
    · exact ⟨h.buffer, h.settings, h.sent, h.protocol⟩
    · exact h

/-- Handing on takes the acknowledgement out exactly if the client waited. -/
theorem finish_sound {reads : List Octets} {s : Sniffer} (h : Tracks decompress reads s)
    {protocol : Protocol} (hprotocol : classifyWith decompress reads.flatten = .matched protocol) :
    Sound decompress reads (s.finish limit protocol) := by
  unfold Sniffer.finish
  split
  · rename_i hsettings
    have hsent : s.sent = Preface.serverSettings := by rw [h.sent, if_pos hsettings]
    split
    · rename_i replay hreplay
      rw [Preface.withoutSettingsAck?_eq_some_iff, h.buffer] at hreplay
      exact ⟨hprotocol, Or.inl ⟨h.settings.mp hsettings, hsent, hreplay⟩⟩
    · refine askForMore_sound ⟨h.buffer, h.settings, h.sent, ?_⟩
      rintro other ⟨⟩
      exact hprotocol
  · rename_i hsettings
    have hwaited : ¬ ClientWaited decompress reads := fun hwaited =>
      hsettings (h.settings.mpr hwaited)
    have hsent : s.sent = [] := by rw [h.sent, if_neg hsettings]
    exact ⟨hprotocol, Or.inr ⟨hwaited, hsent, h.buffer⟩⟩

/-- Behind a recognised opening the client does not wait. -/
theorem clientWaited_concat_of_matched {reads : List Octets} {octets : Octets} {protocol : Protocol}
    (h : classifyWith decompress (reads ++ [octets]).flatten = .matched protocol) :
    ClientWaited decompress (reads ++ [octets]) ↔ ClientWaited decompress reads := by
  rw [clientWaited_concat, h]
  simp

/-- **One read keeps what is known.**  The sniffer has the octets of the read in its buffer, and
knows of the reads before whether the client waited. -/
theorem settle_sound {reads : List Octets} {octets : Octets} {s : Sniffer}
    (hbuffer : s.buffer = (reads ++ [octets]).flatten)
    (hsettings : s.settingsSent = true ↔ ClientWaited decompress reads)
    (hsent : s.sent = if s.settingsSent then Preface.serverSettings else [])
    (hprotocol : ∀ protocol, s.protocol = some protocol →
      classifyWith decompress (reads ++ [octets]).flatten = .matched protocol) :
    Sound decompress (reads ++ [octets]) (s.settle decompress limit) := by
  have htracks : (ClientWaited decompress (reads ++ [octets]) ↔ ClientWaited decompress reads) →
      Tracks decompress (reads ++ [octets]) s :=
    fun hwaited => ⟨hbuffer, hsettings.trans hwaited.symm, hsent, hprotocol⟩
  unfold Sniffer.settle
  split
  · -- only the acknowledgement is missing
    rename_i protocol hknown
    have hmatched := hprotocol protocol hknown
    exact finish_sound (htracks (clientWaited_concat_of_matched hmatched)) hmatched
  · rename_i hunknown
    rw [hbuffer]
    split
    · rename_i protocol hmatched
      exact finish_sound (htracks (clientWaited_concat_of_matched hmatched)) hmatched
    · trivial
    · rename_i hneeds
      rw [Sniffer.needsSettings, hbuffer]
      by_cases hstart : Preface.octets <+: (reads ++ [octets]).flatten
      · have hwaits : ClientWaited decompress (reads ++ [octets]) :=
          ⟨_, List.prefix_refl _, hstart, hneeds⟩
        cases hknows : s.settingsSent with
        | true =>
            rw [if_neg (by simp)]
            have hbefore := hsettings.mp hknows
            exact askForMore_sound (htracks ⟨fun _ => hbefore, fun _ => hwaits⟩)
        | false =>
            rw [if_pos (by simpa using hstart)]
            split
            · have hnothing : s.sent = [] := by simpa [hknows] using hsent
              refine askForMore_sound ⟨hbuffer, ⟨fun _ => hwaits, fun _ => rfl⟩, ?_, hprotocol⟩
              simp [Sniffer.sendSettings, hnothing]
            · trivial
      · have hother : Preface.octets.isPrefixOf (reads ++ [octets]).flatten = false := by
          rw [Bool.eq_false_iff]
          exact fun htrue => hstart (List.isPrefixOf_iff_prefix.mp htrue)
        rw [hother, Bool.and_false, if_neg (by decide)]
        refine askForMore_sound (htracks ?_)
        rw [clientWaited_concat]
        exact ⟨fun hwaits => hwaits.resolve_right fun hnow => hstart hnow.1, Or.inl⟩

/-- Nothing has arrived on a new connection, and nothing was sent. -/
theorem start_sound (isWritable : Bool) :
    Sound decompress [] (start decompress limit isWritable) := by
  have hpreface : Preface.octets ≠ [] := by decide
  have hstart : Tracks decompress [] { isWritable } := by
    refine ⟨rfl, ⟨by simp, ?_⟩, rfl, by simp⟩
    rintro ⟨seen, hseen, hwaits, -⟩
    obtain rfl := List.prefix_nil.mp hseen
    exact (hpreface (List.prefix_nil.mp hwaits)).elim
  have hasks : Sniffer.needsSettings { isWritable } = false := rfl
  simp only [start, Sniffer.settle, classifyWith_nil, hasks]
  exact askForMore_sound hstart

/-- One read of a waiting sniffer. -/
theorem take_sound {reads : List Octets} {s : Sniffer} (h : Tracks decompress reads s)
    (octets : Octets) :
    Sound decompress (reads ++ [octets]) (take decompress limit (.waiting s) (.octets octets)) := by
  have hprotocol : ∀ protocol, s.protocol = some protocol →
      classifyWith decompress (reads ++ [octets]).flatten = .matched protocol := by
    intro protocol hknown
    simpa using classifyWith_matched_append (h.protocol protocol hknown) octets
  exact settle_sound (by simp [h.buffer]) h.settings h.sent hprotocol

/-- The reads that sniffing takes from a list of arrivals: none behind its end. -/
def readsTaken (decompress : Preface.Decompress) (limit : Nat) :
    Sniffing → List Arrival → List Octets
  | .waiting s, .octets octets :: arrivals =>
    octets :: readsTaken decompress limit
      (take decompress limit (.waiting s) (.octets octets)) arrivals
  | _, _ => []

/-- A connection that was handed on is left alone. -/
theorem foldl_take_routed (protocol : Protocol) (replay sent : Octets) (arrivals : List Arrival) :
    arrivals.foldl (take decompress limit) (.routed protocol replay sent) =
      .routed protocol replay sent := by
  induction arrivals with
  | nil => rfl
  | cons arrival arrivals ih => simpa [take] using ih

/-- A connection that was closed stays closed. -/
theorem foldl_take_failed (reason : SniffFailure) (arrivals : List Arrival) :
    arrivals.foldl (take decompress limit) (.failed reason) = .failed reason := by
  induction arrivals with
  | nil => rfl
  | cons arrival arrivals ih => simpa [take] using ih

/-- **What is known when a connection is handed on**, from any point where sniffing waits. -/
theorem foldl_handedOn {reads : List Octets} {s : Sniffer} (h : Tracks decompress reads s)
    {arrivals : List Arrival} {protocol : Protocol} {replay sent : Octets}
    (hrouted : arrivals.foldl (take decompress limit) (.waiting s) =
      .routed protocol replay sent) :
    HandedOn decompress (reads ++ readsTaken decompress limit (.waiting s) arrivals)
      protocol replay sent := by
  induction arrivals generalizing reads s with
  | nil => simp at hrouted
  | cons arrival arrivals ih =>
      rw [List.foldl_cons] at hrouted
      cases arrival with
      | octets octets =>
          have hsound := @take_sound decompress limit _ _ h octets
          rw [readsTaken]
          cases hnext : take decompress limit (.waiting s) (.octets octets) with
          | waiting next =>
              rw [hnext] at hsound hrouted
              simpa using ih hsound hrouted
          | routed protocol' replay' sent' =>
              rw [hnext] at hsound hrouted
              rw [foldl_take_routed, Sniffing.routed.injEq] at hrouted
              obtain ⟨rfl, rfl, rfl⟩ := hrouted
              have hhanded : HandedOn decompress (reads ++ [octets]) _ _ _ := hsound
              simpa [readsTaken] using hhanded
          | failed reason =>
              rw [hnext, foldl_take_failed] at hrouted
              simp at hrouted
      | ended => simp [take, foldl_take_failed] at hrouted
      | broken => simp [take, foldl_take_failed] at hrouted
      | late => simp [take, foldl_take_failed] at hrouted

/-- What is known when a connection is handed on, from its start. -/
theorem run_handedOn {isWritable : Bool} {arrivals : List Arrival} {protocol : Protocol}
    {replay sent : Octets}
    (h : run decompress limit isWritable arrivals = .routed protocol replay sent) :
    HandedOn decompress (readsTaken decompress limit (start decompress limit isWritable) arrivals)
      protocol replay sent := by
  have hstart := @start_sound decompress limit isWritable
  rw [run] at h
  cases hnew : start decompress limit isWritable with
  | waiting s =>
      rw [hnew] at hstart h
      exact foldl_handedOn hstart h
  | routed protocol' replay' sent' =>
      rw [hnew] at hstart
      simpa using hstart.protocol
  | failed reason =>
      rw [hnew, foldl_take_failed] at h
      simp at h

/-- A client that waits behind its preface does not speak HTTP/1. -/
theorem ClientWaited.ne_http {reads : List Octets} (h : ClientWaited decompress reads) :
    classifyWith decompress reads.flatten ≠ .matched .http := by
  obtain ⟨seen, ⟨later, rfl⟩, ⟨frames, hframes⟩, -⟩ := h
  rw [List.flatten_append, ← hframes, List.append_assoc, classifyWith_of_preface]
  exact Preface.classifyFrames_ne_http _ (by simp)

end Sniffing

open Sniffing in
/-- **A routed connection is replayed.**  When sniffing hands a connection on after some reads, its
protocol is the one of everything that was read.  If the client stood waiting behind its preface at
the end of a read, it was sent the settings of the server once and speaks HTTP/2, and the replay is
what was read without their first acknowledgement, nine octets; else it was sent nothing, and
the replay is what was read.  Reading the connection again, with any room and as it arrives, brings
the replay and then all that is still to come. -/
theorem routed_connection_is_replayed (decompress : Preface.Decompress) (limit : Nat)
    (isWritable : Bool) {arrivals : List Arrival} {protocol : Protocol} {replay sent : Octets}
    (h : run decompress limit isWritable arrivals = .routed protocol replay sent) :
    let reads := readsTaken decompress limit (start decompress limit isWritable) arrivals
    classifyWith decompress reads.flatten = .matched protocol ∧
    (ClientWaited decompress reads →
      sent = Preface.serverSettings ∧ protocol = .rpc ∧
        Preface.AckRemoved reads.flatten replay ∧ reads.flatten.length = replay.length + 9) ∧
    (¬ ClientWaited decompress reads → sent = [] ∧ replay = reads.flatten) ∧
    ∀ (socket : Octets) (requests : List ReplayedStream.Request),
      let again := ReplayedStream.reads ⟨replay, socket⟩ requests
      again.1.flatten ++ again.2.rest = replay ++ socket ∧
      List.Forall₂ (fun octets request => octets.length ≤ request.size) again.1 requests ∧
      ((∀ request ∈ requests, 0 < request.size ∧ 0 < request.ready) →
        (replay ++ socket).length ≤ requests.length → again.1.flatten = replay ++ socket) := by
  intro reads
  obtain ⟨hprotocol, hreplay⟩ := run_handedOn h
  refine ⟨hprotocol, ?_, ?_, ?_⟩
  · intro hwaited
    rcases hreplay with ⟨-, hsent, hremoved⟩ | ⟨hnot, -⟩
    · have hrpc : protocol = .rpc := by
        cases protocol with
        | rpc => rfl
        | http => exact (hwaited.ne_http hprotocol).elim
      exact ⟨hsent, hrpc, hremoved, hremoved.length_eq⟩
    · exact (hnot hwaited).elim
  · intro hnot
    rcases hreplay with ⟨hwaited, -⟩ | ⟨-, hsent, hsame⟩
    · exact (hnot hwaited).elim
    · exact ⟨hsent, hsame⟩
  · intro socket requests
    exact ⟨ReplayedStream.reads_conserve _ _, ReplayedStream.reads_fit _ _,
      fun hroom hcount => ReplayedStream.reads_complete hroom hcount⟩

/-- The opening of a client that waits for the settings of the server. -/
def waitingOpening : Octets :=
  Preface.octets ++ Frame.encode { kind := Frame.settings, flags := 0, stream := 0, payload := [] }

/-- The acknowledgement of these settings. -/
def settingsAck : Frame :=
  { kind := Frame.settings, flags := Frame.ackFlag, stream := 0, payload := [] }

/-- The headers of a call, in one frame. -/
def callOpening : Frame :=
  { kind := Frame.headers, flags := Frame.endHeadersFlag, stream := 1,
    payload := [0x5F, 0x10] ++ Octets.ascii "application/grpc" }

/-- The opening, and behind it an acknowledgement in two parts and a call. -/
def waitingReads : List Octets :=
  [waitingOpening, settingsAck.encode.take 4, settingsAck.encode.drop 4 ++ callOpening.encode]

open Sniffing in
/-- A client that waits, and whose acknowledgement then arrives in two reads. -/
theorem routed_connection_is_replayed_waiting :
    run HeaderBlock.decode? 16384 true (waitingReads.map .octets) =
      .routed .rpc (waitingOpening ++ callOpening.encode) Preface.serverSettings ∧
    ClientWaited HeaderBlock.decode? waitingReads ∧
    Preface.AckRemoved waitingReads.flatten (waitingOpening ++ callOpening.encode) := by
  have hrun : run HeaderBlock.decode? 16384 true (waitingReads.map .octets) =
      .routed .rpc (waitingOpening ++ callOpening.encode) Preface.serverSettings := by
    decide +kernel
  have hreads : readsTaken HeaderBlock.decode? 16384 (start HeaderBlock.decode? 16384 true)
      (waitingReads.map .octets) = waitingReads := by decide +kernel
  have hwaited : ClientWaited HeaderBlock.decode? waitingReads :=
    ⟨[waitingOpening], ⟨_, rfl⟩, by decide, by decide +kernel⟩
  obtain ⟨-, hsettings, -⟩ := routed_connection_is_replayed _ _ _ hrun
  rw [hreads] at hsettings
  obtain ⟨-, -, hremoved, -⟩ := hsettings hwaited
  exact ⟨hrun, hwaited, hremoved⟩

end ServiceHost
