import Mathlib.Data.List.Forall2
import ServiceHost.Connections.ReplayedStream

/-!
# Reading a routed connection

Whatever room the reads have and however the octets arrive, what they bring together with what is
left is the replay and what waits behind it (`reads_conserve`).  No read brings more than it has
room for, and as long as something is left every read with room brings something, so with as many
reads as there are octets all of them are read (`reads_complete`).
-/

namespace ServiceHost.ReplayedStream

/-- One read loses, repeats and reorders nothing. -/
theorem read_conserve (request : Request) (stream : ReplayedStream) :
    (stream.read request).1 ++ (stream.read request).2.rest = stream.rest := by
  unfold read
  split
  · rename_i hreplay
    have hnil : stream.replay = [] := by simpa using hreplay
    simp [rest, hnil]
  · simp only [rest]
    rw [← List.append_assoc, List.take_append_drop]

theorem length_read_le (request : Request) (stream : ReplayedStream) :
    (stream.read request).1.length ≤ request.size := by
  unfold read
  split
  · simp only [List.length_take]
    omega
  · simp only [List.length_take]
    omega

/-- A read with room brings something while there is something. -/
theorem read_ne_nil {request : Request} {stream : ReplayedStream} (hsize : 0 < request.size)
    (hready : 0 < request.ready) (hrest : stream.rest ≠ []) : (stream.read request).1 ≠ [] := by
  unfold read
  split
  · rename_i hreplay
    have hnil : stream.replay = [] := by simpa using hreplay
    have hsocket : stream.socket ≠ [] := by simpa [rest, hnil] using hrest
    have hlength := List.length_pos_iff.mpr hsocket
    rw [← List.length_pos_iff, List.length_take]
    omega
  · rename_i hreplay
    have hne : stream.replay ≠ [] := by simpa using hreplay
    have hlength := List.length_pos_iff.mpr hne
    rw [← List.length_pos_iff, List.length_take]
    omega

/-- **Reading again loses, repeats and reorders nothing.** -/
theorem reads_conserve (requests : List Request) (stream : ReplayedStream) :
    (stream.reads requests).1.flatten ++ (stream.reads requests).2.rest = stream.rest := by
  induction requests generalizing stream with
  | nil => rfl
  | cons request requests ih =>
      simp only [reads, List.flatten_cons, List.append_assoc]
      rw [ih, read_conserve]

/-- No read brings more than it has room for. -/
theorem reads_fit (requests : List Request) (stream : ReplayedStream) :
    List.Forall₂ (fun octets request => octets.length ≤ request.size)
      (stream.reads requests).1 requests := by
  induction requests generalizing stream with
  | nil => exact List.Forall₂.nil
  | cons request requests ih => exact List.Forall₂.cons (length_read_le _ _) (ih _)

/-- **Enough reads read everything.** -/
theorem reads_complete {requests : List Request} {stream : ReplayedStream}
    (hroom : ∀ request ∈ requests, 0 < request.size ∧ 0 < request.ready)
    (hcount : stream.rest.length ≤ requests.length) :
    (stream.reads requests).1.flatten = stream.rest := by
  induction requests generalizing stream with
  | nil =>
      have hnil : stream.rest = [] := by simpa using hcount
      simp [reads, hnil]
  | cons request requests ih =>
      obtain ⟨hsize, hready⟩ := hroom request List.mem_cons_self
      have hconserve := read_conserve request stream
      have hlength : (stream.read request).2.rest.length ≤ requests.length := by
        by_cases hrest : stream.rest = []
        · have hnil : (stream.read request).2.rest = [] := by
            rw [hrest] at hconserve
            exact (List.append_eq_nil_iff.mp hconserve).2
          simp [hnil]
        · have hbrought := List.length_pos_iff.mpr (read_ne_nil hsize hready hrest)
          have htotal := congrArg List.length hconserve
          simp only [List.length_append, List.length_cons] at htotal hcount
          omega
      simp only [reads, List.flatten_cons]
      rw [ih (fun other hmem => hroom other (List.mem_cons_of_mem _ hmem)) hlength, hconserve]

end ServiceHost.ReplayedStream
