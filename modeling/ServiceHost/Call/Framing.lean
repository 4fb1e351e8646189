import ServiceHost.Call.Status
import ServiceHost.Octets

/-!
# Messages in a body

In the body of a call each message stands behind five octets: a flag, which is zero, and its
length.  `Framing.frame` writes one message, and `Framing.messages` reads the messages of a body
and says what is wrong with it.
-/

namespace ServiceHost.Framing

/-- A message with its flag and length. -/
def frame (message : Octets) : Octets :=
  0 :: (Octets.ofNat 4 message.length ++ message)

/-- What is wrong with a body. -/
inductive Fault where
  /-- It ends within a message or its length. -/
  | cutShort
  /-- The flag says that the message is compressed, and nothing says how. -/
  | compressed
  /-- The flag is neither zero nor one. -/
  | badFlag (flag : UInt8)
  /-- A message is longer than the limit. -/
  | tooLong (length limit : Nat)
  deriving DecidableEq, Repr

/-- A number in decimal. -/
def numberText (n : Nat) : String :=
  String.ofList (natText n)

/-- The status that a fault fails a call with. -/
def Fault.status : Fault → Status
  | .cutShort => { code := .internal, message := "Unexpected EOF decoding stream." }
  | .compressed =>
    { code := .internal
      message := "protocol error: received message with compressed-flag but no grpc-encoding " ++
        "was specified" }
  | .badFlag flag =>
    { code := .internal
      message := "protocol error: received message with invalid compression flag: " ++
        numberText flag.toNat ++ " (valid flags are 0 and 1), while sending request" }
  | .tooLong length limit =>
    { code := .outOfRange
      message := "Error, decoded message length too large: found " ++ numberText length ++
        " bytes, the limit is: " ++ numberText limit ++ " bytes" }

/-- What stands at the front of a body. -/
inductive Front where
  /-- Nothing, or a flag and length with nothing of the message behind it. -/
  | nothing
  | message (message rest : Octets)
  | fault (fault : Fault)
  deriving DecidableEq, Repr

/-- The front of a body. -/
def front (limit : Nat) (body : Octets) : Front :=
  match Octets.splitExactly 5 body with
  | none => if body.isEmpty then .nothing else .fault .cutShort
  | some (header, rest) =>
    let flag := header.headD 0
    let length := Octets.toNat (header.drop 1)
    if flag = 1 then .fault .compressed
    else if flag ≠ 0 then .fault (.badFlag flag)
    else if limit < length then .fault (.tooLong length limit)
    else
      match Octets.splitExactly length rest with
      | some (message, rest) => .message message rest
      | none => if rest.isEmpty then .nothing else .fault .cutShort

theorem length_front {limit : Nat} {body message rest : Octets}
    (h : front limit body = .message message rest) : rest.length < body.length := by
  unfold front at h
  split at h
  · split at h <;> simp at h
  · rename_i header tail hsplit
    have hb := Octets.length_splitExactly hsplit
    simp only at h
    split at h
    · simp at h
    · split at h
      · simp at h
      · split at h
        · simp at h
        · split at h
          · rename_i m r hm
            have hr := Octets.length_splitExactly hm
            simp only [Front.message.injEq] at h
            rw [hb.1, List.length_append, hb.2, hr.1, List.length_append, ← h.2]
            omega
          · split at h <;> simp at h

/-- The messages of a body up to its end or its first fault, and the fault. -/
def messages (limit : Nat) (body : Octets) : List Octets × Option Fault :=
  match _h : front limit body with
  | .nothing => ([], none)
  | .fault fault => ([], some fault)
  | .message message rest =>
    let (more, fault) := messages limit rest
    (message :: more, fault)
termination_by body.length
decreasing_by exact length_front _h

end ServiceHost.Framing
