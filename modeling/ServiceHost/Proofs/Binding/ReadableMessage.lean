import ServiceHost.Binding.Message
import ServiceHost.Call.Server
import ServiceHost.Proofs.Json.ReadBack

/-!
# Which messages the call server reads

A built message is well formed, so nothing but its depth and its doubles can keep the call server
from reading what the gateway sent it.  A message of at most 127 levels whose doubles read back
arrives unchanged, and one that nests deeper is refused (`message_arrives_iff_shallow`).  Building
has no limit: the names of parameters make messages of every depth (`depth_build_nested`), and so
some that cannot be read (`deep_message_refused`).
-/

namespace ServiceHost

/-- Whether the value of a number has no fraction. -/
def Number.IsWhole : Number → Prop
  | .int _ => True
  | .double d => d.magnitude.toQuotient.2 ∣ d.magnitude.toQuotient.1

instance : DecidablePred Number.IsWhole
  | .int _ => inferInstanceAs (Decidable True)
  | .double _ => inferInstanceAs (Decidable (_ ∣ _))

namespace Message

open Json

/-! ## Built messages are well formed -/

theorem wellFormed_ofBody {rule : BodyRule} {body : Octets} {members : Members}
    (h : ofBody rule body = .ok members) : WellFormed Number.Fits (.object members) := by
  unfold ofBody at h
  split at h
  · cases h
    exact wellFormed_empty
  · cases rule with
    | none =>
        cases h
        exact wellFormed_empty
    | all =>
        simp only at h
        split at h
        · rename_i inner hread
          cases h
          exact wellFormed_read? hread
        · cases h
        · cases h
    | field path =>
        simp only at h
        split at h
        · rename_i value hread
          cases h
          exact wellFormed_empty.assign (wellFormed_read? hread)
        · cases h

theorem wellFormed_addQuery (pairs : List (String × String)) {members : Members}
    (h : WellFormed Number.Fits (.object members)) :
    WellFormed Number.Fits (.object (addQuery pairs members)) := by
  induction pairs generalizing members with
  | nil => exact h
  | cons pair pairs ih => exact ih (h.append (.string pair.2))

theorem wellFormed_setParams (params : List (String × String)) {members : Members}
    (h : WellFormed Number.Fits (.object members)) :
    WellFormed Number.Fits (.object (setParams params members)) := by
  induction params generalizing members with
  | nil => exact h
  | cons param params ih => exact ih (h.assign (.string param.2))

/-- **Every built message is well formed.** -/
theorem wellFormed_build {rule : BodyRule} {body : Octets} {params : List (String × String)}
    {query : Option String} {message : Json} (h : build rule body params query = .ok message) :
    WellFormed Number.Fits message := by
  unfold build at h
  cases hbody : ofBody rule body with
  | error refusal =>
      rw [hbody] at h
      cases h
  | ok members =>
      rw [hbody] at h
      cases h
      have hmembers := wellFormed_ofBody hbody
      refine wellFormed_setParams params ?_
      split
      · exact hmembers
      · exact wellFormed_addQuery _ hmembers

/-! ## Between the gateway and the call server -/

theorem readMessage?_writeMessage {message : Json} (h : WellFormed Number.ReadsBack message) :
    CallServer.readMessage? (CallServer.writeMessage message) =
      if message.depth ≤ 127 then some message else none := by
  obtain ⟨c, tail, htext, -⟩ := write_head h
  have hfull : CallServer.writeMessage message ≠ [] := by
    intro hempty
    have := Utf8.encode_eq_nil_iff.mp hempty
    simp [htext] at this
  rw [CallServer.readMessage?, if_neg (by simpa using hfull), CallServer.writeMessage]
  exact read?_write h

/-- **Which built messages are read.**  Whatever the rule, the body, the path parameters and the
query are: where each double in the built message is what its own text is read as, the call server
reads the message that the gateway writes as it is if it nests at most 127 levels, and as no
message if it nests deeper. -/
theorem message_arrives_iff_shallow {rule : BodyRule} {body : Octets}
    {params : List (String × String)} {query : Option String} {message : Json}
    (h : build rule body params query = .ok message)
    (hdoubles : ∀ d, Number.double d ∈ message.numbers → (Number.double d).ReadsBack) :
    CallServer.readMessage? (CallServer.writeMessage message) =
      if message.depth ≤ 127 then some message else none := by
  apply readMessage?_writeMessage
  refine (wellFormed_build h).imp fun n hn hfits => ?_
  cases n with
  | int n => exact readsBack_int hfits
  | double d => exact hdoubles d hn

/-- A book with a price: the double arrives as it was read from the body. -/
theorem message_arrives_with_price :
    ∃ message, build .all (Octets.ascii "\x7b\"n\":7,\"price\":1.5\x7d") [("book.id", "42")] none =
        .ok message ∧
      message.numbers = [.int 7, .double ⟨false, ⟨6755399441055744, -52⟩⟩] ∧
      CallServer.readMessage? (CallServer.writeMessage message) = some message := by
  let body := Octets.ascii "\x7b\"n\":7,\"price\":1.5\x7d"
  have hbuild : (build .all body [("book.id", "42")] none).toOption.map
      (fun m => (m.numbers, m.depth)) =
        some ([.int 7, .double ⟨false, ⟨6755399441055744, -52⟩⟩], 2) := by
    decide +kernel
  cases hmessage : build .all body [("book.id", "42")] none with
  | error refusal => simp [hmessage, Except.toOption] at hbuild
  | ok message =>
      rw [hmessage] at hbuild
      obtain ⟨hnumbers, hdepth⟩ := Prod.mk.inj (Option.some.inj hbuild)
      have harrives := message_arrives_iff_shallow hmessage fun d hd => by
        rw [hnumbers] at hd
        simp only [List.mem_cons, List.not_mem_nil, or_false, reduceCtorEq, false_or] at hd
        rw [hd]
        decide +kernel
      rw [hdepth, if_pos (by decide)] at harrives
      exact ⟨message, rfl, hnumbers, harrives⟩

/-! ## Messages of every depth -/

/-- The dotted name of a path. -/
def dotted (path : List String) : String :=
  String.ofList (['.'].intercalate (path.map String.toList))

theorem pathOf_dotted {path : List String} (hne : path ≠ [])
    (h : ∀ key ∈ path, '.' ∉ key.toList) : pathOf (dotted path) = path := by
  rw [pathOf, dotted, splitText, String.toList_ofList, List.splitOn_intercalate]
  · simp
  · simpa using h
  · simpa using hne

theorem depth_assign_empty {path : List String} (hne : path ≠ []) (value : Json) :
    (Json.object (Members.assign path value [])).depth = path.length + value.depth := by
  induction path with
  | nil => exact absurd rfl hne
  | cons key rest ih =>
      cases rest with
      | nil =>
          simp [Members.assign, Members.update, Members.insert, depth, depthOfMembers]
          omega
      | cons next rest =>
          have hinner := ih (by simp)
          rw [Members.assign] at hinner ⊢
          simp only [Members.update, Members.get?, Members.insert, depth, depthOfMembers,
            Nat.max_zero, List.length_cons] at hinner ⊢
          omega

/-- **Messages of every depth are built**: one dotted parameter nests as deeply as it has parts. -/
theorem depth_build_dotted {path : List String} (hne : path ≠ [])
    (h : ∀ key ∈ path, '.' ∉ key.toList) (text : String) :
    build .none [] [(dotted path, text)] none =
        .ok (.object (Members.assign path (.string text) [])) ∧
      (Json.object (Members.assign path (.string text) [])).depth = path.length := by
  refine ⟨?_, depth_assign_empty hne (.string text)⟩
  have hpath := pathOf_dotted hne h
  simp [build, ofBody, Except.map, setParams, hpath, addQuery, queryPairs]

/-- **Not every built message is read.**  It is not so that the call server reads every built
message without fractions as it is: it refuses the one of a parameter whose name has 128 parts. -/
theorem deep_message_refused :
    ¬ ∀ (rule : BodyRule) (body : Octets) (params : List (String × String))
      (query : Option String) (message : Json), build rule body params query = .ok message →
      (∀ n ∈ message.numbers, n.IsWhole) →
      CallServer.readMessage? (CallServer.writeMessage message) = some message := by
  intro harrives
  let path := List.replicate 128 "a"
  have hplain : ∀ key ∈ path, '.' ∉ key.toList := by
    intro key hkey
    rw [List.eq_of_mem_replicate hkey]
    decide
  obtain ⟨hbuild, hdepth⟩ := depth_build_dotted (by simp [path]) hplain "x"
  -- the message holds no number at all, so it is well formed for every property of numbers
  have hwell : ∀ P, WellFormed P (.object (Members.assign path (.string "x") [])) := fun P =>
    wellFormed_empty.assign (.string "x")
  have hread := harrives _ _ _ _ _ hbuild fun n hn => (hwell _).of_mem_numbers hn
  rw [readMessage?_writeMessage (hwell _), hdepth] at hread
  simp [path] at hread

/-- A whole number can change on the way: this one is exact as it is written in the body, and
rounded when it is read from the digits that the gateway writes. -/
theorem whole_number_changed :
    ∃ message, build .all (Octets.ascii "\x7b\"a\":7205759403792796e0\x7d") [] none = .ok message ∧
      message.depth = 1 ∧ (∀ n ∈ message.numbers, n.IsWhole) ∧
      CallServer.readMessage? (CallServer.writeMessage message) ≠ some message := by
  let sent : Number := .double ⟨false, ⟨7205759403792796, 0⟩⟩
  let received : Number := .double ⟨false, ⟨7205759403792797, 0⟩⟩
  let body := Octets.ascii "\x7b\"a\":7205759403792796e0\x7d"
  have hbuild : (build .all body [] none).toOption.map (fun m => (m.numbers, m.depth)) =
      some ([sent], 1) := by decide +kernel
  have hreread : ((build .all body [] none).toOption.bind fun m =>
      CallServer.readMessage? (CallServer.writeMessage m)).map Json.numbers = some [received] := by
    decide +kernel
  cases hmessage : build .all body [] none with
  | error refusal => simp [hmessage, Except.toOption] at hbuild
  | ok message =>
      rw [hmessage] at hbuild hreread
      obtain ⟨hnumbers, hdepth⟩ := Prod.mk.inj (Option.some.inj hbuild)
      refine ⟨message, rfl, hdepth, ?_, ?_⟩
      · rw [hnumbers]
        decide
      · intro hsame
        have hsent : some [sent] = some [received] := by
          rw [← hreread, ← hnumbers]
          simp [Except.toOption, hsame]
        exact absurd hsent (by decide)

end Message

end ServiceHost
