import ServiceHost.Proofs.Call.FailureStatus
import ServiceHost.Proofs.Call.StatusOnWire
import ServiceHost.Proofs.Json.ReadBack

/-!
# What is seen of a built status

A status is built from any number, or from a standard code with details.  What it was built from is
all that is seen of it (`Status.Shows`): by the service that built it, by whoever reads it from
headers, and in the envelope that answers for it (`Status.built_status_survives`).  A number outside
the standard set takes a way of its own, through metadata, and details take another, through their
text; the two meet in the envelope, whose text is read back as an object of three members.
-/

namespace ServiceHost

/-- Whether a number is an integer of 64 bits, with or without a sign. -/
def Number.IsInteger : Number → Prop
  | .int n => (Number.int n).Fits
  | .double _ => False

theorem Number.IsInteger.readsBack {n : Number} (h : n.IsInteger) : n.ReadsBack := by
  cases n with
  | int n => exact Json.readsBack_int h
  | double d => exact h.elim

namespace Code

theorem toInt_ofNat_toNat (code : Code) : (Int32.ofNat code.toNat).toInt = code.toNat := by
  cases code <;> rfl

theorem toNat_getElem_all : ∀ i : Fin 17, all[i.val].toNat = i.val := by
  decide

/-- Only the number of a code is read as the code. -/
theorem eq_toNat_of_ofInt? {n : Int} {code : Code} (h : ofInt? n = some code) :
    n = code.toNat := by
  unfold ofInt? at h
  split at h
  · obtain ⟨hlt, rfl⟩ := List.getElem?_eq_some_iff.mp h
    have hnumber := toNat_getElem_all ⟨n.toNat, hlt⟩
    simp only at hnumber
    omega
  · cases h

end Code

namespace Envelope

/-- The members of the answer to a failed call, in the order in which they are written. -/
def failureMembers (code : Int32) (message : String) (details : List Json) : List (String × Json) :=
  [("code", .int code.toInt), ("message", .string message), ("error", .array details)]

/-- The text of a failed answer is the one of an object. -/
theorem errorText_eq_write (status : Status) :
    errorText status =
      (Json.object (failureMembers status.rawCode status.message status.jsonDetails)).write := by
  have hcode : "\x7b\"code\":".toList = '{' :: (Json.stringText "code" ++ [':']) := by decide
  have hmessage : ",\"message\":".toList = ',' :: (Json.stringText "message" ++ [':']) := by decide
  have herror : ",\"error\":".toList = ',' :: (Json.stringText "error" ++ [':']) := by decide
  simp only [failureMembers, Json.write, Json.writeMembers, Json.int, Number.text]
  unfold errorText
  rw [hcode, hmessage, herror]
  simp only [Json.write, List.append_assoc, List.cons_append, List.nil_append]

end Envelope

namespace Status

/-! ## What is seen of a status -/

/-- What is seen of a status: its code as the service gave it, its message and its details, the HTTP
status that goes with the code, and the envelope of these three. -/
structure Shows (status : Status) (code : Int32) (text : String) (details : List Json) : Prop where
  rawCode : status.rawCode = code
  message : status.message = text
  jsonDetails : status.jsonDetails = details
  httpStatus : status.httpStatus = httpStatusOf code
  envelope : Envelope.failure status = Response.json (httpStatusOf code)
    (Utf8.encode (Json.object (Envelope.failureMembers code text details)).write)

/-- Whether headers say of a status what it writes, whatever else they say. -/
def WrittenTo (status : Status) (headers : Headers) : Prop :=
  ∀ name ∈ [codeHeader, messageHeader, detailsHeader, appCodeName],
    headers.valuesOf name = status.toHeaders.valuesOf name

variable {status : Status} {code : Int32} {message : String} {details : List Json}

/-- Code, message and details decide all that is seen. -/
theorem shows_of_parts (hcode : status.rawCode = code) (hmessage : status.message = message)
    (hdetails : status.jsonDetails = details) : status.Shows code message details := by
  have hanswer : status.httpStatus = httpStatusOf code := by rw [Status.httpStatus, hcode]
  refine ⟨hcode, hmessage, hdetails, hanswer, ?_⟩
  rw [Envelope.failure, Envelope.errorText_eq_write, hanswer, hcode, hmessage, hdetails]

/-- **Whoever reads a status from headers sees of it what its service does.** -/
theorem Shows.received (h : status.Shows code message details) (htravels : status.TravelsWhole)
    {headers : Headers} (hwritten : status.WrittenTo headers) :
    ∃ received, ofHeaders? headers = some received ∧ received.Shows code message details := by
  have hread := ofHeaders?_toHeaders htravels fun name hname =>
    hwritten name (List.mem_append_left [appCodeName] hname)
  have hattached : (headers.without [codeHeader, messageHeader, detailsHeader]).valuesOf appCodeName =
      status.metadata.valuesOf appCodeName := by
    rw [Headers.valuesOf_without, if_neg (by decide), hwritten _ (by decide),
      valuesOf_toHeaders_metadata status (by decide)]
  let received : Status :=
    { status with metadata := headers.without [codeHeader, messageHeader, detailsHeader] }
  have hnumber : received.rawCode = status.rawCode := rawCode_congr rfl hattached
  exact ⟨received, hread, shows_of_parts (hnumber.trans h.rawCode) h.message h.jsonDetails⟩

/-! ## Built from a number -/

theorem rawCode_of_metadata_nil (h : status.metadata = []) :
    status.rawCode = Int32.ofNat status.code.toNat := by
  have hnone : status.appCode? = none := by simp [appCode?, h, Headers.first?]
  rw [rawCode, hnone, Option.getD_none, ite_self]

/-- **The number is kept**, whether it is a standard one or travels in metadata. -/
theorem rawCode_ofCode (code : Int32) (message : String) : (ofCode code message).rawCode = code := by
  cases h : Code.ofInt? code.toInt with
  | none =>
      -- the number stands in metadata, under a code that sends the reader there
      have hunknown : (ofCode code message).code = .unknown := by rw [ofCode, h]
      rw [rawCode, if_pos hunknown, appCode?_ofCode h, Option.getD_some]
  | some standard =>
      have hbuilt : ofCode code message = { code := standard, message } := by rw [ofCode, h]
      -- without metadata nothing but the number of the code is left
      rw [hbuilt, rawCode_of_metadata_nil rfl]
      apply Int32.toInt_inj.mp
      rw [Code.toInt_ofNat_toNat, Code.eq_toNat_of_ofInt? h]

theorem shows_ofCode (code : Int32) (message : String) :
    (ofCode code message).Shows code message [] := by
  refine shows_of_parts (rawCode_ofCode code message) ?_ ?_
  · unfold ofCode
    split <;> rfl
  · unfold ofCode
    split <;> rfl

theorem hasOwnMetadata_ofCode (code : Int32) (message : String) :
    (ofCode code message).HasOwnMetadata := by
  unfold ofCode
  split
  · intro header hmem
    cases hmem
  · intro header hmem
    rw [List.mem_singleton.mp hmem]
    exact (by decide : appCodeName ∉ detailsHeader :: transportHeaders)

/-! ## Built with details -/

/-- **Details are kept up to 127 levels**, and lost beyond. -/
theorem jsonDetails_withDetails (code : Code) (message : String)
    (h : ∀ detail ∈ details, detail.WellFormed Number.ReadsBack) :
    (withDetails code message details).jsonDetails =
      if (Json.array details).depth ≤ 127 then details else [] := by
  have hsome : (withDetails code message details).details.isEmpty = false := rfl
  have hread := Json.read?_write (Json.WellFormed.array h)
  rw [jsonDetails, hsome, if_neg Bool.false_ne_true, withDetails, hread]
  by_cases hdepth : (Json.array details).depth ≤ 127
  · rw [if_pos hdepth, if_pos hdepth]
  · rw [if_neg hdepth, if_neg hdepth]

theorem hasOwnMetadata_withDetails (code : Code) (message : String) (details : List Json) :
    (withDetails code message details).HasOwnMetadata := by
  intro header hmem
  cases hmem

theorem shows_withDetails (code : Code) (message : String)
    (h : ∀ detail ∈ details, detail.WellFormed Number.ReadsBack)
    (hdepth : (Json.array details).depth ≤ 127) :
    (withDetails code message details).Shows (Int32.ofNat code.toNat) message details := by
  refine shows_of_parts (rawCode_of_metadata_nil rfl) rfl ?_
  rw [jsonDetails_withDetails code message h, if_pos hdepth]

/-! ## The envelope -/

/-- The answer to a failed call as a value. -/
def envelopeOf (code : Int32) (message : String) (details : List Json) : Json :=
  .object [("code", .int code.toInt), ("error", .array details), ("message", .string message)]

/-- **An envelope is read back as the object of its three members**, unless the details nest so deep
that they leave it no level. -/
theorem Shows.read?_envelope (h : status.Shows code message details)
    (hdetails : ∀ detail ∈ details, detail.WellFormed Number.ReadsBack) :
    Json.read? (Envelope.failure status).body =
      if (Json.array details).depth ≤ 126 then some (envelopeOf code message details) else none := by
  have hwell : ∀ pair ∈ Envelope.failureMembers code message details,
      pair.2.WellFormed Number.ReadsBack := by
    have hnumber : (Number.int code.toInt).Fits := by
      have hleast := code.le_toInt
      have hmost := code.toInt_lt
      unfold Number.Fits
      omega
    simp only [Envelope.failureMembers, List.forall_mem_cons]
    exact ⟨.number (Json.readsBack_int hnumber), .string message, .array hdetails, by simp⟩
  have hdepth : (Json.object (Envelope.failureMembers code message details)).depth =
      (Json.array details).depth + 1 := by
    simp [Envelope.failureMembers, Json.depth, Json.depthOfMembers, Json.int]
  -- the members are written in another order than the one of their keys
  have hsorted : Json.ofList (Envelope.failureMembers code message details) =
      envelopeOf code message details := rfl
  rw [h.envelope, Response.json, Json.read?_write_object hwell, hdepth, hsorted]
  exact if_congr (by omega) rfl rfl

/-! ## Both ways together -/

/-- Whether a status comes back from its headers, and shows what it was built from wherever it is
read. -/
structure Survives (status : Status) (code : Int32) (text : String) (details : List Json) : Prop where
  built : status.Shows code text details
  returned : ofHeaders? status.toHeaders = some status
  received : ∀ headers, status.WrittenTo headers →
    ∃ received, ofHeaders? headers = some received ∧ received.Shows code text details
  envelope : (Json.array details).depth ≤ 126 →
    Json.read? (Envelope.failure status).body = some (envelopeOf code text details)

theorem Shows.survives (h : status.Shows code message details) (hown : status.HasOwnMetadata)
    (hdetails : ∀ detail ∈ details, detail.WellFormed Number.ReadsBack) :
    status.Survives code message details := by
  refine ⟨h, hown.ofHeaders?_toHeaders, fun headers => h.received hown.travelsWhole, ?_⟩
  intro hshallow
  rw [h.read?_envelope hdetails, if_pos hshallow]

/-- **A built status survives the wire and the envelope.**  One built from a number, whatever the number
and the message are, shows these and no details; one built with details that are well formed, hold no
numbers but integers and nest at most 127 levels shows the number of its code, the message and the
details.  Both come back from their headers as they were, and show the same to whoever finds these
headers among others. -/
theorem built_status_survives :
    (∀ (code : Int32) (message : String), (ofCode code message).Survives code message []) ∧
    ∀ (code : Code) (message : String) (details : List Json),
      (∀ detail ∈ details, detail.WellFormed Number.IsInteger) →
      (Json.array details).depth ≤ 127 →
      (withDetails code message details).Survives (Int32.ofNat code.toNat) message details := by
  constructor
  · intro code message
    have hshows := shows_ofCode code message
    exact hshows.survives (hasOwnMetadata_ofCode code message) (by simp)
  · intro code message details hwell hdepth
    have hreads : ∀ detail ∈ details, detail.WellFormed Number.ReadsBack := fun detail hmem =>
      (hwell detail hmem).imp fun n _ hinteger => hinteger.readsBack
    have hshows := shows_withDetails code message hreads hdepth
    exact hshows.survives (hasOwnMetadata_withDetails code message details) hreads

/-- A misfit of a field with a limit, behind a message with a percent sign and a letter of two octets.
Its headers are read behind one of the transport. -/
theorem built_status_survives_misfit :
    let details : List Json := [.object [("field", .string "name"), ("limit", .int (-7))]]
    let status := withDetails .invalidArgument "100% ü" details
    ofHeaders? status.toHeaders = some status ∧
    ∃ received,
      ofHeaders? (⟨"content-type", Octets.ascii "application/grpc"⟩ :: status.toHeaders) =
        some received ∧
      received.rawCode = 3 ∧ received.message = "100% ü" ∧ received.jsonDetails = details ∧
      received.httpStatus = 400 ∧
      Json.read? (Envelope.failure received).body = some (.object
        [("code", .int 3), ("error", .array details), ("message", .string "100% ü")]) := by
  intro details status
  have hwell : ∀ detail ∈ details, detail.WellFormed Number.IsInteger := by
    have hlimit : Number.IsInteger (.int (-7)) := by
      unfold Number.IsInteger Number.Fits
      decide
    have hsorted : Json.Members.Sorted [("field", .string "name"), ("limit", .int (-7))] :=
      List.pairwise_pair.mpr (by decide)
    intro detail hmem
    rw [List.mem_singleton.mp hmem]
    refine .object hsorted ?_
    simp only [List.forall_mem_cons]
    exact ⟨.string "name", .number hlimit, by simp⟩
  have hsurvives : status.Survives 3 "100% ü" details :=
    built_status_survives.2 .invalidArgument "100% ü" details hwell (by decide)
  have hwritten : status.WrittenTo
      (⟨"content-type", Octets.ascii "application/grpc"⟩ :: status.toHeaders) := by
    intro name hname
    have hother : "content-type" ≠ name := by
      rintro rfl
      exact absurd hname (by decide)
    rw [Headers.valuesOf_cons, if_neg hother]
  obtain ⟨received, hread, hshows⟩ := hsurvives.received _ hwritten
  have henvelope : Envelope.failure received = Envelope.failure status :=
    hshows.envelope.trans hsurvives.built.envelope.symm
  refine ⟨hsurvives.returned, received, hread, hshows.rawCode, hshows.message, hshows.jsonDetails,
    hshows.httpStatus, ?_⟩
  rw [henvelope, hsurvives.envelope (by decide)]
  rfl

end Status

end ServiceHost
