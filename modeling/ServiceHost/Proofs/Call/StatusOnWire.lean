import ServiceHost.Call.Envelope
import ServiceHost.Proofs.Http.Headers
import ServiceHost.Proofs.Text.Escapes

/-!
# A status on the wire

A status is written as headers, and headers with the same code, message and details are read as that
status again (`Status.ofHeaders?_toHeaders`), with the metadata that are not the transport's own.
Only one thing can come between: metadata under the name of the details, in a status that has none
(`Status.TravelsWhole`).  An envelope shows of a status nothing but what gets through
(`Envelope.failure_congr`).
-/

namespace ServiceHost

namespace Status

/-! ## Parts of a status -/

/-- The number of a code is read back. -/
theorem codeOfHeader_decimal (code : Code) : codeOfHeader (decimal code.toNat) = code := by
  cases code <;> decide

/-- The header value of a message; an empty one has none. -/
def messageValues (status : Status) : List Octets :=
  if status.message.isEmpty then []
  else [Percent.encodeOctets isPlainOctet (Utf8.ofString status.message)]

/-- The header value of details; empty ones have none. -/
def detailsValues (status : Status) : List Octets :=
  if status.details.isEmpty then [] else [Base64.encode status.details]

/-- A message is read back from its header value. -/
theorem codeAndMessage_messageValues (status : Status) :
    codeAndMessage status.code status.messageValues.head? = (status.code, status.message) := by
  unfold messageValues
  split
  · rename_i hempty
    rw [List.head?_nil, String.isEmpty_iff.mp hempty]
    rfl
  · rw [List.head?_cons, codeAndMessage]
    simp only [Percent.decodeOctets_encodeOctets (show isPlainOctet 0x25 = false by decide)]
    rw [Utf8.ofString, Utf8.decode?_encode]
    simp

/-- Details are read back from their header value. -/
theorem detailsOf?_detailsValues (status : Status) :
    detailsOf? status.detailsValues.head? = some status.details := by
  unfold detailsValues
  by_cases hempty : status.details = []
  · simp [hempty, detailsOf?]
  · simp [hempty, detailsOf?, Base64.decode?_encode]

/-! ## Headers of a status -/

/-- What is read from headers that hold the values of a status under its three names. -/
theorem ofHeaders?_of_valuesOf {status : Status} {headers : Headers}
    (hcode : headers.valuesOf codeHeader = [decimal status.code.toNat])
    (hmessage : headers.valuesOf messageHeader = status.messageValues)
    (hdetails : headers.valuesOf detailsHeader = status.detailsValues) :
    ofHeaders? headers = some
      { code := status.code, message := status.message, details := status.details
        metadata := headers.without [codeHeader, messageHeader, detailsHeader] } := by
  rw [ofHeaders?, Headers.first?_eq_head?, Headers.first?_eq_head?, Headers.first?_eq_head?, hcode,
    hmessage, hdetails, detailsOf?_detailsValues]
  simp [codeOfHeader_decimal, codeAndMessage_messageValues]

/-- Whether a status has no metadata in the place of its details: where it has details, these
replace the metadata of their name. -/
def TravelsWhole (status : Status) : Prop :=
  status.details = [] → status.metadata.valuesOf detailsHeader = []

theorem travelsWhole_of_metadata_nil {status : Status} (h : status.metadata = []) :
    status.TravelsWhole := by
  intro _
  rw [h, Headers.valuesOf_nil]

/-- What a status writes under a name. -/
theorem valuesOf_toHeaders (status : Status) (name : String) :
    status.toHeaders.valuesOf name =
      (if status.ownNames.contains name then [] else status.metadata.valuesOf name) ++
      (if codeHeader = name then [decimal status.code.toNat] else []) ++
      (if messageHeader = name then status.messageValues else []) ++
      (if detailsHeader = name then status.detailsValues else []) := by
  simp only [toHeaders, Headers.valuesOf_concat, Headers.valuesOf_without, Headers.valuesOf_cons,
    Headers.valuesOf_nil, messageValues, detailsValues]
  congr 1
  · congr 1
    split <;> simp [Headers.valuesOf_cons]
  · split <;> simp [Headers.valuesOf_cons]

theorem valuesOf_toHeaders_code (status : Status) :
    status.toHeaders.valuesOf codeHeader = [decimal status.code.toNat] := by
  have hown : codeHeader ∈ status.ownNames := List.mem_append_left _ (by decide)
  rw [valuesOf_toHeaders, if_pos (List.contains_iff_mem.mpr hown), if_pos rfl,
    if_neg (by decide), if_neg (by decide)]
  rfl

theorem valuesOf_toHeaders_message (status : Status) :
    status.toHeaders.valuesOf messageHeader = status.messageValues := by
  have hown : messageHeader ∈ status.ownNames := List.mem_append_left _ (by decide)
  rw [valuesOf_toHeaders, if_pos (List.contains_iff_mem.mpr hown), if_neg (by decide), if_pos rfl,
    if_neg (by decide), List.append_nil]
  rfl

theorem valuesOf_toHeaders_details {status : Status} (h : status.TravelsWhole) :
    status.toHeaders.valuesOf detailsHeader = status.detailsValues := by
  have hnone : (if status.ownNames.contains detailsHeader then []
      else status.metadata.valuesOf detailsHeader) = [] := by
    by_cases hempty : status.details = []
    · rw [h hempty, ite_self]
    · have hown : detailsHeader ∈ status.ownNames := List.mem_append_right _ (by simp [hempty])
      rw [if_pos (List.contains_iff_mem.mpr hown)]
  rw [valuesOf_toHeaders, hnone, if_neg (by decide), if_neg (by decide), if_pos rfl]
  rfl

/-- Metadata get through under every name that is not one of the transport. -/
theorem valuesOf_toHeaders_metadata (status : Status) {name : String}
    (hname : name ∉ detailsHeader :: transportHeaders) :
    status.toHeaders.valuesOf name = status.metadata.valuesOf name := by
  obtain ⟨hdetails, htransport⟩ : name ≠ detailsHeader ∧ name ∉ transportHeaders := by
    simpa using hname
  have hown : name ∉ status.ownNames := by
    intro hmem
    rcases List.mem_append.mp hmem with hmem | hmem
    · exact htransport hmem
    · split at hmem
      · exact absurd hmem List.not_mem_nil
      · exact hdetails (List.mem_singleton.mp hmem)
  have hcode : codeHeader ≠ name := fun h => htransport (h ▸ by decide)
  have hmessage : messageHeader ≠ name := fun h => htransport (h ▸ by decide)
  rw [valuesOf_toHeaders, if_neg (by simpa using hown), if_neg hcode, if_neg hmessage,
    if_neg (Ne.symm hdetails), List.append_nil, List.append_nil, List.append_nil]

/-- **A status is read back.**  From headers that agree with those of a status under the names that
belong to the transport, the code, the message and the details are read as they were. -/
theorem ofHeaders?_toHeaders {status : Status} (h : status.TravelsWhole) {headers : Headers}
    (hagree : ∀ name ∈ [codeHeader, messageHeader, detailsHeader],
      headers.valuesOf name = status.toHeaders.valuesOf name) :
    ofHeaders? headers = some
      { code := status.code, message := status.message, details := status.details
        metadata := headers.without [codeHeader, messageHeader, detailsHeader] } := by
  refine ofHeaders?_of_valuesOf ?_ ?_ ?_
  · exact (hagree codeHeader (by decide)).trans (valuesOf_toHeaders_code status)
  · exact (hagree messageHeader (by decide)).trans (valuesOf_toHeaders_message status)
  · exact (hagree detailsHeader (by decide)).trans (valuesOf_toHeaders_details h)

/-- Whether no metadata of a status have a name of the transport. -/
def HasOwnMetadata (status : Status) : Prop :=
  ∀ header ∈ status.metadata, header.name ∉ detailsHeader :: transportHeaders

theorem HasOwnMetadata.without {status : Status} (h : status.HasOwnMetadata) {names : List String}
    (hnames : names ⊆ detailsHeader :: transportHeaders) :
    status.metadata.without names = status.metadata := by
  refine List.filter_eq_self.mpr fun header hmem => ?_
  simpa using fun hname => h header hmem (hnames hname)

theorem HasOwnMetadata.travelsWhole {status : Status} (h : status.HasOwnMetadata) :
    status.TravelsWhole := by
  intro _
  refine Headers.valuesOf_eq_nil_of_all _ _ (List.all_eq_true.mpr fun header hmem => ?_)
  exact bne_iff_ne.mpr fun hname => h header hmem (hname ▸ List.mem_cons_self)

/-- **A status with metadata of its own comes back as it was.** -/
theorem HasOwnMetadata.ofHeaders?_toHeaders {status : Status} (h : status.HasOwnMetadata) :
    ofHeaders? status.toHeaders = some status := by
  have hown : status.ownNames ⊆ detailsHeader :: transportHeaders := by
    unfold ownNames
    split <;> decide
  have hnames : [codeHeader, messageHeader, detailsHeader] ⊆ detailsHeader :: transportHeaders := by
    decide
  have hwritten : status.toHeaders.without [codeHeader, messageHeader, detailsHeader] =
      status.metadata := by
    -- the three headers that the status writes itself are the ones that are taken away
    rw [toHeaders, h.without hown, Headers.without, List.filter_append, List.filter_append,
      List.filter_append, ← Headers.without, h.without hnames]
    split <;> split <;> simp
  rw [Status.ofHeaders?_toHeaders h.travelsWhole fun _ _ => rfl, hwritten]

end Status

theorem Status.rawCode_congr {sent received : Status} (hcode : received.code = sent.code)
    (happ : received.metadata.valuesOf appCodeName = sent.metadata.valuesOf appCodeName) :
    received.rawCode = sent.rawCode := by
  have happCode : received.appCode? = sent.appCode? := by
    unfold appCode?
    rw [Headers.first?_eq_head?, Headers.first?_eq_head?, happ]
  unfold rawCode
  rw [hcode, happCode]

/-- An envelope shows the code, the message, the details and the number that metadata attach. -/
theorem Envelope.failure_congr {sent received : Status} (hcode : received.code = sent.code)
    (hmessage : received.message = sent.message) (hdetails : received.details = sent.details)
    (happ : received.metadata.valuesOf Status.appCodeName =
      sent.metadata.valuesOf Status.appCodeName) :
    failure received = failure sent := by
  unfold failure Status.httpStatus errorText Status.jsonDetails
  rw [Status.rawCode_congr hcode happ, hmessage, hdetails]

end ServiceHost
