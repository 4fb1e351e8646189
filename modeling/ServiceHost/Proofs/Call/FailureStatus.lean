import ServiceHost.Call.Envelope
import ServiceHost.Proofs.Decimal.Integers
import ServiceHost.Proofs.Text.Utf8

/-!
# The HTTP status of a failed call

Of the standard codes only success is answered below 400.  A status built from a number is answered
as that number is (`failure_ofCode`): a number outside the standard set travels in metadata, and 500
answers it.  But the metadata of a status from elsewhere may hold any number.  Where `unknown` comes
with a number of the standard set, the call is answered as if that code had failed it, and only then
is the answer not the one of its own code (`failure_status_of_failed`).  The number zero turns the
failure into a success (`failure_answered_as_success`).
-/

namespace ServiceHost

theorem Code.four_hundred_le_httpStatus {code : Code} (h : code ≠ .ok) : 400 ≤ code.httpStatus := by
  cases code <;> first | exact absurd rfl h | decide

theorem Code.httpStatus_lt_iff {code : Code} : code.httpStatus < 400 ↔ code = .ok := by
  by_cases hok : code = .ok
  · subst hok
    decide
  · simpa [hok] using four_hundred_le_httpStatus hok

/-- The number of a code is answered as the code. -/
theorem httpStatusOf_toNat (code : Code) :
    httpStatusOf (Int32.ofNat code.toNat) = code.httpStatus := by
  cases code <;> rfl

namespace Status

/-- The standard code that a status of another code pretends to: `unknown` with a number of the
standard set in its metadata. -/
def posesAs? (status : Status) : Option Code :=
  if status.code = .unknown then status.appCode?.bind fun code => Code.ofInt? code.toInt else none

theorem posesAs?_of_code_ne {status : Status} (h : status.code ≠ .unknown) :
    status.posesAs? = none := if_neg h

/-- **How any status is answered**: by the code it poses as, if there is one, else by its own. -/
theorem httpStatus_eq (status : Status) :
    status.httpStatus = (status.posesAs?.getD status.code).httpStatus := by
  unfold httpStatus rawCode
  by_cases hunknown : status.code = .unknown
  · rw [if_pos hunknown, posesAs?, if_pos hunknown]
    cases happ : status.appCode? with
    | none => simp [httpStatusOf_toNat]
    | some number =>
        -- a number outside the standard set is answered as `unknown` is
        simp only [Option.getD_some, Option.bind_some, httpStatusOf]
        cases Code.ofInt? number.toInt with
        | none => simp [hunknown, Code.httpStatus]
        | some code => rfl
  · rw [if_neg hunknown, posesAs?_of_code_ne hunknown]
    exact httpStatusOf_toNat status.code

/-! ## Statuses built from a number -/

theorem visibleText?_decimal (n : Int) :
    visibleText? (decimal n) = some (String.ofList (intText n)) := by
  have hencode : decimal n = (intText n).map fun c => c.toNat.toUInt8 :=
    Utf8.encode_of_ascii fun c hc => by have := visible_of_mem_intText hc; omega
  have hoctet : ∀ c ∈ intText n, c.toNat.toUInt8.toNat = c.toNat := fun c hc =>
    Utf8.toNat_toUInt8 (by have := visible_of_mem_intText hc; omega)
  have hvisible : (decimal n).all isVisibleOctet = true := by
    rw [hencode, List.all_map, List.all_eq_true]
    intro c hc
    simp [isVisibleOctet, UInt8.le_iff_toNat_le, UInt8.lt_iff_toNat_lt, hoctet c hc,
      visible_of_mem_intText hc]
  have hback : (decimal n).map (fun b => Char.ofNat b.toNat) = intText n := by
    rw [hencode, List.map_map]
    calc (intText n).map ((fun b => Char.ofNat b.toNat) ∘ fun c => c.toNat.toUInt8)
        = (intText n).map id := List.map_congr_left fun c hc => by simp [hoctet c hc]
      _ = intText n := List.map_id _
  rw [visibleText?, if_pos hvisible, asciiText, hback]

/-- The number of a status built from one outside the standard set is read from its metadata. -/
theorem appCode?_ofCode {code : Int32} (h : Code.ofInt? code.toInt = none) (message : String) :
    (ofCode code message).appCode? = some code := by
  simp [ofCode, h, appCode?, Headers.first?, visibleText?_decimal, parseInt32?_intText]

/-- A status built from a number never poses as another. -/
theorem posesAs?_ofCode (code : Int32) (message : String) :
    (ofCode code message).posesAs? = none := by
  cases h : Code.ofInt? code.toInt with
  | none =>
      rw [posesAs?, appCode?_ofCode h, Option.bind_some, h, ite_self]
  | some standard =>
      simp [posesAs?, appCode?, ofCode, h, Headers.first?]

end Status

namespace Envelope

/-- **A status built from a number is answered as that number is.** -/
theorem failure_ofCode (code : Int32) (message : String) :
    (failure (Status.ofCode code message)).status = httpStatusOf code := by
  show (Status.ofCode code message).httpStatus = _
  rw [Status.httpStatus_eq, Status.posesAs?_ofCode, Option.getD_none, httpStatusOf, Status.ofCode]
  cases Code.ofInt? code.toInt <;> rfl

/-- **How a failed call is answered.**  Its status has the HTTP status of its own code, which is at
least 400, unless the code is `unknown` and the metadata attach the number of a standard code that is
not answered with 500 itself; then the answer is the one of that code.  It is below 400 exactly if
the attached number is zero. -/
theorem failure_status_of_failed (status : Status) (hfailed : status.code ≠ .ok) :
    ((failure status).status = status.code.httpStatus ↔
      ∀ code, status.posesAs? = some code → code.httpStatus = 500) ∧
    (∀ code, status.posesAs? = some code →
      status.code = .unknown ∧ (failure status).status = code.httpStatus) ∧
    ((failure status).status < 400 ↔ status.posesAs? = some .ok) := by
  have hanswer : (failure status).status = (status.posesAs?.getD status.code).httpStatus :=
    status.httpStatus_eq
  have hunknown : ∀ code, status.posesAs? = some code → status.code = .unknown := by
    intro code hposes
    refine Decidable.byContradiction fun hother => ?_
    rw [Status.posesAs?_of_code_ne hother] at hposes
    exact absurd hposes (by simp)
  rw [hanswer]
  cases hposes : status.posesAs? with
  | none => simpa [Code.httpStatus_lt_iff] using hfailed
  | some code =>
      have hfive : Code.unknown.httpStatus = 500 := rfl
      simp [Code.httpStatus_lt_iff, hunknown code hposes, hfive]

/-- A call that failed with `unknown` and attaches the code of a missing entry. -/
theorem failure_status_of_failed_posing :
    ∃ status : Status, status.code = .unknown ∧
      ((failure status).status = status.code.httpStatus ↔
        ∀ code, status.posesAs? = some code → code.httpStatus = 500) ∧
      (failure status).status = 404 := by
  let status : Status :=
    { code := .unknown, message := "gone", metadata := [⟨Status.appCodeName, Octets.ascii "5"⟩] }
  have hposes : status.posesAs? = some .notFound := by decide
  have h := failure_status_of_failed status (by decide)
  exact ⟨status, rfl, h.1, (h.2.1 .notFound hposes).2⟩

/-- **A failure can be answered as a success.**  It is not so that every call that failed is answered
with the HTTP status of its own code, and from 400 on: one that attaches the number zero to
`unknown` is answered with 200. -/
theorem failure_answered_as_success :
    ¬ ∀ status : Status, status.code ≠ .ok →
      (failure status).status = status.code.httpStatus ∧ 400 ≤ (failure status).status := by
  intro h
  let status : Status :=
    { code := .unknown, message := "app", metadata := [⟨Status.appCodeName, Octets.ascii "0"⟩] }
  have hposes : status.posesAs? = some .ok := by decide
  have hanswer : (failure status).status = Code.ok.httpStatus := by
    rw [show (failure status).status = status.httpStatus from rfl, Status.httpStatus_eq, hposes,
      Option.getD_some]
  have hleast := (h status (by decide)).2
  rw [hanswer] at hleast
  exact absurd hleast (by decide)

end Envelope

end ServiceHost
