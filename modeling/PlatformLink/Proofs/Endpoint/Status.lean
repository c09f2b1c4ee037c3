import PlatformLink.Endpoint.Client

/-!
# What a status comes to

A response of success goes on as it is. Four other statuses have an error of their own, and every
other one is reported by its number. `Checked` lists what can come of a response, and a response
comes to what it lists and to nothing else.
-/

namespace PlatformLink

theorem Web.Response.isSuccess_iff {r : Response} :
    r.isSuccess = true ↔ 200 ≤ r.status ∧ r.status < 300 := by
  simp [isSuccess]

namespace Endpoint

open Web (Response)

/-- What comes of a response by its status. -/
inductive Checked (r : Response) : Outcome Response → Prop where
  | success (h : r.isSuccess = true) : Checked r (.ok r)
  | unauthenticated (h : r.status = 401) : Checked r (.error .unauthenticated)
  | notFound (h : r.status = 404) : Checked r (.error (.notFound (.reported (Text.redact r.text))))
  | conflict (h : r.status = 409) : Checked r (.error (.conflict (.reported (Text.redact r.text))))
  | rateLimited (h : r.status = 429) : Checked r (.error (.rateLimited (retryAfter r)))
  | other (h : r.isSuccess = false) (hother : r.status ∉ [401, 404, 409, 429]) :
      Checked r (.error (.api r.status (Text.redact r.text) none))

theorem checked_checkStatus (r : Response) : Checked r (checkStatus r) := by
  unfold checkStatus
  dsimp only
  split
  next h => exact .success h
  next hfailure =>
  split
  next h => exact .unauthenticated h
  next h401 =>
  split
  next h => exact .notFound h
  next h404 =>
  split
  next h => exact .conflict h
  next h409 =>
  split
  next h => exact .rateLimited h
  next h429 => exact .other (Bool.eq_false_iff.mpr hfailure) (by simp [h401, h404, h409, h429])

theorem Checked.checkStatus_eq {r : Response} {result : Outcome Response}
    (h : Checked r result) : checkStatus r = result := by
  cases h with
  | success h => rw [checkStatus, if_pos h]
  | unauthenticated h | notFound h | conflict h | rateLimited h =>
    -- No error has a status of success.
    simp [checkStatus, Response.isSuccess, h]
  | other h hother =>
    simp only [List.mem_cons, List.not_mem_nil, or_false, not_or] at hother
    simp [checkStatus, h, hother]

/-- The check of a status gives what is listed for the response. -/
theorem checkStatus_eq_iff {r : Response} {result : Outcome Response} :
    checkStatus r = result ↔ Checked r result := by
  refine ⟨?_, Checked.checkStatus_eq⟩
  rintro rfl
  exact checked_checkStatus r

/-- Nothing but a response of success is given back, and it is given back unchanged. -/
theorem checkStatus_eq_ok_iff {r r' : Response} :
    checkStatus r = .ok r' ↔ r.isSuccess = true ∧ r = r' := by
  rw [checkStatus_eq_iff]
  constructor
  · rintro ⟨h⟩
    exact ⟨h, rfl⟩
  · rintro ⟨h, rfl⟩
    exact .success h

end Endpoint

end PlatformLink
