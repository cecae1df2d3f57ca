import CurlValidation.Proof.ContextRuns

/-!
# The options a transfer sends

The five options of `validation.h` describe one request: the endpoint, the client and program ids
with an optional id type, and the payload. Here that is a model of its own, `optionValues`: while a
context exists, each option holds the copy its last call stored, `NULL` before any call for it and
after a failed `strdup`; a `calloc` failure leaves the handle without a context, and
`curl_easy_cleanup_validation` forgets everything.

`struct validation_context` refines it: its five fields are the option values after every run
(`optionValue_run`), so `curl_easy_perform_validation` sends the request the values describe, with
the whole payload, or fails when the endpoint, the payload, the client id or the program id is
`NULL`.
-/

namespace CurlValidation

/-- The options `curl_easy_setopt_validation` knows. -/
def validationOptions : List Nat :=
  [curloptValidationClientId, curloptValidationProgramId, curloptValidationProgramIdType,
    curloptValidationEndpoint, curloptValidationPayload]

/-- What one call does to the option values, `none` while the handle has no context: an option call
creates the context unless `calloc` fails, then gives a known option the copy `strdup` made;
a cleanup forgets all values. -/
def optionValuesStep (s : Option (Nat → Option Bytes)) :
    ValidationCall → Option (Nat → Option Bytes)
  | .setopt option arg callocOk strdupOk =>
    match s, callocOk with
    | none, false => none
    | s, _ =>
      let values := s.getD fun _ => none
      some (if option ∈ validationOptions then Function.update values option (strdup strdupOk arg)
        else values)
  | .perform _ | .getinfo => s
  | .cleanup => none

/-- The option values after a run on a fresh handle. -/
def optionValues (calls : List ValidationCall) : Option (Nat → Option Bytes) :=
  calls.foldl optionValuesStep none

/-- A validation request as the options describe it. -/
structure RequestOptions where
  endpoint : Bytes
  clientId : Bytes
  programId : Bytes
  programIdType : Option Bytes
  payload : Bytes
deriving DecidableEq

/-- The request the option values describe, `none` when the endpoint, the payload, the client id or
the program id is `NULL`. -/
def requestOptions (values : Nat → Option Bytes) : Option RequestOptions :=
  match values curloptValidationEndpoint, values curloptValidationPayload,
    values curloptValidationClientId, values curloptValidationProgramId with
  | some endpoint, some payload, some clientId, some programId =>
    some ⟨endpoint, clientId, programId, values curloptValidationProgramIdType, payload⟩
  | _, _, _, _ => none

/-- The headers of a request: the client id, the program id and the id type when there is one,
each in a buffer of 256 bytes, then the JSON content type and accept headers. -/
def RequestOptions.headers (r : RequestOptions) : List Bytes :=
  [snprintf 256 (ascii "x-client-id: " ++ r.clientId),
      snprintf 256 (ascii "x-program-id: " ++ r.programId)] ++
    (r.programIdType.map fun t => [snprintf 256 (ascii "x-program-id-type: " ++ t)]).getD [] ++
    [ascii "Content-Type: application/json", ascii "Accept: application/json"]

/-- The value of each option a context holds: the abstraction of `struct validation_context`. -/
def ValidationContext.optionValue (ctx : ValidationContext) (option : Nat) : Option Bytes :=
  if option = curloptValidationClientId then ctx.clientId
  else if option = curloptValidationProgramId then ctx.programId
  else if option = curloptValidationProgramIdType then ctx.programIdType
  else if option = curloptValidationEndpoint then ctx.endpointUrl
  else if option = curloptValidationPayload then ctx.payload
  else none

/-! ### One call at a time -/

section Calls

variable {ctx ctx' : ValidationContext} {option : Nat} {field : Option Bytes}

theorem optionValue_init : validationContextInit.optionValue = fun _ => none := by
  funext option
  simp only [ValidationContext.optionValue]
  split_ifs <;> rfl

/-- Setting an option updates its value and no other. -/
theorem optionValue_setOption (hs : ctx.setOption option field = some ctx') :
    ctx'.optionValue = Function.update ctx.optionValue option field := by
  unfold ValidationContext.setOption at hs
  funext o
  by_cases ho : o = option
  · subst ho
    rw [Function.update_same]
    split_ifs at hs <;> cases hs <;> subst_vars <;> rfl
  · rw [Function.update_noteq ho]
    split_ifs at hs <;> cases hs <;> subst_vars <;>
      simp only [ValidationContext.optionValue, ho, if_false]

theorem mem_validationOptions (hs : ctx.setOption option field = some ctx') :
    option ∈ validationOptions :=
  not_not.mp fun hn => by rw [setOption_eq_none_iff.mpr hn] at hs; cases hs

/-- An option call on a context gives a known option the copy `strdup` made. -/
theorem optionValue_setopt (transfers : List ValidationTransfer) (arg : Bytes)
    (callocOk strdupOk : Bool) :
    (curlEasySetoptValidation ⟨some ctx, transfers⟩ option arg callocOk strdupOk).2.validationCtx.map
        ValidationContext.optionValue =
      some (if option ∈ validationOptions then
        Function.update ctx.optionValue option (strdup strdupOk arg) else ctx.optionValue) := by
  rcases @curlEasySetoptValidation_of_ctx ctx option ⟨some ctx, transfers⟩ arg callocOk strdupOk rfl
    with ⟨hs, hr⟩ | ⟨ctx', hs, hr⟩
  · rw [hr, if_neg (show option ∉ validationOptions from setOption_eq_none_iff.mp hs)]
    rfl
  · rw [hr, if_pos (mem_validationOptions hs), ← optionValue_setOption hs]
    rfl

/-- A perform changes the headers and the response, and no option. -/
theorem optionValue_perform {h : ValidationHandle} (d : Delivery) :
    (curlEasyPerformValidation h d).2.validationCtx.map ValidationContext.optionValue =
      h.validationCtx.map ValidationContext.optionValue := by
  rcases curlEasyPerformValidation_cases h d with hr | ⟨ctx, url, payload, headers, hctx, -, -, -, hr⟩
  · rw [hr]
  · rw [hr, hctx]
    dsimp only
    rw [writeBody_frame]
    rfl

/-- On a context, a perform sends the request its option values describe, or changes nothing and
answers `CURLE_BAD_FUNCTION_ARGUMENT` when they describe none. -/
theorem curlEasyPerformValidation_of_ctx {h : ValidationHandle} (hctx : h.validationCtx = some ctx)
    (d : Delivery) :
    curlEasyPerformValidation h d =
      match requestOptions ctx.optionValue with
      | none => (CURLcode.badFunctionArgument, h)
      | some r =>
        let w := writeBody { ctx with headers := r.headers } d.chunks
        (if w.2.1 then CURLcode.writeError else d.code, ⟨some w.2.2, h.transfers ++
          [⟨r.endpoint, r.headers, r.payload, ctx.payloadLen, w.1, w.2.1,
            if w.2.1 then CURLcode.writeError else d.code⟩]⟩) := by
  unfold curlEasyPerformValidation
  rw [hctx]
  obtain ⟨clientId, programId, programIdType, endpointUrl, payload, payloadLen, headers, response⟩ :=
    ctx
  cases endpointUrl <;> cases payload <;> cases clientId <;> cases programId <;> rfl

end Calls

/-! ### Along a run -/

theorem optionValue_step {h : ValidationHandle} {s : Option (Nat → Option Bytes)}
    (hr : h.validationCtx.map ValidationContext.optionValue = s) :
    ∀ c, (h.step c).validationCtx.map ValidationContext.optionValue = optionValuesStep s c
  | .setopt option arg callocOk strdupOk => by
    obtain ⟨_ | ctx, transfers⟩ := h <;> subst hr
    · cases callocOk with
      | false => rfl
      | true =>
        have hsame : curlEasySetoptValidation ⟨none, transfers⟩ option arg true strdupOk =
            curlEasySetoptValidation ⟨some validationContextInit, transfers⟩ option arg true
              strdupOk := rfl
        rw [ValidationHandle.step, hsame, optionValue_setopt, optionValue_init]
        rfl
    · exact optionValue_setopt transfers arg callocOk strdupOk
  | .perform d => (optionValue_perform d).trans hr
  | .getinfo => hr
  | .cleanup => rfl

/-- The context refines the option values, from any handle and its values on. -/
theorem optionValue_run :
    ∀ (calls : List ValidationCall) {h : ValidationHandle} {s : Option (Nat → Option Bytes)},
      h.validationCtx.map ValidationContext.optionValue = s →
        (h.run calls).validationCtx.map ValidationContext.optionValue =
          calls.foldl optionValuesStep s
  | [], _, _, hr => hr
  | c :: cs, _, _, hr => optionValue_run cs (optionValue_step hr c)

/-- **The context holds the options last set.** After every run of the API on a fresh handle, the
handle has a context exactly when the option values say it has one, and its client id, program id,
program id type, endpoint and payload are the values: for each option the copy its last call
stored since the context was made, `NULL` when that copy failed or no call set it. -/
theorem context_holds_last_options (calls : List ValidationCall) :
    (ValidationHandle.initial.run calls).validationCtx.map ValidationContext.optionValue =
      optionValues calls :=
  optionValue_run calls rfl

/-- **A perform sends what the options say.** After every run of the API on a fresh handle, a
perform answers `CURLE_BAD_FUNCTION_ARGUMENT` and changes nothing when the option values describe no
request; when they describe one, it runs one transfer, to the endpoint last set, with the headers of
the ids last set and the payload last set, and declares the whole payload as the POST size. -/
theorem perform_sends_option_values (calls : List ValidationCall) (d : Delivery) :
    ((optionValues calls).bind requestOptions = none →
        curlEasyPerformValidation (ValidationHandle.initial.run calls) d =
          (CURLcode.badFunctionArgument, ValidationHandle.initial.run calls)) ∧
      ∀ r, (optionValues calls).bind requestOptions = some r →
        ∃ t, (curlEasyPerformValidation (ValidationHandle.initial.run calls) d).2.transfers =
            (ValidationHandle.initial.run calls).transfers ++ [t] ∧
          t.url = r.endpoint ∧ t.httpHeader = r.headers ∧ t.postFields = r.payload ∧
          t.postFieldSize = r.payload.length := by
  have hr : (ValidationHandle.initial.run calls).validationCtx.map ValidationContext.optionValue =
      optionValues calls := optionValue_run calls rfl
  have hinv := (payloadInv_run calls payloadInv_initial).perform d
  cases hctx : (ValidationHandle.initial.run calls).validationCtx with
  | none =>
    rw [hctx] at hr
    rw [← hr]
    refine ⟨fun _ => ?_, fun _ h => Option.noConfusion h⟩
    unfold curlEasyPerformValidation
    rw [hctx]
  | some ctx =>
    rw [hctx, Option.map_some'] at hr
    rw [← hr, Option.some_bind]
    refine ⟨fun hnone => by rw [curlEasyPerformValidation_of_ctx hctx, hnone], fun r hsome => ?_⟩
    have hsend := curlEasyPerformValidation_of_ctx hctx d
    rw [hsome] at hsend
    rw [hsend] at hinv ⊢
    exact ⟨_, rfl, rfl, rfl, rfl, hinv.2 _ (List.mem_append_right _ (List.mem_singleton_self _))⟩

/-- A program id whose copy failed leaves no request, though it was set before. -/
example : (optionValues
    [.setopt curloptValidationEndpoint (ascii "u") true true,
      .setopt curloptValidationPayload (ascii "[]") true true,
      .setopt curloptValidationClientId (ascii "c") true true,
      .setopt curloptValidationProgramId (ascii "p") true true,
      .setopt curloptValidationProgramId (ascii "q") true false]).bind requestOptions = none := by
  decide

end CurlValidation
