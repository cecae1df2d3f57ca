import CurlValidation.Context

/-!
# The validation context along a run

The context's response buffer is initialised once, when the context is created, and freed only by
`curl_easy_cleanup_validation` or by an append that would pass `DYN_DOH_RESPONSE`. Nothing empties
it between two performs, so each transfer's body is appended to the bodies before it, and
`curl_easy_getinfo_validation_response` returns all of them. A failed option call does not restore
what it freed: on a `strdup` failure the option's field is left `NULL`.
-/

namespace CurlValidation

/-! ### One call at a time -/

section Calls

variable {ctx ctx' : ValidationContext} {option : Nat} {field : Option Bytes}

/-- An option sets only its own field; the headers and the response stay. -/
theorem setOption_frame (h : ctx.setOption option field = some ctx') :
    ctx'.headers = ctx.headers ∧ ctx'.response = ctx.response := by
  unfold ValidationContext.setOption at h
  split_ifs at h <;> cases h <;> exact ⟨rfl, rfl⟩

theorem setOption_eq_none_iff :
    ctx.setOption option field = none ↔
      option ∉ [curloptValidationClientId, curloptValidationProgramId,
        curloptValidationProgramIdType, curloptValidationEndpoint, curloptValidationPayload] := by
  unfold ValidationContext.setOption
  split_ifs <;> simp_all

variable {h : ValidationHandle} {arg : Bytes} {callocOk strdupOk : Bool}

/-- **What an option call does to an existing context.** It stores `strdup(arg)` in the field its
option names and answers `CURLE_OK`, or `CURLE_OUT_OF_MEMORY` when `strdup` failed and the field is
now `NULL`; an option that is none of the five leaves the handle as it was and answers
`CURLE_UNKNOWN_OPTION`. No transfer is run. -/
theorem curlEasySetoptValidation_of_ctx (hctx : h.validationCtx = some ctx) :
    (ctx.setOption option (strdup strdupOk arg) = none ∧
        curlEasySetoptValidation h option arg callocOk strdupOk = (CURLcode.unknownOption, h)) ∨
      ∃ ctx', ctx.setOption option (strdup strdupOk arg) = some ctx' ∧
        curlEasySetoptValidation h option arg callocOk strdupOk =
          (if strdupOk then CURLcode.ok else CURLcode.outOfMemory,
            { h with validationCtx := some ctx' }) := by
  obtain ⟨ctx₀, transfers⟩ := h
  cases hctx
  cases hset : ctx.setOption option (strdup strdupOk arg) <;>
    cases callocOk <;> cases strdupOk <;> simp_all [curlEasySetoptValidation, strdup]

/-- A failed option call on an existing context either names no option and changes nothing, or
failed in `strdup` and left its option's field `NULL`. -/
theorem curlEasySetoptValidation_error (hctx : h.validationCtx = some ctx)
    (herr : (curlEasySetoptValidation h option arg callocOk strdupOk).1 ≠ CURLcode.ok) :
    ((curlEasySetoptValidation h option arg callocOk strdupOk).1 = CURLcode.unknownOption ∧
        (curlEasySetoptValidation h option arg callocOk strdupOk).2 = h) ∨
      ((curlEasySetoptValidation h option arg callocOk strdupOk).1 = CURLcode.outOfMemory ∧
        strdupOk = false ∧
        (curlEasySetoptValidation h option arg callocOk strdupOk).2 =
          { h with validationCtx := ctx.setOption option none }) := by
  rcases @curlEasySetoptValidation_of_ctx _ _ _ _ callocOk _ hctx with ⟨-, hr⟩ | ⟨ctx', hs, hr⟩
  · exact .inl (by rw [hr]; exact ⟨rfl, rfl⟩)
  · cases strdupOk with
    | true => rw [hr] at herr; exact absurd rfl herr
    | false => exact .inr (by rw [hr, ← hs]; exact ⟨rfl, rfl, rfl⟩)

end Calls

theorem curlEasySetoptValidation_error_of_strdup :
    (⟨some validationContextInit, []⟩ : ValidationHandle).validationCtx =
        some validationContextInit ∧
      (curlEasySetoptValidation ⟨some validationContextInit, []⟩ curloptValidationClientId
        (ascii "d") true false).1 ≠ CURLcode.ok ∧
      (((curlEasySetoptValidation ⟨some validationContextInit, []⟩ curloptValidationClientId
          (ascii "d") true false).1 = CURLcode.unknownOption ∧
        (curlEasySetoptValidation ⟨some validationContextInit, []⟩ curloptValidationClientId
          (ascii "d") true false).2 = ⟨some validationContextInit, []⟩) ∨
      ((curlEasySetoptValidation ⟨some validationContextInit, []⟩ curloptValidationClientId
          (ascii "d") true false).1 = CURLcode.outOfMemory ∧ false = false ∧
        (curlEasySetoptValidation ⟨some validationContextInit, []⟩ curloptValidationClientId
          (ascii "d") true false).2 =
          { (⟨some validationContextInit, []⟩ : ValidationHandle) with
            validationCtx := validationContextInit.setOption curloptValidationClientId none })) :=
  ⟨rfl, by decide, curlEasySetoptValidation_error rfl (by decide)⟩

/-- An option call runs no transfer and, once there is a context, leaves its response: the
context it created starts from `validation_context_init`. -/
theorem curlEasySetoptValidation_frame (h : ValidationHandle) (option : Nat) (arg : Bytes)
    (callocOk strdupOk : Bool) :
    (curlEasySetoptValidation h option arg callocOk strdupOk).2.transfers = h.transfers ∧
      ((curlEasySetoptValidation h option arg callocOk strdupOk).2.validationCtx = none →
        h.validationCtx = none) ∧
      ∀ ctx', (curlEasySetoptValidation h option arg callocOk strdupOk).2.validationCtx = some ctx' →
        ctx'.response = (h.validationCtx.getD validationContextInit).response := by
  unfold curlEasySetoptValidation
  split
  · rename_i hctx
    exact ⟨rfl, fun _ => hctx, fun _ hc => by rw [hctx] at hc; cases hc⟩
  · dsimp only
    split
    · rename_i hs
      dsimp only
      exact ⟨rfl, fun hc => Option.noConfusion hc, fun _ hc => by cases hc; exact (setOption_frame hs).2⟩
    · dsimp only
      exact ⟨rfl, fun hc => Option.noConfusion hc, fun _ hc => by cases hc; rfl⟩

/-! ### The write callback -/

/-- The body loop touches only the response: when no chunk was refused it appended them all, in
order; when one was, the buffer was freed. -/
theorem writeBody_spec (ctx : ValidationContext) (chunks : List Bytes)
    (hpos : 0 < ctx.response.toobig) :
    (writeBody ctx chunks).2.2 = { ctx with response := (writeBody ctx chunks).2.2.response } ∧
      (writeBody ctx chunks).2.2.response.toobig = ctx.response.toobig ∧
      ((writeBody ctx chunks).2.1 = false →
        (writeBody ctx chunks).1 = chunks ∧
          (writeBody ctx chunks).2.2.response.text = ctx.response.text ++ chunks.flatten) ∧
      ((writeBody ctx chunks).2.1 = true → (writeBody ctx chunks).2.2.response.text = []) := by
  induction chunks generalizing ctx with
  | nil => exact ⟨rfl, rfl, fun _ => ⟨rfl, by simp [writeBody]⟩, fun h => nomatch h⟩
  | cons c cs ih =>
    by_cases hfit : ctx.response.text.length + c.length + 1 ≤ ctx.response.toobig
    · obtain ⟨hok, htext, -⟩ := Dynbuf.addn_of_fits hfit
      obtain ⟨hframe, htb, hdone, habort⟩ :=
        ih { ctx with response := (ctx.response.addn c).2 } (by simpa using hpos)
      simp only [writeBody, validationWriteCallback, hok, if_true]
      refine ⟨by rw [hframe], by rw [htb]; simp, fun h => ⟨by rw [(hdone h).1], ?_⟩, habort⟩
      rw [(hdone h).2, htext, List.flatten_cons, List.append_assoc]
    · obtain ⟨hok, hfree⟩ := Dynbuf.addn_of_too_large
        (by omega : ctx.response.toobig < ctx.response.text.length + c.length + 1)
      have hc : 0 ≠ c.length := fun h0 => hfit (by have := ctx.response.text_length_lt hpos; omega)
      simp only [writeBody, validationWriteCallback, hok, hfree, Bool.false_eq_true, if_false,
        if_neg hc]
      simp

/-! ### A perform -/

/-- What `curl_easy_perform_validation` does: without a context, an endpoint, a payload, a client id
or a program id it answers `CURLE_BAD_FUNCTION_ARGUMENT` and changes nothing; otherwise it runs one
transfer with the context's endpoint, headers and payload, logs it, and answers `CURLE_WRITE_ERROR`
when the callback refused a chunk and the transfer's own result when not. -/
theorem curlEasyPerformValidation_cases (h : ValidationHandle) (d : Delivery) :
    curlEasyPerformValidation h d = (CURLcode.badFunctionArgument, h) ∨
      ∃ ctx url payload headers, h.validationCtx = some ctx ∧ ctx.endpointUrl = some url ∧
        ctx.payload = some payload ∧ setupValidationHeaders ctx = some headers ∧
        let w := writeBody { ctx with headers } d.chunks
        curlEasyPerformValidation h d =
          (if w.2.1 then CURLcode.writeError else d.code, ⟨some w.2.2, h.transfers ++
            [⟨url, headers, payload, ctx.payloadLen, w.1, w.2.1,
              if w.2.1 then CURLcode.writeError else d.code⟩]⟩) := by
  unfold curlEasyPerformValidation
  split
  · exact .inl rfl
  · rename_i ctx hctx
    split
    · rename_i url payload headers hu hp hh
      exact .inr ⟨ctx, url, payload, headers, hctx, hu, hp, hh, rfl⟩
    · exact .inl rfl

/-! ### The response along a run -/

/-- The transfers after the last one whose write was refused. -/
def sinceLastAbort (transfers : List ValidationTransfer) : List ValidationTransfer :=
  (transfers.reverse.takeWhile fun t => !t.aborted).reverse

theorem sinceLastAbort_concat (transfers : List ValidationTransfer) (t : ValidationTransfer) :
    sinceLastAbort (transfers ++ [t]) =
      if t.aborted then [] else sinceLastAbort transfers ++ [t] := by
  cases ht : t.aborted <;> simp [sinceLastAbort, ht]

/-- The bytes of the transfers since the last refused write, in order. -/
def bytesSinceLastAbort (transfers : List ValidationTransfer) : Bytes :=
  ((sinceLastAbort transfers).map fun t => t.delivered.flatten).flatten

/-- The response buffer holds the bytes of the transfers since the last refused write, and the log
is empty while there is no context. -/
def ResponseInv (h : ValidationHandle) : Prop :=
  (h.validationCtx = none → h.transfers = []) ∧
    ∀ ctx, h.validationCtx = some ctx →
      ctx.response.toobig = dynDohResponse ∧ ctx.response.text = bytesSinceLastAbort h.transfers

theorem responseInv_initial : ResponseInv ValidationHandle.initial :=
  ⟨fun _ => rfl, fun _ h => nomatch h⟩

section Steps

variable {h : ValidationHandle}

theorem ResponseInv.setopt (hi : ResponseInv h) (option : Nat) (arg : Bytes)
    (callocOk strdupOk : Bool) :
    ResponseInv (curlEasySetoptValidation h option arg callocOk strdupOk).2 := by
  obtain ⟨htr, hnone, hresp⟩ := curlEasySetoptValidation_frame h option arg callocOk strdupOk
  refine ⟨fun hc => htr ▸ hi.1 (hnone hc), fun ctx' hc => ?_⟩
  rw [hresp ctx' hc, htr]
  cases hctx : h.validationCtx with
  | none => simp [hi.1 hctx, validationContextInit, bytesSinceLastAbort, sinceLastAbort]
  | some ctx => exact hi.2 ctx hctx

theorem ResponseInv.perform (hi : ResponseInv h) (d : Delivery) :
    ResponseInv (curlEasyPerformValidation h d).2 := by
  rcases curlEasyPerformValidation_cases h d with hr | ⟨ctx, url, payload, headers, hctx, -, -, -, hr⟩
  · rw [hr]
    exact hi
  · rw [hr]
    obtain ⟨htb, htext⟩ := hi.2 ctx hctx
    obtain ⟨-, htb', hdone, habort⟩ :=
      writeBody_spec { ctx with headers } d.chunks (by rw [htb]; decide)
    refine ⟨fun hc => Option.noConfusion hc, fun ctx' hc => ?_⟩
    cases hc
    refine ⟨htb'.trans htb, ?_⟩
    rw [bytesSinceLastAbort, sinceLastAbort_concat]
    cases hab : (writeBody { ctx with headers } d.chunks).2.1
    · obtain ⟨hd, ht⟩ := hdone hab
      simp [ht, htext, bytesSinceLastAbort, hd]
    · simp [habort hab]

theorem ResponseInv.step (hi : ResponseInv h) : ∀ c, ResponseInv (h.step c)
  | .setopt option arg callocOk strdupOk => hi.setopt option arg callocOk strdupOk
  | .perform d => hi.perform d
  | .getinfo => hi
  | .cleanup => responseInv_initial

end Steps

theorem responseInv_run :
    ∀ (calls : List ValidationCall) {h : ValidationHandle}, ResponseInv h → ResponseInv (h.run calls)
  | [], _, hi => hi
  | c :: cs, _, hi => responseInv_run cs (hi.step c)

/-- **The response accumulates.** On every run of the API on one handle,
`curl_easy_getinfo_validation_response` returns the bytes handed to the write callback by every
transfer run on the current context since the last one whose write was refused, in order, and
fewer than `DYN_DOH_RESPONSE` of them; `NULL` counts as empty. -/
theorem validation_response_accumulates (calls : List ValidationCall) :
    (curlEasyGetinfoValidationResponse (ValidationHandle.initial.run calls)).getD [] =
        bytesSinceLastAbort (ValidationHandle.initial.run calls).transfers ∧
      ((curlEasyGetinfoValidationResponse (ValidationHandle.initial.run calls)).getD []).length <
        dynDohResponse := by
  have hi := responseInv_run calls responseInv_initial
  cases hctx : (ValidationHandle.initial.run calls).validationCtx with
  | none =>
    simp [curlEasyGetinfoValidationResponse, hctx, hi.1 hctx, bytesSinceLastAbort, sinceLastAbort,
      dynDohResponse]
  | some ctx =>
    obtain ⟨htb, htext⟩ := hi.2 ctx hctx
    have hlt := ctx.response.text_length_lt (by rw [htb]; decide)
    rw [htb] at hlt
    have hget : (curlEasyGetinfoValidationResponse (ValidationHandle.initial.run calls)).getD [] =
        ctx.response.text := by
      simp [curlEasyGetinfoValidationResponse, hctx, Dynbuf.ptr, Dynbuf.text]
    rw [hget]
    exact ⟨htext, hlt⟩

/-- Two performs on one configured handle, each answered with one chunk and `CURLE_OK`: after the
second, the response holds the first body followed by the second. -/
theorem second_response_keeps_first_body :
    (curlEasyPerformValidation (ValidationHandle.initial.run
        [.setopt curloptValidationEndpoint (ascii "u") true true,
          .setopt curloptValidationPayload (ascii "\x7b\x7d") true true,
          .setopt curloptValidationClientId (ascii "c") true true,
          .setopt curloptValidationProgramId (ascii "p") true true,
          .perform ⟨[ascii "first"], CURLcode.ok⟩]) ⟨[ascii "second"], CURLcode.ok⟩).1 =
        CURLcode.ok ∧
      curlEasyGetinfoValidationResponse (curlEasyPerformValidation (ValidationHandle.initial.run
        [.setopt curloptValidationEndpoint (ascii "u") true true,
          .setopt curloptValidationPayload (ascii "\x7b\x7d") true true,
          .setopt curloptValidationClientId (ascii "c") true true,
          .setopt curloptValidationProgramId (ascii "p") true true,
          .perform ⟨[ascii "first"], CURLcode.ok⟩]) ⟨[ascii "second"], CURLcode.ok⟩).2 =
        some (ascii "firstsecond") := by
  decide

/-- On a configured handle, a `CURLOPT_VALIDATION_CLIENT_ID` whose `strdup` fails answers
`CURLE_OUT_OF_MEMORY` and leaves the client id `NULL` instead of its old value, and the next perform
answers `CURLE_BAD_FUNCTION_ARGUMENT` where, without the failed call, it would have run the
transfer. -/
theorem failed_client_id_clears_context :
    (curlEasySetoptValidation (ValidationHandle.initial.run
        [.setopt curloptValidationEndpoint (ascii "u") true true,
          .setopt curloptValidationPayload (ascii "\x7b\x7d") true true,
          .setopt curloptValidationClientId (ascii "c") true true,
          .setopt curloptValidationProgramId (ascii "p") true true])
        curloptValidationClientId (ascii "d") true false).1 = CURLcode.outOfMemory ∧
      ((ValidationHandle.initial.run
        [.setopt curloptValidationEndpoint (ascii "u") true true,
          .setopt curloptValidationPayload (ascii "\x7b\x7d") true true,
          .setopt curloptValidationClientId (ascii "c") true true,
          .setopt curloptValidationProgramId (ascii "p") true true]).validationCtx.map
        (·.clientId)) = some (some (ascii "c")) ∧
      ((curlEasySetoptValidation (ValidationHandle.initial.run
        [.setopt curloptValidationEndpoint (ascii "u") true true,
          .setopt curloptValidationPayload (ascii "\x7b\x7d") true true,
          .setopt curloptValidationClientId (ascii "c") true true,
          .setopt curloptValidationProgramId (ascii "p") true true])
        curloptValidationClientId (ascii "d") true false).2.validationCtx.map (·.clientId)) =
        some none ∧
      (curlEasyPerformValidation (ValidationHandle.initial.run
        [.setopt curloptValidationEndpoint (ascii "u") true true,
          .setopt curloptValidationPayload (ascii "\x7b\x7d") true true,
          .setopt curloptValidationClientId (ascii "c") true true,
          .setopt curloptValidationProgramId (ascii "p") true true]) ⟨[], CURLcode.ok⟩).1 =
        CURLcode.ok ∧
      (curlEasyPerformValidation (curlEasySetoptValidation (ValidationHandle.initial.run
        [.setopt curloptValidationEndpoint (ascii "u") true true,
          .setopt curloptValidationPayload (ascii "\x7b\x7d") true true,
          .setopt curloptValidationClientId (ascii "c") true true,
          .setopt curloptValidationProgramId (ascii "p") true true])
        curloptValidationClientId (ascii "d") true false).2 ⟨[], CURLcode.ok⟩).1 =
        CURLcode.badFunctionArgument := by
  decide

/-! ### The request along a run -/

section Request

variable {ctx ctx' : ValidationContext} {h : ValidationHandle}

/-- An option call leaves the payload and `payload_len`, unless it is the payload option: then the
payload is the new copy, and `payload_len` its length, or the old value when the copy failed. -/
theorem setOption_payload {option : Nat} {field : Option Bytes}
    (hs : ctx.setOption option field = some ctx') :
    (ctx'.payload = ctx.payload ∧ ctx'.payloadLen = ctx.payloadLen) ∨
      (ctx'.payload = field ∧ ctx'.payloadLen = (field.map List.length).getD ctx.payloadLen) := by
  unfold ValidationContext.setOption at hs
  split_ifs at hs <;> cases hs
  exacts [.inl ⟨rfl, rfl⟩, .inl ⟨rfl, rfl⟩, .inl ⟨rfl, rfl⟩, .inl ⟨rfl, rfl⟩, .inr ⟨rfl, rfl⟩]

/-- The context an option call leaves is the one it found, or a new one, with the option set, or
that context as it was. -/
theorem curlEasySetoptValidation_ctx {option : Nat} {arg : Bytes} {callocOk strdupOk : Bool}
    (hc : (curlEasySetoptValidation h option arg callocOk strdupOk).2.validationCtx = some ctx') :
    (h.validationCtx.getD validationContextInit).setOption option (strdup strdupOk arg) =
        some ctx' ∨ ctx' = h.validationCtx.getD validationContextInit := by
  unfold curlEasySetoptValidation at hc
  split at hc
  · rename_i hctx
    rw [hctx] at hc
    cases hc
  · dsimp only at hc
    split at hc
    · rename_i hs
      cases hc
      exact .inl hs
    · cases hc
      exact .inr rfl

/-- The write callback touches only the response. -/
theorem writeBody_frame (ctx : ValidationContext) (chunks : List Bytes) :
    (writeBody ctx chunks).2.2 = { ctx with response := (writeBody ctx chunks).2.2.response } := by
  induction chunks generalizing ctx with
  | nil => rfl
  | cons c cs ih =>
    simp only [writeBody, validationWriteCallback]
    split_ifs
    exacts [ih _, rfl, ih _, rfl]

/-- `payload_len` is the length of the payload whenever there is one, and every transfer logged
declared a POST size equal to the length of its body. -/
def PayloadInv (h : ValidationHandle) : Prop :=
  (∀ ctx, h.validationCtx = some ctx → ∀ p, ctx.payload = some p → ctx.payloadLen = p.length) ∧
    ∀ t ∈ h.transfers, t.postFieldSize = t.postFields.length

theorem payloadInv_initial : PayloadInv ValidationHandle.initial :=
  ⟨fun _ h => Option.noConfusion h, fun _ h => nomatch h⟩

theorem PayloadInv.setopt (hi : PayloadInv h) (option : Nat) (arg : Bytes)
    (callocOk strdupOk : Bool) :
    PayloadInv (curlEasySetoptValidation h option arg callocOk strdupOk).2 := by
  obtain ⟨htr, -, -⟩ := curlEasySetoptValidation_frame h option arg callocOk strdupOk
  have hbase : ∀ p, (h.validationCtx.getD validationContextInit).payload = some p →
      (h.validationCtx.getD validationContextInit).payloadLen = p.length := by
    cases hctx : h.validationCtx with
    | none => exact fun _ hp => Option.noConfusion hp
    | some ctx => exact hi.1 ctx hctx
  refine ⟨fun ctx' hc p hp => ?_, by rw [htr]; exact hi.2⟩
  rcases curlEasySetoptValidation_ctx hc with hs | rfl
  · rcases setOption_payload hs with ⟨hpl, hlen⟩ | ⟨hpl, hlen⟩
    · rw [hlen]
      exact hbase p (hpl ▸ hp)
    · rw [hlen, ← hpl, hp]
      rfl
  · exact hbase p hp

theorem PayloadInv.perform (hi : PayloadInv h) (d : Delivery) :
    PayloadInv (curlEasyPerformValidation h d).2 := by
  rcases curlEasyPerformValidation_cases h d with hr | ⟨ctx, url, payload, headers, hctx, -, hp, -, hr⟩
  · rw [hr]
    exact hi
  · rw [hr]
    refine ⟨fun ctx' hc q hq => ?_, fun t ht => ?_⟩
    · cases hc
      rw [writeBody_frame] at hq ⊢
      exact hi.1 ctx hctx q hq
    · rcases List.mem_append.mp ht with ht | ht
      · exact hi.2 t ht
      · rw [List.mem_singleton] at ht
        subst ht
        exact hi.1 ctx hctx payload hp

theorem PayloadInv.step (hi : PayloadInv h) : ∀ c, PayloadInv (h.step c)
  | .setopt option arg callocOk strdupOk => hi.setopt option arg callocOk strdupOk
  | .perform d => hi.perform d
  | .getinfo => hi
  | .cleanup => payloadInv_initial

end Request

theorem payloadInv_run :
    ∀ (calls : List ValidationCall) {h : ValidationHandle}, PayloadInv h → PayloadInv (h.run calls)
  | [], _, hi => hi
  | c :: cs, _, hi => payloadInv_run cs (hi.step c)

/-- **Every transfer posts its whole payload.** On every run of the API on one handle, each transfer
`curl_easy_perform_validation` ran on the current context declared a `CURLOPT_POSTFIELDSIZE` equal
to the length of its `CURLOPT_POSTFIELDS`: `payload_len` is set only together with the payload it
measures, and a payload whose copy failed is `NULL`, which no perform sends. -/
theorem validation_transfers_post_whole_payload (calls : List ValidationCall) :
    ∀ t ∈ (ValidationHandle.initial.run calls).transfers, t.postFieldSize = t.postFields.length :=
  (payloadInv_run calls payloadInv_initial).2

/-- A payload set, replaced by one whose copy fails, and set again before the perform: the transfer
posts the last payload, all of it. -/
theorem reset_payload_posts_whole_payload :
    ∃ t ∈ (ValidationHandle.initial.run
        [.setopt curloptValidationEndpoint (ascii "u") true true,
          .setopt curloptValidationPayload (ascii "\x7b\x7d") true true,
          .setopt curloptValidationPayload (ascii "[1]") true false,
          .setopt curloptValidationPayload (ascii "[]") true true,
          .setopt curloptValidationClientId (ascii "c") true true,
          .setopt curloptValidationProgramId (ascii "p") true true,
          .perform ⟨[], CURLcode.ok⟩]).transfers,
      t.postFieldSize = t.postFields.length :=
  (List.exists_mem_of_ne_nil _ (by decide)).imp fun t ht =>
    ⟨ht, validation_transfers_post_whole_payload _ t ht⟩

end CurlValidation
