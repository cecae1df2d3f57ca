import CurlValidation.Dynbuf

/-!
# The validation context API

`src/lib/validation.c` keeps, for each easy handle, a `struct validation_context` that the first
`curl_easy_setopt_validation` creates: the strings the options set, the request headers, and a
dynbuf that `validation_write_callback` appends the response body to.
`curl_easy_perform_validation` checks the context, builds the headers, points the handle's URL,
headers, POST body and write callback at it and runs `curl_easy_perform`;
`curl_easy_getinfo_validation_response` returns the dynbuf's text, and
`curl_easy_cleanup_validation` frees the context.

The transfer is the environment: a `Delivery` is the body chunks the server sends, in order, and
the result the transfer ends with when the write callback takes them all. Whether `calloc` and
`strdup` succeed is an argument of each `curl_easy_setopt_validation`; the header list is taken to
be allocated. A ghost log on the handle keeps every transfer run on the current context.
-/

namespace CurlValidation

/-- `DYN_DOH_RESPONSE` of libcurl's `dynbuf.h`, the limit of the response buffer. -/
def dynDohResponse : Nat := 3000

/-! ### The options of `validation.h` -/

def curloptValidationClientId : Nat := 10000
def curloptValidationProgramId : Nat := 10001
def curloptValidationProgramIdType : Nat := 10002
def curloptValidationEndpoint : Nat := 10003
def curloptValidationPayload : Nat := 10004

/-- `struct validation_context`. `headers` is the `curl_slist`, `[]` for `NULL`; `result` is never
written and is left out. -/
structure ValidationContext where
  clientId : Option Bytes
  programId : Option Bytes
  programIdType : Option Bytes
  endpointUrl : Option Bytes
  payload : Option Bytes
  payloadLen : Nat
  headers : List Bytes
  response : Dynbuf
deriving DecidableEq

/-- `validation_context_init`: the `memset` to zero, then
`Curl_dyn_init(&ctx->response, DYN_DOH_RESPONSE)`. -/
def validationContextInit : ValidationContext :=
  ⟨none, none, none, none, none, 0, [], Dynbuf.init dynDohResponse⟩

/-- `strdup(arg)`: `NULL` when its allocation fails. -/
def strdup (allocOk : Bool) (arg : Bytes) : Option Bytes := if allocOk then some arg else none

/-- The `switch(option)` of `curl_easy_setopt_validation` once `strdup` has given `field`: the
context with the option's field set, `none` for the `default:` branch. The payload branch also sets
`payload_len`, and only when the copy succeeded. -/
def ValidationContext.setOption (ctx : ValidationContext) (option : Nat) (field : Option Bytes) :
    Option ValidationContext :=
  if option = curloptValidationClientId then some { ctx with clientId := field }
  else if option = curloptValidationProgramId then some { ctx with programId := field }
  else if option = curloptValidationProgramIdType then some { ctx with programIdType := field }
  else if option = curloptValidationEndpoint then some { ctx with endpointUrl := field }
  else if option = curloptValidationPayload then
    some { ctx with payload := field, payloadLen := (field.map List.length).getD ctx.payloadLen }
  else none

/-- One transfer `curl_easy_perform_validation` ran: the options it set on the handle
(`CURLOPT_URL`, `CURLOPT_HTTPHEADER`, `CURLOPT_POSTFIELDS`, `CURLOPT_POSTFIELDSIZE`), the chunks
handed to the write callback, whether the callback refused one, and the result. -/
structure ValidationTransfer where
  url : Bytes
  httpHeader : List Bytes
  postFields : Bytes
  postFieldSize : Nat
  delivered : List Bytes
  aborted : Bool
  result : CURLcode
deriving DecidableEq

/-- What `validation.c` keeps on a `CURL*`: `req.validation_ctx`, and the ghost log of the transfers
run on it. -/
structure ValidationHandle where
  validationCtx : Option ValidationContext
  transfers : List ValidationTransfer
deriving DecidableEq

/-- A handle no validation call has touched. -/
def ValidationHandle.initial : ValidationHandle := ⟨none, []⟩

/-- What the server sends during one `curl_easy_perform`, and how the transfer ends if every chunk
is taken. -/
structure Delivery where
  chunks : List Bytes
  code : CURLcode
deriving DecidableEq

/-- `curl_easy_setopt_validation(curl, option, arg)`: the result and the handle after. Without a
context it first `calloc`s one; for a known option it `free`s the field and stores
`strdup(arg)`. -/
def curlEasySetoptValidation (h : ValidationHandle) (option : Nat) (arg : Bytes)
    (callocOk strdupOk : Bool) : CURLcode × ValidationHandle :=
  match h.validationCtx, callocOk with
  | none, false => (CURLcode.outOfMemory, h)
  | ctx, _ =>
    let ctx := ctx.getD validationContextInit
    let field := strdup strdupOk arg
    match ctx.setOption option field with
    | some ctx' =>
      (if field.isSome then CURLcode.ok else CURLcode.outOfMemory, { h with validationCtx := ctx' })
    | none => (CURLcode.unknownOption, { h with validationCtx := ctx })

/-- `setup_validation_headers`: `none` (`CURLE_BAD_FUNCTION_ARGUMENT`) without a client or program
id; each formatted header goes through a buffer of 256 bytes. Every `curl_slist_append` is taken to
succeed: the `CURLE_OUT_OF_MEMORY` of a failed one is left out. -/
def setupValidationHeaders (ctx : ValidationContext) : Option (List Bytes) :=
  match ctx.clientId, ctx.programId with
  | some clientId, some programId =>
    some ([snprintf 256 (ascii "x-client-id: " ++ clientId),
        snprintf 256 (ascii "x-program-id: " ++ programId)] ++
      (ctx.programIdType.map fun t => [snprintf 256 (ascii "x-program-id-type: " ++ t)]).getD [] ++
      [ascii "Content-Type: application/json", ascii "Accept: application/json"])
  | _, _ => none

/-- `validation_write_callback(contents, 1, n, ctx)`: the count it returns, 0 when the append
fails, and the context after. -/
def validationWriteCallback (contents : Bytes) (ctx : ValidationContext) :
    Nat × ValidationContext :=
  let (ok, response) := ctx.response.addn contents
  (if ok then contents.length else 0, { ctx with response })

/-- libcurl handing the body to the write callback, chunk by chunk; a count other than the chunk's
length stops the transfer. The chunks handed over, whether it stopped, and the context after. -/
def writeBody (ctx : ValidationContext) : List Bytes → List Bytes × Bool × ValidationContext
  | [] => ([], false, ctx)
  | c :: cs =>
    let (n, ctx) := validationWriteCallback c ctx
    if n = c.length then
      let (handed, aborted, ctx) := writeBody ctx cs
      (c :: handed, aborted, ctx)
    else ([c], true, ctx)

/-- `curl_easy_perform_validation(curl)`: the result and the handle after. A stopped write is
`CURLE_WRITE_ERROR`. -/
def curlEasyPerformValidation (h : ValidationHandle) (d : Delivery) :
    CURLcode × ValidationHandle :=
  match h.validationCtx with
  | none => (CURLcode.badFunctionArgument, h)
  | some ctx =>
    match ctx.endpointUrl, ctx.payload, setupValidationHeaders ctx with
    | some url, some payload, some headers =>
      let (delivered, aborted, ctx') := writeBody { ctx with headers } d.chunks
      let result := if aborted then CURLcode.writeError else d.code
      (result, ⟨some ctx', h.transfers ++
        [⟨url, headers, payload, ctx.payloadLen, delivered, aborted, result⟩]⟩)
    | _, _, _ => (CURLcode.badFunctionArgument, h)

/-- `curl_easy_getinfo_validation_response(curl)`. -/
def curlEasyGetinfoValidationResponse (h : ValidationHandle) : Option Bytes :=
  h.validationCtx.bind (·.response.ptr)

/-- `curl_easy_cleanup_validation(curl)`: the context and its log are gone. -/
def curlEasyCleanupValidation (_ : ValidationHandle) : ValidationHandle := ValidationHandle.initial

/-- The calls of the API on one handle, with the environment's part of each. -/
inductive ValidationCall
  | setopt (option : Nat) (arg : Bytes) (callocOk strdupOk : Bool)
  | perform (delivery : Delivery)
  | getinfo
  | cleanup

namespace ValidationHandle

def step (h : ValidationHandle) : ValidationCall → ValidationHandle
  | .setopt option arg callocOk strdupOk =>
    (curlEasySetoptValidation h option arg callocOk strdupOk).2
  | .perform d => (curlEasyPerformValidation h d).2
  | .getinfo => h
  | .cleanup => curlEasyCleanupValidation h

def run (h : ValidationHandle) (calls : List ValidationCall) : ValidationHandle :=
  calls.foldl step h

end ValidationHandle

end CurlValidation
