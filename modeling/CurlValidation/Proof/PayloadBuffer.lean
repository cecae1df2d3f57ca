import CurlValidation.Proof.PayloadJson

/-!
# What a payload buffer ends with

Each payload function appends its template to one dynbuf and ignores whether an append failed, so
what it returns is a suffix of the whole template (`Dynbuf.text_addAll_suffix`). No piece of a
template holds a NUL byte, an escape included, so no payload does, and each is shorter than its
buffer: `strlen` of a payload is its length.

How a template ends depends only on the length of its text. It is the whole text when that fits
with its NUL. It is `NULL` when the text is exactly as long as the buffer: every append but the last
fits, and the closing `]` has no room left for the NUL. Longer than that, the buffer starts again
after the last append that did not fit, and holds a proper suffix of the text, or `NULL` (`EndsAs`).

`curl_validation_payroll_ceo` sets `strlen` of the payload as `CURLOPT_POSTFIELDSIZE`, so a transfer
it runs sends the whole payload; it reports `CURLE_OUT_OF_MEMORY` exactly when the payload is
`NULL`, which happens to a request whose printed value is exactly 4096 bytes.
-/

namespace CurlValidation

/-! ### Any template -/

/-- The buffer a template ends with holds a suffix of its pieces, so no NUL when they have none,
and it fits. -/
theorem ptr_addAll_init_bounds {toobig : Nat} {pieces : List Bytes}
    (hpieces : ∀ piece ∈ pieces, 0 ∉ piece) :
    ∀ p ∈ ((Dynbuf.init toobig).addAll pieces).ptr, 0 ∉ p ∧ p.length < toobig := by
  intro p hp
  have hsuf := Dynbuf.text_addAll_suffix (Dynbuf.init toobig) pieces
  rw [Dynbuf.text, show ((Dynbuf.init toobig).addAll pieces).bufr = some p from hp,
    Option.getD_some, Dynbuf.text_init, List.nil_append] at hsuf
  refine ⟨fun h0 => ?_, by simpa using ((Dynbuf.init toobig).addAll pieces).fits p hp⟩
  obtain ⟨piece, hmem, h0'⟩ := List.mem_flatten.mp (hsuf.subset h0)
  exact hpieces piece hmem h0'

/-- How a template printing `text` ends in a buffer of `toobig` bytes: the whole text when it fits
with its NUL, `NULL` when it is exactly `toobig` bytes long, and otherwise `NULL` or a proper
suffix of it. -/
def EndsAs (toobig : Nat) (text : Bytes) (ptr : Option Bytes) : Prop :=
  (text.length < toobig → ptr = some text) ∧ (text.length = toobig → ptr = none) ∧
    (toobig < text.length → ptr = none ∨ ∃ k, 0 < k ∧ ptr = some (text.drop k))

/-- A template whose last piece is one byte ends as the length of its text says. -/
theorem endsAs_addAll_init {toobig : Nat} {pieces : List Bytes} {text : Bytes} (hne : pieces ≠ [])
    (htext : pieces.flatten = text) (hlast : (pieces.getLast hne).length = 1) :
    EndsAs toobig text ((Dynbuf.init toobig).addAll pieces).ptr :=
  ⟨Dynbuf.ptr_addAll_init hne htext,
    fun hlen => Dynbuf.ptr_addAll_of_last_too_large hne (by simp [htext, hlast, hlen])
      (by simp [htext, hlen]),
    fun hlarge => Dynbuf.ptr_addAll_init_of_too_large htext hlarge.le⟩

/-! ### No NUL, within the buffer -/

theorem accountPayload_bounds (request : Option AccountValidationRequest) :
    ∀ p ∈ ValidationJson.validationCreateAccountPayload request, 0 ∉ p ∧ p.length < 2048 := by
  cases request with
  | none => exact fun _ h => Option.noConfusion h
  | some request =>
    simp only [ValidationJson.validationCreateAccountPayload]
    refine ptr_addAll_init_bounds ?_
    simp (disch := decide) only [List.forall_mem_cons, List.mem_nil_iff, false_implies,
      implies_true, zero_not_mem_jsonEscapeString, not_false_eq_true, true_and, and_true]
    and_intros <;> decide

theorem entityPayload_bounds (request : Option EntityValidationRequest) :
    ∀ p ∈ ValidationJson.validationCreateEntityPayload request, 0 ∉ p ∧ p.length < 2048 := by
  cases request with
  | none => exact fun _ h => Option.noConfusion h
  | some request =>
    simp only [ValidationJson.validationCreateEntityPayload]
    refine ptr_addAll_init_bounds ?_
    simp (disch := decide) only [List.forall_mem_cons, List.mem_nil_iff, false_implies,
      implies_true, zero_not_mem_jsonEscapeString, not_false_eq_true, true_and, and_true]
    and_intros <;> decide

theorem payrollCeoPayload_bounds (request : Option PayrollCeoValidationRequest) :
    ∀ p ∈ ValidationPayrollCeo.validationCreatePayrollCeoPayload request,
      0 ∉ p ∧ p.length < 4096 := by
  cases request with
  | none => exact fun _ h => Option.noConfusion h
  | some request =>
    simp only [ValidationPayrollCeo.validationCreatePayrollCeoPayload,
      ValidationPayrollCeo.jsonEscapeString]
    refine ptr_addAll_init_bounds ?_
    simp (disch := decide) only [List.forall_mem_cons, List.mem_nil_iff, false_implies,
      implies_true, zero_not_mem_jsonEscapeString, not_false_eq_true, true_and, and_true]
    and_intros <;> decide

/-- **No NUL, within the buffer.** Whatever the request, each payload function returns `NULL` or a
text with no NUL byte that is shorter than its buffer, so `strlen` of a payload is its length. -/
theorem payloads_have_no_nul (account : Option AccountValidationRequest)
    (entity : Option EntityValidationRequest) (payroll : Option PayrollCeoValidationRequest) :
    (∀ p ∈ ValidationJson.validationCreateAccountPayload account, 0 ∉ p ∧ p.length < 2048) ∧
      (∀ p ∈ ValidationJson.validationCreateEntityPayload entity, 0 ∉ p ∧ p.length < 2048) ∧
      ∀ p ∈ ValidationPayrollCeo.validationCreatePayrollCeoPayload payroll,
        0 ∉ p ∧ p.length < 4096 :=
  ⟨accountPayload_bounds account, entityPayload_bounds entity, payrollCeoPayload_bounds payroll⟩

/-! ### Past the buffer -/

set_option maxRecDepth 8000 in
theorem accountPayload_endsAs {request : AccountValidationRequest} {a b c d : Bytes}
    (ha : (ValidationJson.jsonEscapeString request.requestId).getD [] = jsonEscape a)
    (hb : (ValidationJson.jsonEscapeString request.accountNumber).getD [] = jsonEscape b)
    (hc : (ValidationJson.jsonEscapeString request.clearingSystemId).getD [] = jsonEscape c)
    (hd : (ValidationJson.jsonEscapeString request.clearingSystemIdType).getD [] = jsonEscape d) :
    EndsAs 2048 (Json.renderTo 0 (accountJson a b c d) [])
      (ValidationJson.validationCreateAccountPayload (some request)) := by
  simp only [ValidationJson.validationCreateAccountPayload, ha, hb, hc, hd]
  exact endsAs_addAll_init (List.cons_ne_nil _ _) rfl rfl

set_option maxRecDepth 8000 in
theorem entityPayload_endsAs {request : EntityValidationRequest} {a b c d : Bytes}
    (ha : (ValidationJson.jsonEscapeString request.requestId).getD [] = jsonEscape a)
    (hb : (ValidationJson.jsonEscapeString request.firstName).getD [] = jsonEscape b)
    (hc : (ValidationJson.jsonEscapeString request.lastName).getD [] = jsonEscape c)
    (hd : (ValidationJson.jsonEscapeString request.fullName).getD [] = jsonEscape d) :
    EndsAs 2048 (Json.renderTo 0 (entityJson a b c d) [])
      (ValidationJson.validationCreateEntityPayload (some request)) := by
  simp only [ValidationJson.validationCreateEntityPayload, ha, hb, hc, hd]
  exact endsAs_addAll_init (List.cons_ne_nil _ _) rfl rfl

/-- **Past the buffer.** For requests whose strings have no NUL, the account and entity payloads
are their value printed when it fits the buffer of 2048 bytes with its NUL, `NULL` when it is
exactly 2048 bytes, and otherwise `NULL` or a proper suffix of the printed text. Each string of the
value is the field it stands for, or the suffix of it that `json_escape_string` kept. -/
theorem json_payloads_past_the_buffer (account : AccountValidationRequest)
    (entity : EntityValidationRequest)
    (haccount : ∀ field ∈ [account.requestId, account.accountNumber, account.clearingSystemId,
      account.clearingSystemIdType], NulFree field)
    (hentity : ∀ field ∈ [entity.requestId, entity.firstName, entity.lastName, entity.fullName],
      NulFree field) :
    (∃ requestId accountNumber clearingSystemId clearingSystemIdType,
      ShowsField account.requestId requestId ∧ ShowsField account.accountNumber accountNumber ∧
        ShowsField account.clearingSystemId clearingSystemId ∧
        ShowsField account.clearingSystemIdType clearingSystemIdType ∧
        EndsAs 2048
          (Json.renderTo 0 (accountJson requestId accountNumber clearingSystemId
            clearingSystemIdType) [])
          (ValidationJson.validationCreateAccountPayload (some account))) ∧
      ∃ requestId firstName lastName fullName,
        ShowsField entity.requestId requestId ∧ ShowsField entity.firstName firstName ∧
          ShowsField entity.lastName lastName ∧ ShowsField entity.fullName fullName ∧
          EndsAs 2048 (Json.renderTo 0 (entityJson requestId firstName lastName fullName) [])
            (ValidationJson.validationCreateEntityPayload (some entity)) := by
  obtain ⟨a, ha, hae⟩ := escapedField (haccount account.requestId (by simp))
  obtain ⟨b, hb, hbe⟩ := escapedField (haccount account.accountNumber (by simp))
  obtain ⟨c, hc, hce⟩ := escapedField (haccount account.clearingSystemId (by simp))
  obtain ⟨d, hd, hde⟩ := escapedField (haccount account.clearingSystemIdType (by simp))
  obtain ⟨e, he, hee⟩ := escapedField (hentity entity.requestId (by simp))
  obtain ⟨f, hf, hfe⟩ := escapedField (hentity entity.firstName (by simp))
  obtain ⟨g, hg, hge⟩ := escapedField (hentity entity.lastName (by simp))
  obtain ⟨k, hk, hke⟩ := escapedField (hentity entity.fullName (by simp))
  exact ⟨⟨a, b, c, d, ha, hb, hc, hd, accountPayload_endsAs hae hbe hce hde⟩,
    ⟨e, f, g, k, he, hf, hg, hk, entityPayload_endsAs hee hfe hge hke⟩⟩

/-- Requests of four fields of 700 bytes `a` each: every escape fits its buffer, and both
printed values are longer than the payload buffer. -/
theorem json_payloads_past_the_buffer_long :
    (∀ field ∈ [some (List.replicate 700 0x61), some (List.replicate 700 0x61),
      some (List.replicate 700 0x61), some (List.replicate 700 0x61)], NulFree field) ∧
      2048 ≤ (Json.renderTo 0 (accountJsonOf ⟨some (List.replicate 700 0x61),
        some (List.replicate 700 0x61), some (List.replicate 700 0x61),
        some (List.replicate 700 0x61)⟩) []).length ∧
      2048 ≤ (Json.renderTo 0 (entityJsonOf ⟨some (List.replicate 700 0x61),
        some (List.replicate 700 0x61), some (List.replicate 700 0x61),
        some (List.replicate 700 0x61)⟩) []).length ∧
      ((∃ requestId accountNumber clearingSystemId clearingSystemIdType,
        ShowsField (some (List.replicate 700 0x61)) requestId ∧
          ShowsField (some (List.replicate 700 0x61)) accountNumber ∧
          ShowsField (some (List.replicate 700 0x61)) clearingSystemId ∧
          ShowsField (some (List.replicate 700 0x61)) clearingSystemIdType ∧
          EndsAs 2048
            (Json.renderTo 0 (accountJson requestId accountNumber clearingSystemId
              clearingSystemIdType) [])
            (ValidationJson.validationCreateAccountPayload (some ⟨some (List.replicate 700 0x61),
              some (List.replicate 700 0x61), some (List.replicate 700 0x61),
              some (List.replicate 700 0x61)⟩))) ∧
        ∃ requestId firstName lastName fullName,
          ShowsField (some (List.replicate 700 0x61)) requestId ∧
            ShowsField (some (List.replicate 700 0x61)) firstName ∧
            ShowsField (some (List.replicate 700 0x61)) lastName ∧
            ShowsField (some (List.replicate 700 0x61)) fullName ∧
            EndsAs 2048 (Json.renderTo 0 (entityJson requestId firstName lastName fullName) [])
              (ValidationJson.validationCreateEntityPayload (some ⟨some (List.replicate 700 0x61),
                some (List.replicate 700 0x61), some (List.replicate 700 0x61),
                some (List.replicate 700 0x61)⟩))) :=
  have hnul : ∀ field ∈ [some (List.replicate 700 0x61), some (List.replicate 700 0x61),
      some (List.replicate 700 0x61), some (List.replicate 700 0x61)], NulFree field := by
    intro field hfield s hs
    simp only [List.mem_cons, List.not_mem_nil, or_false, or_self] at hfield
    subst hfield
    cases hs
    exact fun h0 => absurd (List.eq_of_mem_replicate h0) (by decide)
  ⟨hnul,
    by rw [accountJsonOf, length_accountJson]; simp only [Option.getD_some,
      jsonEscape_replicate_a, List.length_replicate, -List.reduceReplicate]; omega,
    by rw [entityJsonOf, length_entityJson]; simp only [Option.getD_some,
      jsonEscape_replicate_a, List.length_replicate, -List.reduceReplicate]; omega,
    json_payloads_past_the_buffer ⟨some (List.replicate 700 0x61), some (List.replicate 700 0x61),
      some (List.replicate 700 0x61), some (List.replicate 700 0x61)⟩
      ⟨some (List.replicate 700 0x61), some (List.replicate 700 0x61), some (List.replicate 700 0x61),
        some (List.replicate 700 0x61)⟩ hnul hnul⟩

set_option maxRecDepth 10000 in
theorem payrollCeoPayload_endsAs {request : PayrollCeoValidationRequest}
    {requestId accountNumber clearingSystemId clearingSystemIdType firstName lastName fullName title
      department amount currency : Bytes}
    (h₁ : (ValidationPayrollCeo.jsonEscapeString request.requestId).getD [] = jsonEscape requestId)
    (h₂ : (ValidationPayrollCeo.jsonEscapeString request.accountNumber).getD [] =
      jsonEscape accountNumber)
    (h₃ : (ValidationPayrollCeo.jsonEscapeString request.clearingSystemId).getD [] =
      jsonEscape clearingSystemId)
    (h₄ : (ValidationPayrollCeo.jsonEscapeString request.clearingSystemIdType).getD [] =
      jsonEscape clearingSystemIdType)
    (h₅ : (ValidationPayrollCeo.jsonEscapeString request.firstName).getD [] = jsonEscape firstName)
    (h₆ : (ValidationPayrollCeo.jsonEscapeString request.lastName).getD [] = jsonEscape lastName)
    (h₇ : (ValidationPayrollCeo.jsonEscapeString request.fullName).getD [] = jsonEscape fullName)
    (h₈ : (ValidationPayrollCeo.jsonEscapeString request.ceoTitle).getD [] = jsonEscape title)
    (h₉ : (ValidationPayrollCeo.jsonEscapeString request.ceoDepartment).getD [] =
      jsonEscape department)
    (hamount : (ValidationPayrollCeo.jsonEscapeString request.payrollAmount).getD (ascii "0.00") =
      amount)
    (hcurrency :
      (ValidationPayrollCeo.jsonEscapeString request.payrollCurrency).getD (ascii "USD") =
        jsonEscape currency) :
    EndsAs 4096 (Json.renderTo 0 (payrollCeoJson requestId accountNumber clearingSystemId
        clearingSystemIdType firstName lastName fullName title department amount currency) [])
      (ValidationPayrollCeo.validationCreatePayrollCeoPayload (some request)) := by
  simp only [ValidationPayrollCeo.validationCreatePayrollCeoPayload, h₁, h₂, h₃, h₄, h₅, h₆, h₇, h₈,
    h₉, hamount, hcurrency]
  exact endsAs_addAll_init (List.cons_ne_nil _ _) rfl rfl

/-! ### The payroll call -/

section PayrollCall

open ValidationPayrollCeo

/-- A payload without a NUL byte is posted whole: its `strlen` is its length. -/
theorem postPayrollCeoPayload_body {payload : Option Bytes} (perform : PayrollCeoTransfer → CURLcode)
    (h : ∀ p ∈ payload, 0 ∉ p) :
    (postPayrollCeoPayload payload perform).2.map PayrollCeoTransfer.body = payload := by
  cases payload with
  | none => rfl
  | some p =>
    simp only [postPayrollCeoPayload, Option.map_some', PayrollCeoTransfer.body,
      strlen_of_zero_not_mem (h p rfl), List.take_length]

theorem curlValidationPayrollCeo_body (request : PayrollCeoValidationRequest)
    (perform : PayrollCeoTransfer → CURLcode) :
    (curlValidationPayrollCeo true (some request) perform).2.map PayrollCeoTransfer.body =
      validationCreatePayrollCeoPayload (some request) := by
  rw [curlValidationPayrollCeo]
  exact postPayrollCeoPayload_body perform fun p hp => (payrollCeoPayload_bounds _ p hp).1

/-- **The whole payload is sent.** Whatever the handle and the request, a transfer
`curl_validation_payroll_ceo` runs posts the payroll payload to the accounts endpoint, and all of
it: the payload has no NUL byte, so its `strlen` is its length, and it is shorter than 4096 bytes.
The call returns what `curl_easy_perform` returned for that transfer. -/
theorem payroll_call_sends_whole_payload (curl : Bool) (request : Option PayrollCeoValidationRequest)
    (perform : PayrollCeoTransfer → CURLcode) {t : PayrollCeoTransfer}
    (ht : (curlValidationPayrollCeo curl request perform).2 = some t) :
    validationCreatePayrollCeoPayload request = some t.postFields ∧ t.url = payrollCeoUrl ∧
      t.body = t.postFields ∧ t.postFieldSize = t.postFields.length ∧ t.postFieldSize < 4096 ∧
      (curlValidationPayrollCeo curl request perform).1 = perform t := by
  match curl, request, ht with
  | false, _, ht => cases ht
  | true, none, ht => cases ht
  | true, some request, ht =>
    rw [curlValidationPayrollCeo] at ht ⊢
    cases hp : validationCreatePayrollCeoPayload (some request) <;> rw [hp] at ht <;> cases ht
    obtain ⟨h0, hlt⟩ := payrollCeoPayload_bounds _ _ hp
    have hlen := strlen_of_zero_not_mem h0
    refine ⟨rfl, rfl, ?_, hlen, hlen.trans_lt hlt, rfl⟩
    simp only [PayrollCeoTransfer.body, hlen, List.take_length]

set_option maxRecDepth 10000 in
theorem payroll_call_sends_empty_request :
    ∃ t, (curlValidationPayrollCeo true
        (some ⟨none, none, none, none, none, none, none, none, none, none, none⟩)
        fun _ => CURLcode.ok).2 = some t ∧
      validationCreatePayrollCeoPayload
          (some ⟨none, none, none, none, none, none, none, none, none, none, none⟩) =
        some t.postFields ∧ t.url = payrollCeoUrl ∧ t.body = t.postFields ∧
      t.postFieldSize = t.postFields.length ∧ t.postFieldSize < 4096 ∧
      (curlValidationPayrollCeo true
        (some ⟨none, none, none, none, none, none, none, none, none, none, none⟩)
        fun _ => CURLcode.ok).1 = CURLcode.ok := by
  obtain ⟨t, ht, -⟩ := Option.map_eq_some'.mp ((curlValidationPayrollCeo_body
    ⟨none, none, none, none, none, none, none, none, none, none, none⟩ fun _ => CURLcode.ok).trans
    (@payrollCeoPayload_eq _ [] [] [] [] [] [] [] [] [] [] [] rfl rfl rfl rfl rfl rfl rfl rfl rfl
      rfl rfl (by decide)))
  exact ⟨t, ht, payroll_call_sends_whole_payload true _ _ ht⟩

/-- **What the payroll call sends, by length.** For a request whose strings have no NUL and escapes
that fit the escape buffer, whose amount is present and empty or a number literal of fewer than 1024
bytes, and whose currency is present: when its payroll value printed fits 4096 bytes with the NUL,
the call sends that text, which parses back to the value; when the text is exactly 4096 bytes, the
closing bracket does not fit, and the call answers `CURLE_OUT_OF_MEMORY` and sends nothing; and
when it is longer, the call sends a proper suffix of it, or nothing. -/
theorem payroll_call_by_length (request : PayrollCeoValidationRequest)
    (hfields : ∀ field ∈ [request.requestId, request.accountNumber, request.clearingSystemId,
      request.clearingSystemIdType, request.firstName, request.lastName, request.fullName,
      request.ceoTitle, request.ceoDepartment, request.payrollCurrency],
      ∀ s ∈ field, 0 ∉ s ∧ (jsonEscape s).length < 1024)
    (hamount : ∃ amount, request.payrollAmount = some amount ∧
      (amount = [] ∨ Json.readNumber amount = some (amount, []) ∧ amount.length < 1024))
    (hcurrency : request.payrollCurrency ≠ none) (perform : PayrollCeoTransfer → CURLcode) :
    EndsAs 4096 (Json.renderTo 0 (payrollCeoJsonOf request) [])
        ((curlValidationPayrollCeo true (some request) perform).2.map PayrollCeoTransfer.body) ∧
      ((Json.renderTo 0 (payrollCeoJsonOf request) []).length = 4096 →
        (curlValidationPayrollCeo true (some request) perform).1 = CURLcode.outOfMemory) ∧
      ((Json.renderTo 0 (payrollCeoJsonOf request) []).length < 4096 →
        ((curlValidationPayrollCeo true (some request) perform).2.map
          PayrollCeoTransfer.body).bind parseJson = some (payrollCeoJsonOf request)) := by
  have hstr : ∀ field ∈ [request.requestId, request.accountNumber, request.clearingSystemId,
      request.clearingSystemIdType, request.firstName, request.lastName, request.fullName,
      request.ceoTitle, request.ceoDepartment, request.payrollCurrency],
      (ValidationPayrollCeo.jsonEscapeString field).getD [] = jsonEscape (field.getD []) :=
    fun field hfield => escapedField_of_fits (hfields field hfield)
  obtain ⟨amount, hsome, hlit⟩ := hamount
  have hends : EndsAs 4096 (Json.renderTo 0 (payrollCeoJsonOf request) [])
      (validationCreatePayrollCeoPayload (some request)) :=
    payrollCeoPayload_endsAs (hstr _ (by simp)) (hstr _ (by simp)) (hstr _ (by simp))
      (hstr _ (by simp)) (hstr _ (by simp)) (hstr _ (by simp)) (hstr _ (by simp))
      (hstr _ (by simp)) (hstr _ (by simp)) (escapedAmount hsome hlit)
      (escapedCurrency (hfields _ (by simp)) hcurrency)
  rw [curlValidationPayrollCeo_body]
  refine ⟨hends, fun hlen => ?_, fun hlen => ?_⟩
  · rw [curlValidationPayrollCeo, hends.2.1 hlen]
    rfl
  · rw [hends.1 hlen, Option.some_bind]
    exact parseJson_renderTo _ (numbersOk_payrollCeoJsonOf hsome hlit)

theorem payroll_call_by_length_test_request :
    (∀ field ∈ [payrollTestRequest.requestId, payrollTestRequest.accountNumber,
        payrollTestRequest.clearingSystemId, payrollTestRequest.clearingSystemIdType,
        payrollTestRequest.firstName, payrollTestRequest.lastName, payrollTestRequest.fullName,
        payrollTestRequest.ceoTitle, payrollTestRequest.ceoDepartment,
        payrollTestRequest.payrollCurrency], ∀ s ∈ field, 0 ∉ s ∧ (jsonEscape s).length < 1024) ∧
      (∃ amount, payrollTestRequest.payrollAmount = some amount ∧
        (amount = [] ∨ Json.readNumber amount = some (amount, []) ∧ amount.length < 1024)) ∧
      payrollTestRequest.payrollCurrency ≠ none ∧
      EndsAs 4096 (Json.renderTo 0 (payrollCeoJsonOf payrollTestRequest) [])
        ((curlValidationPayrollCeo true (some payrollTestRequest) fun _ => CURLcode.ok).2.map
          PayrollCeoTransfer.body) ∧
      ((Json.renderTo 0 (payrollCeoJsonOf payrollTestRequest) []).length = 4096 →
        (curlValidationPayrollCeo true (some payrollTestRequest) fun _ => CURLcode.ok).1 =
          CURLcode.outOfMemory) ∧
      ((Json.renderTo 0 (payrollCeoJsonOf payrollTestRequest) []).length < 4096 →
        ((curlValidationPayrollCeo true (some payrollTestRequest) fun _ => CURLcode.ok).2.map
          PayrollCeoTransfer.body).bind parseJson = some (payrollCeoJsonOf payrollTestRequest)) :=
  have hfields : ∀ field ∈ [payrollTestRequest.requestId, payrollTestRequest.accountNumber,
      payrollTestRequest.clearingSystemId, payrollTestRequest.clearingSystemIdType,
      payrollTestRequest.firstName, payrollTestRequest.lastName, payrollTestRequest.fullName,
      payrollTestRequest.ceoTitle, payrollTestRequest.ceoDepartment,
      payrollTestRequest.payrollCurrency], ∀ s ∈ field, 0 ∉ s ∧ (jsonEscape s).length < 1024 := by
    decide
  have hamount : ∃ amount, payrollTestRequest.payrollAmount = some amount ∧
      (amount = [] ∨ Json.readNumber amount = some (amount, []) ∧ amount.length < 1024) :=
    ⟨_, rfl, .inr ⟨by decide, by decide⟩⟩
  have hcurrency : payrollTestRequest.payrollCurrency ≠ none := Option.noConfusion
  ⟨hfields, hamount, hcurrency,
    payroll_call_by_length payrollTestRequest hfields hamount hcurrency fun _ => CURLcode.ok⟩

end PayrollCall

end CurlValidation
