import CurlValidation.Payload
import CurlValidation.Proof.JsonText

/-!
# What the payloads parse to

A payload template with the escapes of its fields in the holes is a JSON value printed by
`Json.renderTo`, up to the definitions, so a payload that fits its buffer with the NUL parses to
that value (`accountPayload_eq` and the like). What a string hole holds is the escape of its field
only while that escape fits the 1024-byte buffer of `json_escape_string`; past it the hole holds the
escape of a proper suffix of the field, which is then what the JSON holds (`ShowsField`). The
payload is JSON text exactly when the strings it holds are UTF-8: a suffix that starts inside a
character is read by the grammar, but makes the payload no JSON text.

The payroll template has two holes that are not strings: the amount, printed as it is, with
`"0.00"` when `json_escape_string` returns `NULL`, and the currency, with `"USD"`.
`json_escape_string` returns `NULL` for an empty string and `""` for `NULL`, so these defaults
apply to empty fields and not to `NULL` ones.
-/

namespace CurlValidation

/-! ### The values the payloads stand for -/

/-- The account payload's value: the request id, account number and clearing system id and type
the request gives, and the individual `Jane Abbot` the template fixes. -/
def accountJson (requestId accountNumber clearingSystemId clearingSystemIdType : Bytes) :
    JsonValue :=
  .array [.object [
    (ascii "requestId", .string requestId),
    (ascii "account", .object [
      (ascii "accountNumber", .string accountNumber),
      (ascii "financialInstitutionId", .object [
        (ascii "clearingSystemId", .object [
          (ascii "id", .string clearingSystemId),
          (ascii "idType", .string clearingSystemIdType)])])]),
    (ascii "entity", .object [
      (ascii "individual", .object [
        (ascii "firstName", .string (ascii "Jane")),
        (ascii "lastName", .string (ascii "Abbot")),
        (ascii "fullName", .string (ascii "Jane Abbot"))])])]]

/-- The account payload's value for a request, `NULL` read as empty. -/
def accountJsonOf (request : AccountValidationRequest) : JsonValue :=
  accountJson (request.requestId.getD []) (request.accountNumber.getD [])
    (request.clearingSystemId.getD []) (request.clearingSystemIdType.getD [])

def entityJson (requestId firstName lastName fullName : Bytes) : JsonValue :=
  .array [.object [
    (ascii "requestId", .string requestId),
    (ascii "entity", .object [
      (ascii "individual", .object [
        (ascii "firstName", .string firstName),
        (ascii "lastName", .string lastName),
        (ascii "fullName", .string fullName)])])]]

/-- The entity payload's value for a request, `NULL` read as empty. -/
def entityJsonOf (request : EntityValidationRequest) : JsonValue :=
  entityJson (request.requestId.getD []) (request.firstName.getD []) (request.lastName.getD [])
    (request.fullName.getD [])

/-- The payroll payload's value; the amount is a number literal, the rest strings. -/
def payrollCeoJson (requestId accountNumber clearingSystemId clearingSystemIdType firstName lastName
    fullName title department amount currency : Bytes) : JsonValue :=
  .array [.object [
    (ascii "requestId", .string requestId),
    (ascii "account", .object [
      (ascii "accountNumber", .string accountNumber),
      (ascii "financialInstitutionId", .object [
        (ascii "clearingSystemId", .object [
          (ascii "id", .string clearingSystemId),
          (ascii "idType", .string clearingSystemIdType)])])]),
    (ascii "entity", .object [
      (ascii "individual", .object [
        (ascii "firstName", .string firstName),
        (ascii "lastName", .string lastName),
        (ascii "fullName", .string fullName),
        (ascii "title", .string title),
        (ascii "department", .string department)])]),
    (ascii "transactions", .array [.object [
      (ascii "context", .string (ascii "PAYROLL")),
      (ascii "amount", .object [
        (ascii "amount", .number amount),
        (ascii "currency", .string currency)])]])]]

/-- The payroll payload's value for a request, `NULL` read as empty, with the amount `0.00` and the
currency `USD` when they are `NULL` or empty. -/
def payrollCeoJsonOf (request : PayrollCeoValidationRequest) : JsonValue :=
  payrollCeoJson (request.requestId.getD []) (request.accountNumber.getD [])
    (request.clearingSystemId.getD []) (request.clearingSystemIdType.getD [])
    (request.firstName.getD []) (request.lastName.getD []) (request.fullName.getD [])
    (request.ceoTitle.getD []) (request.ceoDepartment.getD [])
    (if request.payrollAmount.getD [] = [] then ascii "0.00" else request.payrollAmount.getD [])
    (if request.payrollCurrency.getD [] = [] then ascii "USD" else request.payrollCurrency.getD [])

/-! ### What a hole holds -/

/-- A string with no NUL, or `NULL`. -/
def NulFree (field : Option Bytes) : Prop := ∀ s ∈ field, 0 ∉ s

/-- What the hole of `field` reads back as: the field itself, `NULL` read as empty, when its escape
fits the escape buffer with the NUL, and otherwise a proper suffix of it. -/
def ShowsField (field : Option Bytes) (shown : Bytes) : Prop :=
  ∃ k ≤ (field.getD []).length, shown = (field.getD []).drop k ∧
    (k = 0 ↔ (jsonEscape (field.getD [])).length < 1024)

theorem escapedField {field : Option Bytes} (hfield : NulFree field) :
    ∃ shown, ShowsField field shown ∧
      (ValidationJson.jsonEscapeString field).getD [] = jsonEscape shown := by
  cases field with
  | none => exact ⟨[], ⟨0, le_refl _, rfl, by simp⟩, rfl⟩
  | some s =>
    obtain ⟨k, hk, htext, hiff⟩ := jsonEscapeString_text s (hfield s rfl)
    exact ⟨s.drop k, ⟨k, hk, rfl, hiff⟩, htext⟩

theorem ShowsField.length_le {field : Option Bytes} {shown : Bytes} (h : ShowsField field shown) :
    (jsonEscape shown).length ≤ (jsonEscape (field.getD [])).length := by
  obtain ⟨k, -, rfl, -⟩ := h
  have := congrArg (fun s => (jsonEscape s).length) (List.take_append_drop k (field.getD []))
  simp only [jsonEscape_append, List.length_append] at this
  omega

/-- A field whose escape fits: the hole holds the escape of the field, `NULL` read as empty. -/
theorem escapedField_of_fits {field : Option Bytes}
    (hfield : ∀ s ∈ field, 0 ∉ s ∧ (jsonEscape s).length < 1024) :
    (ValidationJson.jsonEscapeString field).getD [] = jsonEscape (field.getD []) := by
  cases field with
  | none => rfl
  | some s =>
    obtain ⟨h0, hfit⟩ := hfield s rfl
    rw [jsonEscapeString_of_fits h0 hfit]
    split_ifs with hs
    · subst hs; rfl
    · rfl

/-! ### Account and entity -/

set_option maxRecDepth 8000 in
/-- The account template with the escapes of four strings in its holes is their value printed, and
is the payload when it fits the buffer with its NUL. -/
theorem accountPayload_eq {request : AccountValidationRequest} {a b c d : Bytes}
    (ha : (ValidationJson.jsonEscapeString request.requestId).getD [] = jsonEscape a)
    (hb : (ValidationJson.jsonEscapeString request.accountNumber).getD [] = jsonEscape b)
    (hc : (ValidationJson.jsonEscapeString request.clearingSystemId).getD [] = jsonEscape c)
    (hd : (ValidationJson.jsonEscapeString request.clearingSystemIdType).getD [] = jsonEscape d)
    (hfit : (Json.renderTo 0 (accountJson a b c d) []).length < 2048) :
    ValidationJson.validationCreateAccountPayload (some request) =
      some (Json.renderTo 0 (accountJson a b c d) []) := by
  simp only [ValidationJson.validationCreateAccountPayload, ha, hb, hc, hd]
  exact Dynbuf.ptr_addAll_init (List.cons_ne_nil _ _) rfl hfit

theorem length_accountJson (a b c d : Bytes) :
    (Json.renderTo 0 (accountJson a b c d) []).length =
      (Json.renderTo 0 (accountJson [] [] [] []) []).length + (jsonEscape a).length +
        (jsonEscape b).length + (jsonEscape c).length + (jsonEscape d).length := by
  simp only [accountJson, Json.renderTo, Json.renderElems, Json.renderMembers, List.length_append,
    List.length_cons, jsonEscape_nil, List.length_nil]
  omega

theorem stringsUtf8_accountJson (a b c d : Bytes) :
    Json.stringsUtf8 (accountJson a b c d) = [a, b, c, d].all Json.utf8Valid := by
  simp only [accountJson, Json.stringsUtf8, Json.elemsUtf8, Json.membersUtf8, List.all_cons,
    List.all_nil]
  cases Json.utf8Valid a <;> cases Json.utf8Valid b <;> cases Json.utf8Valid c <;>
    cases Json.utf8Valid d <;> rfl

/-- **The account payload, read back.** For a request whose strings have no NUL and whose value
printed fits the buffer of 2048 bytes with its NUL, the JSON grammar reads the payload as the
account value, each string the field it stands for when the field's escape fits the escape buffer,
and otherwise a proper suffix of that field. The payload is JSON text exactly when those four
strings are UTF-8. -/
theorem account_payload_reads_back (request : AccountValidationRequest)
    (hnul : ∀ field ∈ [request.requestId, request.accountNumber, request.clearingSystemId,
      request.clearingSystemIdType], NulFree field)
    (hfit : (Json.renderTo 0 (accountJsonOf request) []).length < 2048) :
    ∃ requestId accountNumber clearingSystemId clearingSystemIdType,
      (ValidationJson.validationCreateAccountPayload (some request)).bind parseJson =
          some (accountJson requestId accountNumber clearingSystemId clearingSystemIdType) ∧
        (ValidationJson.validationCreateAccountPayload (some request)).bind parseJsonText =
          (if [requestId, accountNumber, clearingSystemId, clearingSystemIdType].all Json.utf8Valid
            then some (accountJson requestId accountNumber clearingSystemId clearingSystemIdType)
            else none) ∧
        ShowsField request.requestId requestId ∧ ShowsField request.accountNumber accountNumber ∧
        ShowsField request.clearingSystemId clearingSystemId ∧
        ShowsField request.clearingSystemIdType clearingSystemIdType := by
  obtain ⟨a, ha, hae⟩ := escapedField (hnul request.requestId (by simp))
  obtain ⟨b, hb, hbe⟩ := escapedField (hnul request.accountNumber (by simp))
  obtain ⟨c, hc, hce⟩ := escapedField (hnul request.clearingSystemId (by simp))
  obtain ⟨d, hd, hde⟩ := escapedField (hnul request.clearingSystemIdType (by simp))
  have hlen : (Json.renderTo 0 (accountJson a b c d) []).length < 2048 := by
    have := ha.length_le; have := hb.length_le; have := hc.length_le; have := hd.length_le
    rw [accountJsonOf, length_accountJson] at hfit
    rw [length_accountJson]
    omega
  have hpay := accountPayload_eq hae hbe hce hde hlen
  refine ⟨a, b, c, d, ?_, ?_, ha, hb, hc, hd⟩
  · rw [hpay, Option.some_bind]
    exact parseJson_renderTo _ rfl
  · rw [hpay, Option.some_bind, parseJsonText_renderTo (accountJson a b c d) rfl,
      stringsUtf8_accountJson]

set_option maxRecDepth 8000 in
theorem account_payload_reads_back_sample :
    (∀ field ∈ [some (ascii "r-1"), some (ascii "12\"34"), some (ascii "021000021"), none],
        NulFree field) ∧
      (Json.renderTo 0 (accountJsonOf ⟨some (ascii "12\"34"), some (ascii "021000021"), none,
        some (ascii "r-1")⟩) []).length < 2048 ∧
      ∃ requestId accountNumber clearingSystemId clearingSystemIdType,
        (ValidationJson.validationCreateAccountPayload (some ⟨some (ascii "12\"34"),
            some (ascii "021000021"), none, some (ascii "r-1")⟩)).bind parseJson =
          some (accountJson requestId accountNumber clearingSystemId clearingSystemIdType) ∧
        (ValidationJson.validationCreateAccountPayload (some ⟨some (ascii "12\"34"),
            some (ascii "021000021"), none, some (ascii "r-1")⟩)).bind parseJsonText =
          (if [requestId, accountNumber, clearingSystemId, clearingSystemIdType].all Json.utf8Valid
            then some (accountJson requestId accountNumber clearingSystemId clearingSystemIdType)
            else none) ∧
        ShowsField (some (ascii "r-1")) requestId ∧ ShowsField (some (ascii "12\"34")) accountNumber ∧
        ShowsField (some (ascii "021000021")) clearingSystemId ∧
        ShowsField none clearingSystemIdType :=
  have hnul : ∀ field ∈ [some (ascii "r-1"), some (ascii "12\"34"), some (ascii "021000021"), none],
      NulFree field := by
    intro field hfield s hs
    simp only [List.mem_cons, List.not_mem_nil, or_false] at hfield
    rcases hfield with rfl | rfl | rfl | rfl <;> cases hs <;> decide
  have hfit : (Json.renderTo 0 (accountJsonOf ⟨some (ascii "12\"34"), some (ascii "021000021"),
      none, some (ascii "r-1")⟩) []).length < 2048 := by decide
  ⟨hnul, hfit, account_payload_reads_back _ hnul hfit⟩

set_option maxRecDepth 8000 in
/-- An account number of 1024 bytes `a`. Its escape does not fit the escape buffer: the last append
frees the buffer, `json_escape_string` returns `NULL`, and the hole holds the empty string. The
payload is JSON whose account number is empty. -/
theorem long_account_number_is_dropped :
    (ValidationJson.validationCreateAccountPayload
        (some ⟨some (List.replicate 1024 0x61), none, none, none⟩)).bind parseJson =
      some (accountJson [] [] [] []) := by
  have hnone : ValidationJson.jsonEscapeString (some (List.replicate 1024 0x61)) = none := by
    rw [← List.append_nil (List.replicate 1024 0x61), ValidationJson.jsonEscapeString,
      escapeLoop_replicate_a]
    rfl
  have hpay : ValidationJson.validationCreateAccountPayload
      (some ⟨some (List.replicate 1024 0x61), none, none, none⟩) =
        some (Json.renderTo 0 (accountJson [] [] [] []) []) :=
    accountPayload_eq rfl (by simp only [hnone]; rfl) rfl rfl (by decide)
  rw [hpay, Option.some_bind]
  exact parseJson_renderTo _ rfl

set_option maxRecDepth 8000 in
/-- The entity template with the escapes of four strings in its holes is their value printed, and
is the payload when it fits the buffer with its NUL. -/
theorem entityPayload_eq {request : EntityValidationRequest} {a b c d : Bytes}
    (ha : (ValidationJson.jsonEscapeString request.requestId).getD [] = jsonEscape a)
    (hb : (ValidationJson.jsonEscapeString request.firstName).getD [] = jsonEscape b)
    (hc : (ValidationJson.jsonEscapeString request.lastName).getD [] = jsonEscape c)
    (hd : (ValidationJson.jsonEscapeString request.fullName).getD [] = jsonEscape d)
    (hfit : (Json.renderTo 0 (entityJson a b c d) []).length < 2048) :
    ValidationJson.validationCreateEntityPayload (some request) =
      some (Json.renderTo 0 (entityJson a b c d) []) := by
  simp only [ValidationJson.validationCreateEntityPayload, ha, hb, hc, hd]
  exact Dynbuf.ptr_addAll_init (List.cons_ne_nil _ _) rfl hfit

theorem length_entityJson (a b c d : Bytes) :
    (Json.renderTo 0 (entityJson a b c d) []).length =
      (Json.renderTo 0 (entityJson [] [] [] []) []).length + (jsonEscape a).length +
        (jsonEscape b).length + (jsonEscape c).length + (jsonEscape d).length := by
  simp only [entityJson, Json.renderTo, Json.renderElems, Json.renderMembers, List.length_append,
    List.length_cons, jsonEscape_nil, List.length_nil]
  omega

theorem stringsUtf8_entityJson (a b c d : Bytes) :
    Json.stringsUtf8 (entityJson a b c d) = [a, b, c, d].all Json.utf8Valid := by
  simp only [entityJson, Json.stringsUtf8, Json.elemsUtf8, Json.membersUtf8, List.all_cons,
    List.all_nil]
  cases Json.utf8Valid a <;> cases Json.utf8Valid b <;> cases Json.utf8Valid c <;>
    cases Json.utf8Valid d <;> rfl

/-- **The entity payload, read back.** For a request whose strings have no NUL and whose value
printed fits the buffer of 2048 bytes with its NUL, the JSON grammar reads the payload as the entity
value, each name the field it stands for when the field's escape fits the escape buffer, and
otherwise a proper suffix of that field. The payload is JSON text exactly when those four strings
are UTF-8. -/
theorem entity_payload_reads_back (request : EntityValidationRequest)
    (hnul : ∀ field ∈ [request.requestId, request.firstName, request.lastName, request.fullName],
      NulFree field)
    (hfit : (Json.renderTo 0 (entityJsonOf request) []).length < 2048) :
    ∃ requestId firstName lastName fullName,
      (ValidationJson.validationCreateEntityPayload (some request)).bind parseJson =
          some (entityJson requestId firstName lastName fullName) ∧
        (ValidationJson.validationCreateEntityPayload (some request)).bind parseJsonText =
          (if [requestId, firstName, lastName, fullName].all Json.utf8Valid
            then some (entityJson requestId firstName lastName fullName) else none) ∧
        ShowsField request.requestId requestId ∧ ShowsField request.firstName firstName ∧
        ShowsField request.lastName lastName ∧ ShowsField request.fullName fullName := by
  obtain ⟨a, ha, hae⟩ := escapedField (hnul request.requestId (by simp))
  obtain ⟨b, hb, hbe⟩ := escapedField (hnul request.firstName (by simp))
  obtain ⟨c, hc, hce⟩ := escapedField (hnul request.lastName (by simp))
  obtain ⟨d, hd, hde⟩ := escapedField (hnul request.fullName (by simp))
  have hlen : (Json.renderTo 0 (entityJson a b c d) []).length < 2048 := by
    have := ha.length_le; have := hb.length_le; have := hc.length_le; have := hd.length_le
    rw [entityJsonOf, length_entityJson] at hfit
    rw [length_entityJson]
    omega
  have hpay := entityPayload_eq hae hbe hce hde hlen
  refine ⟨a, b, c, d, ?_, ?_, ha, hb, hc, hd⟩
  · rw [hpay, Option.some_bind]
    exact parseJson_renderTo _ rfl
  · rw [hpay, Option.some_bind, parseJsonText_renderTo (entityJson a b c d) rfl,
      stringsUtf8_entityJson]

set_option maxRecDepth 8000 in
theorem entity_payload_reads_back_sample :
    (∀ field ∈ [some (ascii "r-2"), some (ascii "Ana\tMaria"), some (ascii "O'Neil"), none],
        NulFree field) ∧
      (Json.renderTo 0 (entityJsonOf ⟨some (ascii "Ana\tMaria"), some (ascii "O'Neil"), none,
        some (ascii "r-2")⟩) []).length < 2048 ∧
      ∃ requestId firstName lastName fullName,
        (ValidationJson.validationCreateEntityPayload (some ⟨some (ascii "Ana\tMaria"),
            some (ascii "O'Neil"), none, some (ascii "r-2")⟩)).bind parseJson =
          some (entityJson requestId firstName lastName fullName) ∧
        (ValidationJson.validationCreateEntityPayload (some ⟨some (ascii "Ana\tMaria"),
            some (ascii "O'Neil"), none, some (ascii "r-2")⟩)).bind parseJsonText =
          (if [requestId, firstName, lastName, fullName].all Json.utf8Valid
            then some (entityJson requestId firstName lastName fullName) else none) ∧
        ShowsField (some (ascii "r-2")) requestId ∧ ShowsField (some (ascii "Ana\tMaria")) firstName ∧
        ShowsField (some (ascii "O'Neil")) lastName ∧ ShowsField none fullName :=
  have hnul : ∀ field ∈ [some (ascii "r-2"), some (ascii "Ana\tMaria"), some (ascii "O'Neil"),
      none], NulFree field := by
    intro field hfield s hs
    simp only [List.mem_cons, List.not_mem_nil, or_false] at hfield
    rcases hfield with rfl | rfl | rfl | rfl <;> cases hs <;> decide
  have hfit : (Json.renderTo 0 (entityJsonOf ⟨some (ascii "Ana\tMaria"), some (ascii "O'Neil"),
      none, some (ascii "r-2")⟩) []).length < 2048 := by decide
  ⟨hnul, hfit, entity_payload_reads_back _ hnul hfit⟩

/-! ### Payroll -/

set_option maxRecDepth 10000 in
/-- The payroll template with the escapes of nine strings, an amount and the escape of a currency in
its holes is their value printed, and is the payload when it fits the buffer with its NUL. -/
theorem payrollCeoPayload_eq {request : PayrollCeoValidationRequest}
    {requestId accountNumber clearingSystemId clearingSystemIdType firstName lastName fullName title
      department amount currency : Bytes}
    (h₁ : (ValidationPayrollCeo.jsonEscapeString request.requestId).getD [] = jsonEscape requestId)
    (h₂ : (ValidationPayrollCeo.jsonEscapeString request.accountNumber).getD [] =
      jsonEscape accountNumber)
    (h₃ : (ValidationPayrollCeo.jsonEscapeString request.clearingSystemId).getD [] =
      jsonEscape clearingSystemId)
    (h₄ : (ValidationPayrollCeo.jsonEscapeString request.clearingSystemIdType).getD [] =
      jsonEscape clearingSystemIdType)
    (h₅ : (ValidationPayrollCeo.jsonEscapeString request.firstName).getD [] = jsonEscape firstName)
    (h₆ : (ValidationPayrollCeo.jsonEscapeString request.lastName).getD [] = jsonEscape lastName)
    (h₇ : (ValidationPayrollCeo.jsonEscapeString request.fullName).getD [] = jsonEscape fullName)
    (h₈ : (ValidationPayrollCeo.jsonEscapeString request.ceoTitle).getD [] = jsonEscape title)
    (h₉ : (ValidationPayrollCeo.jsonEscapeString request.ceoDepartment).getD [] =
      jsonEscape department)
    (hamount : (ValidationPayrollCeo.jsonEscapeString request.payrollAmount).getD (ascii "0.00") =
      amount)
    (hcurrency :
      (ValidationPayrollCeo.jsonEscapeString request.payrollCurrency).getD (ascii "USD") =
        jsonEscape currency)
    (hfit : (Json.renderTo 0 (payrollCeoJson requestId accountNumber clearingSystemId
      clearingSystemIdType firstName lastName fullName title department amount currency)
        []).length < 4096) :
    ValidationPayrollCeo.validationCreatePayrollCeoPayload (some request) =
      some (Json.renderTo 0 (payrollCeoJson requestId accountNumber clearingSystemId
        clearingSystemIdType firstName lastName fullName title department amount currency) []) := by
  simp only [ValidationPayrollCeo.validationCreatePayrollCeoPayload, h₁, h₂, h₃, h₄, h₅, h₆, h₇, h₈,
    h₉, hamount, hcurrency]
  exact Dynbuf.ptr_addAll_init (List.cons_ne_nil _ _) rfl hfit

/-- The only number of the payroll value is its amount. -/
theorem numbersOk_payrollCeoJson (requestId accountNumber clearingSystemId clearingSystemIdType
    firstName lastName fullName title department amount currency : Bytes) :
    Json.numbersOk (payrollCeoJson requestId accountNumber clearingSystemId clearingSystemIdType
      firstName lastName fullName title department amount currency) =
        Json.numbersOk (.number amount) := by
  simp [payrollCeoJson, Json.numbersOk, Json.elemsNumbersOk, Json.membersNumbersOk]

/-- A request whose amount is empty or a number literal has a payroll value whose numbers read as
themselves. -/
theorem numbersOk_payrollCeoJsonOf {request : PayrollCeoValidationRequest} {amount : Bytes}
    (hsome : request.payrollAmount = some amount)
    (hlit : amount = [] ∨ Json.readNumber amount = some (amount, []) ∧ amount.length < 1024) :
    Json.numbersOk (payrollCeoJsonOf request) = true := by
  rw [payrollCeoJsonOf, numbersOk_payrollCeoJson, hsome, Option.getD_some]
  rcases hlit with rfl | ⟨hread, -⟩
  · decide
  · obtain ⟨c, t, rfl, -⟩ := Json.readNumber_start hread
    exact Json.numbersOk_number.mpr hread

/-- The amount hole of a present amount: `0.00` for an empty amount, and otherwise the amount,
which is a number literal and so its own escape. -/
theorem escapedAmount {field : Option Bytes} {amount : Bytes} (hsome : field = some amount)
    (hlit : amount = [] ∨ Json.readNumber amount = some (amount, []) ∧ amount.length < 1024) :
    (ValidationPayrollCeo.jsonEscapeString field).getD (ascii "0.00") =
      if field.getD [] = [] then ascii "0.00" else field.getD [] := by
  subst hsome
  rcases hlit with rfl | ⟨hread, hlen⟩
  · rfl
  obtain ⟨hesc, h0⟩ := Json.jsonEscape_of_readNumber hread
  obtain ⟨c, t, rfl, -⟩ := Json.readNumber_start hread
  rw [ValidationPayrollCeo.jsonEscapeString, jsonEscapeString_of_fits h0 (by rw [hesc]; exact hlen),
    hesc]
  rfl

/-- The currency hole of a present currency whose escape fits: the escape of `USD` for an empty
currency, and otherwise the escape of the currency. -/
theorem escapedCurrency {field : Option Bytes}
    (hfield : ∀ s ∈ field, 0 ∉ s ∧ (jsonEscape s).length < 1024) (hne : field ≠ none) :
    (ValidationPayrollCeo.jsonEscapeString field).getD (ascii "USD") =
      jsonEscape (if field.getD [] = [] then ascii "USD" else field.getD []) := by
  obtain ⟨currency, rfl⟩ := Option.ne_none_iff_exists'.mp hne
  obtain ⟨h0, hfit⟩ := hfield currency rfl
  rw [ValidationPayrollCeo.jsonEscapeString, jsonEscapeString_of_fits h0 hfit, Option.getD_some]
  split_ifs <;> rfl

/-- The request of the source's payroll test, with no title or department. -/
def payrollTestRequest : PayrollCeoValidationRequest :=
  ⟨some (ascii "123e4567-e89b-12d3-a456-426614174124"), some (ascii "12345"),
    some (ascii "122199983"), some (ascii "ABA"), some (ascii "Jane"), some (ascii "Abbot"),
    some (ascii "Jane Abbot"), some (ascii "2500.00"), some (ascii "USD"), none, none⟩

set_option maxRecDepth 10000 in
/-- Two requests the payroll payload gets wrong. With every field `NULL`, the amount hole holds the
escape of `NULL`, which is the empty string and not `NULL`, so the text has `"amount": ,` and is
not JSON. With an amount and a `NULL` currency, the currency hole holds the empty string where the
default is `USD`. -/
theorem payroll_payload_of_null_fields :
    (ValidationPayrollCeo.validationCreatePayrollCeoPayload
        (some ⟨none, none, none, none, none, none, none, none, none, none, none⟩)).bind parseJson =
      none ∧
    (ValidationPayrollCeo.validationCreatePayrollCeoPayload
        (some ⟨none, none, none, none, none, none, none, some (ascii "2500.00"), none, none, none⟩)).bind
          parseJson = some (payrollCeoJson [] [] [] [] [] [] [] [] [] (ascii "2500.00") []) := by
  have hnull : ValidationPayrollCeo.validationCreatePayrollCeoPayload
      (some ⟨none, none, none, none, none, none, none, none, none, none, none⟩) =
        some (Json.renderTo 0 (payrollCeoJson [] [] [] [] [] [] [] [] [] [] []) []) :=
    payrollCeoPayload_eq rfl rfl rfl rfl rfl rfl rfl rfl rfl rfl rfl (by decide)
  have hamount : ValidationPayrollCeo.validationCreatePayrollCeoPayload
      (some ⟨none, none, none, none, none, none, none, some (ascii "2500.00"), none, none, none⟩) =
        some (Json.renderTo 0
          (payrollCeoJson [] [] [] [] [] [] [] [] [] (ascii "2500.00") []) []) :=
    payrollCeoPayload_eq rfl rfl rfl rfl rfl rfl rfl rfl rfl rfl rfl (by decide)
  rw [hnull, hamount, Option.some_bind, Option.some_bind]
  exact ⟨Option.isNone_iff_eq_none.mp (by decide), parseJson_renderTo _ (by decide)⟩

end CurlValidation
