import CurlValidation.JsonEscape

/-!
# The JSON payloads

`validation_create_account_payload` and `validation_create_entity_payload` of
`validation_json.c`, and `validation_create_payroll_ceo_payload` of `validation_payroll_ceo.c`.
Each escapes the string fields of its request with `json_escape_string`, appends a fixed template
to one dynbuf with the escaped fields in its holes, ignoring what each `Curl_dyn_add` returns, and
returns `Curl_dyn_ptr` of the buffer. A hole holds `escaped ? escaped : ""`; the payroll amount
and currency holes hold `"0.00"` and `"USD"` in place of `""`.

`curl_validation_payroll_ceo` builds the payroll payload, answers `CURLE_OUT_OF_MEMORY` when it is
`NULL`, and otherwise sets the URL, the payload and `strlen` of it as the POST body and its size on
the handle and runs `curl_easy_perform`, whose result is the environment's.

The escapes of `financial_institution_id` and `entity_type` (account), of `entity_type`,
`postal_address` and `identification` (entity) and of `financial_institution_id`, `employer_name`
and `employer_id` (payroll) are computed and freed unused, and `json_escape_string` does nothing
else, so the requests leave these fields out. A `NULL` field is `none`.
-/

namespace CurlValidation

/-- `struct account_validation_request`, the fields the payload shows. -/
structure AccountValidationRequest where
  accountNumber : Option Bytes
  clearingSystemId : Option Bytes
  clearingSystemIdType : Option Bytes
  requestId : Option Bytes
deriving DecidableEq

/-- `struct entity_validation_request`, the fields the payload shows. -/
structure EntityValidationRequest where
  firstName : Option Bytes
  lastName : Option Bytes
  fullName : Option Bytes
  requestId : Option Bytes
deriving DecidableEq

/-- `struct payroll_ceo_validation_request`, the fields the payload shows. -/
structure PayrollCeoValidationRequest where
  requestId : Option Bytes
  accountNumber : Option Bytes
  clearingSystemId : Option Bytes
  clearingSystemIdType : Option Bytes
  firstName : Option Bytes
  lastName : Option Bytes
  fullName : Option Bytes
  payrollAmount : Option Bytes
  payrollCurrency : Option Bytes
  ceoTitle : Option Bytes
  ceoDepartment : Option Bytes
deriving DecidableEq

namespace ValidationJson

/-- `validation_create_account_payload(request)`: a buffer of limit 2048. -/
def validationCreateAccountPayload : Option AccountValidationRequest → Option Bytes
  | none => none
  | some request =>
    let escapedAccount := jsonEscapeString request.accountNumber
    let escapedClearingId := jsonEscapeString request.clearingSystemId
    let escapedClearingType := jsonEscapeString request.clearingSystemIdType
    let escapedRequestId := jsonEscapeString request.requestId
    ((Dynbuf.init 2048).addAll
      [ascii "[\n",
       ascii "  \x7b\n",
       ascii "    \"requestId\": \"",
       escapedRequestId.getD [],
       ascii "\",\n",
       ascii "    \"account\": \x7b\n",
       ascii "      \"accountNumber\": \"",
       escapedAccount.getD [],
       ascii "\",\n",
       ascii "      \"financialInstitutionId\": \x7b\n",
       ascii "        \"clearingSystemId\": \x7b\n",
       ascii "          \"id\": \"",
       escapedClearingId.getD [],
       ascii "\",\n",
       ascii "          \"idType\": \"",
       escapedClearingType.getD [],
       ascii "\"\n",
       ascii "        \x7d\n",
       ascii "      \x7d\n",
       ascii "    \x7d,\n",
       ascii "    \"entity\": \x7b\n",
       ascii "      \"individual\": \x7b\n",
       ascii "        \"firstName\": \"Jane\",\n",
       ascii "        \"lastName\": \"Abbot\",\n",
       ascii "        \"fullName\": \"Jane Abbot\"\n",
       ascii "      \x7d\n",
       ascii "    \x7d\n",
       ascii "  \x7d\n",
       ascii "]"]).ptr

/-- `validation_create_entity_payload(request)`: a buffer of limit 2048. -/
def validationCreateEntityPayload : Option EntityValidationRequest → Option Bytes
  | none => none
  | some request =>
    let escapedFirstName := jsonEscapeString request.firstName
    let escapedLastName := jsonEscapeString request.lastName
    let escapedFullName := jsonEscapeString request.fullName
    let escapedRequestId := jsonEscapeString request.requestId
    ((Dynbuf.init 2048).addAll
      [ascii "[\n",
       ascii "  \x7b\n",
       ascii "    \"requestId\": \"",
       escapedRequestId.getD [],
       ascii "\",\n",
       ascii "    \"entity\": \x7b\n",
       ascii "      \"individual\": \x7b\n",
       ascii "        \"firstName\": \"",
       escapedFirstName.getD [],
       ascii "\",\n",
       ascii "        \"lastName\": \"",
       escapedLastName.getD [],
       ascii "\",\n",
       ascii "        \"fullName\": \"",
       escapedFullName.getD [],
       ascii "\"\n",
       ascii "      \x7d\n",
       ascii "    \x7d\n",
       ascii "  \x7d\n",
       ascii "]"]).ptr

end ValidationJson

namespace ValidationPayrollCeo

/-- `validation_create_payroll_ceo_payload(request)`: a buffer of limit 4096. -/
def validationCreatePayrollCeoPayload : Option PayrollCeoValidationRequest → Option Bytes
  | none => none
  | some request =>
    let escapedAccount := jsonEscapeString request.accountNumber
    let escapedClearingId := jsonEscapeString request.clearingSystemId
    let escapedClearingType := jsonEscapeString request.clearingSystemIdType
    let escapedFirstName := jsonEscapeString request.firstName
    let escapedLastName := jsonEscapeString request.lastName
    let escapedFullName := jsonEscapeString request.fullName
    let escapedAmount := jsonEscapeString request.payrollAmount
    let escapedCurrency := jsonEscapeString request.payrollCurrency
    let escapedRequestId := jsonEscapeString request.requestId
    let escapedCeoTitle := jsonEscapeString request.ceoTitle
    let escapedCeoDepartment := jsonEscapeString request.ceoDepartment
    ((Dynbuf.init 4096).addAll
      [ascii "[\n",
       ascii "  \x7b\n",
       ascii "    \"requestId\": \"",
       escapedRequestId.getD [],
       ascii "\",\n",
       ascii "    \"account\": \x7b\n",
       ascii "      \"accountNumber\": \"",
       escapedAccount.getD [],
       ascii "\",\n",
       ascii "      \"financialInstitutionId\": \x7b\n",
       ascii "        \"clearingSystemId\": \x7b\n",
       ascii "          \"id\": \"",
       escapedClearingId.getD [],
       ascii "\",\n",
       ascii "          \"idType\": \"",
       escapedClearingType.getD [],
       ascii "\"\n",
       ascii "        \x7d\n",
       ascii "      \x7d\n",
       ascii "    \x7d,\n",
       ascii "    \"entity\": \x7b\n",
       ascii "      \"individual\": \x7b\n",
       ascii "        \"firstName\": \"",
       escapedFirstName.getD [],
       ascii "\",\n",
       ascii "        \"lastName\": \"",
       escapedLastName.getD [],
       ascii "\",\n",
       ascii "        \"fullName\": \"",
       escapedFullName.getD [],
       ascii "\",\n",
       ascii "        \"title\": \"",
       escapedCeoTitle.getD [],
       ascii "\",\n",
       ascii "        \"department\": \"",
       escapedCeoDepartment.getD [],
       ascii "\"\n",
       ascii "      \x7d\n",
       ascii "    \x7d,\n",
       ascii "    \"transactions\": [\n",
       ascii "      \x7b\n",
       ascii "        \"context\": \"PAYROLL\",\n",
       ascii "        \"amount\": \x7b\n",
       ascii "          \"amount\": ",
       escapedAmount.getD (ascii "0.00"),
       ascii ",\n",
       ascii "          \"currency\": \"",
       escapedCurrency.getD (ascii "USD"),
       ascii "\"\n",
       ascii "        \x7d\n",
       ascii "      \x7d\n",
       ascii "    ]\n",
       ascii "  \x7d\n",
       ascii "]"]).ptr

/-- The URL `curl_validation_payroll_ceo` posts to. -/
def payrollCeoUrl : Bytes :=
  ascii "https://api.payments.jpmorgan.com/tsapi/v2/validations/accounts"

/-- The options `curl_validation_payroll_ceo` sets on the handle before `curl_easy_perform`:
`CURLOPT_URL`, `CURLOPT_POSTFIELDS` and `CURLOPT_POSTFIELDSIZE`. -/
structure PayrollCeoTransfer where
  url : Bytes
  postFields : Bytes
  postFieldSize : Nat
deriving DecidableEq

/-- The body libcurl sends: the first `CURLOPT_POSTFIELDSIZE` bytes of `CURLOPT_POSTFIELDS`. -/
def PayrollCeoTransfer.body (t : PayrollCeoTransfer) : Bytes := t.postFields.take t.postFieldSize

/-- The rest of `curl_validation_payroll_ceo` once the payload is built: `CURLE_OUT_OF_MEMORY` for
a `NULL` payload, and otherwise the three options set and `curl_easy_perform`, whose result
`perform` gives. -/
def postPayrollCeoPayload (payload : Option Bytes) (perform : PayrollCeoTransfer → CURLcode) :
    CURLcode × Option PayrollCeoTransfer :=
  match payload with
  | none => (CURLcode.outOfMemory, none)
  | some payload =>
    let transfer : PayrollCeoTransfer := ⟨payrollCeoUrl, payload, strlen payload⟩
    (perform transfer, some transfer)

/-- `curl_validation_payroll_ceo(curl, request)`: the result, and the transfer it ran if it ran
one; the handle's other options are left as they were. -/
def curlValidationPayrollCeo (curl : Bool) (request : Option PayrollCeoValidationRequest)
    (perform : PayrollCeoTransfer → CURLcode) : CURLcode × Option PayrollCeoTransfer :=
  match curl, request with
  | true, some request => postPayrollCeoPayload (validationCreatePayrollCeoPayload (some request))
    perform
  | _, _ => (CURLcode.badFunctionArgument, none)

end ValidationPayrollCeo

end CurlValidation
