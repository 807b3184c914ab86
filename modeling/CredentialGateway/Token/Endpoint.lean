import CredentialGateway.Json.Text
import CredentialGateway.Network.Client
import CredentialGateway.Token.Store

/-! Asking a token endpoint for a token with client credentials. -/

namespace CredentialGateway.Token

open Http

def isFormByte (b : UInt8) : Bool :=
  let c := Char.ofNat b.toNat
  b < 128 && (c.isAlphanum || "*-._".toList.contains c)

def encodeByte (b : UInt8) : List Char :=
  if b = 32 then ['+'] else if isFormByte b then [Char.ofNat b.toNat] else Url.percentByte b

def formText (s : String) : List Char := (Bytes.ofText s).flatMap encodeByte

def formBody (fields : List (String × String)) : Bytes :=
  Bytes.ofChars (['&'].intercalate (fields.map fun f => formText f.1 ++ '=' :: formText f.2))

def requestBody (clientId clientSecret : String) : Bytes :=
  formBody
    [("grant_type", "client_credentials"), ("client_id", clientId), ("client_secret", clientSecret)]

def requestHeaders (h : Headers) : Headers :=
  (h.add .accept ⟨Bytes.ofText "application/json", false⟩).add .contentType
    ⟨Bytes.ofText "application/x-www-form-urlencoded", false⟩

def orNull? {α : Type} (read : Datum → Option α) : Datum → Option (Option α)
  | .null => some none
  | d => (read d).map some

def answerFields : List String := ["access_token", "token_type", "expires_in"]

/-- The fields of an answer; a list holds them in order. -/
def fields? : Datum → Option (List (String × Datum))
  -- A field that is known may not be repeated.
  | .table fields =>
    if answerFields.all fun key => (fields.filter fun f => f.1 == key).length ≤ 1 then some fields else none
  | .list items => if answerFields.length < items.length then none else some (answerFields.zip items)
  | _ => none

def answerOf? (d : Datum) : Option TokenAnswer := do
  let fields ← fields? d
  let accessToken ← (Datum.field? fields "access_token").bind Datum.text?
  let tokenType ← orNull? Datum.text? ((Datum.field? fields "token_type").getD .null)
  let expiresIn ← orNull? Datum.nat? ((Datum.field? fields "expires_in").getD .null)
  some ⟨accessToken, tokenType, expiresIn⟩

def readAnswer (url : String) (body : Option Bytes) : Except TokenError TokenAnswer :=
  match ((body.bind Bytes.text?).bind Json.parse?).bind answerOf? with
  | none => .error (.malformed url "error decoding response body")
  | some a => if a.accessToken = "" then .error (.malformed url "empty access_token") else .ok a

/-- Requests a token. The timeout covers redirects and the reading of the answer. -/
def requestToken (n : Network) (timeout : Nat) (clientId clientSecret url : String) (w : World) :
    Except TokenError TokenAnswer × World :=
  match Call.request n timeout .post url requestHeaders (requestBody clientId clientSecret) w with
  | (.error e, w) => (.error (.request url e.message), w)
  | (.ok r, w) =>
    if !isSuccess r.status then (.error (.status url r.status), w)
    else
      let (body, w) := r.readBody w
      (readAnswer url body, w)

end CredentialGateway.Token
