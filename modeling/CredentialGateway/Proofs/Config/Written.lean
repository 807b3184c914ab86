import CredentialGateway.Proofs.Config.Completion
import CredentialGateway.Proofs.Json.Text

/-! Configurations survive being written as JSON and read again, in full and in part. -/

namespace CredentialGateway

namespace Config

variable {c : Config} (dialect : Dialect)

/-! ### Edits that keep everything -/

theorem completeService_keep (s : Service) : completeService .keep s = s := by
  obtain ⟨id, targetUrl, - | c⟩ := s <;> rfl

theorem complete_keep (c : Config) : complete .keep c = c := by
  have hservices : completeServices .keep c.services.zipIdx = c.services := by
    have hmap : completeServices .keep c.services.zipIdx = c.services.zipIdx.map Prod.fst :=
      List.map_congr_left fun s _ => completeService_keep s.1
    rw [hmap, List.zipIdx_map_fst]
  have hsections : complete .keep c = { c with services := completeServices .keep c.services.zipIdx } := rfl
  rw [hsections, hservices]

theorem not_lacksField_keep (required : List String) : ¬LacksField .keep required := by
  rintro ⟨_, _, ⟨⟩⟩

theorem not_lacks_keep (c : Config) : ¬Lacks .keep c := by
  rintro ⟨-, s, -, hfield | ⟨-, c, -, hkind⟩⟩
  · exact not_lacksField_keep _ hfield
  · rcases hkind with ⟨-, -, hfield⟩ | ⟨-, -, hfield⟩ | ⟨-, -, hfield⟩ | ⟨-, -, hfield⟩ <;>
      exact not_lacksField_keep _ hfield

theorem decode?_encode (hfits : c.Fits) : decode? dialect (encode c) = some c := by
  have hread := (decode?_apply dialect (Edit.fresh_keep (encode c)) hfits).gives (not_lacks_keep c)
  rwa [Edit.apply_keep, complete_keep] at hread

/-! ### Texts -/

section Writable
open Json

variable {depth : Nat}

theorem writable_ofNat {n : Nat} (hn : n < Nat.pow 2 64) : Writable depth (.ofNat n) := .integer (by constructor <;> omega)

theorem writable_ofOption {α : Type} {encode : α → Datum} (h : ∀ a, Writable depth (encode a)) (o : Option α) :
    Writable depth (.ofOption encode o) := by
  cases o with
  | none => exact .null
  | some a => exact h a

theorem writable_encodeForwarding (hfits : c.Fits) : Writable (depth + 1) (encodeForwarding c.forwarding) := by
  refine .table ?_
  simp only [List.forall_mem_cons]
  exact ⟨writable_ofNat hfits.timeout, .bool _, writable_ofNat hfits.cacheTtl, writable_ofNat hfits.sweepInterval,
    writable_ofNat hfits.maxBody, List.forall_mem_nil _⟩

theorem writable_encodeObservability (o : Observability) : Writable (depth + 1) (encodeObservability o) := by
  have hformat : Writable depth (encodeLogFormat o.logFormat) := by cases o.logFormat <;> exact .text _
  exact .table (by simp [Writable.text, Writable.bool, hformat])

theorem writable_encodeCredentials (c : Credentials) : Writable (depth + 2) (encodeCredentials c) := by
  have hoauth (o : OAuthCredentials) : Writable (depth + 1) (encodeOAuth o) := .table (by simp [Writable.text])
  have hbasic (b : BasicCredentials) : Writable (depth + 1) (encodeBasic b) := .table (by simp [Writable.text])
  have hcertificate (r : CertificateRequest) : Writable (depth + 1) (encodeCertificate r) := .table (by simp [Writable.text])
  have hcsrf (e : CsrfEndpoint) : Writable (depth + 1) (encodeCsrf e) := .table (by simp [Writable.text])
  exact .table (by simp [writable_ofOption, hoauth, hbasic, hcertificate, hcsrf])

theorem writable_encodeService (s : Service) : Writable (depth + 3) (encodeService s) :=
  .table (by simp [Writable.text, writable_ofOption, writable_encodeCredentials])

theorem writable_encode (hfits : c.Fits) : Writable (depth + 5) (encode c) := by
  have hlistener : Writable (depth + 4) (encodeListener c.listener) := .table (by simp [Writable.text])
  have htokenCalls : Writable (depth + 4) (encodeTokenCalls c.tokenCalls) :=
    .table (List.forall_mem_singleton.mpr (writable_ofNat hfits.tokenTimeout))
  have hnaming : Writable (depth + 4) (encodeNaming c.naming) := .table (by simp [Writable.text])
  have hservices : Writable (depth + 4) (.list (c.services.map encodeService)) :=
    .list (by simp [writable_encodeService])
  exact .table (by
    simp [hlistener, writable_encodeForwarding hfits, htokenCalls, hnaming, writable_encodeObservability, hservices])

theorem writable_apply {e : Edit} {d : Datum} {extra : Nat} (h : Writable depth d)
    (hadded : ∀ path, ∀ f ∈ (e path).added, Writable extra f.2) : Writable (depth + extra) (e.apply d) := by
  induction h generalizing e with
  | null => exact .null
  | bool b => exact .bool b
  | integer hn => exact .integer hn
  | text s => exact .text s
  | @list depth items _ ih =>
    rw [Edit.apply, Nat.succ_add_eq_add_succ depth extra]
    refine .list fun d hd => ?_
    obtain ⟨index, original, horiginal, rfl⟩ := Edit.exists_of_mem_applyItems hd
    exact ih original horiginal fun path => hadded (.item index :: path)
  | @table depth fields _ ih =>
    rw [Edit.apply_table, Nat.succ_add_eq_add_succ depth extra]
    refine .table fun f hf => ?_
    rcases TableEdit.mem_apply.mp hf with ⟨hkept, -⟩ | hnew
    · rw [Edit.applyFields_eq, List.mem_map] at hkept
      obtain ⟨original, horiginal, rfl⟩ := hkept
      exact ih original horiginal fun path => hadded (.field original.1 :: path)
    · exact (hadded [] f hnew).mono (Nat.le_add_left extra depth)

end Writable

def toJson (c : Config) : String := String.ofList (Json.render (encode c))

def ofJson? (text : String) : Option Config := (Json.parse? text).bind (decode? .json)

/-- A configuration whose numbers have 64 bits is read from its JSON text. However it is edited before, with fields left
out, fields of unknown keys added and the order of fields changed at any level, what is read has the defaults of
exactly those fields that are left out; and nothing is read exactly if one without a default is left out. If JSON can
hold what is added, the edited tree is had from its text as well. -/
theorem survives_writing (c : Config) (hfits : c.Fits) :
    ofJson? (toJson c) = some c ∧
      ∀ e : Edit, e.Fresh (encode c) →
        (∀ dialect,
          (¬Lacks e c → decode? dialect (e.apply (encode c)) = some (complete e c)) ∧
            (Lacks e c → decode? dialect (e.apply (encode c)) = none)) ∧
          ((∀ path, ∀ f ∈ (e path).added, Json.Writable 122 f.2) →
            Json.parse? (String.ofList (Json.render (e.apply (encode c)))) = some (e.apply (encode c))) := by
  have hwritable (extra : Nat) : Json.Writable (5 + extra) (encode c) := by
    rw [Nat.add_comm]
    exact writable_encode hfits
  refine ⟨?_, fun e hfresh => ⟨fun dialect => ?_, fun hadded => ?_⟩⟩
  · rw [ofJson?, toJson, Json.parse?_render (hwritable 122), Option.bind_some, decode?_encode .json hfits]
  · have hread := decode?_apply dialect hfresh hfits
    exact ⟨hread.gives, hread.fails⟩
  · exact Json.parse?_render (writable_apply (hwritable 0) hadded)

end Config

namespace Harbour
open Config

def config : Config :=
  { forwarding := { timeout := 3, maxBody := 18446744073709551615 }
    services := [⟨"berth", "http://berth", some { basic := some ⟨"pilot", "a\nb"⟩ }⟩] }

def edit : Edit
  | [.field "proxy"] =>
    { omits := (· == "timeout_secs")
      added := [("tide", .list [.real])]
      arrange := List.reverse
      arrange_perm := List.reverse_perm }
  | _ => .keep

theorem fresh_edit : edit.Fresh (encode config) := by
  intro path fields hpath f hf
  unfold edit at hf
  split at hf
  · obtain rfl := List.mem_singleton.mp hf
    have hfields : (encode config).at? [.field "proxy"] = some (encodeForwarding config.forwarding) := rfl
    rw [hfields] at hpath
    cases hpath
    simp
  · cases hf

theorem not_lacks_edit : ¬Lacks edit config := by
  have hunder : edit.under (.field "services") = .keep := by
    funext path
    cases path <;> rfl
  rintro ⟨-, hservices⟩
  rw [hunder] at hservices
  exact not_lacks_keep config ⟨rfl, hservices⟩

def careless : Edit
  | [.field "services", .item 0, .field "credentials", .field "basic"] => { TableEdit.keep with omits := (· == "password") }
  | _ => .keep

theorem fresh_careless : careless.Fresh (encode config) := by
  intro path fields _ f hf
  unfold careless at hf
  split at hf <;> cases hf

theorem lacks_careless : Lacks careless config :=
  ⟨rfl, _, List.mem_cons_self, .inr ⟨rfl, _, rfl, .inr (.inl ⟨rfl, rfl, "password", by simp, rfl⟩)⟩⟩

end Harbour

open Config Harbour in
/-- The harbour's timeout comes back as the default, and all else as it was; without the password nothing is read. -/
theorem harbour_survives : config.Fits ∧ ofJson? (toJson config) = some config ∧
    decode? .json (edit.apply (encode config)) =
      some { config with forwarding := { config.forwarding with timeout := 10 } } ∧
    decode? .json (careless.apply (encode config)) = none := by
  have hfits : config.Fits := ⟨by decide, by decide, by decide, by decide, by decide⟩
  obtain ⟨htext, hedits⟩ := survives_writing config hfits
  exact ⟨hfits, htext, ((hedits edit fresh_edit).1 .json).1 not_lacks_edit,
    ((hedits careless fresh_careless).1 .json).2 lacks_careless⟩

end CredentialGateway
