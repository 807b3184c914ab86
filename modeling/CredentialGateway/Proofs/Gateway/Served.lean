import CredentialGateway.Gateway.Dispatch
import CredentialGateway.Proofs.Config.Directory
import CredentialGateway.Proofs.Routing.Naming
import CredentialGateway.Proofs.Url.Held

/-! Which services of an accepted configuration requests can reach: those whose ids hosts can name, as far as requests
can be forwarded to their targets. -/

namespace CredentialGateway

open Http

def IsVisible (c : Char) : Prop := 32 ≤ c.toNat ∧ c.toNat < 127 ∨ c.toNat = 9

instance : DecidablePred IsVisible := fun _ => inferInstanceAs (Decidable (_ ∨ _))

def isWebTarget (text : String) : Bool :=
  match Url.parse text with
  | .ok u => u.scheme == "http".toList || u.scheme == "https".toList
  | .error _ => false

variable {c : Config} {s : Service} {network : Network} {id text : String} {cs : List Char}

theorem visible_of_all (h : cs.all (fun c => IsVisible c) = true) : ∀ c ∈ cs, IsVisible c := by
  intro c hc
  simpa using List.all_eq_true.mp h c hc

theorem IsVisible.ascii {c : Char} (h : IsVisible c) : c.toNat < 0x80 := by
  unfold IsVisible at h
  omega

theorem IsVisible.check {P : Char → Prop} (h : ∀ n < 0x80, IsVisible (Char.ofNat n) → P (Char.ofNat n)) {c : Char}
    (hc : IsVisible c) : P c := by
  have hp := h c.toNat hc.ascii
  rw [Char.ofNat_toNat] at hp
  exact hp hc

theorem alphabet_visible : Resolver.Alphabet IsVisible := by
  constructor
  · intro cs hcs d hd
    have hlower {c : Char} (hc : IsVisible c) : IsVisible c.toLower :=
      IsVisible.check (P := fun c => IsVisible c.toLower) (by decide +kernel) hc
    rw [Unicode.lower_ascii fun c hc => (hcs c hc).ascii] at hd
    obtain ⟨c, hc, rfl⟩ := List.mem_map.mp hd
    exact hlower (hcs c hc)
  · exact visible_of_all (by decide)

theorem visible_of_chars? {v : HeaderValue} (h : v.chars? = some cs) : ∀ c ∈ cs, IsVisible c := by
  have hbyte : ∀ n < 256, isVisibleByte (UInt8.ofNat n) = true → IsVisible (Char.ofNat n) := by decide +kernel
  unfold HeaderValue.chars? at h
  split at h
  · rename_i hall
    cases h
    intro c hc
    obtain ⟨b, hb, rfl⟩ := List.mem_map.mp hc
    refine hbyte b.toNat b.toNat_lt ?_
    rw [UInt8.ofNat_toNat]
    exact List.all_eq_true.mp hall b hb
  · cases h

theorem chars?_ofChars (h : ∀ c ∈ cs, IsVisible c) (sensitive : Bool) :
    HeaderValue.chars? ⟨Bytes.ofChars cs, sensitive⟩ = some cs := by
  let byte (c : Char) : UInt8 := UInt8.ofNat c.toNat
  have hchar {c : Char} (hc : c ∈ cs) :
      isVisibleByte (byte c) = true ∧ (byte c).toNat = c.toNat ∧ String.utf8EncodeChar c = [byte c] :=
    IsVisible.check
      (P := fun c => isVisibleByte (byte c) = true ∧ (byte c).toNat = c.toNat ∧ String.utf8EncodeChar c = [byte c])
      (by decide +kernel) (h c hc)
  have hbytes : Bytes.ofChars cs = cs.map byte := by
    rw [List.map_eq_flatMap]
    exact List.flatMap_congr fun c hc => (hchar hc).2.2
  have hall : (cs.map byte).all isVisibleByte = true := by
    rw [List.all_map, List.all_eq_true]
    exact fun c hc => (hchar hc).1
  have hback : cs.map ((fun b => Char.ofNat b.toNat) ∘ byte) = cs := by
    refine (List.map_congr_left fun c hc => ?_).trans (List.map_id cs)
    rw [Function.comp_apply, (hchar hc).2.1, Char.ofNat_toNat]
    rfl
  rw [hbytes, HeaderValue.chars?, if_pos hall, List.map_map, hback]

theorem exists_chars? (h : ∀ c ∈ cs, IsVisible c) : ∃ v : HeaderValue, v.chars? = some cs :=
  ⟨⟨Bytes.ofChars cs, false⟩, chars?_ofChars h false⟩

theorem serviceOf_host_iff (g : Gateway) : (∃ q : Request, q.uri.authority? = none ∧ g.serviceOf q = .ok id) ↔
    ∃ host, (∀ c ∈ host, IsVisible c) ∧ g.resolver.serviceId? (String.ofList host) = some id := by
  constructor
  · rintro ⟨q, huri, hq⟩
    unfold Gateway.serviceOf at hq
    split at hq
    · cases hq
    · rename_i host hhost
      split at hq
      · cases hq
      · rename_i id' hid
        cases hq
        rw [Request.host?, huri, Option.or_none, Option.map_eq_some_iff] at hhost
        obtain ⟨cs, hcs, rfl⟩ := hhost
        obtain ⟨hchars, -⟩ := Option.filter_eq_some_iff.mp hcs
        obtain ⟨v, -, hv⟩ := Option.bind_eq_some_iff.mp hchars
        exact ⟨cs, visible_of_chars? hv, hid⟩
  · rintro ⟨host, hvisible, hid⟩
    obtain ⟨v, hv⟩ := exists_chars? hvisible
    have hne : host ≠ [] := by
      rintro rfl
      rw [Resolver.serviceId?_empty] at hid
      cases hid
    -- The target `*` names no host of its own.
    refine ⟨⟨.get, .asterisk, ⟨[(.host, v)]⟩, .whole []⟩, rfl, ?_⟩
    have hhost : Request.host? ⟨.get, .asterisk, ⟨[(.host, v)]⟩, .whole []⟩ = some (String.ofList host) := by
      have hget : (⟨[(.host, v)]⟩ : Headers).get? .host = some v := rfl
      rw [Request.host?, hget, Option.bind_some, hv, Option.some_or, Option.filter_some, if_pos (by simpa using hne)]
      rfl
    rw [Gateway.serviceOf, hhost]
    dsimp only
    rw [hid]

theorem readTarget_isOk_iff : (∃ u, Cache.readTarget text = .ok u) ↔ isWebTarget text = true := by
  unfold Cache.readTarget isWebTarget
  split
  · rename_i hparse
    simp [hparse]
  · rename_i u hparse
    rw [hparse]
    dsimp only
    by_cases hweb : u.scheme = "http".toList ∨ u.scheme = "https".toList
    · have hheld := Url.isHeld_of_parse hparse hweb
      rw [if_pos hweb, if_pos hheld.authority]
      simpa using hweb
    · rw [if_neg hweb]
      simpa using hweb

theorem put_isOk_iff (cache : Cache) (now : Nat) (id : String) (strategy : Strategy) :
    (∃ stored, cache.put now id text strategy = .ok stored) ↔ isWebTarget text = true := by
  rw [← readTarget_isOk_iff]
  unfold Cache.put
  split
  · rename_i u hread
    simp [hread]
  · rename_i reason hread
    simp [hread]

theorem rebuildEntry_isOk_iff {x : Gateway.State} {d : ServiceDefinition}
    (h : ∀ turn, x.metadata.lookup turn id = .ok d) :
    (∃ e, (x.rebuildEntry id).1 = .ok e) ↔ isWebTarget d.targetUrl = true := by
  rw [← put_isOk_iff x.cache x.now id (.ofCredentials d.credentials)]
  simp only [Gateway.State.rebuildEntry, h, Gateway.State.storeEntry, Gateway.State.now]
  cases x.cache.put x.world.clock id d.targetUrl (.ofCredentials d.credentials) with
  | error e => simp
  | ok stored => simp

theorem metadata_cachedEntry (x : Gateway.State) (id : String) : (x.cachedEntry id).2.metadata = x.metadata := by
  unfold Gateway.State.cachedEntry
  dsimp only
  split <;> rfl

theorem entryFor_isOk_iff {x : Gateway.State} {d : ServiceDefinition} (h : ∀ turn, x.metadata.lookup turn id = .ok d) :
    (∃ e, (x.entryFor id).1 = .ok e) ↔ (x.cachedEntry id).1.isSome = true ∨ isWebTarget d.targetUrl = true := by
  have hafter := metadata_cachedEntry x id
  unfold Gateway.State.entryFor
  rcases hcached : x.cachedEntry id with ⟨found, x'⟩
  rw [hcached] at hafter
  cases found with
  | some e => simp
  | none =>
    rw [← hafter] at h
    simpa using rebuildEntry_isOk_iff h

theorem key_ne_nil (h : Config.IsSound s) : s.key.toList ≠ [] := by
  have hid : s.id.toList ≠ [] := by
    intro hnil
    have hnamed := h.named
    rw [Config.isBlankId, hnil] at hnamed
    cases hnamed
  rw [Service.key, Unicode.lowerText, String.toList_ofList]
  exact fun hnil => hid (Unicode.lower_eq_nil_iff.mp hnil)

/-- For each service of an accepted configuration: when a host names its key, and when a Host header does; that the
cache takes its target if and only if that is a URL of the web; and that under its key the directory holds a service
whose entry can be had from every state with this directory, if it is in the cache or its target is a URL of the web,
and not otherwise. -/
theorem serves_accepted (c : Config) (network : Network) (h : c.violations = []) (s : Service) (hs : s ∈ c.services) :
    ((∃ host, (Gateway.ofConfig network c).resolver.serviceId? host = some s.key) ↔
        (Gateway.ofConfig network c).resolver.CanName (fun _ => True) s.key.toList) ∧
      ((∃ q : Request, q.uri.authority? = none ∧ (Gateway.ofConfig network c).serviceOf q = .ok s.key) ↔
        (Gateway.ofConfig network c).resolver.CanName IsVisible s.key.toList) ∧
      (∀ (cache : Cache) (now : Nat) (id : String) (strategy : Strategy),
        (∃ stored, cache.put now id s.definition.targetUrl strategy = .ok stored) ↔
          isWebTarget s.definition.targetUrl = true) ∧
      ∃ t ∈ c.services, t.key = s.key ∧
        ∀ x : Gateway.State, x.metadata = .directory (.ofServices c.services) →
          ((∃ e, (x.entryFor s.key).1 = .ok e) ↔
            (x.cachedEntry s.key).1.isSome = true ∨ isWebTarget t.definition.targetUrl = true) := by
  have hordinary : (Gateway.ofConfig network c).resolver.IsOrdinary := Resolver.isOrdinary_ofNames _ _
  have hne := key_ne_nil ((Config.services_of_accepted h).1 s hs)
  -- Keys are lower-cased, and lower-casing them again changes nothing.
  have hsettled : ∀ a ∈ s.key.toList, Unicode.isSettled a = true := by
    rw [Service.key, Unicode.lowerText, String.toList_ofList]
    exact fun a => Unicode.isSettled_of_mem_lower
  refine ⟨?_, ?_, fun cache now id strategy => put_isOk_iff cache now id strategy, ?_⟩
  · rw [← Resolver.exists_host_iff hordinary Resolver.alphabet_any hsettled hne, String.ofList_toList]
    constructor
    · rintro ⟨host, hhost⟩
      exact ⟨host.toList, fun _ _ => trivial, by rwa [String.ofList_toList]⟩
    · rintro ⟨host, -, hhost⟩
      exact ⟨String.ofList host, hhost⟩
  · rw [serviceOf_host_iff, ← Resolver.exists_host_iff hordinary alphabet_visible hsettled hne, String.ofList_toList]
  · obtain ⟨t, ht, hkey, hfound⟩ := Directory.lookup_key hs
    refine ⟨t, ht, hkey, fun x hx => entryFor_isOk_iff fun turn => ?_⟩
    rw [Metadata.lookup_of_directory hx, hfound]

theorem serves_orders : (Directory.shop "Orders" "billing").violations = [] ∧
    (∃ q : Request, q.uri.authority? = none ∧
      (Gateway.ofConfig (.recorded []) (Directory.shop "Orders" "billing")).serviceOf q = .ok "orders") ∧
    ∃ e, ((Gateway.State.start (Directory.shop "Orders" "billing")
      (.directory (.ofServices (Directory.shop "Orders" "billing").services))).entryFor "orders").1 = .ok e := by
  have haccepted : (Directory.shop "Orders" "billing").violations = [] := by decide +kernel
  have hkey : Service.key ⟨"Orders", { targetUrl := "http://[::1]/" }⟩ = "orders" := by decide +kernel
  have hservices : ∀ t ∈ (Directory.shop "Orders" "billing").services, isWebTarget t.definition.targetUrl = true := by
    decide +kernel
  obtain ⟨-, hhosts, -, t, ht, -, hentry⟩ :=
    serves_accepted (Directory.shop "Orders" "billing") (.recorded []) haccepted _ List.mem_cons_self
  rw [hkey] at hhosts hentry
  refine ⟨haccepted, hhosts.mpr ⟨visible_of_all (by decide), by decide, .inr (.inl (by decide))⟩, ?_⟩
  exact (hentry _ rfl).mpr (.inr (hservices t ht))

def depot : Config :=
  { services := [⟨"files", { targetUrl := "ftp://[::1]/" }⟩, ⟨"a.b", { targetUrl := "http://[::1]/" }⟩] }

/-- Both are accepted. The first has no entry, and no host names the second. -/
theorem refuses_depot : depot.violations = [] ∧
    ((Gateway.State.start depot (.directory (.ofServices depot.services))).entryFor "files").1 =
      .error (.internal "service 'files' has an unusable target URL: unsupported scheme 'ftp'") ∧
    ∀ host, (Resolver.ofNames depot.naming.remoteEnvironment depot.naming.nameSpace).serviceId? host ≠ some "a.b" := by
  refine ⟨by decide +kernel, by decide +kernel, fun host hhost => ?_⟩
  have hsettled : "a.b".toList.all Unicode.isSettled = true := by decide +kernel
  have hname := (Resolver.exists_host_iff (Resolver.isOrdinary_ofNames depot.naming.remoteEnvironment
    depot.naming.nameSpace) Resolver.alphabet_any (List.all_eq_true.mp hsettled) (by decide)).mp
    ⟨host.toList, fun _ _ => trivial, by rwa [String.ofList_toList, String.ofList_toList]⟩
  exact hname.dotless (by decide)

end CredentialGateway
