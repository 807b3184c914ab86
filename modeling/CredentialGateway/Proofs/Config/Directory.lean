import CredentialGateway.Gateway.Basic
import CredentialGateway.Proofs.Config.Accepted
import CredentialGateway.Proofs.Keyed
import Mathlib.Data.Finset.Card
import Mathlib.Data.List.Dedup

/-! What the directory of a configuration has kept of its services: under each key the last service that has it. Two
services that validation takes for distinct are both kept unless their ids agree in lower case. -/

namespace CredentialGateway

open Keyed

def Service.key (s : Service) : String := Unicode.lowerText s.id

namespace Directory

variable {d : Directory} {services : List Service} {s : Service} {key : String}

theorem get?_insert (d : Directory) (new : String) (definition : ServiceDefinition) (key : String) :
    (d.insert new definition).get? key = if key = new then some definition else d.get? key := by
  have hnew : (d.entries.filter fun e => e.1 != new).find? (fun e => e.1 == new) = none := by
    rw [find?_filter_key d.entries (fun k => k != new)]
    simp
  simp only [get?, insert, find?_append_key hnew, find?_filter_key d.entries (fun k => k != new)]
  by_cases hkey : key = new <;> simp [hkey]

theorem ofServices_concat (services : List Service) (s : Service) :
    ofServices (services ++ [s]) = (ofServices services).insert s.key s.definition :=
  List.foldl_append

theorem get?_ofServices (services : List Service) (key : String) :
    (ofServices services).get? key = (services.reverse.find? fun s => s.key == key).map Service.definition := by
  induction services using List.reverseRecOn with
  | nil => rfl
  | append_singleton services s ih =>
    rw [ofServices_concat, get?_insert, List.reverse_append, List.reverse_singleton, List.singleton_append,
      List.find?_cons]
    by_cases hkey : s.key = key
    · rw [if_pos hkey.symm, beq_iff_eq.mpr hkey]
      rfl
    · rw [if_neg (Ne.symm hkey), beq_eq_false_iff_ne.mpr hkey]
      exact ih

theorem lookup_key (hs : s ∈ services) :
    ∃ t ∈ services, t.key = s.key ∧ (ofServices services).lookup s.key = .ok t.definition := by
  obtain ⟨t, ht⟩ : ∃ t, services.reverse.find? (fun t => t.key == s.key) = some t := by
    refine Option.isSome_iff_exists.mp (List.find?_isSome.mpr ⟨s, List.mem_reverse.mpr hs, ?_⟩)
    exact beq_self_eq_true s.key
  have hkey := List.find?_some ht
  refine ⟨t, List.mem_reverse.mp (List.mem_of_find?_eq_some ht), beq_iff_eq.mp hkey, ?_⟩
  rw [lookup, get?_ofServices, ht]
  rfl

def keys (d : Directory) : List String := d.entries.map Prod.fst

theorem keys_insert (d : Directory) (key : String) (definition : ServiceDefinition) :
    (d.insert key definition).keys = (d.keys.filter fun k => k != key) ++ [key] := by
  rw [keys, insert, List.map_append, keys, List.filter_map]
  rfl

theorem keys_ofServices (services : List Service) :
    (ofServices services).keys.Nodup ∧ ∀ key, key ∈ (ofServices services).keys ↔ key ∈ services.map Service.key := by
  induction services using List.reverseRecOn with
  | nil => exact ⟨List.nodup_nil, fun _ => Iff.rfl⟩
  | append_singleton services s ih =>
    obtain ⟨hnodup, hkeys⟩ := ih
    rw [ofServices_concat, keys_insert]
    refine ⟨List.Nodup.append (hnodup.filter _) (List.nodup_singleton _) ?_, fun key => ?_⟩
    · simp [List.disjoint_singleton]
    · rw [List.map_append, List.map_singleton, List.mem_append, List.mem_append, List.mem_filter, hkeys]
      by_cases hkey : key = s.key <;> simp [hkey]

theorem size_ofServices (services : List Service) :
    (ofServices services).size = (services.map Service.key).toFinset.card := by
  obtain ⟨hnodup, hkeys⟩ := keys_ofServices services
  have hsame : (ofServices services).keys.toFinset = (services.map Service.key).toFinset := by
    ext key
    rw [List.mem_toFinset, List.mem_toFinset, hkeys]
  rw [← hsame, List.toFinset_card_of_nodup hnodup, keys, List.length_map]
  rfl

theorem size_eq_length_iff (services : List Service) :
    (ofServices services).size = services.length ↔ (services.map Service.key).Nodup := by
  rw [size_ofServices, ← List.length_map Service.key]
  exact Multiset.toFinset_card_eq_card_iff_nodup

/-- A directory, at the start or after a reload, has as many entries as an accepted configuration has services if and
only if no two of their ids agree in lower case; and a service that shares its key with none is found under it with its
own definition. -/
theorem keeps_accepted (c : Config) (h : c.violations = []) :
    ((ofServices c.services).size = c.services.length ↔
        ∀ s ∈ c.services, ∀ t ∈ c.services, s.key = t.key → s.id = t.id) ∧
      (∀ s ∈ c.services, (∀ t ∈ c.services, t.key = s.key → t.id = s.id) →
        (ofServices c.services).lookup s.key = .ok s.definition) ∧
      ∀ (x : Gateway.State) (d : Directory), x.metadata = .directory d →
        (x.reload c.services).metadata = .directory (ofServices c.services) := by
  have hnodup : c.services.Nodup := (Config.services_of_accepted h).2.of_map
  refine ⟨?_, fun s hs hown => ?_, fun x d hx => ?_⟩
  · rw [size_eq_length_iff, List.nodup_map_iff_inj_on hnodup]
    constructor
    · intro hinj s hs t ht hkey
      rw [hinj s hs t ht hkey]
    · intro hids s hs t ht hkey
      exact Config.eq_of_id_eq h hs ht (hids s hs t ht hkey)
  · obtain ⟨t, ht, hkey, hfound⟩ := lookup_key hs
    rwa [Config.eq_of_id_eq h ht hs (hown t ht hkey)] at hfound
  · unfold Gateway.State.reload
    rw [hx]
    rfl

def shop (first second : String) : Config :=
  { services := [⟨first, { targetUrl := "http://[::1]/" }⟩, ⟨second, { targetUrl := "http://[::2]/" }⟩] }

theorem keeps_orders : (shop "Orders" "billing").violations = [] ∧
    (ofServices (shop "Orders" "billing").services).lookup "orders" = .ok { targetUrl := "http://[::1]/" } := by
  have haccepted : (shop "Orders" "billing").violations = [] := by decide +kernel
  refine ⟨haccepted, ?_⟩
  have hown : ∀ t ∈ (shop "Orders" "billing").services, t.key = "orders" → t.id = "Orders" := by decide +kernel
  exact (keeps_accepted (shop "Orders" "billing") haccepted).2.1 _ List.mem_cons_self hown

/-- Ids that differ in the case of a letter are accepted, and one of the two services is lost. -/
theorem loses_orders : (shop "Orders" "orders").violations = [] ∧
    (ofServices (shop "Orders" "orders").services).size ≠ (shop "Orders" "orders").services.length ∧
    (ofServices (shop "Orders" "orders").services).lookup "orders" = .ok { targetUrl := "http://[::2]/" } := by
  decide +kernel

end Directory
end CredentialGateway
