import Mathlib.Data.List.Nodup
import Webhook.Dispatcher.Basic

/-!
# The keys of the registry

No identifier is in use twice, and each endpoint has the identifier that it is stored under. A new
registry is keyed in this way, and every operation keeps it so, because registration takes only
identifiers that are not in use, and changes leave the identifier of an endpoint alone. Hence no
endpoint is found twice among those that an envelope goes to.
-/

namespace Webhook

/-- A computation in steps that succeeds has succeeded in its first step, and then in the rest. -/
theorem Except.bind_eq_ok_iff {ε α β : Type} {x : Except ε α} {f : α → Except ε β} {b : β} :
    x >>= f = .ok b ↔ ∃ a, x = .ok a ∧ f a = .ok b := by
  cases x with
  | error e =>
    constructor
    · intro h
      cases h
    · rintro ⟨a, h, -⟩
      cases h
  | ok a =>
    constructor
    · intro h
      exact ⟨a, rfl, h⟩
    · rintro ⟨a, h, hf⟩
      cases h
      exact hf

/-- A computation succeeds when it has a result. -/
theorem Except.isOk_iff {ε α : Type} {x : Except ε α} : x.isOk = true ↔ ∃ a, x = .ok a := by
  cases x <;> simp [Except.isOk, Except.toBool]

/-- An endpoint is built with the identifier that is given to it. -/
theorem Endpoint.New.id_of_build {new : Endpoint.New} {defaultRetry : RetryPolicy} {seed : Seed}
    {id : EndpointId} {e : Endpoint} (h : new.build defaultRetry seed id = .ok e) : e.id = id := by
  simp only [build, Except.bind_eq_ok_iff] at h
  obtain ⟨url, -, events, -, policy, -, headers, -, he⟩ := h
  cases he
  rfl

/-- A change leaves the identifier of an endpoint alone. -/
theorem Endpoint.Update.id_of_apply {u : Endpoint.Update} {e next : Endpoint}
    (h : u.apply e = .ok next) : next.id = e.id := by
  simp only [apply, Except.bind_eq_ok_iff] at h
  obtain ⟨url, -, events, -, policy, -, headers, -, he⟩ := h
  cases he
  rfl

namespace Registry

/-- No identifier is in use twice, and each endpoint is stored under its own. -/
structure IsKeyed (r : Registry) : Prop where
  nodup : (r.entries.map Prod.fst).Nodup
  id_eq : ∀ p ∈ r.entries, p.2.id = p.1

variable {r r' : Registry}

/-- A registry without endpoints is keyed. -/
theorem isKeyed_empty (defaultRetry : RetryPolicy) : (empty defaultRetry).IsKeyed :=
  ⟨List.nodup_nil, by simp [empty]⟩

/-- What is found under an identifier is stored under it. -/
theorem mem_of_get? {id : EndpointId} {e : Endpoint} (h : r.get? id = some e) :
    (id, e) ∈ r.entries := by
  obtain ⟨l₁, l₂, hl, -⟩ := List.lookup_eq_some_iff.1 h
  simp [hl]

/-- An identifier that is not in use is the key of no entry. -/
theorem not_mem_keys {id : EndpointId} (h : r.contains id = false) :
    id ∉ r.entries.map Prod.fst := by
  intro hmem
  obtain ⟨p, hp, rfl⟩ := List.mem_map.1 hmem
  simp only [contains, get?, Option.isSome_eq_false_iff, Option.isNone_iff_eq_none,
    List.lookup_eq_none_iff] at h
  simpa using h p hp

/-! ## What operations do -/

/-- A registration appends an endpoint under an identifier that is not in use. -/
theorem of_register {candidates : List EndpointId} {seed : Seed} {new : Endpoint.New}
    {id : EndpointId} (h : r.register candidates seed new = .ok (some (id, r'))) :
    ∃ e, new.build r.defaultRetry seed id = .ok e ∧ r.contains id = false ∧
      r' = { r with entries := r.entries ++ [(id, e)] } := by
  unfold Registry.register at h
  split at h
  · cases hb : new.build r.defaultRetry seed ⟨""⟩ <;> rw [hb] at h <;> cases h
  next id' hf =>
    obtain ⟨e, he, hr⟩ := Except.bind_eq_ok_iff.1 h
    cases hr
    exact ⟨e, he, by simpa using List.find?_some hf, rfl⟩

/-- A change puts another endpoint in the place of the one with the identifier. -/
theorem of_update {id : EndpointId} {u : Endpoint.Update} (h : r.update id u = .ok (some r')) :
    ∃ e next, r.get? id = some e ∧ u.apply e = .ok next ∧
      r' = { r with entries := r.entries.map fun p => if p.1 = id then (id, next) else p } := by
  unfold Registry.update at h
  split at h
  · cases h
  next e he =>
    obtain ⟨next, hn, hr⟩ := Except.bind_eq_ok_iff.1 h
    cases hr
    exact ⟨e, next, he, hn, rfl⟩

/-- A removal leaves out the endpoint with the identifier. -/
theorem of_unregister {id : EndpointId} (h : r.unregister id = some r') :
    r' = { r with entries := r.entries.filter fun p => p.1 ≠ id } := by
  unfold Registry.unregister at h
  split at h <;> cases h
  rfl

/-! ## Keys -/

/-- A registration takes an identifier that is not in use, and keeps the registry keyed. -/
theorem IsKeyed.register (hk : r.IsKeyed) {candidates : List EndpointId} {seed : Seed}
    {new : Endpoint.New} {id : EndpointId}
    (h : r.register candidates seed new = .ok (some (id, r'))) : r'.IsKeyed := by
  obtain ⟨e, he, hfresh, rfl⟩ := of_register h
  refine ⟨?_, ?_⟩
  · rw [List.map_append, List.nodup_append]
    -- the new key was not in use
    refine ⟨hk.nodup, List.nodup_singleton id, ?_⟩
    intro a ha b hb hab
    rw [hab, List.mem_singleton.1 hb] at ha
    exact not_mem_keys hfresh ha
  · intro p hp
    rcases List.mem_append.1 hp with hp | hp
    · exact hk.id_eq p hp
    · rw [List.mem_singleton.1 hp]
      exact Endpoint.New.id_of_build he

/-- An update leaves the keys as they are, and keeps the registry keyed. -/
theorem IsKeyed.update (hk : r.IsKeyed) {id : EndpointId} {u : Endpoint.Update}
    (h : r.update id u = .ok (some r')) : r'.IsKeyed := by
  obtain ⟨e, next, he, hn, rfl⟩ := of_update h
  have hid : next.id = id := (Endpoint.Update.id_of_apply hn).trans (hk.id_eq _ (mem_of_get? he))
  refine ⟨?_, ?_⟩
  · -- the entry that changes keeps its key
    have hkeys : Prod.fst ∘ (fun p : EndpointId × Endpoint => if p.1 = id then (id, next) else p) =
        Prod.fst := by
      funext p
      simp only [Function.comp_apply]
      split
      next hp => exact hp.symm
      · rfl
    rw [List.map_map, hkeys]
    exact hk.nodup
  · intro p hp
    obtain ⟨q, hq, rfl⟩ := List.mem_map.1 hp
    split
    · exact hid
    · exact hk.id_eq q hq

/-- A removal leaves a part of the entries, and keeps the registry keyed. -/
theorem IsKeyed.unregister (hk : r.IsKeyed) {id : EndpointId} (h : r.unregister id = some r') :
    r'.IsKeyed := by
  obtain rfl := of_unregister h
  exact ⟨hk.nodup.sublist (List.filter_sublist.map Prod.fst),
    fun p hp => hk.id_eq p (List.mem_of_mem_filter hp)⟩

/-- Every operation on a keyed registry leaves it keyed, whether it succeeds or not. -/
theorem IsKeyed.apply (hk : r.IsKeyed) (action : Dispatcher.RegistryAction) :
    (action.apply r).IsKeyed := by
  -- an operation that fails returns the registry as it was
  cases action with
  | register draw new =>
    simp only [Dispatcher.RegistryAction.apply]
    split
    next id r' h => exact hk.register h
    · exact hk
  | update id u =>
    simp only [Dispatcher.RegistryAction.apply]
    split
    next r' h => exact hk.update h
    · exact hk
  | unregister id =>
    simp only [Dispatcher.RegistryAction.apply]
    cases h : r.unregister id with
    | none => exact hk
    | some r' => exact hk.unregister h

/-- In a keyed registry, what is stored under an identifier is found under it. -/
theorem IsKeyed.get?_eq_some_iff (hk : r.IsKeyed) {id : EndpointId} {e : Endpoint} :
    r.get? id = some e ↔ (id, e) ∈ r.entries := by
  constructor
  · exact mem_of_get?
  · intro hmem
    obtain ⟨l₁, l₂, hl⟩ := List.append_of_mem hmem
    have hnodup := hk.nodup
    rw [hl, List.map_append, List.map_cons, List.nodup_append] at hnodup
    obtain ⟨-, -, hdisjoint⟩ := hnodup
    refine List.lookup_eq_some_iff.2 ⟨l₁, l₂, hl, fun p hp => ?_⟩
    -- an entry before it has another key
    have hne := hdisjoint p.1 (List.mem_map_of_mem hp) id (List.mem_cons_self ..)
    simpa using hne.symm

/-- What is found under an identifier is the endpoint of the list that has it. -/
theorem IsKeyed.get?_eq_some_iff_list (hk : r.IsKeyed) {id : EndpointId} {e : Endpoint} :
    r.get? id = some e ↔ e ∈ r.list ∧ e.id = id := by
  rw [hk.get?_eq_some_iff, list, List.mem_map]
  constructor
  · intro hmem
    exact ⟨⟨_, hmem, rfl⟩, hk.id_eq _ hmem⟩
  · rintro ⟨⟨p, hp, rfl⟩, rfl⟩
    rw [hk.id_eq p hp]
    exact hp

/-- Those who subscribe to an event are the endpoints that are registered, enabled and subscribed to
it. -/
theorem IsKeyed.mem_subscribers_iff (hk : r.IsKeyed) {t : EventType} {e : Endpoint} :
    e ∈ r.subscribers t ↔ r.get? e.id = some e ∧ e.enabled = true ∧ e.events.contains t = true := by
  rw [hk.get?_eq_some_iff_list, subscribers, List.mem_filter, Endpoint.isSubscribed,
    Bool.and_eq_true]
  simp

/-- The identifiers of all endpoints are the keys. -/
theorem IsKeyed.map_id_list (hk : r.IsKeyed) :
    r.list.map Endpoint.id = r.entries.map Prod.fst := by
  rw [list, List.map_map]
  exact List.map_congr_left hk.id_eq

/-- Those who subscribe to an event have different identifiers. -/
theorem IsKeyed.nodup_subscribers (hk : r.IsKeyed) (t : EventType) :
    ((r.subscribers t).map Endpoint.id).Nodup := by
  have hlist : (r.list.map Endpoint.id).Nodup := hk.map_id_list ▸ hk.nodup
  exact hlist.sublist (List.filter_sublist.map Endpoint.id)

end Registry

/-- The endpoints that an envelope goes to are registered ones, in their order. -/
theorem Dispatcher.recipients_sublist (d : Dispatcher) (item : QueuedEnvelope) :
    (d.recipients item).Sublist d.registry.list := by
  unfold recipients
  split
  next id _ =>
    cases hfound : d.registry.get? id with
    | none => exact List.nil_sublist _
    | some e => exact List.singleton_sublist.2 (List.mem_map_of_mem (Registry.mem_of_get? hfound))
  · exact List.filter_sublist

/-- The endpoints that an envelope goes to have different identifiers. -/
theorem Dispatcher.nodup_recipients {d : Dispatcher} (hk : d.registry.IsKeyed)
    (item : QueuedEnvelope) : ((d.recipients item).map Endpoint.id).Nodup := by
  unfold recipients
  split
  next id _ => cases d.registry.get? id <;> simp
  · exact hk.nodup_subscribers _

end Webhook
