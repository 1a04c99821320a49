import Webhook.Proofs.Dispatcher.History
import Webhook.Proofs.Registry.Keys

/-!
# Registered endpoints are valid

Registration checks a whole configuration, and a change only the fields that it gives; the retry
policy may come from the registry, and the secret from random bytes. `Endpoint.IsValid` is what
holds of an endpoint all the same, whichever way each of its fields has come. Every operation keeps
it, so that it holds of all endpoints after any sequence of calls (`Registry.registered_valid`), and
so of all endpoints that a worker delivers to. In particular no header of an endpoint is left out
when its requests are made.
-/

namespace Webhook

/-! ## Fields -/

/-- The text is trimmed and is a url of one of the schemes of endpoints. -/
structure IsWebUrl (url : String) : Prop where
  ne_empty : url ≠ ""
  trim_eq : Text.trim url = url
  parse : ∃ u, Url.parse url = .ok u ∧ (u.scheme = "http" ∨ u.scheme = "https")

/-- A url that passes the check is trimmed and one of the two schemes. -/
theorem isWebUrl_of_validateUrl {raw url : String} (h : validateUrl raw = .ok url) :
    IsWebUrl url := by
  unfold validateUrl at h
  dsimp only at h
  split at h
  · cases h
  -- what is not empty is trimmed, and one of the two schemes when it parses
  next hne =>
    split at h
    next u hu =>
      cases h
      have hscheme : u.scheme = "http" ∨ u.scheme = "https" := by
        unfold Url.scheme
        cases u.secure with
        | true => exact .inr rfl
        | false => exact .inl rfl
      exact ⟨fun he => hne (by rw [he]; rfl), Text.trim_trim raw, u, hu, hscheme⟩
    · cases h
    · cases h

/-- Event types that pass the check are not empty. -/
theorem exists_contains_of_validateEvents {types : List EventType} {events : EventSet}
    (h : validateEvents types = .ok events) : ∃ t, events.contains t = true := by
  unfold validateEvents at h
  split at h
  · cases h
  next hne =>
    cases h
    obtain ⟨t, rest, rfl⟩ := List.exists_cons_of_ne_nil (by simpa using hne)
    exact ⟨t, by simp [EventSet.contains_ofList]⟩

/-- A retry policy that passes the check has a delay. -/
theorem pos_of_validateRetryPolicy {policy policy' : RetryPolicy}
    (h : validateRetryPolicy policy = .ok policy') : 0 < policy'.retryDelayMs := by
  unfold validateRetryPolicy at h
  split at h
  · cases h
  next hne =>
    cases h
    exact UInt64.pos_iff_ne_zero.2 hne

/-- Headers that pass the check are legal in an HTTP request. -/
theorem isLegal_of_validateHeaders {headers headers' : Dictionary String}
    (h : validateHeaders headers = .ok headers') :
    ∀ e ∈ headers'.entries, isHeaderName e.1 = true ∧ isHeaderValue e.2 = true := by
  unfold validateHeaders at h
  split at h
  · cases h
  next hnone =>
    cases h
    simpa using hnone

/-- A field that is checked if it is given has what the check ensures, if the old value has it. -/
theorem of_validateOr {α β : Type} {check : α → Except RegistrationError β} {old new : β}
    {x : Option α} {p : β → Prop} (hold : p old) (hcheck : ∀ a b, check a = .ok b → p b)
    (h : validateOr check old x = .ok new) : p new := by
  cases x with
  | none =>
    cases h
    exact hold
  | some a => exact hcheck a new h

/-- What takes the place of a secret is not empty if the fallback is not. -/
theorem secretOr_ne_empty {old : String} (h : old ≠ "") (x : Option String) :
    secretOr old x ≠ "" := by
  cases x with
  | none => exact h
  | some secret =>
    unfold secretOr
    dsimp only
    split
    · exact h
    next hne => exact fun he => hne (by rw [he]; rfl)

/-- A generated secret is not empty. -/
theorem generateSecret_ne_empty (seed : Seed) : generateSecret seed ≠ "" := by
  intro h
  have hchars : Text.Hex.encodeChars (List.ofFn seed) = [] := by
    rw [← String.toList_ofList (l := Text.Hex.encodeChars _)]
    exact congrArg String.toList h
  have hfirst : seed 0 ∈ List.ofFn seed := List.mem_ofFn.2 ⟨0, rfl⟩
  -- each byte is written with two digits
  have hbyte := List.flatMap_eq_nil_iff.1 hchars (seed 0) hfirst
  cases hbyte

/-! ## Endpoints -/

namespace Endpoint

/-- What registration checks of an endpoint. -/
structure IsValid (e : Endpoint) : Prop where
  url : IsWebUrl e.url
  events : ∃ t, e.events.contains t = true
  secret : e.secret ≠ ""
  retryDelay : 0 < e.retryPolicy.retryDelayMs
  headers : ∀ h ∈ e.headers.entries, isHeaderName h.1 = true ∧ isHeaderValue h.2 = true

/-- What a new configuration is built into is valid. -/
theorem New.isValid_build {new : Endpoint.New} {defaultRetry : RetryPolicy} {seed : Seed}
    {id : EndpointId} {e : Endpoint} (h : new.build defaultRetry seed id = .ok e) : e.IsValid := by
  simp only [build, Except.bind_eq_ok_iff] at h
  obtain ⟨url, hurl, events, hevents, policy, hpolicy, headers, hheaders, he⟩ := h
  cases he
  exact {
    url := isWebUrl_of_validateUrl hurl
    events := exists_contains_of_validateEvents hevents
    secret := secretOr_ne_empty (generateSecret_ne_empty seed) new.secret
    retryDelay := pos_of_validateRetryPolicy hpolicy
    headers := isLegal_of_validateHeaders hheaders }

/-- What an update makes of a valid endpoint is valid. -/
theorem Update.isValid_apply {u : Endpoint.Update} {e next : Endpoint} (hv : e.IsValid)
    (h : u.apply e = .ok next) : next.IsValid := by
  simp only [apply, Except.bind_eq_ok_iff] at h
  obtain ⟨url, hurl, events, hevents, policy, hpolicy, headers, hheaders, he⟩ := h
  -- each field is checked anew or is that of the old endpoint
  cases he
  exact {
    url := of_validateOr hv.url (fun _ _ => isWebUrl_of_validateUrl) hurl
    events := of_validateOr (p := fun s => ∃ t, s.contains t = true) hv.events
      (fun _ _ => exists_contains_of_validateEvents) hevents
    secret := secretOr_ne_empty hv.secret u.secret
    retryDelay := of_validateOr (p := fun policy => 0 < policy.retryDelayMs) hv.retryDelay
      (fun _ _ => pos_of_validateRetryPolicy) hpolicy
    headers := of_validateOr (p := fun headers => ∀ h ∈ headers.entries,
        isHeaderName h.1 = true ∧ isHeaderValue h.2 = true) hv.headers
      (fun _ _ => isLegal_of_validateHeaders) hheaders }

/-- No header of the endpoint is left out when the headers of a request are set. -/
def SendsAllHeaders (e : Endpoint) : Prop :=
  ∀ h ∈ e.headers.entries, ∀ headers : HeaderMap,
    headers.set h.1 h.2 = Dictionary.insert headers (Text.lower h.1) h.2

/-- Of a valid endpoint, no header is left out. -/
theorem IsValid.sendsAllHeaders {e : Endpoint} (hv : e.IsValid) : e.SendsAllHeaders := by
  intro h hh headers
  obtain ⟨hname, hvalue⟩ := hv.headers h hh
  rw [HeaderMap.set, hname, hvalue]
  rfl

end Endpoint

/-! ## Registries -/

namespace Registry

variable {r r' : Registry}

/-- The registry is keyed, and all its endpoints are valid. -/
structure IsSound (r : Registry) : Prop where
  keyed : r.IsKeyed
  valid : ∀ e ∈ r.list, e.IsValid

/-- A registry without endpoints is sound. -/
theorem isSound_empty (defaultRetry : RetryPolicy) : (empty defaultRetry).IsSound :=
  ⟨isKeyed_empty defaultRetry, by simp [list, empty]⟩

/-- Every operation on a sound registry leaves it sound, whether it succeeds or not. -/
theorem IsSound.apply (hs : r.IsSound) (action : Dispatcher.RegistryAction) :
    (action.apply r).IsSound := by
  refine ⟨hs.keyed.apply action, ?_⟩
  -- each endpoint of the result was there before, or has just passed the checks
  cases action with
  | register draw new =>
    simp only [Dispatcher.RegistryAction.apply]
    split
    next id r' h =>
      obtain ⟨e, he, -, rfl⟩ := of_register h
      intro x hx
      rw [list, List.map_append, List.mem_append] at hx
      rcases hx with hx | hx
      · exact hs.valid x hx
      · rw [List.mem_singleton.1 hx]
        exact Endpoint.New.isValid_build he
    · exact hs.valid
  | update id u =>
    simp only [Dispatcher.RegistryAction.apply]
    split
    next r' h =>
      obtain ⟨e, next, he, hn, rfl⟩ := of_update h
      have hvalid : e.IsValid := hs.valid e (hs.keyed.get?_eq_some_iff_list.1 he).1
      intro x hx
      obtain ⟨p, hp, rfl⟩ := List.mem_map.1 hx
      obtain ⟨q, hq, rfl⟩ := List.mem_map.1 hp
      split
      · exact Endpoint.Update.isValid_apply hvalid hn
      · exact hs.valid q.2 (List.mem_map_of_mem hq)
    · exact hs.valid
  | unregister id =>
    simp only [Dispatcher.RegistryAction.apply]
    cases h : r.unregister id with
    | none => exact hs.valid
    | some r' =>
      obtain rfl := of_unregister h
      intro x hx
      obtain ⟨p, hp, rfl⟩ := List.mem_map.1 hx
      exact hs.valid p.2 (List.mem_map_of_mem (List.mem_of_mem_filter hp))

/-- A sequence of operations keeps a registry sound. -/
theorem IsSound.foldl (hs : r.IsSound) (actions : List Dispatcher.RegistryAction) :
    (actions.foldl Dispatcher.RegistryAction.apply r).IsSound := by
  induction actions generalizing r with
  | nil => exact hs
  | cons action rest ih => exact ih (hs.apply action)

/-! ## Sequences of calls -/

/-- A call that may change a registry. -/
inductive Call where
  /-- Adds, changes or removes an endpoint. -/
  | act (action : Dispatcher.RegistryAction)
  /-- Registers the endpoints of a bootstrap. -/
  | load (draw : Nat → Draw) (b : Bootstrap)

/-- The registry after a call. -/
def Call.apply (r : Registry) : Call → Registry
  | .act action => action.apply r
  | .load draw b => (r.loadBootstrap draw b).2

/-- The registry after a sequence of calls. -/
def after (r : Registry) (calls : List Call) : Registry := calls.foldl Call.apply r

/-- Loading declared endpoints is registering some of them one after another. -/
theorem exists_actions_of_loadPairs (r : Registry) (draw : Nat → Draw)
    (pairs : List (String × Option String)) : ∃ actions : List Dispatcher.RegistryAction,
      (r.loadPairs draw pairs).2 = actions.foldl Dispatcher.RegistryAction.apply r := by
  induction pairs generalizing r draw with
  | nil => exact ⟨[], rfl⟩
  | cons pair rest ih =>
    unfold loadPairs
    split
    -- a pair that is accepted is a registration of its own, and another one is no operation
    next id r' h =>
      obtain ⟨actions, hactions⟩ := ih r' fun n => draw (n + 1)
      refine ⟨.register (draw 0) (declared pair) :: actions, ?_⟩
      rw [List.foldl_cons, Dispatcher.RegistryAction.apply, h]
      exact hactions
    · exact ih r draw

/-- A call keeps a registry sound. -/
theorem IsSound.call (hs : r.IsSound) (call : Call) : (call.apply r).IsSound := by
  cases call with
  | act action => exact hs.apply action
  | load draw b =>
    obtain ⟨actions, hactions⟩ := exists_actions_of_loadPairs r draw b.pairs
    rw [Call.apply, loadBootstrap, hactions]
    exact hs.foldl actions

/-- A sequence of calls keeps a registry sound. -/
theorem IsSound.after (hs : r.IsSound) (calls : List Call) : (r.after calls).IsSound := by
  induction calls generalizing r with
  | nil => exact hs
  | cons call rest ih => exact ih (hs.call call)

/-- The views of a registry agree: what is counted, what is found by an identifier and who
subscribes to an event can be read off the list of endpoints, in which no identifier comes twice. -/
structure IsConsistent (r : Registry) : Prop where
  nodup : (r.list.map Endpoint.id).Nodup
  counts : r.counts = (r.list.length, (r.list.filter Endpoint.enabled).length)
  get? : ∀ id e, r.get? id = some e ↔ e ∈ r.list ∧ e.id = id
  subscribers : ∀ t, r.subscribers t = r.list.filter fun e => e.enabled && e.events.contains t

/-- The views of a keyed registry agree. -/
theorem IsKeyed.isConsistent (hk : r.IsKeyed) : r.IsConsistent where
  nodup := hk.map_id_list ▸ hk.nodup
  counts := by rw [Registry.counts, list, List.length_map]
  get? _ _ := hk.get?_eq_some_iff_list
  subscribers _ := rfl

end Registry

/-! ## Deliveries -/

namespace Dispatcher

variable {d d' : Dispatcher} {action : Action} {actions : List Action} {events : List Occurrence}

/-- The registry is sound, and what is being delivered goes to valid endpoints. -/
structure IsSound (d : Dispatcher) : Prop where
  registry : d.registry.IsSound
  deliveries : ∀ x ∈ d.worker.deliveries, x.endpoint.IsValid

/-- A step keeps the registry sound, and what is being delivered valid. -/
theorem Step.isSound (hs : Step d action d' events) (h : d.IsSound) : d'.IsSound := by
  have hnone : ∀ x ∈ ([] : List Delivery), x.endpoint.IsValid := by simp
  cases hs with
  | configure action => exact ⟨h.registry.apply action, h.deliveries⟩
  -- the recipients are registered, which is when the soundness of the registry counts
  | fanOut item hw hr =>
    refine ⟨h.registry, fun x hx => ?_⟩
    obtain ⟨e, he, rfl⟩ := List.mem_map.1 hx
    exact h.registry.valid e ((d.recipients_sublist item).mem he)
  | deliver index move x y he hw hx hm =>
    have hdeliveries := h.deliveries
    rw [hw] at hdeliveries
    refine ⟨h.registry, fun z hz => ?_⟩
    rcases List.mem_or_eq_of_mem_set hz with hz | rfl
    · exact hdeliveries z hz
    · -- a move leaves the endpoint alone
      rw [(Delivery.move?_frame hm).1]
      exact hdeliveries x (List.mem_of_getElem? hx)
  | record index x report hw hx hp =>
    have hdeliveries := h.deliveries
    rw [hw] at hdeliveries
    exact ⟨h.registry, fun z hz => hdeliveries z (List.mem_of_mem_eraseIdx hz)⟩
  | rest => exact ⟨h.registry, hnone⟩
  | take => exact ⟨h.registry, hnone⟩
  | drop => exact ⟨h.registry, hnone⟩
  | park => exact ⟨h.registry, hnone⟩
  | stop => exact ⟨h.registry, hnone⟩
  | wake => exact ⟨h.registry, hnone⟩
  | finish => exact ⟨h.registry, hnone⟩
  | _ => exact ⟨h.registry, h.deliveries⟩

/-- The registry of a new dispatcher is sound after every run. -/
theorem Run.isSound {config : Config} (hr : Run (create config) actions d events) : d.IsSound := by
  induction hr with
  | start => exact ⟨Registry.isSound_empty config.defaultRetry, by simp [create, Worker.deliveries]⟩
  | step hr hs ih => exact hs.isSound ih

end Dispatcher

/-! ## All reachable registries -/

namespace Registry

/-- After any sequence of calls, whatever the default retry policy, each endpoint is valid and is
stored under its own identifier, and the views of the registry agree. So the requests to an endpoint
carry all its headers, those of a registry and those that a worker is delivering to. -/
theorem registered_valid (defaultRetry : RetryPolicy) (calls : List Call) :
    (∀ p ∈ ((empty defaultRetry).after calls).entries,
        p.2.id = p.1 ∧ p.2.IsValid ∧ p.2.SendsAllHeaders) ∧
      ((empty defaultRetry).after calls).IsConsistent ∧
      ∀ (config : Config) (actions : List Dispatcher.Action) (d : Dispatcher)
        (events : List Dispatcher.Occurrence),
        (Dispatcher.create config).run actions = some (d, events) →
          ∀ x ∈ d.worker.deliveries, x.endpoint.IsValid ∧ x.endpoint.SendsAllHeaders := by
  have hsound := (isSound_empty defaultRetry).after calls
  refine ⟨?_, hsound.keyed.isConsistent, ?_⟩
  · intro p hp
    have hvalid := hsound.valid p.2 (List.mem_map_of_mem hp)
    exact ⟨hsound.keyed.id_eq p hp, hvalid, hvalid.sendsAllHeaders⟩
  · intro config actions d events hrun x hx
    have hvalid := (Dispatcher.run_iff.1 hrun).isSound.deliveries x hx
    exact ⟨hvalid, hvalid.sendsAllHeaders⟩

/-! Under a default policy without delay, a bootstrap registers nothing, and neither does a
configuration that leaves the policy out. One that gives a policy does, and is changed after that,
but not to what is not valid. Under a default policy with a delay, the bootstrap registers the
endpoint that it declares as it should, and the same changes are made to that one. -/

namespace Sample

/-- A configuration with blanks around the url, an empty secret and a header. -/
def hook : Endpoint.New where
  url := " http://a.test/hook\n"
  events := [.groupCreated, .groupCreated]
  secret := some ""
  enabled := none
  retryPolicy := some ⟨0, 1⟩
  headers := Dictionary.ofList [("X-Team", "savings")]

/-- What the endpoints draw. -/
def draw (id : String) : Draw := ⟨[⟨"one"⟩, ⟨id⟩], fun _ => 7⟩

/-- Calls of every kind. -/
def calls : List Call :=
  [.load (fun _ => draw "zero") (.parse "http://b.test/, ,mailto:c" "secret"),
    .act (.register (draw "one") hook), .act (.register (draw "two") { hook with secret := none }),
    .act (.register (draw "three") { hook with retryPolicy := none }),
    .act (.update ⟨"one"⟩ { Endpoint.Update.setEnabled false with secret := some "" }),
    .act (.update ⟨"one"⟩ { Endpoint.Update.setEnabled true with url := some "ftp://a.test" }),
    .act (.unregister ⟨"two"⟩)]

/-- A delivery to such an endpoint. -/
def actions : List Dispatcher.Action :=
  [.configure (.register (draw "one") hook), .offer (Dispatcher.Session.item "first"), .append,
    .take, .address]

/-- One endpoint is left where the default policy has no delay. Where it has one, that which has
come from the bootstrap is left beside another. And a worker delivers to an endpoint. -/
theorem registered_valid_sample :
    (∃ p, ((empty ⟨3, 0⟩).after calls).entries = [p] ∧ p.2.enabled = false ∧ p.2.IsValid) ∧
      (∃ p q, ((empty .default).after calls).entries = [p, q] ∧ p.2.url = "http://b.test/" ∧
        p.2.enabled = false ∧ p.2.IsValid ∧ q.2.IsValid) ∧
      ∃ d events x, (Dispatcher.create Config.default).run actions = some (d, events) ∧
        x ∈ d.worker.deliveries ∧ x.endpoint.headers.entries ≠ [] ∧
        x.endpoint.SendsAllHeaders := by
  obtain ⟨hentries, -, hdeliveries⟩ := registered_valid ⟨3, 0⟩ calls
  obtain ⟨hdeclared, -, -⟩ := registered_valid .default calls
  refine ⟨?_, ?_, ?_⟩
  · have hone : ((empty ⟨3, 0⟩).after calls).entries.map (·.2.enabled) = [false] := by
      decide +kernel
    obtain ⟨p, hp, henabled⟩ := List.map_eq_singleton_iff.1 hone
    exact ⟨p, hp, henabled, (hentries p (by simp [hp])).2.1⟩
  · have htwo : ((empty .default).after calls).entries.map (fun p => (p.2.url, p.2.enabled)) =
        [("http://b.test/", false), ("http://a.test/hook", true)] := by
      decide +kernel
    obtain ⟨p, rest, hp, hfirst, hrest⟩ := List.map_eq_cons_iff.1 htwo
    obtain ⟨q, rfl, -⟩ := List.map_eq_singleton_iff.1 hrest
    obtain ⟨hurl, henabled⟩ := Prod.mk.inj hfirst
    exact ⟨p, q, hp, hurl, henabled, (hdeclared p (by simp [hp])).2.1,
      (hdeclared q (by simp [hp])).2.1⟩
  · -- a delivery under way, to an endpoint with a header of its own
    have hrun : ((Dispatcher.create Config.default).run actions).any fun s =>
        s.1.worker.deliveries.any fun x => !x.endpoint.headers.entries.isEmpty := by decide +kernel
    obtain ⟨⟨d, events⟩, hd, hsome⟩ := (Option.any_eq_true _ _).1 hrun
    obtain ⟨x, hx, hne⟩ := List.any_eq_true.1 hsome
    exact ⟨d, events, x, hd, hx, by simpa using hne, (hdeliveries _ _ _ _ hd x hx).2⟩

end Sample

end Registry

end Webhook
