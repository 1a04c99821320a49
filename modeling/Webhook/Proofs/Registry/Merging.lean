import Webhook.Proofs.Endpoint.RoundTrip
import Webhook.Proofs.Registry.Validity

/-!
# Changing is registering anew

A change checks only the fields that it gives. The fields that it does not give have been checked
when they came in, and the check of a value that passed leaves the value as it is. So a change is
accepted exactly if the merged configuration is one that could be registered, it fails with the
error that registration gives for it, and it leaves the endpoint that would be registered, under
the identifier of the old one (`Registry.update_merges`).
-/

namespace Webhook

/-! ## Fields -/

/-- A url that passed the check passes it again. -/
theorem IsWebUrl.validateUrl_eq {url : String} (h : IsWebUrl url) : validateUrl url = .ok url := by
  obtain ⟨u, hparse, -⟩ := h.parse
  have hne : url.isEmpty = false := by simpa using h.ne_empty
  simp only [validateUrl, h.trim_eq, hne, hparse]
  rfl

/-- The members of a set with a member make up that set. -/
theorem validateEvents_members {s : EventSet} (h : ∃ t, s.contains t = true) :
    validateEvents s.members = .ok s := by
  obtain ⟨t, ht⟩ := h
  have hmem : t ∈ s.members := by simpa [EventSet.contains] using ht
  have hne : s.members.isEmpty = false := List.isEmpty_eq_false_iff.2 (List.ne_nil_of_mem hmem)
  rw [validateEvents, hne, EventSet.ofList_members]
  rfl

/-- A retry policy with a delay passes the check as it is. -/
theorem validateRetryPolicy_of_pos {policy : RetryPolicy} (h : 0 < policy.retryDelayMs) :
    validateRetryPolicy policy = .ok policy :=
  if_neg (UInt64.pos_iff_ne_zero.1 h)

/-- Legal headers pass the check as they are. -/
theorem validateHeaders_of_isLegal {headers : Dictionary String}
    (h : ∀ e ∈ headers.entries, isHeaderName e.1 = true ∧ isHeaderValue e.2 = true) :
    validateHeaders headers = .ok headers := by
  have hnone : headers.entries.find? (fun e => !(isHeaderName e.1 && isHeaderValue e.2)) = none :=
    List.find?_eq_none.2 fun e he => by simp [h e he]
  rw [validateHeaders, hnone]

/-- Where the old value comes from a value that passes the check, checking a field only if it is
given is checking it with that value in its place. -/
theorem validateOr_eq {α β : Type} {check : α → Except RegistrationError β} {old : β} {raw : α}
    (h : check raw = .ok old) (x : Option α) : validateOr check old x = check (x.getD raw) := by
  cases x with
  | none => exact h.symm
  | some a => rfl

/-! ## Endpoints -/

namespace Endpoint

/-- The configuration of an endpoint with what an update gives in the place of its own fields; an
empty secret counts as absent. -/
def merged (e : Endpoint) (u : Update) : New where
  url := u.url.getD e.url
  events := u.events.getD e.events.members
  secret := some ((u.secret.filter fun secret => !secret.isEmpty).getD e.secret)
  enabled := some (u.enabled.getD e.enabled)
  retryPolicy := some (u.retryPolicy.getD e.retryPolicy)
  headers := u.headers.getD e.headers

/-- An endpoint has the identifier of another one, and its value of each field that an update does
not give. -/
structure Keeps (next e : Endpoint) (u : Update) : Prop where
  id : next.id = e.id
  url : u.url = none → next.url = e.url
  secret : u.secret = none ∨ u.secret = some "" → next.secret = e.secret
  events : u.events = none → next.events = e.events
  enabled : u.enabled = none → next.enabled = e.enabled
  retryPolicy : u.retryPolicy = none → next.retryPolicy = e.retryPolicy
  headers : u.headers = none → next.headers = e.headers

/-- The secret of the merged configuration is given, and is the one after the change. -/
theorem secretOr_merged {e : Endpoint} (hv : e.IsValid) (u : Update) (generated : String) :
    secretOr generated (e.merged u).secret = secretOr e.secret u.secret := by
  have hold : ∀ secret : String, secret ≠ "" → secretOr generated (some secret) = secret := by
    intro secret hne
    have hempty : secret.isEmpty = false := by simpa using hne
    simp [secretOr, hempty]
  -- the update gives no secret, an empty one, or one that counts
  cases hs : u.secret with
  | none =>
    simp only [merged, hs, Option.filter_none, Option.getD_none]
    exact hold e.secret hv.secret
  | some secret =>
    cases hempty : secret.isEmpty with
    | true =>
      simp only [merged, hs, Option.filter_some, hempty, Bool.not_true, Bool.false_eq_true,
        if_false, Option.getD_none, secretOr, if_true]
      exact hold e.secret hv.secret
    | false =>
      simp [merged, hs, Option.filter_some, hempty, secretOr]

/-- A change of a valid endpoint builds it anew from the merged configuration, whatever the default
policy and the random bytes. -/
theorem Update.apply_eq_build {e : Endpoint} (hv : e.IsValid) (u : Update)
    (defaultRetry : RetryPolicy) (seed : Seed) :
    u.apply e = (e.merged u).build defaultRetry seed e.id := by
  simp only [apply, New.build, validateOr_eq hv.url.validateUrl_eq,
    validateOr_eq (validateEvents_members hv.events),
    validateOr_eq (validateRetryPolicy_of_pos hv.retryDelay),
    validateOr_eq (validateHeaders_of_isLegal hv.headers), secretOr_merged hv]
  rfl

/-- The identifier of an endpoint does not affect how it is built. -/
theorem New.build_map_id (new : New) (defaultRetry : RetryPolicy) (seed : Seed)
    (id id' : EndpointId) : new.build defaultRetry seed id =
      (new.build defaultRetry seed id').map fun e => { e with id } := by
  -- the checks come in this order, and none of them looks at the identifier
  unfold build
  cases validateUrl new.url with
  | error err => rfl
  | ok url =>
    cases validateEvents new.events with
    | error err => rfl
    | ok events =>
      cases validateRetryPolicy (new.retryPolicy.getD defaultRetry) with
      | error err => rfl
      | ok policy => cases validateHeaders new.headers <;> rfl

/-- A change keeps the fields that it does not give. -/
theorem Update.keeps_of_apply {u : Update} {e next : Endpoint} (h : u.apply e = .ok next) :
    next.Keeps e u := by
  simp only [apply, Except.bind_eq_ok_iff] at h
  obtain ⟨url, hurl, events, hevents, policy, hpolicy, headers, hheaders, he⟩ := h
  -- a field that is not given is the old one, checked again only if it is given
  have hold : ∀ {α β : Type} {check : α → Except RegistrationError β} {old new : β}
      {x : Option α}, validateOr check old x = .ok new → x = none → new = old := by
    rintro α β check old new x hx rfl
    exact (Except.ok.inj hx).symm
  cases he
  exact {
    id := rfl
    url := hold hurl
    secret := by
      rintro (hs | hs) <;> rw [hs] <;> rfl
    events := hold hevents
    enabled := by
      intro henabled
      rw [henabled]
      rfl
    retryPolicy := hold hpolicy
    headers := hold hheaders }

end Endpoint

/-! ## Registries -/

namespace Registry

variable {r r' : Registry} {id : EndpointId} {e : Endpoint} {u : Endpoint.Update}

/-- A registration fails exactly if the endpoint cannot be built, under any identifier. -/
theorem register_eq_error_iff {candidates : List EndpointId} {seed : Seed} {new : Endpoint.New}
    {err : RegistrationError} (id : EndpointId) :
    r.register candidates seed new = .error err ↔
      new.build r.defaultRetry seed id = .error err := by
  -- whether a configuration is refused does not depend on the identifier
  have hsame : ∀ id', new.build r.defaultRetry seed id' = .error err ↔
      new.build r.defaultRetry seed id = .error err := by
    intro id'
    rw [new.build_map_id _ _ id' id]
    cases new.build r.defaultRetry seed id <;> simp [Except.map]
  unfold Registry.register
  split
  · rw [← hsame ⟨""⟩]
    cases new.build r.defaultRetry seed ⟨""⟩ <;> simp [Except.map]
  next id' _ =>
    rw [← hsame id']
    cases new.build r.defaultRetry seed id' <;> simp [bind, Except.bind, pure, Except.pure]

/-- With an identifier to try that is not in use, no registration is without a result. -/
theorem register_ne_none {candidates : List EndpointId}
    (h : ∃ fresh ∈ candidates, r.contains fresh = false) (seed : Seed) (new : Endpoint.New) :
    r.register candidates seed new ≠ .ok none := by
  have hsome : (candidates.find? fun id => !r.contains id).isSome := by
    rw [List.find?_isSome]
    simpa using h
  obtain ⟨id, hid⟩ := Option.isSome_iff_exists.1 hsome
  rw [Registry.register, hid]
  cases hb : new.build r.defaultRetry seed id <;> simp only [hb] <;> intro hr <;> cases hr

/-- A registration that succeeds leaves the endpoint under the identifier that it returns. -/
theorem get?_of_register {candidates : List EndpointId} {seed : Seed} {new : Endpoint.New}
    (h : r.register candidates seed new = .ok (some (id, r'))) :
    ∃ e, new.build r.defaultRetry seed id = .ok e ∧ r'.get? id = some e := by
  obtain ⟨e, he, hfresh, rfl⟩ := of_register h
  refine ⟨e, he, ?_⟩
  have hnone : r.entries.lookup id = none := by
    simpa [contains, get?] using hfresh
  simp [get?, List.lookup_append, hnone]

/-- What is found when another endpoint has been put in the place of one. -/
theorem lookup_map_replace (entries : List (EndpointId × Endpoint)) (id id' : EndpointId)
    (next : Endpoint) : (entries.map fun p => if p.1 = id then (id, next) else p).lookup id' =
      if id' = id then (entries.lookup id).map fun _ => next else entries.lookup id' := by
  induction entries with
  | nil => simp
  | cons p entries ih =>
    obtain ⟨key, e⟩ := p
    rw [List.map_cons, List.lookup_cons, List.lookup_cons, List.lookup_cons, ih]
    -- the entry is the one that is replaced or another, and the same for the key that is asked for
    by_cases hkey : key = id
    · by_cases hid : id' = id
      · simp [hkey, hid]
      · simp [hkey, hid, beq_eq_false_iff_ne.2 hid]
    · by_cases hid : id' = id
      · simp [hkey, hid, beq_eq_false_iff_ne.2 (Ne.symm hkey)]
      · simp [hkey, hid]

/-- A change that is accepted leaves the changed endpoint under the identifier, and all others. -/
theorem get?_of_update (h : r.update id u = .ok (some r')) :
    ∃ e next, r.get? id = some e ∧ u.apply e = .ok next ∧ r'.get? id = some next ∧
      ∀ id', id' ≠ id → r'.get? id' = r.get? id' := by
  obtain ⟨e, next, he, hn, rfl⟩ := of_update h
  refine ⟨e, next, he, hn, ?_, ?_⟩
  · have hlookup : r.entries.lookup id = some e := he
    rw [get?, lookup_map_replace, if_pos rfl, hlookup, Option.map_some]
  · intro id' hne
    rw [get?, lookup_map_replace, if_neg hne, get?]

/-- A change of a registered endpoint puts what the endpoint becomes in its place. -/
theorem update_eq_map (he : r.get? id = some e) (u : Endpoint.Update) :
    r.update id u = (u.apply e).map fun next =>
      some { r with entries := r.entries.map fun p => if p.1 = id then (id, next) else p } := by
  rw [Registry.update, he]
  cases hn : u.apply e <;> simp only [hn] <;> rfl

/-- A change of the endpoint with an identifier is its registration with the merged configuration:
it is accepted and refused as this one is, with the same error, and leaves the same endpoint but for
its identifier. A change that is refused leaves everything as it is; one that is accepted leaves the
fields that it does not give, and all other endpoints. -/
structure Merges (r : Registry) (id : EndpointId) (e : Endpoint) (u : Endpoint.Update) : Prop where
  accepted : ∀ candidates seed, (∃ fresh ∈ candidates, r.contains fresh = false) →
    ((∃ r', r.update id u = .ok (some r')) ↔
      ∃ new r₁, r.register candidates seed (e.merged u) = .ok (some (new, r₁)))
  refused : ∀ candidates seed err, r.update id u = .error err ↔
    r.register candidates seed (e.merged u) = .error err
  unchanged : ∀ err, r.update id u = .error err →
    (Dispatcher.RegistryAction.update id u).apply r = r
  stored : ∀ r' candidates seed new r₁, r.update id u = .ok (some r') →
    r.register candidates seed (e.merged u) = .ok (some (new, r₁)) →
    ∃ registered, r₁.get? new = some registered ∧ r'.get? id = some { registered with id }
  kept : ∀ r', r.update id u = .ok (some r') →
    (∃ next, r'.get? id = some next ∧ next.Keeps e u) ∧ ∀ id', id' ≠ id → r'.get? id' = r.get? id'

/-- In a sound registry an update merges into its endpoint. -/
theorem IsSound.merges (hs : r.IsSound) (he : r.get? id = some e) (u : Endpoint.Update) :
    r.Merges id e u := by
  have hvalid : e.IsValid := hs.valid e (hs.keyed.get?_eq_some_iff_list.1 he).1
  have hid : e.id = id := hs.keyed.id_eq _ (mem_of_get? he)
  -- the one equation behind all parts: an update makes the checks of a registration
  have hrefused : ∀ candidates seed err, r.update id u = .error err ↔
      r.register candidates seed (e.merged u) = .error err := by
    intro candidates seed err
    rw [register_eq_error_iff e.id, ← Endpoint.Update.apply_eq_build hvalid, update_eq_map he]
    cases u.apply e <;> simp [Except.map]
  -- the endpoint is there, so that an update has a result
  have hnever : r.update id u ≠ .ok none := by
    rw [update_eq_map he]
    cases u.apply e <;> simp [Except.map]
  refine { accepted := ?accepted, refused := hrefused, unchanged := ?unchanged, stored := ?stored,
           kept := ?kept }
  case accepted =>
    intro candidates seed hfresh
    have hrefused := hrefused candidates seed
    -- there is a free identifier, so that a registration has one too
    have htaken := register_ne_none hfresh seed (e.merged u)
    cases hu : r.update id u with
    | error err =>
      rw [(hrefused err).1 hu]
      simp
    | ok result =>
      cases hr : r.register candidates seed (e.merged u) with
      | error err =>
        rw [(hrefused err).2 hr] at hu
        cases hu
      | ok registered =>
        obtain ⟨r', rfl⟩ := Option.ne_none_iff_exists'.1 fun hnone => hnever (hnone ▸ hu)
        obtain ⟨p, rfl⟩ := Option.ne_none_iff_exists'.1 fun hnone => htaken (hnone ▸ hr)
        exact ⟨fun _ => ⟨p.1, p.2, rfl⟩, fun _ => ⟨r', rfl⟩⟩
  case unchanged =>
    intro err hu
    rw [Dispatcher.RegistryAction.apply, hu]
  case stored =>
    intro r' candidates seed new r₁ hu hr
    obtain ⟨e', next, he', hnext, hfound, -⟩ := get?_of_update hu
    obtain rfl : e = e' := Option.some.inj (he.symm.trans he')
    obtain ⟨registered, hbuild, hregistered⟩ := get?_of_register hr
    refine ⟨registered, hregistered, ?_⟩
    rw [Endpoint.Update.apply_eq_build hvalid u r.defaultRetry seed, hid,
      (e.merged u).build_map_id _ _ id new, hbuild] at hnext
    rw [hfound, ← Except.ok.inj hnext]
  case kept =>
    intro r' hu
    obtain ⟨e', next, he', hnext, hfound, hothers⟩ := get?_of_update hu
    obtain rfl : e = e' := Option.some.inj (he.symm.trans he')
    exact ⟨⟨next, hfound, Endpoint.Update.keeps_of_apply hnext⟩, hothers⟩

/-- After any sequence of calls, a change of a registered endpoint is its registration with the
merged configuration. A change of an endpoint that is not registered does nothing, whatever it
gives. -/
theorem update_merges (defaultRetry : RetryPolicy) (calls : List Call) (id : EndpointId)
    (u : Endpoint.Update) :
    let r := (empty defaultRetry).after calls
    (r.get? id = none →
        r.update id u = .ok none ∧ (Dispatcher.RegistryAction.update id u).apply r = r) ∧
      ∀ e, r.get? id = some e → r.Merges id e u := by
  intro r
  constructor
  · intro hnone
    have hu : r.update id u = .ok none := by rw [Registry.update, hnone]
    exact ⟨hu, by rw [Dispatcher.RegistryAction.apply, hu]⟩
  · intro e he
    exact ((isSound_empty defaultRetry).after calls).merges he u

namespace Sample

/-- A url that no endpoint has, and no events. -/
def refused : Endpoint.Update :=
  { Endpoint.Update.setEnabled true with url := some "ftp://a.test", events := some [] }

/-- Another url, with a blank before it, and an empty secret. -/
def accepted : Endpoint.Update :=
  { Endpoint.Update.setEnabled true with url := some " https://c.test/", secret := some "" }

/-- One change of the endpoint that is left fails as a registration does, which looks at the url
first. Another one succeeds. The same change of an endpoint that is gone is not looked at. -/
theorem update_merges_sample : ∃ r e, r = (empty ⟨3, 0⟩).after calls ∧
    r.get? ⟨"one"⟩ = some e ∧ r.update ⟨"one"⟩ refused = .error (.unsupportedScheme "ftp") ∧
      (∃ r' next, r.update ⟨"one"⟩ accepted = .ok (some r') ∧ r'.get? ⟨"one"⟩ = some next ∧
        next.Keeps e accepted) ∧
      r.get? ⟨"two"⟩ = none ∧ r.update ⟨"two"⟩ refused = .ok none := by
  -- both registrations are computed at once, under an identifier that is not in use
  have hsome : (((empty ⟨3, 0⟩).after calls).get? ⟨"one"⟩).any fun e =>
      ((empty ⟨3, 0⟩).after calls).register [⟨"four"⟩] (fun _ => 7) (e.merged refused) =
          .error (.unsupportedScheme "ftp") ∧
        ((empty ⟨3, 0⟩).after calls).register [⟨"four"⟩] (fun _ => 7) (e.merged accepted) =
          .ok (some (⟨"four"⟩, ⟨((empty ⟨3, 0⟩).after calls).entries ++ [(⟨"four"⟩,
            { e with id := ⟨"four"⟩, url := "https://c.test/", enabled := true })], ⟨3, 0⟩⟩)) := by
    decide +kernel
  obtain ⟨e, he, hsome⟩ := (Option.any_eq_true _ _).1 hsome
  obtain ⟨hrefused, haccepted⟩ := of_decide_eq_true hsome
  obtain ⟨hunknown, -⟩ := update_merges ⟨3, 0⟩ calls ⟨"two"⟩ refused
  obtain ⟨-, hrefuses⟩ := update_merges ⟨3, 0⟩ calls ⟨"one"⟩ refused
  obtain ⟨-, haccepts⟩ := update_merges ⟨3, 0⟩ calls ⟨"one"⟩ accepted
  have hfresh : ∃ fresh ∈ [(⟨"four"⟩ : EndpointId)],
      ((empty ⟨3, 0⟩).after calls).contains fresh = false := by decide +kernel
  obtain ⟨r', hr'⟩ := ((haccepts e he).accepted _ _ hfresh).2 ⟨_, _, haccepted⟩
  obtain ⟨⟨next, hnext, hkeeps⟩, -⟩ := (haccepts e he).kept r' hr'
  have hgone : ((empty ⟨3, 0⟩).after calls).get? ⟨"two"⟩ = none := by decide +kernel
  exact ⟨_, e, rfl, he, ((hrefuses e he).refused _ _ _).2 hrefused,
    ⟨r', next, hr', hnext, hkeeps⟩, hgone, (hunknown hgone).1⟩

end Sample

end Registry

end Webhook
