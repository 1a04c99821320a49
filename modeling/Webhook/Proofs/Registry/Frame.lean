import Webhook.Proofs.Registry.Merging

/-!
# One entry at a time

What an operation that succeeds does to a registry is told by one identifier and what is found under
it afterwards (`Registry.ActsOn`); an operation that fails does nothing. A registration draws
identifiers from a generator, which may repeat itself, until it gets one that is not in use. It
comes to its end with the first of these, and takes it, so that no entry is overwritten
(`Registry.Registers`). An endpoint thus stays as it is for as long as no call names its identifier
(`Registry.get?_after_of_not_names`).
-/

namespace Webhook

namespace Registry

variable {r r' : Registry}

/-- What is found under an identifier changes, to this, and nothing else does. The new registry is
keyed like the old one. -/
structure ActsOn (r r' : Registry) (id : EndpointId) (entry : Option Endpoint) : Prop where
  get? : ∀ id', r'.get? id' = if id' = id then entry else r.get? id'
  id_eq : ∀ e ∈ entry, e.id = id
  keyed : r'.IsKeyed
  defaultRetry : r'.defaultRetry = r.defaultRetry

/-! ## Drawing an identifier -/

/-- The first identifiers of a generator. -/
def drawn (ids : Nat → EndpointId) (m : Nat) : List EndpointId := (List.range m).map ids

/-- A registration builds the endpoint, whatever its identifier, and stores it under the first
candidate that is not in use. -/
theorem register_eq (candidates : List EndpointId) (seed : Seed) (new : Endpoint.New) :
    r.register candidates seed new =
      (new.build r.defaultRetry seed ⟨""⟩).map fun e =>
        (candidates.find? fun id => !r.contains id).map fun id =>
          (id, { r with entries := r.entries ++ [(id, { e with id })] }) := by
  unfold Registry.register
  split
  next hnone =>
    simp only [hnone]
    rfl
  -- the checks do not depend on the identifier, so that they can be made before one is found
  next id hsome =>
    rw [new.build_map_id r.defaultRetry seed id ⟨""⟩]
    simp only [hsome]
    cases new.build r.defaultRetry seed ⟨""⟩ <;> rfl

/-- The search for an identifier that is not in use ends with the first of them, once that has been
drawn. -/
theorem find?_drawn {ids : Nat → EndpointId} {n : Nat} (hused : ∀ i < n, r.contains (ids i) = true)
    (hfree : r.contains (ids n) = false) (m : Nat) :
    ((drawn ids m).find? fun id => !r.contains id) = if n < m then some (ids n) else none := by
  induction m with
  | zero => rfl
  | succ m ih =>
    have hdrawn : drawn ids (m + 1) = drawn ids m ++ [ids m] := by simp [drawn, List.range_succ]
    rw [hdrawn, List.find?_append, ih]
    -- the identifiers before the first free one are in use, and those after it are not asked for
    by_cases hlt : n < m
    · rw [if_pos hlt, if_pos (by omega), Option.some_or]
    · rw [if_neg hlt, Option.none_or]
      by_cases heq : n = m
      · subst heq
        simp [hfree]
      · have hm : r.contains (ids m) = true := hused m (by omega)
        rw [if_neg (by omega)]
        simp [hm]

/-! ## What is found afterwards -/

/-- A registration adds one entry, and all others stay as they are. -/
theorem IsKeyed.actsOn_register (hk : r.IsKeyed) {candidates : List EndpointId} {seed : Seed}
    {new : Endpoint.New} {id : EndpointId}
    (h : r.register candidates seed new = .ok (some (id, r'))) : ∃ e, r.ActsOn r' id (some e) := by
  have hkeyed := hk.register h
  obtain ⟨e, he, hfresh, rfl⟩ := of_register h
  have hnone : r.entries.lookup id = none := by
    simpa [contains, Registry.get?] using hfresh
  refine ⟨e, fun id' => ?_, ?_, hkeyed, rfl⟩
  · -- the new entry comes last, so that it is found only where no other is
    rw [Registry.get?, List.lookup_append]
    by_cases hid : id' = id
    · rw [if_pos hid, hid, hnone]
      simp
    · rw [if_neg hid, List.lookup_cons, beq_eq_false_iff_ne.2 hid]
      exact Option.or_none
  · intro e' he'
    rw [← Option.some.inj he', Endpoint.New.id_of_build he]

/-- An update replaces one entry, and all others stay as they are. -/
theorem IsKeyed.actsOn_update (hk : r.IsKeyed) {id : EndpointId} {u : Endpoint.Update}
    (h : r.update id u = .ok (some r')) : ∃ next, r.ActsOn r' id (some next) := by
  obtain ⟨e, next, he, hn, hfound, hothers⟩ := get?_of_update h
  have hdefault : r'.defaultRetry = r.defaultRetry := by
    obtain ⟨-, -, -, -, rfl⟩ := of_update h
    rfl
  refine ⟨next, fun id' => ?_, ?_, hk.update h, hdefault⟩
  · by_cases hid : id' = id
    · rw [if_pos hid, hid, hfound]
    · rw [if_neg hid, hothers id' hid]
  · intro e' he'
    rw [← Option.some.inj he', Endpoint.Update.id_of_apply hn, hk.id_eq _ (mem_of_get? he)]

/-- What is found when the entries of an identifier are left out. -/
theorem lookup_filter_ne (entries : List (EndpointId × Endpoint)) (id id' : EndpointId) :
    (entries.filter fun p => p.1 ≠ id).lookup id' =
      if id' = id then none else entries.lookup id' := by
  induction entries with
  | nil => simp
  | cons p entries ih =>
    obtain ⟨key, e⟩ := p
    -- the first entry stays or goes; in both cases it counts for its own key only
    by_cases hkey : key = id
    · rw [List.filter_cons_of_neg (by simpa using hkey), ih, List.lookup_cons]
      by_cases hid : id' = id
      · rw [if_pos hid, if_pos hid]
      · rw [if_neg hid, if_neg hid, hkey, beq_eq_false_iff_ne.2 hid]
    · rw [List.filter_cons_of_pos (by simpa using hkey), List.lookup_cons, List.lookup_cons, ih]
      by_cases hid : id' = id
      · rw [if_pos hid, if_pos hid, hid, beq_eq_false_iff_ne.2 (Ne.symm hkey)]
      · rw [if_neg hid, if_neg hid]

/-- A removal takes one entry away, and all others stay as they are. -/
theorem IsKeyed.actsOn_unregister (hk : r.IsKeyed) {id : EndpointId}
    (h : r.unregister id = some r') : r.ActsOn r' id none := by
  have hkeyed := hk.unregister h
  obtain rfl := of_unregister h
  exact ⟨lookup_filter_ne r.entries id, by simp, hkeyed, rfl⟩

/-! ## Operations -/

/-- How a registration ends that draws its identifiers from a generator. -/
inductive Registers (r : Registry) (ids : Nat → EndpointId) (seed : Seed) (new : Endpoint.New) :
    Prop where
  /-- It fails, whatever is drawn. -/
  | refused (err : RegistrationError)
    (h : ∀ m, r.register (drawn ids m) seed new = .error err)
  /-- It goes on as long as what is drawn is in use, and ends with the first identifier that is not.
  It returns that one, and adds an endpoint under it. -/
  | registered (n : Nat) (e : Endpoint) (r' : Registry)
    (hused : ∀ i < n, r.contains (ids i) = true) (hfree : r.contains (ids n) = false)
    (hends : ∀ m, r.register (drawn ids m) seed new =
      .ok (if n < m then some (ids n, r') else none))
    (h : r.ActsOn r' (ids n) (some e))

/-- What registering comes to, when one of the identifiers that are drawn is free. -/
theorem IsKeyed.registers (hk : r.IsKeyed) {ids : Nat → EndpointId}
    (hfree : ∃ n, r.contains (ids n) = false) (seed : Seed) (new : Endpoint.New) :
    r.Registers ids seed new := by
  cases hb : new.build r.defaultRetry seed ⟨""⟩ with
  | error err => exact .refused err fun m => by rw [register_eq, hb]; rfl
  | ok e =>
    -- the first one that is not in use is where the search ends
    classical
    let n := Nat.find hfree
    have hn : r.contains (ids n) = false := Nat.find_spec hfree
    have hused : ∀ i < n, r.contains (ids i) = true := fun i hi =>
      Bool.eq_true_of_not_eq_false (Nat.find_min hfree hi)
    have hends : ∀ m, r.register (drawn ids m) seed new = .ok (if n < m then
        some (ids n, { r with entries := r.entries ++ [(ids n, { e with id := ids n })] })
        else none) := by
      intro m
      rw [register_eq, hb, find?_drawn hused hn]
      split <;> rfl
    have hregistered := (hends (n + 1)).trans (by rw [if_pos n.lt_succ_self])
    obtain ⟨e', hacts⟩ := hk.actsOn_register hregistered
    exact .registered n e' _ hused hn hends hacts

/-- What a change of the endpoint with an identifier comes to: it acts on that entry, or it fails,
or there is no such entry. -/
inductive Updates (r : Registry) (id : EndpointId) (u : Endpoint.Update) : Prop where
  /-- There is no such endpoint. -/
  | unknown (h : r.contains id = false) (hresult : r.update id u = .ok none)
  /-- The endpoint would not be valid. -/
  | refused (h : r.contains id = true) (err : RegistrationError)
    (hresult : r.update id u = .error err)
  /-- The endpoint is changed. -/
  | changed (h : r.contains id = true) (next : Endpoint) (r' : Registry)
    (hresult : r.update id u = .ok (some r')) (hacts : r.ActsOn r' id (some next))

/-- What an update comes to. -/
theorem IsKeyed.updates (hk : r.IsKeyed) (id : EndpointId) (u : Endpoint.Update) :
    r.Updates id u := by
  cases he : r.get? id with
  | none => exact .unknown (by rw [contains, he]; rfl) (by rw [Registry.update, he])
  | some e =>
    have hcontains : r.contains id = true := by rw [contains, he]; rfl
    cases hn : u.apply e with
    | error err => exact .refused hcontains err (by rw [update_eq_map he, hn]; rfl)
    | ok next =>
      have hresult := (update_eq_map he u).trans (congrArg (Except.map _) hn)
      obtain ⟨next', hacts⟩ := hk.actsOn_update hresult
      exact .changed hcontains next' _ hresult hacts

/-- What a removal of the endpoint with an identifier comes to. -/
inductive Unregisters (r : Registry) (id : EndpointId) : Prop where
  /-- There is no such endpoint. -/
  | unknown (h : r.contains id = false) (hresult : r.unregister id = none)
  /-- The endpoint is removed. -/
  | removed (h : r.contains id = true) (r' : Registry) (hresult : r.unregister id = some r')
    (hacts : r.ActsOn r' id none)

/-- What a removal comes to. -/
theorem IsKeyed.unregisters (hk : r.IsKeyed) (id : EndpointId) : r.Unregisters id := by
  cases hc : r.contains id with
  | false => exact .unknown hc (by rw [Registry.unregister, hc]; rfl)
  | true =>
    have hresult := show r.unregister id = some _ by rw [Registry.unregister, if_pos hc]
    exact .removed hc _ hresult (hk.actsOn_unregister hresult)

/-! ## Calls -/

/-- The operation has another result than a new registry. -/
def Fails (r : Registry) : Dispatcher.RegistryAction → Prop
  | .register draw new => ∀ added, r.register draw.candidates draw.seed new ≠ .ok (some added)
  | .update id u => ∀ r', r.update id u ≠ .ok (some r')
  | .unregister id => r.unregister id = none

/-- An operation that fails leaves the whole registry as it is. -/
theorem Fails.apply_eq {action : Dispatcher.RegistryAction} (h : r.Fails action) :
    action.apply r = r := by
  cases action with
  | register draw new =>
    simp only [Dispatcher.RegistryAction.apply]
    split
    next id r' hr => exact absurd hr (h (id, r'))
    · rfl
  | update id u =>
    simp only [Dispatcher.RegistryAction.apply]
    split
    next r' hr => exact absurd hr (h r')
    · rfl
  | unregister id =>
    have hnone : r.unregister id = none := h
    rw [Dispatcher.RegistryAction.apply, hnone, Option.getD_none]

/-- A call is a change or a removal of the endpoint with this identifier. -/
def Call.Names (id : EndpointId) : Call → Prop
  | .act (.update id' _) => id' = id
  | .act (.unregister id') => id' = id
  | _ => False

/-- A registration leaves what is found under an identifier. -/
theorem get?_register_of_some {candidates : List EndpointId} {seed : Seed} {new : Endpoint.New}
    {added id : EndpointId} {e : Endpoint}
    (h : r.register candidates seed new = .ok (some (added, r'))) (he : r.get? id = some e) :
    r'.get? id = some e := by
  obtain ⟨-, -, -, rfl⟩ := of_register h
  have hlookup : r.entries.lookup id = some e := he
  rw [Registry.get?, List.lookup_append, hlookup, Option.some_or]

/-- Loading declared endpoints leaves what is found under an identifier. -/
theorem get?_loadPairs_of_some {id : EndpointId} {e : Endpoint} (draw : Nat → Draw)
    (pairs : List (String × Option String)) (he : r.get? id = some e) :
    (r.loadPairs draw pairs).2.get? id = some e := by
  induction pairs generalizing r draw with
  | nil => exact he
  | cons pair rest ih =>
    unfold loadPairs
    split
    next added r' h => exact ih _ (get?_register_of_some h he)
    · exact ih draw he

/-- A call that does not name an endpoint leaves it alone. -/
theorem get?_call_of_not_names {call : Call} {id : EndpointId} {e : Endpoint}
    (hcall : ¬call.Names id) (he : r.get? id = some e) : (call.apply r).get? id = some e := by
  cases call with
  | load draw b => exact get?_loadPairs_of_some draw b.pairs he
  | act action =>
    -- a call that fails changes nothing, and the others are about one entry each
    by_cases hfails : r.Fails action
    · rw [Call.apply, hfails.apply_eq]
      exact he
    cases action with
    | register draw new =>
      obtain ⟨⟨added, r'⟩, hr⟩ := not_forall_not.1 hfails
      rw [Call.apply, Dispatcher.RegistryAction.apply, hr]
      exact get?_register_of_some hr he
    | update id' u =>
      obtain ⟨r', hr⟩ := not_forall_not.1 hfails
      obtain ⟨-, -, -, -, -, hothers⟩ := get?_of_update hr
      rw [Call.apply, Dispatcher.RegistryAction.apply, hr]
      exact (hothers id (Ne.symm hcall)).trans he
    | unregister id' =>
      obtain ⟨r', hr⟩ := Option.ne_none_iff_exists'.1 hfails
      rw [Call.apply, Dispatcher.RegistryAction.apply, hr, Option.getD_some, of_unregister hr]
      exact (lookup_filter_ne r.entries id' id).trans ((if_neg (Ne.symm hcall)).trans he)

/-- An endpoint stays as it is through all calls that do not name its identifier. -/
theorem get?_after_of_not_names {calls : List Call} {id : EndpointId} {e : Endpoint}
    (hcalls : ∀ call ∈ calls, ¬call.Names id) (he : r.get? id = some e) :
    (r.after calls).get? id = some e := by
  induction calls generalizing r with
  | nil => exact he
  | cons call rest ih =>
    have hfirst := get?_call_of_not_names (hcalls call List.mem_cons_self) he
    exact ih (fun other hother => hcalls other (List.mem_cons_of_mem _ hother)) hfirst

/-- After any sequence of calls, every operation acts on one entry only. A registration that draws
its identifiers from a generator, of which one at least is not in use, fails or ends with the first
one that is not, and adds an endpoint under it; a change or a removal acts on the entry with the
identifier that it is given, if there is one. An operation that fails leaves everything as it is.
An endpoint that is there stays as it is through all later calls that do not name it. -/
theorem operations_act_on_one_entry (defaultRetry : RetryPolicy) (calls : List Call) :
    let r := (empty defaultRetry).after calls
    (∀ ids seed new, (∃ n, r.contains (ids n) = false) → r.Registers ids seed new) ∧
      (∀ id u, r.Updates id u) ∧ (∀ id, r.Unregisters id) ∧
      (∀ action, r.Fails action → action.apply r = r) ∧
      ∀ later id e, (∀ call ∈ later, ¬call.Names id) → r.get? id = some e →
        (r.after later).get? id = some e := by
  intro r
  have hkeyed : r.IsKeyed := ((isSound_empty defaultRetry).after calls).keyed
  exact ⟨fun ids seed new hfree => hkeyed.registers hfree seed new, hkeyed.updates,
    hkeyed.unregisters, fun action hfails => hfails.apply_eq,
    fun later id e hcalls he => get?_after_of_not_names hcalls he⟩

namespace Sample

/-- A generator that yields an identifier in use twice. -/
def repeating (n : Nat) : EndpointId := if n < 2 then ⟨"one"⟩ else ⟨"three"⟩

/-- A registration that draws the identifier of the endpoint that is left passes over it and adds
another endpoint. The one that is left stays as it is, also when that other one is removed. -/
theorem operations_act_on_one_entry_sample :
    let r := (empty ⟨3, 0⟩).after calls
    r.contains (repeating 2) = false ∧
      (∃ e r', r.register (drawn repeating 5) (fun _ => 7) hook = .ok (some (⟨"three"⟩, r')) ∧
        r.ActsOn r' ⟨"three"⟩ (some e) ∧ r'.get? ⟨"one"⟩ = r.get? ⟨"one"⟩) ∧
      ∃ e, r.get? ⟨"one"⟩ = some e ∧
        (r.after [.act (.register ⟨drawn repeating 5, fun _ => 7⟩ hook),
          .act (.unregister ⟨"three"⟩)]).get? ⟨"one"⟩ = some e := by
  intro r
  obtain ⟨hregisters, -, -, -, hstays⟩ := operations_act_on_one_entry ⟨3, 0⟩ calls
  have hfree : r.contains (repeating 2) = false := by decide +kernel
  have hsome : (r.get? ⟨"one"⟩).isSome := by decide +kernel
  obtain ⟨e, he⟩ := Option.isSome_iff_exists.1 hsome
  have hok : (r.register (drawn repeating 5) (fun _ => 7) hook).isOk := by decide +kernel
  refine ⟨hfree, ?_, e, he, hstays _ _ e ?_ he⟩
  · cases hregisters repeating (fun _ => 7) hook ⟨2, hfree⟩ with
    | refused err h =>
      rw [h 5] at hok
      cases hok
    | registered n added r' hused hn hends hacts =>
      -- the first two are in use, and the third is not
      have hle : n ≤ 2 := by
        by_contra hlt
        have hcontradiction := hused 2 (by omega)
        rw [hfree] at hcontradiction
        cases hcontradiction
      have hne : ∀ i < 2, n ≠ i := by
        rintro i hi rfl
        have hcontains : ∀ i < 2, r.contains (repeating i) = true := by decide +kernel
        rw [hcontains n hi] at hn
        cases hn
      obtain rfl : n = 2 := by
        have := hne 0 (by omega)
        have := hne 1 (by omega)
        omega
      refine ⟨added, r', hends 5, hacts, ?_⟩
      rw [hacts.get?]
      exact if_neg (by decide)
  · simp [Call.Names]

end Sample

end Registry

end Webhook
