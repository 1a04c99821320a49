import Webhook.Proofs.Bootstrap
import Webhook.Proofs.Registry.Frame

/-!
# Loading declared endpoints

A bootstrap declares urls and secrets by their places in two lists. Which places become endpoints is
decided for each by itself: its url must not be empty and must be one of an endpoint, and the
default policy must have a delay (`IsAccepted`). The other places are passed over, and move
nothing: each new endpoint has the url and the secret of its own place (`Registry.load_aligned`).
-/

namespace Webhook

/-- A url is one of an endpoint, and the default policy is one as well. -/
def isAccepted (defaultRetry : RetryPolicy) (url : String) : Bool :=
  decide (0 < defaultRetry.retryDelayMs) && (validateUrl url).isOk

/-- A declared url is accepted when it passes the check and the default policy has a delay. -/
theorem isAccepted_iff {defaultRetry : RetryPolicy} {url : String} :
    isAccepted defaultRetry url = true ↔
      0 < defaultRetry.retryDelayMs ∧ ∃ checked, validateUrl url = .ok checked := by
  rw [isAccepted, Bool.and_eq_true, decide_eq_true_eq, Except.isOk_iff]

/-- A url that passes the check is stored trimmed. -/
theorem eq_trim_of_validateUrl {raw url : String} (h : validateUrl raw = .ok url) :
    url = Text.trim raw := by
  unfold validateUrl at h
  dsimp only at h
  split at h
  · cases h
  · split at h
    · exact (Except.ok.inj h).symm
    · cases h
    · cases h

namespace Registry

variable {r : Registry} {draw : Nat → Draw} {pairs : List (String × Option String)}

/-! ## One declared endpoint -/

/-- Of a declared endpoint only the url and the default policy are to be checked. -/
theorem build_declared (pair : String × Option String) (defaultRetry : RetryPolicy) (seed : Seed)
    (id : EndpointId) : (declared pair).build defaultRetry seed id =
      (validateUrl pair.1).bind fun url => (validateRetryPolicy defaultRetry).map fun policy =>
        ⟨id, url, secretOr (generateSecret seed) pair.2, EventSet.ofList EventType.all, true,
          policy, Dictionary.empty⟩ := by
  have hall : validateEvents EventType.all = .ok (EventSet.ofList EventType.all) := rfl
  have hnone : validateHeaders Dictionary.empty = .ok Dictionary.empty := rfl
  simp only [Endpoint.New.build, declared, Endpoint.New.of, hall, hnone, Option.getD_none]
  cases validateUrl pair.1 with
  | error err => rfl
  | ok url => cases validateRetryPolicy defaultRetry <;> rfl

/-- The endpoint that a declared one becomes. -/
structure IsDeclared (pair : String × Option String) (defaultRetry : RetryPolicy) (draw : Draw)
    (e : Endpoint) : Prop where
  id : e.id ∈ draw.candidates
  url : e.url = Text.trim pair.1
  secret : e.secret = secretOr (generateSecret draw.seed) pair.2
  events : ∀ t, e.events.contains t = true
  enabled : e.enabled = true
  retryPolicy : e.retryPolicy = defaultRetry
  headers : e.headers = Dictionary.empty

/-- A declared endpoint that is accepted is registered, if an identifier is drawn that is not in
use. -/
theorem register_declared_of_accepted {pair : String × Option String} {draw : Draw}
    (h : isAccepted r.defaultRetry pair.1 = true)
    (hfree : ∃ id ∈ draw.candidates, r.contains id = false) :
    ∃ e, IsDeclared pair r.defaultRetry draw e ∧ r.contains e.id = false ∧
      r.register draw.candidates draw.seed (declared pair) =
        .ok (some (e.id, { r with entries := r.entries ++ [(e.id, e)] })) := by
  obtain ⟨hdelay, url, hv⟩ := isAccepted_iff.1 h
  have hpolicy := validateRetryPolicy_of_pos hdelay
  -- the generator yields an identifier that is free
  have hfound : (draw.candidates.find? fun id => !r.contains id).isSome := by
    rw [List.find?_isSome]
    simpa using hfree
  obtain ⟨id, hid⟩ := Option.isSome_iff_exists.1 hfound
  refine ⟨⟨id, url, secretOr (generateSecret draw.seed) pair.2, EventSet.ofList EventType.all,
    true, r.defaultRetry, Dictionary.empty⟩, ?_, by simpa using List.find?_some hid, ?_⟩
  · exact {
      id := List.mem_of_find?_eq_some hid
      url := eq_trim_of_validateUrl hv
      secret := rfl
      events := fun t => by
        rw [EventSet.contains_ofList]
        exact List.contains_iff_mem.2 t.mem_all
      enabled := rfl
      retryPolicy := rfl
      headers := rfl }
  · rw [register_eq, build_declared, hv, hpolicy, hid]
    rfl

/-- A declared endpoint that is not accepted is refused, whatever is drawn. -/
theorem register_declared_of_not_accepted {pair : String × Option String}
    (h : isAccepted r.defaultRetry pair.1 = false) (candidates : List EndpointId) (seed : Seed) :
    ∃ err, r.register candidates seed (declared pair) = .error err := by
  rw [register_eq, build_declared]
  cases hv : validateUrl pair.1 with
  | error err => exact ⟨err, rfl⟩
  | ok url =>
    -- the url passes, so that it is the delay of the default policy that is missing
    have hdelay : r.defaultRetry.retryDelayMs = 0 := by
      by_contra hne
      have haccepted := isAccepted_iff.2 ⟨UInt64.pos_iff_ne_zero.2 hne, url, hv⟩
      rw [h] at haccepted
      cases haccepted
    have hpolicy : validateRetryPolicy r.defaultRetry = .error .invalidRetryDelay := if_pos hdelay
    exact ⟨.invalidRetryDelay, by rw [hpolicy]; rfl⟩

/-! ## All of them -/

/-- Whenever the registration of a declared endpoint that is accepted begins, one of the identifiers
that it draws is not in use. -/
def Supplies (r : Registry) (draw : Nat → Draw) (pairs : List (String × Option String)) : Prop :=
  ∀ k, ∀ h : k < pairs.length, isAccepted r.defaultRetry pairs[k].1 = true →
    ∃ id ∈ (draw (r.loadPairs draw (pairs.take k)).1.length).candidates,
      (r.loadPairs draw (pairs.take k)).2.contains id = false

/-- The endpoints that are added for declared ones, in their order, each with what it draws. -/
structure Adds (r : Registry) (draw : Nat → Draw) (accepted : List (String × Option String))
    (added : List Endpoint) : Prop where
  length : added.length = accepted.length
  declared : ∀ n pair e, accepted[n]? = some pair → added[n]? = some e →
    IsDeclared pair r.defaultRetry (draw n) e
  nodup : (added.map Endpoint.id).Nodup
  fresh : ∀ e ∈ added, r.contains e.id = false

/-- The registry with endpoints added. -/
def extend (r : Registry) (added : List Endpoint) : Registry :=
  { r with entries := r.entries ++ added.map fun e => (e.id, e) }

/-- An identifier that is free after endpoints were added was free before, and is none of theirs. -/
theorem contains_extend {added : List Endpoint} {id : EndpointId}
    (h : (r.extend added).contains id = false) :
    r.contains id = false ∧ ∀ e ∈ added, e.id ≠ id := by
  have hnone : (r.extend added).entries.lookup id = none := by
    simpa [contains, Registry.get?] using h
  rw [List.lookup_eq_none_iff] at hnone
  constructor
  · have hold : r.entries.lookup id = none :=
      List.lookup_eq_none_iff.2 fun p hp => hnone p (List.mem_append_left _ hp)
    rw [contains, Registry.get?, hold]
    rfl
  · intro e he
    have hnew := hnone (e.id, e) (List.mem_append_right _ (List.mem_map_of_mem he))
    exact fun heq => bne_iff_ne.1 hnew heq.symm

/-- What is found after adding endpoints with different identifiers, none of them in use. -/
theorem get?_extend {added : List Endpoint} (hnodup : (added.map Endpoint.id).Nodup)
    (hfresh : ∀ e ∈ added, r.contains e.id = false) (id : EndpointId) (e : Endpoint) :
    (r.extend added).get? id = some e ↔ r.get? id = some e ∨ e ∈ added ∧ e.id = id := by
  -- the new endpoints by themselves are a keyed registry
  have hkeyed : (Registry.mk (added.map fun e => (e.id, e)) r.defaultRetry).IsKeyed :=
    ⟨by simpa [List.map_map, Function.comp_def] using hnodup, by simp⟩
  have hnew : (added.map fun e => (e.id, e)).lookup id = some e ↔ e ∈ added ∧ e.id = id := by
    refine hkeyed.get?_eq_some_iff.trans ?_
    simp only [List.mem_map, Prod.mk.injEq]
    constructor
    · rintro ⟨e', he', rfl, rfl⟩
      exact ⟨he', rfl⟩
    · rintro ⟨he, rfl⟩
      exact ⟨e, he, rfl, rfl⟩
  rw [Registry.get?, extend, List.lookup_append, ← hnew]
  change (r.get? id).or _ = some e ↔ r.get? id = some e ∨ _
  cases hold : r.get? id with
  | none => simp
  | some old =>
    have hnone : (added.map fun e => (e.id, e)).lookup id = none := by
      rw [List.lookup_eq_none_iff]
      intro p hp
      obtain ⟨e', he', rfl⟩ := List.mem_map.1 hp
      rw [bne_iff_ne]
      rintro rfl
      have := hfresh e' he'
      rw [contains, hold] at this
      cases this
    simp [hnone]

/-- Loading adds an endpoint for each declared one that is accepted, and passes over the others. -/
theorem loadPairs_eq (hs : r.Supplies draw pairs) :
    ∃ added, r.loadPairs draw pairs = (added.map Endpoint.id, r.extend added) ∧
      r.Adds draw (pairs.filter fun pair => isAccepted r.defaultRetry pair.1) added := by
  induction pairs generalizing r draw with
  | nil =>
    exact ⟨[], by simp [loadPairs, extend], rfl, by simp, List.nodup_nil, by simp⟩
  | cons pair rest ih =>
    -- a pair that is not accepted draws nothing and is passed over; otherwise the rest draws from
    -- the next draw on
    cases hp : isAccepted r.defaultRetry pair.1 with
    | false =>
      obtain ⟨err, herr⟩ := register_declared_of_not_accepted hp (draw 0).candidates (draw 0).seed
      have hskip : ∀ rest, r.loadPairs draw (pair :: rest) = r.loadPairs draw rest := by
        intro rest
        rw [loadPairs, herr]
      have hsupplies : r.Supplies draw rest := by
        intro k hk haccepted
        have hnext := hs (k + 1) (Nat.succ_lt_succ hk) haccepted
        rwa [List.take_succ_cons, hskip] at hnext
      rw [hskip, List.filter_cons_of_neg (by simp [hp])]
      exact ih hsupplies
    | true =>
      have hfirst : ∃ id ∈ (draw 0).candidates, r.contains id = false :=
        hs 0 (Nat.succ_pos _) hp
      obtain ⟨e, he, hfresh, hregister⟩ := register_declared_of_accepted hp hfirst
      have hadd : ∀ rest, r.loadPairs draw (pair :: rest) =
          (e.id :: ((r.extend [e]).loadPairs (fun n => draw (n + 1)) rest).1,
            ((r.extend [e]).loadPairs (fun n => draw (n + 1)) rest).2) := by
        intro rest
        rw [loadPairs, hregister]
        rfl
      have hsupplies : (r.extend [e]).Supplies (fun n => draw (n + 1)) rest := by
        intro k hk haccepted
        have hnext := hs (k + 1) (Nat.succ_lt_succ hk) haccepted
        rwa [List.take_succ_cons, hadd] at hnext
      obtain ⟨added, hrest, hadds⟩ := ih hsupplies
      rw [hadd, hrest, List.filter_cons_of_pos (by simp [hp])]
      refine ⟨e :: added, by simp [extend], ?_⟩
      exact {
        length := congrArg (· + 1) hadds.length
        declared := by
          rintro (_ | n) pair' e' hpair he'
          · cases hpair
            cases he'
            exact he
          · exact hadds.declared n pair' e' hpair he'
        -- an identifier of the rest is free after this one was added
        nodup := by
          refine List.nodup_cons.2 ⟨fun hmem => ?_, hadds.nodup⟩
          obtain ⟨e', he', hid⟩ := List.mem_map.1 hmem
          exact (contains_extend (hadds.fresh e' he')).2 e (by simp) hid.symm
        fresh := by
          intro e' he'
          rcases List.mem_cons.1 he' with rfl | he'
          · exact hfresh
          · exact (contains_extend (hadds.fresh e' he')).1 }

/-! ## By places -/

/-- An endpoint is the one declared at a place of two lists. -/
structure IsAligned (urls secrets : List String) (i : Nat) (defaultRetry : RetryPolicy)
    (draw : Draw) (e : Endpoint) : Prop where
  url : urls[i]? = some e.url
  /-- A secret at the same place is taken unless it is empty. -/
  secret : ∀ secret, secrets[i]? = some secret → secret ≠ "" → e.secret = secret
  generated : (∀ secret, secrets[i]? = some secret → secret = "") →
    e.secret = generateSecret draw.seed
  secret_ne_empty : e.secret ≠ ""
  id : e.id ∈ draw.candidates
  events : ∀ t, e.events.contains t = true
  enabled : e.enabled = true
  retryPolicy : e.retryPolicy = defaultRetry
  headers : e.headers = Dictionary.empty

/-- Loading turns places of a list of urls, in their order, into endpoints. -/
structure LoadsAligned (r : Registry) (draw : Nat → Draw) (urls secrets : List String)
    (places : List Nat) (added : List Endpoint) (loaded : List EndpointId × Registry) : Prop where
  /-- Places stand in order, none twice. -/
  increasing : places.Pairwise (· < ·)
  /-- They are exactly those whose url is not empty and is one of an endpoint, if the default policy
  has a delay. -/
  mem_places : ∀ i, i ∈ places ↔ 0 < r.defaultRetry.retryDelayMs ∧
    ∃ url, urls[i]? = some url ∧ url ≠ "" ∧ ∃ checked, validateUrl url = .ok checked
  /-- There is one endpoint for each place. -/
  length : added.length = places.length
  /-- It is the endpoint of that place. -/
  aligned : ∀ n i e, places[n]? = some i → added[n]? = some e →
    IsAligned urls secrets i r.defaultRetry (draw n) e
  /-- The identifiers of the endpoints are returned, in the same order. -/
  ids : loaded.1 = added.map Endpoint.id
  nodup : loaded.1.Nodup
  fresh : ∀ id ∈ loaded.1, r.contains id = false
  /-- Afterwards the new endpoints are found besides all that was found before. -/
  found : ∀ id e, loaded.2.get? id = some e ↔ r.get? id = some e ∨ e ∈ added ∧ e.id = id
  defaultRetry : loaded.2.defaultRetry = r.defaultRetry

/-- What is declared at a place is the endpoint of that place. -/
theorem IsDeclared.isAligned {b : Bootstrap} {i : Nat} {defaultRetry : RetryPolicy} {draw : Draw}
    {e : Endpoint} (h : IsDeclared (b.pairAt i) defaultRetry draw e) (hi : i < b.urls.length)
    (htrim : ∀ url ∈ b.urls, Text.trim url = url) :
    IsAligned b.urls b.secrets i defaultRetry draw e := by
  have hgenerated := generateSecret_ne_empty draw.seed
  exact {
    url := by
      rw [h.url, Bootstrap.fst_pairAt hi, htrim _ (List.getElem_mem hi),
        List.getElem?_eq_getElem hi]
    -- an empty secret counts as none
    secret := by
      intro secret hs hne
      have hempty : secret.isEmpty = false := by simpa using hne
      rw [h.secret, Bootstrap.pairAt, hs]
      simp [Option.filter_some, hempty, secretOr]
    generated := by
      intro hs
      rw [h.secret, Bootstrap.pairAt]
      cases hsecret : b.secrets[i]? with
      | none => rfl
      | some secret =>
        rw [hs secret hsecret]
        rfl
    secret_ne_empty := by
      rw [h.secret]
      exact secretOr_ne_empty hgenerated _
    id := h.id
    events := h.events
    enabled := h.enabled
    retryPolicy := h.retryPolicy
    headers := h.headers }

/-- The places whose url is not empty and is accepted. -/
def acceptedPlaces (b : Bootstrap) (defaultRetry : RetryPolicy) : List Nat :=
  (List.range b.urls.length).filter fun i =>
    isAccepted defaultRetry (b.pairAt i).1 && !(b.pairAt i).1.isEmpty

/-- A place is accepted exactly when a url stands there that is not empty and passes the check, and
the default policy has a delay. -/
theorem mem_acceptedPlaces {b : Bootstrap} {defaultRetry : RetryPolicy} {i : Nat} :
    i ∈ acceptedPlaces b defaultRetry ↔ 0 < defaultRetry.retryDelayMs ∧
      ∃ url, b.urls[i]? = some url ∧ url ≠ "" ∧ ∃ checked, validateUrl url = .ok checked := by
  -- the url of a pair is the one at its place, so that the two filters agree
  rw [acceptedPlaces, List.mem_filter, List.mem_range, Bool.and_eq_true]
  constructor
  · rintro ⟨hi, haccepted, hne⟩
    rw [Bootstrap.fst_pairAt hi] at haccepted hne
    obtain ⟨hdelay, hurl⟩ := isAccepted_iff.1 haccepted
    exact ⟨hdelay, _, List.getElem?_eq_getElem hi, by simpa using hne, hurl⟩
  · rintro ⟨hdelay, url, hplace, hne, hurl⟩
    obtain ⟨hi, rfl⟩ := List.getElem?_eq_some_iff.1 hplace
    rw [Bootstrap.fst_pairAt hi]
    exact ⟨hi, isAccepted_iff.2 ⟨hdelay, hurl⟩, by simpa using hne⟩

/-- The pairs that are accepted are those of the accepted places, in order. -/
theorem filter_pairs (b : Bootstrap) (defaultRetry : RetryPolicy) :
    (b.pairs.filter fun pair => isAccepted defaultRetry pair.1) =
      (acceptedPlaces b defaultRetry).map b.pairAt := by
  rw [b.pairs_eq, List.filter_map, List.filter_filter]
  rfl

/-- Loading a bootstrap whose urls are trimmed turns its accepted places into endpoints. -/
theorem loadBootstrap_aligned {b : Bootstrap} (hs : r.Supplies draw b.pairs)
    (htrim : ∀ url ∈ b.urls, Text.trim url = url) :
    ∃ added, r.LoadsAligned draw b.urls b.secrets (acceptedPlaces b r.defaultRetry) added
      (r.loadBootstrap draw b) := by
  obtain ⟨added, hload, hadds⟩ := loadPairs_eq hs
  rw [filter_pairs] at hadds
  rw [loadBootstrap, hload]
  exact ⟨added, {
    increasing := List.pairwise_lt_range.filter _
    mem_places := fun i => mem_acceptedPlaces
    length := hadds.length.trans (List.length_map _)
    -- the endpoint with a number among the added is that of the accepted place with this number
    aligned := by
      intro n i e hplace he
      have hi : i < b.urls.length := by
        have hmem := List.mem_of_getElem? hplace
        exact List.mem_range.1 (List.mem_of_mem_filter hmem)
      have hpair : ((acceptedPlaces b r.defaultRetry).map b.pairAt)[n]? = some (b.pairAt i) := by
        rw [List.getElem?_map, hplace]
        rfl
      exact (hadds.declared n _ e hpair he).isAligned hi htrim
    ids := rfl
    nodup := hadds.nodup
    fresh := by
      intro id hid
      obtain ⟨e, he, rfl⟩ := List.mem_map.1 hid
      exact hadds.fresh e he
    found := get?_extend hadds.nodup hadds.fresh
    defaultRetry := rfl }⟩

/-- Loading the urls and secrets of two lists with commas registers the urls at the places that are
accepted, each with the secret at its own place, provided that each of them draws an identifier that
is not in use. -/
theorem load_aligned (r : Registry) (draw : Nat → Draw) (urls secrets : String)
    (hs : r.Supplies draw (Bootstrap.parse urls secrets).pairs) :
    ∃ places added, r.LoadsAligned draw (trimmedPieces urls) (trimmedPieces secrets) places added
      (r.loadBootstrap draw (Bootstrap.parse urls secrets)) := by
  have hparse : Bootstrap.parse urls secrets = ⟨trimmedPieces urls, trimmedPieces secrets⟩ := by
    rw [Bootstrap.parse, splitList_eq, splitList_eq]
  rw [hparse] at hs ⊢
  exact ⟨_, loadBootstrap_aligned hs fun _ => trim_of_mem_trimmedPieces⟩

namespace Sample

/-- Identifiers of which the first is in use, drawn again and again. -/
def again (_ : Nat) : Draw := ⟨[⟨"one"⟩, ⟨"two"⟩, ⟨"three"⟩], fun _ => 7⟩

/-- Between two urls that are accepted stand a blank one and one that is refused, both with secrets.
The url after them keeps its own. -/
theorem load_aligned_sample :
    let r := (empty ⟨3, 1⟩).after [.act (.register (Sample.draw "two") hook)]
    let urls := " https://a.test/h, ,mailto:c,https://b.test/h"
    let secrets := ",x,y, sb "
    let loaded := r.loadBootstrap again (Bootstrap.parse urls secrets)
    r.Supplies again (Bootstrap.parse urls secrets).pairs ∧
      (∃ places added,
        r.LoadsAligned again (trimmedPieces urls) (trimmedPieces secrets) places added loaded) ∧
      loaded.1 = [⟨"two"⟩, ⟨"three"⟩] ∧
      (loaded.2.get? ⟨"three"⟩).map (fun e => (e.url, e.secret)) =
        some ("https://b.test/h", "sb") := by
  intro r urls secrets loaded
  have hsupplies : r.Supplies again (Bootstrap.parse urls secrets).pairs := by
    unfold Supplies
    decide +kernel
  exact ⟨hsupplies, load_aligned r again urls secrets hsupplies, by decide +kernel,
    by decide +kernel⟩

end Sample

end Registry

end Webhook
