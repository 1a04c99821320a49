import Mathlib.Data.List.MinMax
import Webhook.Proofs.Dispatcher.FanOut

/-!
# Deliveries side by side

The deliveries of one envelope do not affect each other. `deliveries_isolated` compares two fan-outs
of an envelope, to any recipients in any order, whose deliveries take turns in any order: the same
requests go to a common recipient, at the same times from the start, and there is the same report on
it, whatever happens to the others. The comparison with a fan-out to one recipient says that each
delivery does what it would do alone; that with the recipients in another order says that the order
does not matter.

A fan-out can always be brought to its end (`FanOut.Keeps.exists_over`): a delivery that has come to
its end can be reported on, and if there is none, time can go by until the first of them moves. Each
of these leaves less to do.
-/

namespace Webhook

open Delivery (Stage)

namespace Dispatcher

variable {d d' : Dispatcher} {actions later : List Action} {id : EndpointId}

namespace FanOut

variable {f g : FanOut} {servers : Servers} {sender : Sender} {envelope : Envelope}
  {endpoints : List Endpoint} {e : Endpoint} {x y : Delivery} {index : Nat} {m : Delivery.Move}

/-! ## Bringing a fan-out to its end -/

/-- What deliveries have left to do, with the reports. -/
def workOf (deliveries : List Delivery) : Nat := (deliveries.map fun x => x.work + 1).sum

/-- A report that is sent leaves less to do. -/
theorem workOf_eraseIdx_lt {deliveries : List Delivery} (hx : deliveries[index]? = some x) :
    workOf (deliveries.eraseIdx index) < workOf deliveries := by
  have hsum := sum_map_eraseIdx (fun x : Delivery => x.work + 1) hx
  unfold workOf
  omega

/-- A move leaves less to do. -/
theorem workOf_set_lt {deliveries : List Delivery} (hx : deliveries[index]? = some x)
    (hlt : y.work < x.work) : workOf (deliveries.set index y) < workOf deliveries :=
  sum_map_set_lt (fun x : Delivery => x.work + 1) hx (Nat.add_lt_add_right hlt 1)

/-- A delivery that has not come to its end has a next move. -/
theorem exists_next? (hp : ∀ report, x.phase ≠ .settled report) (servers : Servers) :
    ∃ time m, f.next? servers x = some (time, m) := by
  refine Stage.exists_next? (fun report hs => ?_) _
  simp only [FanOut.stage, Delivery.since] at hs
  cases hphase : x.phase <;> rw [hphase] at hs <;> cases hs
  exact hp _ hphase

/-- Among deliveries with a next move, there is one whose next move comes first. -/
theorem exists_first (hne : f.deliveries ≠ [])
    (hnext : ∀ x ∈ f.deliveries, ∃ time m, f.next? servers x = some (time, m)) :
    ∃ x ∈ f.deliveries, ∃ time m, f.next? servers x = some (time, m) ∧
      ∀ z ∈ f.deliveries, ∀ later m', f.next? servers z = some (later, m') → time ≤ later := by
  have hmin : f.deliveries.argmin (fun x => ((f.next? servers x).map Prod.fst).getD 0) ≠ none := by
    simpa only [ne_eq, List.argmin_eq_none] using hne
  obtain ⟨x, hx⟩ := Option.ne_none_iff_exists'.1 hmin
  obtain ⟨time, m, hn⟩ := hnext x (List.argmin_mem hx)
  refine ⟨x, List.argmin_mem hx, time, m, hn, fun z hz later m' hn' => ?_⟩
  have hle := List.le_of_mem_argmin hz hx
  simpa only [hn, hn', Option.map_some, Option.getD_some] using hle

namespace Keeps

/-- A delivery can make the move that is due. -/
theorem exists_move (hk : f.Keeps servers sender envelope endpoints)
    (hx : f.deliveries[index]? = some x)
    (hn : f.next? servers x = some (f.dispatcher.now - f.start, m)) :
    ∃ g, f.step? servers (m.action index) = some g ∧ workOf g.deliveries < workOf f.deliveries := by
  -- the stage can take the move, and the delivery is the stage moved in time
  obtain ⟨z, hz⟩ := Stage.exists_move? hn f.dispatcher.sender
  rw [FanOut.stage, Delivery.move?_since hk.started
    (hk.onCourse x (List.mem_of_getElem? hx)).since] at hz
  obtain ⟨y, hm, -⟩ := Option.map_eq_some_iff.1 hz
  have hs := Step.deliver index m x y rfl (Worker.eq_delivering hk.delivering) hx hm
  refine ⟨_, step?_eq_some.2 ⟨?_, _, _, hs, rfl⟩, ?_⟩
  · rw [allows_action]
    exact isDue_iff.2 ⟨x, hx, hn⟩
  · exact workOf_set_lt hx (Delivery.work_lt_of_move? hm)

/-- Nothing is due by itself before the first next move. -/
theorem allowsUntil (hk : f.Keeps servers sender envelope endpoints) {time : Nat}
    (hnext : ∀ x ∈ f.deliveries, ∃ time m, f.next? servers x = some (time, m))
    (hfirst : ∀ x ∈ f.deliveries, ∀ later m, f.next? servers x = some (later, m) → time ≤ later) :
    f.dispatcher.allowsUntil (f.start + time) := by
  rw [Dispatcher.allowsUntil, Worker.eq_delivering hk.delivering]
  refine List.all_eq_true.2 fun x hx => (Option.all_eq_true _ _).2 fun limit hl => ?_
  obtain ⟨later, m, hn⟩ := hnext x hx
  -- the limit of the dispatcher is a time of the stage, which acts no later than it
  have hlast : (f.stage x).delivery.nextTime? = some (limit - f.start) := by
    rw [FanOut.stage, Delivery.nextTime?_since, hl, Option.map_some]
  have hlimit := Stage.le_of_next? hn hlast
  have hsince := (hk.onCourse x hx).since limit hl
  have hle := hfirst x hx later m hn
  exact decide_eq_true (by omega)

/-- When no delivery has come to its end, time can go by until the first of them moves. -/
theorem exists_advance (hk : f.Keeps servers sender envelope endpoints) (hne : f.deliveries ≠ [])
    (hp : ∀ x ∈ f.deliveries, ∀ report, x.phase ≠ .settled report) :
    ∃ ms g x m, ∃ index : Nat, f.step? servers (.advance ms) = some g ∧
      g.deliveries = f.deliveries ∧
      g.deliveries[index]? = some x ∧
      g.next? servers x = some (g.dispatcher.now - g.start, m) := by
  have hnext : ∀ x ∈ f.deliveries, ∃ time m, f.next? servers x = some (time, m) :=
    fun x hx => exists_next? (hp x hx) servers
  -- the delivery that is next of all
  obtain ⟨x, hx, time, m, hn, hfirst⟩ := exists_first hne hnext
  have hnow : f.dispatcher.now + (f.start + time - f.dispatcher.now) = f.start + time :=
    Nat.add_sub_cancel' ((hk.onCourse x hx).clock time m hn)
  have hallowed : f.allows servers (.advance (f.start + time - f.dispatcher.now)) = true := by
    refine allows_advance.2 fun z hz later m' hn' => ?_
    rw [hnow]
    exact Nat.add_le_add_left (hfirst z hz later m' hn') _
  have huntil := hk.allowsUntil hnext hfirst
  rw [← hnow] at huntil
  obtain ⟨index, hi⟩ := List.mem_iff_getElem?.1 hx
  refine ⟨_, _, x, m, index, step?_eq_some.2 ⟨hallowed, _, _, .advance _ huntil, rfl⟩, rfl, hi, ?_⟩
  rw [extend_dispatcher, extend_start, hnow, Nat.add_sub_cancel_left, ← hn]
  simp only [FanOut.next?, FanOut.stage, extend_start, sent_extend, sentTo, List.filterMap_nil,
    List.append_nil]

/-- As long as not all reports are sent, some actions lead on. -/
theorem exists_progress (hk : f.Keeps servers sender envelope endpoints) (ho : ¬f.IsOver) :
    ∃ actions g, f.run? servers actions = some g ∧ workOf g.deliveries < workOf f.deliveries := by
  have hworker := Worker.eq_delivering hk.delivering
  -- what remains to be done decreases by a report, or by a move once its time has come
  by_cases hsettled : ∃ x ∈ f.deliveries, ∃ report, x.phase = .settled report
  · -- a delivery has come to its end, and its report can be sent
    obtain ⟨x, hmem, report, hp⟩ := hsettled
    obtain ⟨index, hx⟩ := List.mem_iff_getElem?.1 hmem
    have hs := Step.record index x report hworker hx hp
    exact ⟨[.record index], _, run?_cons.2 ⟨_, step?_eq_some.2 ⟨rfl, _, _, hs, rfl⟩, rfl⟩,
      workOf_eraseIdx_lt hx⟩
  · have hp : ∀ x ∈ f.deliveries, ∀ report, x.phase ≠ .settled report :=
      fun x hx report hp => hsettled ⟨x, hx, report, hp⟩
    have hne : f.deliveries ≠ [] := by
      intro hnil
      rw [FanOut.deliveries] at hnil
      rw [hnil] at hworker
      exact ho hworker
    obtain ⟨ms, f₁, x, m, index, hadvance, hsame, hx, hn⟩ := hk.exists_advance hne hp
    obtain ⟨g, hmove, hlt⟩ := (hk.step hadvance).exists_move hx hn
    exact ⟨[.advance ms, m.action index], g,
      run?_cons.2 ⟨f₁, hadvance, run?_cons.2 ⟨g, hmove, rfl⟩⟩, hsame ▸ hlt⟩

/-- A fan-out can be brought to its end. -/
theorem exists_over (hk : f.Keeps servers sender envelope endpoints) :
    ∃ actions g, f.run? servers actions = some g ∧ g.IsOver := by
  -- by induction on what is left to do
  induction hwork : workOf f.deliveries using Nat.strong_induction_on generalizing f with
  | _ work ih =>
    by_cases ho : f.IsOver
    · exact ⟨[], f, rfl, ho⟩
    · obtain ⟨actions, f₁, hr, hlt⟩ := hk.exists_progress ho
      rw [hwork] at hlt
      obtain ⟨later, g, hr', ho'⟩ := ih _ hlt (hk.run hr) rfl
      exact ⟨actions ++ later, g, run?_append hr hr', ho'⟩

/-- At the end there is one report on each recipient, and no other. -/
theorem perm_of_isOver (hk : f.Keeps servers sender envelope endpoints) (ho : f.IsOver) :
    (f.reports.map Report.endpointId).Perm (endpoints.map Endpoint.id) := by
  have hperm := hk.awaits.ids
  rw [FanOut.deliveries, ho] at hperm
  simpa only [Worker.deliveries, List.map_nil, List.append_nil] using hperm

end Keeps

/-! ## Two fan-outs -/

variable {f' : FanOut} {servers' : Servers} {endpoints' : List Endpoint}

/-- Two fan-outs do the same for an endpoint, as far as both have come. -/
structure AgreeOn (f f' : FanOut) (e : Endpoint) : Prop where
  /-- The requests in one of them are the first ones of those in the other. -/
  sent : f.sent e.id <+: f'.sent e.id ∨ f'.sent e.id <+: f.sent e.id
  /-- When both have a report, it is the same, and so are all requests. -/
  report : ∀ r ∈ f.reportsOn e.id, ∀ r' ∈ f'.reportsOn e.id, r' = r ∧ f'.sent e.id = f.sent e.id
  /-- When both are over, each has one report. -/
  ended : f.IsOver → f'.IsOver → f'.sent e.id = f.sent e.id ∧
    ∃ r, f.reportsOn e.id = [r] ∧ f'.reportsOn e.id = [r]

/-- The reports on an endpoint are those that name it. -/
theorem mem_reportsOn {r : Report} :
    r ∈ f.reportsOn id ↔ r ∈ f.reports ∧ r.endpointId = id := by
  simp only [reportsOn, List.mem_filter, decide_eq_true_eq]

namespace Keeps

/-- No report is made twice. -/
theorem nodup_reports (hk : f.Keeps servers sender envelope endpoints) : f.reports.Nodup :=
  .of_map _ (List.nodup_append.1 (hk.awaits.ids.nodup_iff.2 hk.distinct)).1

/-- At the end there is one report on a recipient. -/
theorem reportsOn_of_isOver (hk : f.Keeps servers sender envelope endpoints) (ho : f.IsOver)
    (he : e ∈ endpoints) : ∃ r, f.reportsOn e.id = [r] := by
  obtain ⟨r, hr, hid⟩ := List.mem_map.1
    ((hk.perm_of_isOver ho).mem_iff.2 (List.mem_map_of_mem he))
  -- a list without repetitions whose members are `r` alone
  refine ⟨r, List.perm_singleton.1 ((List.perm_ext_iff_of_nodup (hk.nodup_reports.filter _)
    (List.nodup_singleton r)).2 fun r' => ?_)⟩
  rw [List.mem_singleton]
  constructor
  · intro hr'
    obtain ⟨hr', hid'⟩ := mem_reportsOn.1 hr'
    exact hk.awaits.report_eq_of_id hk.distinct hr' hr (hid'.trans hid.symm)
  · rintro rfl
    exact mem_reportsOn.2 ⟨hr, hid⟩

/-- Both fan-outs do for a common recipient what its delivery does alone. -/
theorem agreeOn (hk : f.Keeps servers sender envelope endpoints)
    (hk' : f'.Keeps servers' sender envelope endpoints') (he : e ∈ endpoints)
    (he' : e ∈ endpoints') (hs : servers' e.id = servers e.id) : f.AgreeOn f' e := by
  -- in each fan-out the endpoint is at some stage of the same course
  obtain ⟨n, hsent, hreport⟩ := hk.exists_stage he
  obtain ⟨n', hsent', hreport'⟩ := hk'.exists_stage he'
  rw [hs] at hsent' hreport'
  have hboth : ∀ r ∈ f.reportsOn e.id, ∀ r' ∈ f'.reportsOn e.id,
      r' = r ∧ f'.sent e.id = f.sent e.id := by
    intro r hr r' hr'
    obtain ⟨hr, hid⟩ := mem_reportsOn.1 hr
    obtain ⟨hr', hid'⟩ := mem_reportsOn.1 hr'
    have hp := hreport r hr hid
    have hp' := hreport' r' hr' hid'
    -- a course settles once, so both have come to the same stage
    have heq := Stage.eq_of_settled hp hp'
    rw [heq, hp] at hp'
    cases hp'
    exact ⟨rfl, by rw [hsent, hsent', heq]⟩
  refine ⟨?_, hboth, fun ho ho' => ?_⟩
  · rw [hsent, hsent']
    rcases Nat.le_total n n' with hle | hle
    · exact .inl (Stage.sent_prefix_after hle)
    · exact .inr (Stage.sent_prefix_after hle)
  · obtain ⟨r, hr⟩ := hk.reportsOn_of_isOver ho he
    obtain ⟨r', hr'⟩ := hk'.reportsOn_of_isOver ho' he'
    obtain ⟨rfl, hsame⟩ := hboth r (by simp [hr]) r' (by simp [hr'])
    exact ⟨hsame, r', hr, hr'⟩

/-- Fan-outs to the same recipients come to the same reports. -/
theorem reports_subset (hk : f.Keeps servers sender envelope endpoints)
    (hk' : f'.Keeps servers' sender envelope endpoints') (hp : endpoints.Perm endpoints')
    (hs : ∀ e ∈ endpoints, servers' e.id = servers e.id) (ho : f.IsOver) (ho' : f'.IsOver) :
    f.reports ⊆ f'.reports := by
  intro r hr
  obtain ⟨e, he, hid⟩ := List.mem_map.1
    ((hk.perm_of_isOver ho).mem_iff.1 (List.mem_map_of_mem hr))
  obtain ⟨-, r', hone, hone'⟩ := (hk.agreeOn hk' he (hp.mem_iff.1 he) (hs e he)).ended ho ho'
  have hmem := mem_reportsOn.2 ⟨hr, hid.symm⟩
  rw [hone, List.mem_singleton] at hmem
  rw [hmem]
  exact (mem_reportsOn.1 (hone' ▸ List.mem_singleton_self r')).1

/-- The order of the recipients does not matter, nor that in which their deliveries take turns. -/
theorem reports_perm (hk : f.Keeps servers sender envelope endpoints)
    (hk' : f'.Keeps servers' sender envelope endpoints') (hp : endpoints.Perm endpoints')
    (hs : ∀ e ∈ endpoints, servers' e.id = servers e.id) (ho : f.IsOver) (ho' : f'.IsOver) :
    f'.reports.Perm f.reports := by
  have hs' : ∀ e ∈ endpoints', servers e.id = servers' e.id :=
    fun e he => (hs e (hp.mem_iff.2 he)).symm
  refine (List.perm_ext_iff_of_nodup hk'.nodup_reports hk.nodup_reports).2 fun r => ?_
  exact ⟨fun hr => hk'.reports_subset hk hp.symm hs' ho' ho hr,
    fun hr => hk.reports_subset hk' hp hs ho ho' hr⟩

end Keeps

end FanOut

open FanOut

/-- Two fan-outs of one envelope, with the same settings, to different endpoints each, whose
deliveries take turns in any order: they do the same for each common recipient that is answered the
same in both, whatever is answered to the others. In particular, this is so when one of them has
this recipient only. At its end a fan-out has one report on each recipient, and no other. When both
have the same recipients, in any order, both come to the same reports, and the counters grow by the
same. A fan-out can be brought to its end. -/
theorem deliveries_isolated {envelope : Envelope} {endpoints endpoints' : List Endpoint}
    (hb : Begins d envelope endpoints) (hb' : Begins d' envelope endpoints')
    (hsender : d'.sender = d.sender) {servers servers' : Servers} {f f' : FanOut}
    (h : (FanOut.of d).run? servers actions = some f)
    (h' : (FanOut.of d').run? servers' later = some f') :
    (∀ e ∈ endpoints, e ∈ endpoints' → servers' e.id = servers e.id → f.AgreeOn f' e) ∧
      (f.IsOver → (f.reports.map Report.endpointId).Perm (endpoints.map Endpoint.id)) ∧
      (endpoints.Perm endpoints' → (∀ e ∈ endpoints, servers' e.id = servers e.id) →
        f.IsOver → f'.IsOver → f'.reports.Perm f.reports ∧ ∃ delivered failed,
          f.dispatcher.counters.delivered = d.counters.delivered + delivered ∧
          f'.dispatcher.counters.delivered = d'.counters.delivered + delivered ∧
          f.dispatcher.counters.failed = d.counters.failed + failed ∧
          f'.dispatcher.counters.failed = d'.counters.failed + failed) ∧
      ∃ rest g, f.run? servers rest = some g ∧ g.IsOver := by
  have hk := (Keeps.of_begins hb servers).run h
  have hk' := (Keeps.of_begins hb' servers').run h'
  rw [hsender] at hk'
  refine ⟨fun e he he' hs => hk.agreeOn hk' he he' hs, hk.perm_of_isOver, ?_, hk.exists_over⟩
  intro hp hs ho ho'
  have hreports := hk.reports_perm hk' hp hs ho ho'
  obtain ⟨more, hrun, hf⟩ := run_of_run? h
  obtain ⟨more', hrun', hf'⟩ := run_of_run? h'
  have hcounted := counted_of_run hrun
  have hcounted' := counted_of_run hrun'
  -- what has happened since the start is what the fan-out keeps
  have hmore : reportsIn more = f.reports := by rw [hf]; rfl
  have hmore' : reportsIn more' = f'.reports := by rw [hf']; rfl
  rw [hmore] at hcounted
  rw [hmore', hreports.countP_eq, hreports.countP_eq] at hcounted'
  exact ⟨hreports, _, _, hcounted.1, hcounted'.1, hcounted.2, hcounted'.2⟩

namespace Session

/-- One endpoint answers when asked again, and the others never; an answer takes a while. -/
def servers : Servers := fun id sent =>
  if id = ⟨"one"⟩ then some (50, .response (if sent.length = 1 then 503 else 200) none) else none

/-- The worker takes an envelope for these endpoints, looks them up, and delivers it to them while
this happens: the dispatcher before and after the lookup, and the fan-out. -/
def fanOut (ids : List String) (actions : List Action) :
    Option (Dispatcher × Dispatcher × FanOut) := do
  let (d, _) ← (create Config.default).run
    (ids.map register ++ [.offer (item "first"), .append, .take])
  let (d', _) ← d.step .address
  return (d, d', ← (FanOut.of d').run? servers actions)

/-- The delivery to an endpoint that answers when asked again, and is removed meanwhile, and to one
that never answers. -/
def together : List Action :=
  [.send 0, .send 1, .advance 50, .reply 0 (.response 503 none), .configure (.unregister ⟨"one"⟩),
   .advance 1000, .send 0, .advance 50, .reply 0 (.response 200 none), .advance 8900, .expire 1,
   .record 0, .advance 1000, .send 0, .advance 10000, .expire 0, .advance 2000, .send 0,
   .advance 10000, .expire 0, .record 0]

/-- The delivery to the one that answers, and to no other. -/
def alone : List Action :=
  [.send 0, .advance 50, .reply 0 (.response 503 none), .advance 1000, .send 0, .advance 50,
   .reply 0 (.response 200 none), .record 0]

/-- A fan-out of the sample that has begun is a run from the state in which it begins. -/
theorem of_fanOut {ids : List String} {f : FanOut} (h : fanOut ids actions = some (d, d', f))
    (hw : d.worker = .addressing (item "first")) (hf : d'.worker.fanOuts = 1) :
    Begins d' (item "first").envelope (d.recipients (item "first")) ∧
      d'.sender = (create Config.default).sender ∧
      (FanOut.of d').run? servers actions = some f := by
  simp only [fanOut, Option.bind_eq_bind, Option.bind_eq_some_iff] at h
  obtain ⟨⟨d₀, before⟩, hrun, ⟨d₁, now⟩, hs, f', hf', he⟩ := h
  cases he
  obtain ⟨item', hw', hb⟩ := begins_of_address hrun hs hf
  rw [hw] at hw'
  cases hw'
  exact ⟨hb, (Step.of_step hs).sender.trans (run_iff.1 hrun).hasCourses.2, hf'⟩

end Session

/-- An endpoint that fails for good does not affect the delivery to another one: this gets the two
requests and the report that it gets as the only recipient. -/
theorem failing_isolated : ∃ d₁ d f d₂ d' f' e,
    Session.fanOut ["one", "two"] Session.together = some (d₁, d, f) ∧
      Session.fanOut ["one"] Session.alone = some (d₂, d', f') ∧
      (d₁.recipients (Session.item "first")).length = 2 ∧ e ∈ d₁.recipients (Session.item "first") ∧
      d₂.recipients (Session.item "first") = [e] ∧ f.IsOver ∧ f'.IsOver ∧
      (f.sent e.id).length = 2 ∧ f'.sent e.id = f.sent e.id ∧
      ∃ r, f.reportsOn e.id = [r] ∧ f'.reportsOn e.id = [r] := by
  -- the two fan-outs are evaluated together
  have htogether : (Session.fanOut ["one", "two"] Session.together).any (fun x =>
      (Session.fanOut ["one"] Session.alone).any fun y =>
        x.1.worker = .addressing (Session.item "first") ∧ x.2.1.worker.fanOuts = 1 ∧
        y.1.worker = .addressing (Session.item "first") ∧ y.2.1.worker.fanOuts = 1 ∧
        x.2.2.dispatcher.worker = .delivering [] ∧ y.2.2.dispatcher.worker = .delivering [] ∧
        (x.1.recipients (Session.item "first")).length = 2 ∧
        ∃ e ∈ x.1.recipients (Session.item "first"),
          y.1.recipients (Session.item "first") = [e] ∧ (x.2.2.sent e.id).length = 2) := by
    decide
  obtain ⟨⟨d₁, d, f⟩, hfan, htogether⟩ := (Option.any_eq_true _ _).1 htogether
  obtain ⟨⟨d₂, d', f'⟩, hfan', htogether⟩ := (Option.any_eq_true _ _).1 htogether
  obtain ⟨hw, hf, hw', hf', ho, ho', hlength, e, he, hone, hsent⟩ := of_decide_eq_true htogether
  obtain ⟨hb, hsender, hrun⟩ := Session.of_fanOut hfan hw hf
  obtain ⟨hb', hsender', hrun'⟩ := Session.of_fanOut hfan' hw' hf'
  have hagree := (deliveries_isolated hb hb' (hsender'.trans hsender.symm) hrun hrun').1 e he
    (by rw [hone]; exact List.mem_singleton_self e) rfl
  exact ⟨d₁, d, f, d₂, d', f', e, hfan, hfan', hlength, he, hone, ho, ho', hsent,
    hagree.ended ho ho'⟩

end Dispatcher

end Webhook
