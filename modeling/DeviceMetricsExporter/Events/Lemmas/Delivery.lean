import DeviceMetricsExporter.Events.Impl.Service

/-!
This module contains what becomes of an event: no event is handed over twice, a synchronous call only
succeeds if its event was handed over, and no accepted event is lost as long as no call enqueues
behind the back of the dispatcher.
-/

namespace Events

open CallPool

namespace ServiceEvent

def handed? : ServiceEvent → Option Nat
  | .handed id => some id
  | _ => none

end ServiceEvent

def handedIDs (history : List ServiceEvent) : List Nat :=
  history.filterMap ServiceEvent.handed?

def Delivery.pending : Delivery → List Nat
  | .entered env => [env.id]
  | _ => []

namespace Emit

def pending : Emit → List Nat
  | .holding env => [env.id]
  | .delivering _ d => d.pending
  | _ => []

def isHolding : Emit → Bool
  | .holding _ => true
  | _ => false

def isReturned : Emit → Bool
  | .noService _ | .returned _ _ | .done _ => true
  | _ => false

end Emit

def Dispatcher.pending : Dispatcher → List Nat
  | .delivering _ d => d.pending
  | _ => []

structure Delivered (s : CallPool EventState Emit) : Prop where
  once : (handedIDs s.shared.history).Nodup
  sound : ∀ env, .returned env none ∈ s.calls → .emitted env.id none ∈ s.shared.history
  drained : s.shared.stopper = .returned → (∀ c ∈ s.calls, c.isReturned = true) →
    ∀ id, .enqueued id ∈ s.shared.history → .handed id ∈ s.shared.history

/--
A call enqueues its event only while the dispatcher has not exited.
-/
def BeforeExit (s : EventState) (_ : List Emit) (c : Emit) (_ : EmitInput) : Prop :=
  c.isHolding = true → s.dispatcher ≠ .exited

instance (s : EventState) (others : List Emit) (c : Emit) (x : EmitInput)
    : Decidable (BeforeExit s others c x) :=
  inferInstanceAs (Decidable (_ → _))

@[simp]
theorem handedIDs_handed (id : Nat) (history : List ServiceEvent)
    : handedIDs (.handed id :: history) = id :: handedIDs history := rfl

@[simp]
theorem handedIDs_emitted (id : Nat) (err : Option EmitError) (history : List ServiceEvent)
    : handedIDs (.emitted id err :: history) = handedIDs history := rfl

@[simp]
theorem handedIDs_enqueued (id : Nat) (history : List ServiceEvent)
    : handedIDs (.enqueued id :: history) = handedIDs history := rfl

theorem mem_handedIDs {id : Nat} {history : List ServiceEvent}
    : id ∈ handedIDs history ↔ .handed id ∈ history := by
  simp only [handedIDs, List.mem_filterMap]
  constructor
  . rintro ⟨e, hmem, he⟩
    cases e with
    | handed id' =>
      cases he
      exact hmem
    | enqueued _ => cases he
    | emitted _ _ => cases he
  . intro hmem
    exact ⟨_, hmem, rfl⟩

/--
What a step of `deliver` does: the event it has not handed over yet is handed over now or later, and
the only error it sends is the one that `emitToK8s` returned.
-/
structure Delivers (s : EventState) (d : Delivery) (s' : EventState) (d' : Option Delivery) : Prop
    where
  queue : s'.queue = s.queue
  dispatcher : s'.dispatcher = s.dispatcher
  stopper : s'.stopper = s.stopper
  nextID : s'.nextID = s.nextID
  history : ∀ e ∈ s.history, e ∈ s'.history
  enqueued : ∀ id, .enqueued id ∈ s'.history → .enqueued id ∈ s.history
  custody : d'.elim [] Delivery.pending ++ handedIDs s'.history = d.pending ++ handedIDs s.history
  emitted : ∀ env err, d' = some (.emitted env err) → .emitted env.id err ∈ s'.history
  replies : ∀ id err, (id, err) ∈ s'.replies →
    (id, err) ∈ s.replies ∨ ∃ env, d = .emitted env err ∧ env.id = id

theorem createEvent_eq (s : EventState) (res : CreateResult)
    : ∃ disabled err, s.createEvent res = ({ s with rbacDisabled := disabled }, err) := by
  cases res with
  | created => exact ⟨s.rbacDisabled, none, rfl⟩
  | forbidden => exact ⟨true, none, rfl⟩
  | failed err => exact ⟨s.rbacDisabled, some (.create err), rfl⟩

theorem delivers_of_deliver {s s' : EventState} {d : Delivery} {x : EmitInput}
    {d' : Option Delivery} (h : s.deliver d x = some (s', d')) : Delivers s d s' d' := by
  unfold EventState.deliver at h
  split at h
  . next env =>
    dsimp only at h
    split at h
    . cases h
      refine ⟨rfl, rfl, rfl, rfl, ?_, ?_, rfl, ?_, fun _ _ => Or.inl⟩
      . intro e he
        exact List.mem_cons_of_mem _ (List.mem_cons_of_mem _ he)
      . intro id he
        simpa [EventState.record] using he
      . intro env' err heq
        cases heq
        exact List.mem_cons_self
    . cases h
      refine ⟨rfl, rfl, rfl, rfl, ?_, ?_, rfl, nofun, fun _ _ => Or.inl⟩
      . intro e he
        exact List.mem_cons_of_mem _ he
      . intro id he
        simpa [EventState.record] using he
  . next env res =>
    rcases createEvent_eq s res with ⟨disabled, err, heq⟩
    simp only [heq] at h
    cases h
    refine ⟨rfl, rfl, rfl, rfl, fun _ => List.mem_cons_of_mem _, ?_, rfl, ?_, fun _ _ => Or.inl⟩
    . intro id he
      simpa [EventState.record] using he
    . intro env' err' heq'
      cases heq'
      exact List.mem_cons_self
  . next env err =>
    split at h
    . cases h
      exact ⟨rfl, rfl, rfl, rfl, fun _ => id, fun _ => id, rfl, nofun, fun _ _ => Or.inl⟩
    . split at h
      . cases h
      . cases h
        refine ⟨rfl, rfl, rfl, rfl, fun _ => id, fun _ => id, rfl, nofun, ?_⟩
        intro id err' hmem
        rcases List.mem_cons.mp hmem with heq | hmem
        . cases heq
          exact .inr ⟨env, rfl, rfl⟩
        . exact .inl hmem
  . cases h

theorem emit_cases {s s' : EventState} {c c' : Emit} {x : EmitInput}
    (h : emit s c x = some (s', c'))
    : (∃ r, c = .called r ∧ c' = .holding ⟨s.nextID, r.reason, r.msg, r.sync⟩
        ∧ s' = { s with nextID := s.nextID + 1 }) ∨
      (∃ r, c = .called r ∧ c' = .noService r ∧ s' = s) ∨
      (∃ env, c = .holding env ∧ (c' = .waiting env ∨ c' = .done env) ∧ s' = s.enqueue env) ∨
      (∃ env, c = .holding env ∧ (c' = .delivering env (.entered env) ∨ c' = .done env)
        ∧ s' = s) ∨
      (∃ env d d', c = .delivering env d ∧ c' = d'.elim (.waiting env) (.delivering env)
        ∧ s.deliver d x = some (s', d')) ∨
      (∃ env err, c = .waiting env ∧ c' = .returned env err ∧ (env.id, err) ∈ s.replies
        ∧ s' = s.receive env.id) ∨
      ∃ env, c = .waiting env ∧ c' = .returned env (some (.timedOut env.reason)) ∧ s' = s := by
  unfold emit at h
  split at h
  . next r =>
    split at h
    . cases h
    . split at h
      . cases h
        exact .inl ⟨r, rfl, rfl, rfl⟩
      . cases h
        exact .inr (.inl ⟨r, rfl, rfl, rfl⟩)
  . next env =>
    split at h
    . cases h
      refine .inr (.inr (.inl ⟨env, rfl, ?_, rfl⟩))
      split
      . exact .inl rfl
      . exact .inr rfl
    . split at h
      . cases h
        exact .inr (.inr (.inr (.inl ⟨env, rfl, .inl rfl, rfl⟩)))
      . cases h
        exact .inr (.inr (.inr (.inl ⟨env, rfl, .inr rfl, rfl⟩)))
  . next env d =>
    rcases Option.map_eq_some_iff.mp h with ⟨⟨t, d'⟩, hdeliver, heq⟩
    cases heq
    exact .inr (.inr (.inr (.inr (.inl ⟨env, d, d', rfl, rfl, hdeliver⟩))))
  . next env =>
    rcases Option.map_eq_some_iff.mp h with ⟨err, hreply, heq⟩
    cases heq
    rcases List.lookup_eq_some_iff.mp hreply with ⟨l₁, l₂, hreplies, -⟩
    refine .inr (.inr (.inr (.inr (.inr (.inl ⟨env, err, rfl, rfl, ?_, rfl⟩)))))
    rw [hreplies]
    exact List.mem_append_right _ List.mem_cons_self
  . next env =>
    cases h
    exact .inr (.inr (.inr (.inr (.inr (.inr ⟨env, rfl, rfl, rfl⟩)))))
  . cases h

theorem dispatch_cases {s s' : EventState} {x : DispatchInput} (h : s.dispatch x = some s')
    : (∃ env queue stopping, s.queue = env :: queue ∧ s.dispatcher.pending = []
        ∧ s.dispatcher ≠ .exited
        ∧ s' = { s with queue, dispatcher := .delivering stopping (.entered env) }) ∨
      (s.dispatcher = .selecting ∧ s' = { s with dispatcher := .draining }) ∨
      (s.dispatcher = .draining ∧ s.queue = [] ∧ s' = { s with dispatcher := .exited }) ∨
      ∃ stopping d x t d', s.dispatcher = .delivering stopping d ∧ s.deliver d x = some (t, d')
        ∧ s' = { t with
            dispatcher := d'.elim (if stopping then .draining else .selecting)
              (.delivering stopping) } := by
  unfold EventState.dispatch at h
  split at h
  . next hselecting =>
    split at h
    . cases h
    . next env queue hqueue =>
      cases h
      refine .inl ⟨env, queue, false, hqueue, ?_, ?_, rfl⟩
      . rw [hselecting]
        rfl
      . rw [hselecting]
        nofun
  . next hselecting =>
    split at h
    . cases h
      exact .inr (.inl ⟨hselecting, rfl⟩)
    . cases h
  . next hdraining =>
    split at h
    . cases h
    . next env queue hqueue =>
      cases h
      refine .inl ⟨env, queue, true, hqueue, ?_, ?_, rfl⟩
      . rw [hdraining]
        rfl
      . rw [hdraining]
        nofun
  . next hdraining =>
    split at h
    . next hempty =>
      cases h
      exact .inr (.inr (.inl ⟨hdraining, List.isEmpty_iff.mp hempty, rfl⟩))
    . cases h
  . next stopping d x hdelivering =>
    rcases Option.map_eq_some_iff.mp h with ⟨⟨t, d'⟩, hdeliver, heq⟩
    cases heq
    exact .inr (.inr (.inr ⟨stopping, d, x, t, d', hdelivering, hdeliver, rfl⟩))
  . cases h

theorem stop_cases {s s' : EventState} (h : s.stop = some s')
    : s'.queue = s.queue ∧ s'.dispatcher = s.dispatcher ∧ s'.nextID = s.nextID
        ∧ s'.replies = s.replies ∧ s'.history = s.history
        ∧ (s'.stopper = .returned → s.dispatcher = .exited) := by
  unfold EventState.stop at h
  split at h
  . cases h
    exact ⟨rfl, rfl, rfl, rfl, rfl, nofun⟩
  . cases h
    exact ⟨rfl, rfl, rfl, rfl, rfl, nofun⟩
  . split at h
    . next hexited =>
      cases h
      exact ⟨rfl, rfl, rfl, rfl, rfl, fun _ => hexited⟩
    . cases h
  . cases h

def Delivery.vouches : Delivery → Option (Nat × Option EmitError)
  | .emitted env err => some (env.id, err)
  | _ => none

def Emit.vouches : Emit → Option (Nat × Option EmitError)
  | .delivering _ d => d.vouches
  | .returned env none => some (env.id, none)
  | _ => none

def Dispatcher.vouches : Dispatcher → Option (Nat × Option EmitError)
  | .delivering _ d => d.vouches
  | _ => none

theorem pending_entered (env : EventEnvelope) : (Delivery.entered env).pending = [env.id] := rfl

theorem pending_delivering (stopping : Bool) (d : Delivery)
    : (Dispatcher.delivering stopping d).pending = d.pending := rfl

/--
Where an event can be: with its call, in the queue, with the dispatcher, or handed over.
-/
def places (s : CallPool EventState Emit) : List Nat :=
  s.calls.flatMap Emit.pending ++ s.shared.queue.map EventEnvelope.id
    ++ s.shared.dispatcher.pending ++ handedIDs s.shared.history

structure EventInv (s : CallPool EventState Emit) : Prop where
  custody : ∀ id, (places s).count id ≤ 1
  fresh : ∀ id, s.shared.nextID ≤ id → (places s).count id = 0
  accepted : ∀ id, .enqueued id ∈ s.shared.history →
    (∃ env ∈ s.shared.queue, env.id = id) ∨ id ∈ s.shared.dispatcher.pending ∨
      .handed id ∈ s.shared.history
  replies : ∀ id err, (id, err) ∈ s.shared.replies → .emitted id err ∈ s.shared.history
  calls : ∀ c ∈ s.calls, ∀ id err, c.vouches = some (id, err) →
    .emitted id err ∈ s.shared.history
  dispatcher : ∀ id err, s.shared.dispatcher.vouches = some (id, err) →
    .emitted id err ∈ s.shared.history
  waited : s.shared.stopper = .returned → s.shared.dispatcher = .exited

theorem EventInv.perm {s : EventState} {cs ds : List Emit} (hinv : EventInv ⟨s, cs⟩)
    (h : cs.Perm ds) : EventInv ⟨s, ds⟩ where
  custody id := by
    have hcustody := hinv.custody id
    simp only [places, List.count_append, (h.flatMap_right Emit.pending).count_eq] at hcustody ⊢
    exact hcustody
  fresh id hid := by
    have hfresh := hinv.fresh id hid
    simp only [places, List.count_append, (h.flatMap_right Emit.pending).count_eq] at hfresh ⊢
    exact hfresh
  accepted := hinv.accepted
  replies := hinv.replies
  calls c hc := hinv.calls c (h.mem_iff.mpr hc)
  dispatcher := hinv.dispatcher
  waited := hinv.waited

theorem EventInv.of_count_eq {s s' : CallPool EventState Emit} (hinv : EventInv s)
    (hcount : ∀ id, (places s').count id = (places s).count id)
    (hnextID : s'.shared.nextID = s.shared.nextID)
    : (∀ id, (places s').count id ≤ 1)
        ∧ ∀ id, s'.shared.nextID ≤ id → (places s').count id = 0 := by
  constructor
  . intro id
    rw [hcount]
    exact hinv.custody id
  . intro id hid
    rw [hcount]
    rw [hnextID] at hid
    exact hinv.fresh id hid

section Call

variable {s s' : EventState} {others : List Emit} {c c' : Emit}

theorem count_places (id : Nat)
    : (places ⟨s, c :: others⟩).count id = c.pending.count id
        + (places ⟨s, others⟩).count id := by
  simp only [places, List.flatMap_cons, List.count_append]
  omega

theorem eventInv_silent (hinv : EventInv ⟨s, c :: others⟩)
    (hpending : ∀ id, c'.pending.count id ≤ c.pending.count id)
    (hvouches : ∀ id err, c'.vouches = some (id, err) → .emitted id err ∈ s.history)
    : EventInv ⟨s, c' :: others⟩ where
  custody id := by
    have hcustody := hinv.custody id
    have := hpending id
    rw [count_places] at hcustody ⊢
    omega
  fresh id hid := by
    have hfresh := hinv.fresh id hid
    have := hpending id
    rw [count_places] at hfresh ⊢
    omega
  accepted := hinv.accepted
  replies := hinv.replies
  calls d hd := by
    rcases List.mem_cons.mp hd with rfl | hd
    . exact hvouches
    . exact hinv.calls d (List.mem_cons_of_mem c hd)
  dispatcher := hinv.dispatcher
  waited := hinv.waited

theorem eventInv_hold {r : EmitRequest} (hinv : EventInv ⟨s, .called r :: others⟩)
    : EventInv ⟨{ s with nextID := s.nextID + 1 },
        .holding ⟨s.nextID, r.reason, r.msg, r.sync⟩ :: others⟩ where
  custody id := by
    have hcustody := hinv.custody id
    have hfresh := hinv.fresh s.nextID (Nat.le_refl _)
    rw [count_places] at hcustody hfresh ⊢
    simp only [Emit.pending, List.count_nil, List.count_singleton, Nat.zero_add] at *
    split
    . next heq =>
      rw [beq_iff_eq] at heq
      subst heq
      exact Nat.le_of_eq (congrArg (1 + ·) hfresh)
    . exact (Nat.zero_add _).symm ▸ hcustody
  fresh id hid := by
    have hfresh := hinv.fresh id (Nat.le_of_succ_le hid)
    rw [count_places] at hfresh ⊢
    have hne : s.nextID ≠ id := Nat.ne_of_lt hid
    simp only [Emit.pending, List.count_nil, Nat.zero_add] at hfresh
    simp only [Emit.pending, List.count_singleton, beq_eq_false_iff_ne.mpr hne]
    exact (Nat.zero_add _).symm ▸ hfresh
  accepted := hinv.accepted
  replies := hinv.replies
  calls d hd := by
    rcases List.mem_cons.mp hd with rfl | hd
    . nofun
    . exact hinv.calls d (List.mem_cons_of_mem _ hd)
  dispatcher := hinv.dispatcher
  waited := hinv.waited

theorem count_places_enqueue {env : EventEnvelope} (id : Nat)
    : (places ⟨s.enqueue env, others⟩).count id
        = [env.id].count id + (places ⟨s, others⟩).count id := by
  simp only [places, EventState.enqueue, EventState.record, List.map_append, List.map_cons,
    List.map_nil, List.count_append, handedIDs_enqueued]
  omega

theorem eventInv_enqueue {env : EventEnvelope} (hinv : EventInv ⟨s, .holding env :: others⟩)
    (hc' : c' = .waiting env ∨ c' = .done env) : EventInv ⟨s.enqueue env, c' :: others⟩ := by
  have hpending : c'.pending = [] := by
    rcases hc' with rfl | rfl
    . rfl
    . rfl
  have hvouches : c'.vouches = none := by
    rcases hc' with rfl | rfl
    . rfl
    . rfl
  refine ⟨?_, ?_, ?_, ?_, ?_, ?_, hinv.waited⟩
  . intro id
    have hcustody := hinv.custody id
    rw [count_places] at hcustody ⊢
    rw [count_places_enqueue, hpending, List.count_nil, Nat.zero_add]
    exact hcustody
  . intro id hid
    have hfresh := hinv.fresh id hid
    rw [count_places] at hfresh ⊢
    rw [count_places_enqueue, hpending, List.count_nil, Nat.zero_add]
    exact hfresh
  . intro id hmem
    rcases List.mem_cons.mp hmem with heq | hmem
    . cases heq
      exact .inl ⟨env, List.mem_append_right _ List.mem_cons_self, rfl⟩
    . rcases hinv.accepted id hmem with ⟨env', hqueue, hid⟩ | hpending | hhanded
      . exact .inl ⟨env', List.mem_append_left _ hqueue, hid⟩
      . exact .inr (.inl hpending)
      . exact .inr (.inr (List.mem_cons_of_mem _ hhanded))
  . intro id err hmem
    exact List.mem_cons_of_mem _ (hinv.replies id err hmem)
  . intro d hd id err hd'
    rcases List.mem_cons.mp hd with rfl | hd
    . rw [hvouches] at hd'
      cases hd'
    . exact List.mem_cons_of_mem _ (hinv.calls d (List.mem_cons_of_mem _ hd) id err hd')
  . intro id err hd
    exact List.mem_cons_of_mem _ (hinv.dispatcher id err hd)

theorem replies_of_delivers {d : Delivery} {d' : Option Delivery} (h : Delivers s d s' d')
    (hreplies : ∀ id err, (id, err) ∈ s.replies → .emitted id err ∈ s.history)
    (hvouches : ∀ id err, d.vouches = some (id, err) → .emitted id err ∈ s.history)
    (id : Nat) (err : Option EmitError) (hmem : (id, err) ∈ s'.replies)
    : .emitted id err ∈ s'.history := by
  apply h.history
  rcases h.replies id err hmem with hmem | ⟨env, rfl, rfl⟩
  . exact hreplies id err hmem
  . exact hvouches env.id err rfl

theorem accepted_of_delivers {d : Delivery} {d' : Option Delivery} (h : Delivers s d s' d')
    {id : Nat} (hid : id ∈ d.pending ∨ .handed id ∈ s.history)
    : id ∈ d'.elim [] Delivery.pending ∨ .handed id ∈ s'.history := by
  rw [← mem_handedIDs, ← List.mem_append] at hid ⊢
  rw [h.custody]
  exact hid

theorem vouches_of_delivers {d : Delivery} {d' : Option Delivery} (h : Delivers s d s' d')
    {id : Nat} {err : Option EmitError} (hd' : d'.bind Delivery.vouches = some (id, err))
    : .emitted id err ∈ s'.history := by
  rcases Option.bind_eq_some_iff.mp hd' with ⟨d'', rfl, hvouches⟩
  cases d'' with
  | emitted env _ =>
    cases hvouches
    exact h.emitted env err rfl
  | entered _ => cases hvouches
  | creating _ => cases hvouches

theorem count_of_delivers {d : Delivery} {d' : Option Delivery} (h : Delivers s d s' d') (id : Nat)
    : (d'.elim [] Delivery.pending).count id + (handedIDs s'.history).count id
        = d.pending.count id + (handedIDs s.history).count id := by
  rw [← List.count_append, ← List.count_append, h.custody]

theorem eventInv_deliver {env : EventEnvelope} {d : Delivery} {d' : Option Delivery}
    (hinv : EventInv ⟨s, .delivering env d :: others⟩) (h : Delivers s d s' d')
    : EventInv ⟨s', d'.elim (.waiting env) (.delivering env) :: others⟩ := by
  have hpending : (d'.elim (Emit.waiting env) (Emit.delivering env)).pending
      = d'.elim [] Delivery.pending := by
    cases d' with
    | none => rfl
    | some d'' => rfl
  have hvouches : (d'.elim (Emit.waiting env) (Emit.delivering env)).vouches
      = d'.bind Delivery.vouches := by
    cases d' with
    | none => rfl
    | some d'' => rfl
  have hcount (id : Nat) : (places ⟨s', d'.elim (.waiting env) (.delivering env) :: others⟩).count id
      = (places ⟨s, .delivering env d :: others⟩).count id := by
    have := count_of_delivers h id
    rw [count_places, count_places, hpending]
    simp only [places, h.queue, h.dispatcher, List.count_append, Emit.pending]
    omega
  rcases hinv.of_count_eq hcount h.nextID with ⟨hcustody, hfresh⟩
  refine ⟨hcustody, hfresh, ?_, ?_, ?_, ?_, ?_⟩
  . intro id hmem
    dsimp only at hmem ⊢
    rw [h.queue, h.dispatcher]
    rcases hinv.accepted id (h.enqueued id hmem) with hqueue | hpending | hhanded
    . exact .inl hqueue
    . exact .inr (.inl hpending)
    . exact .inr (.inr (h.history _ hhanded))
  . exact replies_of_delivers h hinv.replies (hinv.calls _ List.mem_cons_self)
  . intro e he id err he'
    rcases List.mem_cons.mp he with rfl | he
    . rw [hvouches] at he'
      exact vouches_of_delivers h he'
    . exact h.history _ (hinv.calls e (List.mem_cons_of_mem _ he) id err he')
  . intro id err hd
    dsimp only at hd
    rw [h.dispatcher] at hd
    exact h.history _ (hinv.dispatcher id err hd)
  . dsimp only
    rw [h.stopper, h.dispatcher]
    exact hinv.waited

theorem eventInv_receive {env : EventEnvelope} {err : Option EmitError}
    (hinv : EventInv ⟨s, .waiting env :: others⟩) (hreply : (env.id, err) ∈ s.replies)
    : EventInv ⟨s.receive env.id, .returned env err :: others⟩ := by
  have hreturned : EventInv ⟨s, .returned env err :: others⟩ := by
    refine eventInv_silent hinv (fun _ => Nat.le_refl _) ?_
    intro id err' hvouches
    cases err with
    | none =>
      cases hvouches
      exact hinv.replies _ _ hreply
    | some _ => cases hvouches
  refine ⟨hreturned.custody, hreturned.fresh, hreturned.accepted, ?_, hreturned.calls,
    hreturned.dispatcher, hreturned.waited⟩
  intro id err' hmem
  exact hinv.replies id err' (List.mem_filter.mp hmem).1

theorem eventInv_call {x : EmitInput} (hinv : EventInv ⟨s, c :: others⟩)
    (hcall : emit s c x = some (s', c')) : EventInv ⟨s', c' :: others⟩ := by
  rcases emit_cases hcall with ⟨r, rfl, rfl, rfl⟩ | ⟨r, rfl, rfl, rfl⟩ | ⟨env, rfl, hc', rfl⟩ |
    ⟨env, rfl, hc', rfl⟩ | ⟨env, d, d', rfl, rfl, hdeliver⟩ | ⟨env, err, rfl, rfl, hreply, rfl⟩ |
    ⟨env, rfl, rfl, rfl⟩
  . exact eventInv_hold hinv
  . exact eventInv_silent hinv (fun _ => Nat.le_refl _) nofun
  . exact eventInv_enqueue hinv hc'
  . rcases hc' with rfl | rfl
    . exact eventInv_silent hinv (fun _ => Nat.le_refl _) nofun
    . exact eventInv_silent hinv (fun _ => Nat.zero_le _) nofun
  . exact eventInv_deliver hinv (delivers_of_deliver hdeliver)
  . exact eventInv_receive hinv hreply
  . exact eventInv_silent hinv (fun _ => Nat.le_refl _) nofun

end Call

section Env

variable {s s' : EventState} {cs : List Emit}

theorem eventInv_receiveQueue {env : EventEnvelope} {queue : List EventEnvelope} {stopping : Bool}
    (hinv : EventInv ⟨s, cs⟩) (hqueue : s.queue = env :: queue)
    (hpending : s.dispatcher.pending = []) (hexited : s.dispatcher ≠ .exited)
    : EventInv ⟨{ s with queue, dispatcher := .delivering stopping (.entered env) }, cs⟩ := by
  have hcount (id : Nat)
      : (places ⟨{ s with queue, dispatcher := .delivering stopping (.entered env) }, cs⟩).count id
        = (places ⟨s, cs⟩).count id := by
    simp only [places, hqueue, hpending, pending_delivering, pending_entered, List.map_cons,
      List.count_append, List.count_cons, List.count_nil]
    omega
  rcases hinv.of_count_eq hcount rfl with ⟨hcustody, hfresh⟩
  refine ⟨hcustody, hfresh, ?_, hinv.replies, hinv.calls, nofun, ?_⟩
  . intro id hmem
    rcases hinv.accepted id hmem with ⟨env', hmem, hid⟩ | hmem | hhanded
    . dsimp only at hmem
      rw [hqueue] at hmem
      rcases List.mem_cons.mp hmem with rfl | hmem
      . exact .inr (.inl (by simp [Dispatcher.pending, Delivery.pending, hid]))
      . exact .inl ⟨env', hmem, hid⟩
    . dsimp only at hmem
      rw [hpending] at hmem
      cases hmem
    . exact .inr (.inr hhanded)
  . intro hreturned
    exact absurd (hinv.waited hreturned) hexited

theorem eventInv_moveOn {d : Dispatcher} (hinv : EventInv ⟨s, cs⟩)
    (hexited : s.dispatcher ≠ .exited) (hpending : s.dispatcher.pending = [])
    (hpending' : d.pending = []) (hvouches : d.vouches = none)
    : EventInv ⟨{ s with dispatcher := d }, cs⟩ := by
  have hplaces : places ⟨{ s with dispatcher := d }, cs⟩ = places ⟨s, cs⟩ := by
    simp only [places, hpending, hpending']
  rcases hinv.of_count_eq (fun id => congrArg (List.count id) hplaces) rfl with ⟨hcustody, hfresh⟩
  refine ⟨hcustody, hfresh, ?_, hinv.replies, hinv.calls, ?_, ?_⟩
  . intro id hmem
    rcases hinv.accepted id hmem with hqueue | hmem | hhanded
    . exact .inl hqueue
    . dsimp only at hmem
      rw [hpending] at hmem
      cases hmem
    . exact .inr (.inr hhanded)
  . intro id err hd
    dsimp only at hd
    rw [hvouches] at hd
    cases hd
  . intro hreturned
    exact absurd (hinv.waited hreturned) hexited

theorem eventInv_dispatchDeliver {t : EventState} {stopping : Bool} {d : Delivery}
    {d' : Option Delivery} {next : Dispatcher} (hinv : EventInv ⟨s, cs⟩)
    (hdispatcher : s.dispatcher = .delivering stopping d) (h : Delivers s d t d')
    (hnext : next = .draining ∨ next = .selecting)
    : EventInv ⟨{ t with dispatcher := d'.elim next (.delivering stopping) }, cs⟩ := by
  have hpending : (d'.elim next (Dispatcher.delivering stopping)).pending
      = d'.elim [] Delivery.pending := by
    rcases hnext with rfl | rfl
    . cases d' <;> rfl
    . cases d' <;> rfl
  have hvouches : (d'.elim next (Dispatcher.delivering stopping)).vouches
      = d'.bind Delivery.vouches := by
    rcases hnext with rfl | rfl
    . cases d' <;> rfl
    . cases d' <;> rfl
  have hcount (id : Nat)
      : (places ⟨{ t with dispatcher := d'.elim next (.delivering stopping) }, cs⟩).count id
        = (places ⟨s, cs⟩).count id := by
    have := count_of_delivers h id
    simp only [places, h.queue, hpending, hdispatcher, pending_delivering, List.count_append]
    omega
  rcases hinv.of_count_eq hcount h.nextID with ⟨hcustody, hfresh⟩
  refine ⟨hcustody, hfresh, ?_, ?_, ?_, ?_, ?_⟩
  . intro id hmem
    dsimp only at hmem ⊢
    rw [h.queue, hpending]
    rcases hinv.accepted id (h.enqueued id hmem) with hqueue | hheld | hhanded
    . exact .inl hqueue
    . dsimp only at hheld
      rw [hdispatcher] at hheld
      exact .inr (accepted_of_delivers h (.inl hheld))
    . exact .inr (.inr (h.history _ hhanded))
  . apply replies_of_delivers h hinv.replies
    intro id err hd
    apply hinv.dispatcher id err
    dsimp only
    rw [hdispatcher]
    exact hd
  . intro c hc id err hvouches'
    exact h.history _ (hinv.calls c hc id err hvouches')
  . intro id err hd
    dsimp only at hd
    rw [hvouches] at hd
    exact vouches_of_delivers h hd
  . intro hreturned
    dsimp only at hreturned
    rw [h.stopper] at hreturned
    have hexited := hinv.waited hreturned
    dsimp only at hexited
    rw [hdispatcher] at hexited
    cases hexited

theorem eventInv_dispatch {x : DispatchInput} (hinv : EventInv ⟨s, cs⟩)
    (h : s.dispatch x = some s') : EventInv ⟨s', cs⟩ := by
  rcases dispatch_cases h with ⟨env, queue, stopping, hqueue, hpending, hexited, rfl⟩ |
    ⟨hselecting, rfl⟩ | ⟨hdraining, hqueue, rfl⟩ |
    ⟨stopping, d, y, t, d', hdispatcher, hdeliver, rfl⟩
  . exact eventInv_receiveQueue hinv hqueue hpending hexited
  . exact eventInv_moveOn hinv (by simp [hselecting]) (by rw [hselecting]; rfl) rfl rfl
  . exact eventInv_moveOn hinv (by simp [hdraining]) (by rw [hdraining]; rfl) rfl rfl
  . apply eventInv_dispatchDeliver hinv hdispatcher (delivers_of_deliver hdeliver)
    cases stopping with
    | true => exact .inl rfl
    | false => exact .inr rfl

theorem eventInv_stop (hinv : EventInv ⟨s, cs⟩) (h : s.stop = some s') : EventInv ⟨s', cs⟩ := by
  rcases stop_cases h with ⟨hqueue, hdispatcher, hnextID, hreplies, hhistory, hwaited⟩
  have hplaces : places ⟨s', cs⟩ = places ⟨s, cs⟩ := by
    simp only [places, hqueue, hdispatcher, hhistory]
  rcases hinv.of_count_eq (fun id => congrArg (List.count id) hplaces) hnextID with ⟨hcustody, hfresh⟩
  refine ⟨hcustody, hfresh, ?_, ?_, ?_, ?_, ?_⟩
  . dsimp only
    rw [hqueue, hdispatcher, hhistory]
    exact hinv.accepted
  . dsimp only
    rw [hreplies, hhistory]
    exact hinv.replies
  . dsimp only
    rw [hhistory]
    exact hinv.calls
  . dsimp only
    rw [hdispatcher, hhistory]
    exact hinv.dispatcher
  . dsimp only
    rw [hdispatcher]
    exact hwaited

end Env

theorem eventInv_start {s : EventState} {cs : List Emit} {r : EmitRequest}
    (hinv : EventInv ⟨s, cs⟩) : EventInv ⟨s, cs ++ [.called r]⟩ := by
  have hfront : EventInv ⟨s, .called r :: cs⟩ := by
    refine ⟨hinv.custody, hinv.fresh, hinv.accepted, hinv.replies, ?_, hinv.dispatcher, hinv.waited⟩
    intro c hc
    rcases List.mem_cons.mp hc with rfl | hc
    . nofun
    . exact hinv.calls c hc
  exact hfront.perm (List.perm_append_singleton _ _).symm

theorem eventInv_step (s : CallPool EventState Emit) (a : EventAction)
    (s' : CallPool EventState Emit) (hinv : EventInv s) (_ : True)
    (hstep : eventSystem.step s a = some s') : EventInv s' := by
  rcases step_cases hstep with ⟨r, -, rfl⟩ | ⟨i, x, c, shared, c', rfl, hc, hcall, rfl⟩ |
    ⟨e, shared, rfl, henv, rfl⟩
  . exact eventInv_start hinv
  . have hfront : EventInv ⟨s.shared, c :: s.calls.eraseIdx i⟩ := hinv.perm (calls_perm hc)
    exact (eventInv_call hfront hcall).perm (calls_set_perm hc c').symm
  . cases e with
    | dispatch x => exact eventInv_dispatch hinv henv
    | stop => exact eventInv_stop hinv henv

theorem eventInv_init (hasClient : Bool) : EventInv (initEvents hasClient) where
  custody _ := Nat.zero_le 1
  fresh _ _ := rfl
  accepted _ hmem := by cases hmem
  replies _ _ hmem := by cases hmem
  calls _ hc := by cases hc
  dispatcher _ _ hd := by cases hd
  waited hreturned := by cases hreturned

theorem EventInv.once {s : CallPool EventState Emit} (hinv : EventInv s)
    : (handedIDs s.shared.history).Nodup := by
  rw [List.nodup_iff_count]
  intro id
  have hcustody := hinv.custody id
  simp only [places, List.count_append] at hcustody
  omega

def Drained (s : EventState) : Prop :=
  s.dispatcher = .exited → s.queue = []

theorem drained_emit {s s' : EventState} {others : List Emit} {c c' : Emit} {x : EmitInput}
    (hdrained : Drained s) (hok : BeforeExit s others c x) (hcall : emit s c x = some (s', c'))
    : Drained s' := by
  rcases emit_cases hcall with ⟨r, -, -, rfl⟩ | ⟨r, -, -, rfl⟩ | ⟨env, rfl, -, rfl⟩ |
    ⟨env, -, -, rfl⟩ | ⟨env, d, d', -, -, hdeliver⟩ | ⟨env, err, -, -, -, rfl⟩ | ⟨env, -, -, rfl⟩
  . exact hdrained
  . exact hdrained
  . intro hexited
    exact absurd hexited (hok rfl)
  . exact hdrained
  . have h := delivers_of_deliver hdeliver
    unfold Drained
    rw [h.dispatcher, h.queue]
    exact hdrained
  . exact hdrained
  . exact hdrained

theorem drained_dispatch {s s' : EventState} {x : DispatchInput} (h : s.dispatch x = some s')
    : Drained s' := by
  rcases dispatch_cases h with ⟨env, queue, stopping, -, -, -, rfl⟩ | ⟨-, rfl⟩ |
    ⟨-, hqueue, rfl⟩ | ⟨stopping, d, y, t, d', -, -, rfl⟩
  . nofun
  . nofun
  . exact fun _ => hqueue
  . intro hexited
    cases d' with
    | some _ => cases hexited
    | none =>
      cases stopping with
      | true => cases hexited
      | false => cases hexited

theorem drained_step (s : CallPool EventState Emit) (a : EventAction)
    (s' : CallPool EventState Emit) (hdrained : Drained s.shared) (hok : s.OnCall BeforeExit a)
    (hstep : eventSystem.step s a = some s') : Drained s'.shared := by
  rcases step_cases hstep with ⟨r, -, rfl⟩ | ⟨i, x, c, shared, c', rfl, hc, hcall, rfl⟩ |
    ⟨e, shared, rfl, henv, rfl⟩
  . exact hdrained
  . have hbefore : BeforeExit s.shared (s.calls.eraseIdx i) c x := by
      simpa [OnCall, hc] using hok
    exact drained_emit hdrained hbefore hcall
  . cases e with
    | dispatch x => exact drained_dispatch henv
    | stop =>
      rcases stop_cases henv with ⟨hqueue, hdispatcher, -⟩
      unfold Drained
      dsimp only
      rw [hqueue, hdispatcher]
      exact hdrained

theorem drained_init (hasClient : Bool) : Drained (initEvents hasClient).shared := by
  intro hexited
  cases hexited

theorem EventInv.delivered {s : CallPool EventState Emit} (hinv : EventInv s)
    (hdrained : Drained s.shared) : Delivered s where
  once := hinv.once
  sound env hmem := hinv.calls _ hmem env.id none rfl
  drained hreturned _ id hmem := by
    have hexited := hinv.waited hreturned
    rcases hinv.accepted id hmem with ⟨env, hqueue, -⟩ | hpending | hhanded
    . rw [hdrained hexited] at hqueue
      cases hqueue
    . rw [hexited] at hpending
      cases hpending
    . exact hhanded

/--
No event is handed over twice and a synchronous call only succeeds if its event was handed over, and
in every run in which no call enqueues after the dispatcher has exited, all events that were accepted
have been handed over when the calls and `Stop` have returned.
-/
theorem delivered_of_beforeExit (hasClient : Bool) (as : List EventAction)
    (s : CallPool EventState Emit)
    (hok : eventSystem.Respects (OnCall BeforeExit) as (initEvents hasClient))
    (hexec : eventSystem.exec as (initEvents hasClient) = some s) : Delivered s := by
  have hinv := eventSystem.exec_invariant eventInv_step as _ s (eventInv_init hasClient)
    (eventSystem.respects_true as _) hexec
  have hdrained := eventSystem.exec_invariant drained_step as _ s (drained_init hasClient) hok hexec
  exact hinv.delivered hdrained

section Instances

def syncRequest : EmitRequest := ⟨true, "AgentUnreachable", "agent down"⟩

def stopEvents : List EventAction :=
  [.env .stop, .env .stop, .env (.dispatch .stopped)]

def drainedRun : List EventAction :=
  [.start syncRequest, .call 0 .proceed, .call 0 .proceed] ++ stopEvents
    ++ [.env (.dispatch .receive), .env (.dispatch (.deliver .proceed)),
      .env (.dispatch (.deliver .proceed)), .env (.dispatch .empty), .env .stop, .call 0 .proceed]

def lateRun : List EventAction :=
  [.start { syncRequest with sync := false }, .call 0 .proceed] ++ stopEvents
    ++ [.env (.dispatch .empty), .env .stop, .call 0 .proceed]

theorem delivered_of_beforeExit_drainedRun
    : ∃ s, eventSystem.exec drainedRun (initEvents false) = some s
        ∧ s.shared.history = [.emitted 0 none, .handed 0, .enqueued 0]
        ∧ s.shared.stopper = .returned
        ∧ Delivered s :=
  ⟨_, rfl, rfl, rfl, delivered_of_beforeExit false drainedRun _ (by decide) rfl⟩

theorem not_delivered
    : ¬∀ (hasClient : Bool) (as : List EventAction) (s : CallPool EventState Emit),
        eventSystem.exec as (initEvents hasClient) = some s → Delivered s := by
  -- the call has read the singleton before `Stop` and enqueues after the dispatcher has exited
  intro h
  have hhanded := (h false lateRun _ rfl).drained rfl (by decide) 0 (by decide)
  revert hhanded
  decide

end Instances

end Events
