/-
  File:      Uprava/Web/PendingApprovals.lean
  Subject:   The approvals that a session's view shows as pending, beside those that Core computes
             from the same events and those that its table has.

  The view sorts the events by the time they happened at and then by their number, and runs over
  them. `pending_agree_iff` says when the three agree for every session: where no session's approval
  is spoken of by another session after its own last word on it, and where the last word on an
  approval is a request in the view's order whenever it is one in Core's. How two times compare as
  texts (`localeCompare`) is a parameter.
-/
import Uprava.Core.Approvals

namespace Uprava.Web

open Uprava.Protocol
open Uprava.Core
open Uprava.Lib

/-! ## 1. The view -/

variable (localeCompare : DateTime → DateTime → Ordering)

/-- By the time they happened at, and then by their numbers. -/
def compareEvents : EventEnvelope → EventEnvelope → Ordering :=
  compareLex (fun left right => localeCompare left.happenedAt right.happenedAt)
    (compareOn EventEnvelope.seq)

def approvalIdFromPayload : EventPayload → Option ApprovalId
  | .approvalRequested approvalId .. | .approvalResolved approvalId .. => some approvalId
  | _ => none

def approvalIdFromEvent (event : EventEnvelope) : Option ApprovalId :=
  if event.kind ≠ .approvalRequested then none else approvalIdFromPayload event.payload

def approvalIdFromResolutionEvent (event : EventEnvelope) : Option ApprovalId :=
  if event.kind ≠ .approvalResolved then none else approvalIdFromPayload event.payload

/-- One round of the loop of `pendingApprovalIds`; an empty id counts as none. -/
def pendingIdsStep (pending : List ApprovalId) (event : EventEnvelope) : List ApprovalId :=
  match (approvalIdFromEvent event).filter (· ≠ "") with
  | some requestedId => pending.insert requestedId
  | none =>
    match (approvalIdFromResolutionEvent event).filter (· ≠ "") with
    | some resolvedId => pending.filter (· != resolvedId)
    | none => pending

def pendingApprovalIds (events : List EventEnvelope) : List ApprovalId :=
  (events.mergeSort fun a b => (compareEvents localeCompare a b).isLE).foldl pendingIdsStep []

/-- The three agree for a session. -/
structure PendingAgree (db : Database) (sessionThreadId : SessionThreadId) : Prop where
  view : ∀ approvalId,
    approvalId ∈ pendingApprovalIds localeCompare (loadEvents db.events sessionThreadId 0) ↔
      approvalId ∈ pendingApprovals (loadEvents db.events sessionThreadId 0)
  table : ∀ approvalId, approvalId ∈ requestedApprovals db.approvals sessionThreadId ↔
    approvalId ∈ pendingApprovals (loadEvents db.events sessionThreadId 0)

/-! ## 2. When they agree -/

/-- The event comes before the other in the view's order. -/
def ShownBefore (events : List EventEnvelope) (a b : EventEnvelope) : Prop :=
  compareEvents localeCompare a b = .lt ∨
    (compareEvents localeCompare a b = .eq ∧ Before events a b)

instance (events : List EventEnvelope) (a b : EventEnvelope) :
    Decidable (ShownBefore localeCompare events a b) := inferInstanceAs (Decidable (_ ∨ _))

/-- Some request of the approval comes after all of its resolutions. -/
def EndsRequested (before : EventEnvelope → EventEnvelope → Prop) (events : List EventEnvelope)
    (approvalId : ApprovalId) : Prop :=
  ∃ r ∈ events, saysPending approvalId r = some true ∧
    ∀ q ∈ events, saysPending approvalId q = some false → before q r

/-- Among a session's events, an approval ends with a request in the view's order exactly when it
    does in Core's. -/
def ShownInOrder (accepted : List EventEnvelope) : Prop :=
  ∀ sessionThreadId approvalId,
    let events := accepted.filter (inSession sessionThreadId)
    EndsRequested (ShownBefore localeCompare events) events approvalId ↔
      EndsRequested (Before events) events approvalId

/-- An approval that a session requests is not spoken of by another session later, unless the
    session itself speaks of it again. -/
def OwnApprovals (accepted : List EventEnvelope) : Prop :=
  ∀ approvalId, ∀ r ∈ accepted, ∀ q ∈ accepted, saysPending approvalId r = some true →
    saysPending approvalId q ≠ none → r.sessionThreadId ≠ none → q.sessionThreadId ≠ none →
    q.sessionThreadId ≠ r.sessionThreadId → Before accepted r q →
    ∃ p ∈ accepted, p.sessionThreadId = r.sessionThreadId ∧ saysPending approvalId p ≠ none ∧
      Before accepted r p

/-! ## 3. The view's order -/

section View

variable {localeCompare} [Std.TransCmp localeCompare]

instance : Std.TransCmp fun left right : EventEnvelope =>
    localeCompare left.happenedAt right.happenedAt where
  eq_swap {a b} := @Std.OrientedCmp.eq_swap _ localeCompare _ a.happenedAt b.happenedAt
  isLE_trans {a b c} :=
    @Std.TransCmp.isLE_trans _ localeCompare _ a.happenedAt b.happenedAt c.happenedAt

instance : Std.TransCmp (compareEvents localeCompare) :=
  inferInstanceAs (Std.TransCmp (compareLex _ _))

theorem compareEvents_swap (a b : EventEnvelope) :
    compareEvents localeCompare b a = (compareEvents localeCompare a b).swap :=
  Std.OrientedCmp.eq_swap

theorem shownBefore_iff {events : List EventEnvelope} (hnodup : events.Nodup) {a b : EventEnvelope}
    (ha : a ∈ events) (hb : b ∈ events) (hne : a ≠ b) :
    Before (events.mergeSort fun a b => (compareEvents localeCompare a b).isLE) a b ↔
      ShownBefore localeCompare events a b := by
  have htotal : ∀ a b, ((compareEvents localeCompare a b).isLE ||
      (compareEvents localeCompare b a).isLE) = true := by
    intro a b
    rw [compareEvents_swap a b]
    cases compareEvents localeCompare a b <;> rfl
  rw [before_mergeSort_iff (fun _ _ _ => Std.TransCmp.isLE_trans) htotal hnodup ha hb hne,
    compareEvents_swap a b]
  unfold ShownBefore
  cases compareEvents localeCompare a b <;> simp

/-- **What the view shows as pending**, read off the events. -/
theorem mem_pendingApprovalIds {events : List EventEnvelope} (hnodup : events.Nodup)
    {approvalId : ApprovalId} : approvalId ∈ pendingApprovalIds localeCompare events ↔
      EndsRequested (ShownBefore localeCompare events) events approvalId := by
  have hstep : ∀ pending : List ApprovalId, ∀ event : EventEnvelope,
      decide (approvalId ∈ pendingIdsStep pending event) =
        (saysPending approvalId event).getD (decide (approvalId ∈ pending)) := by
    intro pending event
    unfold pendingIdsStep saysPending approvalChange approvalIdFromEvent
      approvalIdFromResolutionEvent eventApprovalId
    have hnotEmpty : ∀ id : ApprovalId, (some id).filter (· ≠ "") =
        if id = "" then none else some id := by
      intro id
      by_cases hempty : id = "" <;> simp [Option.filter, hempty]
    cases event.kind with
    | approvalRequested =>
      cases event.payload with
      | approvalRequested id _ _ _ _ | approvalResolved id _ _ =>
        simp only [ne_eq, not_true_eq_false, if_false, approvalIdFromPayload, hnotEmpty]
        by_cases hempty : id = ""
        · simp [hempty]
        · by_cases hid : id = approvalId
          · subst hid
            simp [hempty]
          · simp [hempty, hid, Ne.symm hid]
      | _ => rfl
    | approvalResolved =>
      cases event.payload with
      | approvalRequested id _ _ _ _ | approvalResolved id _ _ =>
        simp only [ne_eq, not_true_eq_false, if_false, approvalIdFromPayload, hnotEmpty]
        by_cases hempty : id = ""
        · simp [hempty]
        · by_cases hid : id = approvalId
          · subst hid
            simp [hempty]
          · simp [hempty, hid, Ne.symm hid]
      | _ => rfl
    | _ => rfl
  have hread := @read_foldl _ _ _ pendingIdsStep (fun pending => decide (approvalId ∈ pending))
    (saysPending approvalId) (fun _ => True)
    (events.mergeSort fun a b => (compareEvents localeCompare a b).isLE) (fun _ _ _ _ => trivial)
    (fun pending event _ _ => hstep pending event) [] trivial
  have hsorted := (List.mergeSort_perm events
    fun a b => (compareEvents localeCompare a b).isLE).nodup_iff.mpr hnodup
  have hnone : decide (approvalId ∈ ([] : List ApprovalId)) = false := by simp
  rw [hnone] at hread
  rw [← decide_eq_true_iff (p := approvalId ∈ _), pendingApprovalIds, hread,
    lastWrite_eq_iff hsorted (by decide)]
  unfold EndsRequested
  refine exists_congr fun r => ?_
  rw [List.mem_mergeSort]
  refine and_congr_right fun hr => and_congr_right fun hrequest => forall_congr' fun q => ?_
  rw [List.mem_mergeSort]
  refine forall_congr' fun hq => ?_
  have hother : (∃ v', saysPending approvalId q = some v' ∧ v' ≠ true) ↔
      saysPending approvalId q = some false := by simp
  rw [hother]
  refine forall_congr' fun hresolved => shownBefore_iff hnodup hq hr ?_
  rintro rfl
  rw [hrequest] at hresolved
  cases hresolved

end View

/-! ## 4. Core's order -/

/-- **What Core computes as pending**, read off the events. -/
theorem mem_pendingApprovals_iff {events : List EventEnvelope} (hnodup : events.Nodup)
    {approvalId : ApprovalId} : approvalId ∈ pendingApprovals events ↔
      EndsRequested (Before events) events approvalId := by
  rw [mem_pendingApprovals, lastWrite_eq_iff hnodup (by decide)]
  simp [EndsRequested]

theorem saysOpenIn_eq_some {approvalId : ApprovalId} {event : EventEnvelope}
    {opened : Option SessionThreadId} :
    saysOpenIn approvalId event = some opened ↔
      ∃ s isPending, event.sessionThreadId = some s ∧
        saysPending approvalId event = some isPending ∧
        opened = if isPending then some s else none := by
  unfold saysOpenIn
  rw [Option.bind_eq_some_iff]
  refine exists_congr fun s => ?_
  rw [exists_and_left, Option.map_eq_some_iff]
  exact and_congr_right fun _ => exists_congr fun isPending => and_congr_right fun _ => eq_comm

/-- **Where the table has an approval open**, read off the accepted events: the session requested
    it, and all that resolves it or that another session says of it came before. -/
theorem openIn_iff {db : Database} (h : ApprovalsFollow db) {approvalId : ApprovalId}
    {s : SessionThreadId} : openIn db.approvals approvalId = some s ↔
      ∃ r ∈ acceptedEvents db, r.sessionThreadId = some s ∧ saysPending approvalId r = some true ∧
        ∀ q ∈ acceptedEvents db, saysPending approvalId q ≠ none → q.sessionThreadId ≠ none →
          (q.sessionThreadId ≠ some s ∨ saysPending approvalId q = some false) →
          Before (acceptedEvents db) q r := by
  rw [h.table, lastWrite_eq_iff (nodup_acceptedEvents h.logged) (by simp)]
  refine exists_congr fun r => and_congr_right fun hr => ?_
  have hwrites : saysOpenIn approvalId r = some (some s) ↔
      r.sessionThreadId = some s ∧ saysPending approvalId r = some true := by
    rw [saysOpenIn_eq_some]
    constructor
    · intro ⟨s', isPending, hs, hp, he⟩
      cases isPending with
      | false => cases he
      | true => exact ⟨hs.trans he.symm, hp⟩
    · exact fun ⟨hs, hp⟩ => ⟨s, true, hs, hp, rfl⟩
  rw [hwrites, and_assoc]
  refine and_congr_right fun _ => and_congr_right fun _ => forall_congr' fun q =>
    forall_congr' fun _ => ?_
  constructor
  · intro hbefore hsays hsession hother
    obtain ⟨s', hs'⟩ := Option.ne_none_iff_exists'.mp hsession
    obtain ⟨isPending, hp⟩ := Option.ne_none_iff_exists'.mp hsays
    refine hbefore ⟨_, saysOpenIn_eq_some.mpr ⟨s', isPending, hs', hp, rfl⟩, ?_⟩
    rcases hother with hother | hresolved
    · cases isPending with
      | false => simp
      | true => simpa [hs'] using hother
    · obtain rfl := Option.some.inj (hp.symm.trans hresolved)
      simp
  · intro hbefore ⟨opened, hwrite, hne⟩
    obtain ⟨s', isPending, hs', hp, rfl⟩ := saysOpenIn_eq_some.mp hwrite
    refine hbefore (by simp [hp]) (by simp [hs']) ?_
    cases isPending with
    | false => exact Or.inr hp
    | true => exact Or.inl (by simpa [hs'] using hne)

/-- What a session's own events make of an approval, in Core's order. -/
theorem endsRequested_iff {accepted : List EventEnvelope} {approvalId : ApprovalId}
    {s : SessionThreadId} :
    EndsRequested (Before (accepted.filter (inSession s))) (accepted.filter (inSession s))
        approvalId ↔
      ∃ r ∈ accepted, r.sessionThreadId = some s ∧ saysPending approvalId r = some true ∧
        ∀ q ∈ accepted, q.sessionThreadId = some s → saysPending approvalId q = some false →
          Before accepted q r := by
  have hmem : ∀ {e}, e ∈ accepted.filter (inSession s) ↔
      e ∈ accepted ∧ e.sessionThreadId = some s := by
    intro e
    rw [List.mem_filter, inSession, beq_iff_eq]
  have hin : ∀ {e : EventEnvelope}, e.sessionThreadId = some s → inSession s e = true := by
    intro e he
    rw [inSession, he, beq_self_eq_true]
  constructor
  · intro ⟨r, hr, hrequest, hlater⟩
    obtain ⟨hr, hrs⟩ := hmem.mp hr
    refine ⟨r, hr, hrs, hrequest, fun q hq hqs hresolved => ?_⟩
    exact (before_filter_iff (hin hqs) (hin hrs)).mp (hlater q (hmem.mpr ⟨hq, hqs⟩) hresolved)
  · intro ⟨r, hr, hrs, hrequest, hlater⟩
    refine ⟨r, hmem.mpr ⟨hr, hrs⟩, hrequest, fun q hq hresolved => ?_⟩
    obtain ⟨hq, hqs⟩ := hmem.mp hq
    exact (before_filter_iff (hin hqs) (hin hrs)).mpr (hlater q hq hqs hresolved)

/-- What the table has open, the session's own events end with a request of. -/
theorem endsRequested_of_openIn {db : Database} (h : ApprovalsFollow db) {approvalId : ApprovalId}
    {s : SessionThreadId} (hopen : openIn db.approvals approvalId = some s) :
    EndsRequested (Before ((acceptedEvents db).filter (inSession s)))
      ((acceptedEvents db).filter (inSession s)) approvalId := by
  obtain ⟨r, hr, hrs, hrequest, hlater⟩ := (openIn_iff h).mp hopen
  refine endsRequested_iff.mpr ⟨r, hr, hrs, hrequest, fun q hq hqs hresolved => ?_⟩
  exact hlater q hq (by simp [hresolved]) (by simp [hqs]) (Or.inr hresolved)

/-- The session's last event about an approval that its events end with a request of is a
    request. -/
theorem exists_lastRequest {accepted : List EventEnvelope} (hnodup : accepted.Nodup)
    {approvalId : ApprovalId} {s : SessionThreadId}
    (h : EndsRequested (Before (accepted.filter (inSession s))) (accepted.filter (inSession s))
      approvalId) :
    ∃ m ∈ accepted, m.sessionThreadId = some s ∧ saysPending approvalId m = some true ∧
      ∀ q ∈ accepted, q.sessionThreadId = some s → saysPending approvalId q ≠ none →
        q = m ∨ Before accepted q m := by
  obtain ⟨r, hr, hrs, hrequest, hlater⟩ := endsRequested_iff.mp h
  obtain ⟨m, hm, ⟨hms, hsays⟩, hlast⟩ := exists_last (l := accepted)
    (P := fun e => e.sessionThreadId = some s ∧ saysPending approvalId e ≠ none)
    ⟨r, hr, hrs, by simp [hrequest]⟩
  refine ⟨m, hm, hms, ?_, fun q hq hqs hq' => hlast q hq ⟨hqs, hq'⟩⟩
  obtain ⟨isPending, hp⟩ := Option.ne_none_iff_exists'.mp hsays
  cases isPending with
  | true => exact hp
  | false =>
    have hmr := hlater m hm hms hp
    rcases hlast r hr ⟨hrs, by simp [hrequest]⟩ with rfl | hrm
    · exact absurd (hrequest.symm.trans hp) (by simp)
    · exact absurd hmr (hrm.asymm hnodup)

/-! ## 5. The three together -/

/-- **The table has an approval open wherever the log does**, exactly when no session's approval is
    taken over by another session. -/
theorem table_agrees_iff {db : Database} (h : ApprovalsFollow db) :
    (∀ s approvalId, openIn db.approvals approvalId = some s ↔
      EndsRequested (Before ((acceptedEvents db).filter (inSession s)))
        ((acceptedEvents db).filter (inSession s)) approvalId) ↔
      OwnApprovals (acceptedEvents db) := by
  have hnodup := nodup_acceptedEvents h.logged
  constructor
  · intro hagree approvalId r hr q hq hrequest hq' hrSession hqSession hother hbefore
    by_contra hnone
    have hnoLater : ∀ p ∈ acceptedEvents db, p.sessionThreadId = r.sessionThreadId →
        saysPending approvalId p ≠ none → ¬ Before (acceptedEvents db) r p :=
      fun p hp hps hp' hrp => hnone ⟨p, hp, hps, hp', hrp⟩
    obtain ⟨s, hs⟩ := Option.ne_none_iff_exists'.mp hrSession
    -- the session's own events end with `r`, so the table has it open by a later request
    have hlog : openIn db.approvals approvalId = some s := by
      refine (hagree s approvalId).mpr (endsRequested_iff.mpr ⟨r, hr, hs, hrequest, ?_⟩)
      intro p hp hps hresolved
      have hne : p ≠ r := by
        rintro rfl
        exact absurd (hrequest.symm.trans hresolved) (by simp)
      rcases before_or_before hp hr hne with hpr | hrp
      · exact hpr
      · exact absurd hrp (hnoLater p hp (hps.trans hs.symm) (by simp [hresolved]))
    obtain ⟨r', hr', hs', hrequest', hlater⟩ := (openIn_iff h).mp hlog
    have hqr' := hlater q hq hq' hqSession (Or.inl (by rw [← hs]; exact hother))
    exact hnoLater r' hr' (hs'.trans hs.symm) (by simp [hrequest']) (hbefore.trans hnodup hqr')
  · intro hown s approvalId
    refine ⟨endsRequested_of_openIn h, fun hends => ?_⟩
    obtain ⟨m, hm, hms, hrequest, hlast⟩ := exists_lastRequest hnodup hends
    refine (openIn_iff h).mpr ⟨m, hm, hms, hrequest, fun q hq hsays hsession hother => ?_⟩
    by_cases hqs : q.sessionThreadId = some s
    · have hresolved := hother.resolve_left (not_not_intro hqs)
      rcases hlast q hq hqs hsays with rfl | hbefore
      · exact absurd (hrequest.symm.trans hresolved) (by simp)
      · exact hbefore
    · have hne : q ≠ m := by
        rintro rfl
        exact hqs hms
      rcases before_or_before hq hm hne with hqm | hmq
      · exact hqm
      · obtain ⟨p, hp, hps, hp', hmp⟩ := hown approvalId m hm q hq hrequest hsays (by simp [hms])
          hsession (by rw [hms]; exact hqs) hmq
        rcases hlast p hp (hps.trans hms) hp' with rfl | hpm
        · exact absurd hmp (hmp.asymm hnodup)
        · exact absurd hmp (hpm.asymm hnodup)

/-- **The view, Core's computation and the table agree for every session** exactly when no
    session's approval is taken over by another session, and the view's order ends an approval
    with a request whenever Core's does. -/
theorem pending_agree_iff [Std.TransCmp localeCompare] {db₀ db : Database}
    {deliveries : List (EventEnvelope × MessageId)} (hstart : NothingAccepted db₀)
    (h : acceptAll db₀ deliveries = .ok db) :
    (∀ sessionThreadId, PendingAgree localeCompare db sessionThreadId) ↔
      ShownInOrder localeCompare (acceptedEvents db) ∧ OwnApprovals (acceptedEvents db) := by
  have hfollow := hstart.follow.acceptAll h
  have hnodup : ∀ s, ((acceptedEvents db).filter (inSession s)).Nodup := fun s =>
    (nodup_acceptedEvents hfollow.logged).filter _
  have hview : (∀ s approvalId,
      approvalId ∈ pendingApprovalIds localeCompare (loadEvents db.events s 0) ↔
        approvalId ∈ pendingApprovals (loadEvents db.events s 0)) ↔
      ShownInOrder localeCompare (acceptedEvents db) := by
    refine forall_congr' fun s => forall_congr' fun approvalId => ?_
    rw [hfollow.loadEvents, mem_pendingApprovalIds (hnodup s), mem_pendingApprovals_iff (hnodup s)]
  have htable : (∀ s approvalId, approvalId ∈ requestedApprovals db.approvals s ↔
      approvalId ∈ pendingApprovals (loadEvents db.events s 0)) ↔
      OwnApprovals (acceptedEvents db) := by
    rw [← table_agrees_iff hfollow]
    refine forall_congr' fun s => forall_congr' fun approvalId => ?_
    rw [hfollow.loadEvents, mem_requestedApprovals, mem_pendingApprovals_iff (hnodup s)]
  rw [← hview, ← htable]
  exact ⟨fun h => ⟨fun s => (h s).view, fun s => (h s).table⟩, fun h s => ⟨h.1 s, h.2 s⟩⟩

/-! ## 6. Approvals on which they disagree -/

def approvalEvent (eventId : EventId) (number : String) (seq happenedAt : Int)
    (payload : EventPayload) : EventEnvelope × MessageId :=
  ({ eventId
     actorRef := .node ("n" ++ number)
     scopeRef := .runtime ("r" ++ number)
     nodeId := some ("n" ++ number)
     runtimeSessionId := some ("r" ++ number)
     sessionThreadId := some ("s" ++ number)
     seq
     kind := payload.kind
     happenedAt
     payload }, "m" ++ eventId)

def inputRequest : EventPayload := .approvalRequested "input-1" "Proceed?" none none none

def inputResolution : EventPayload := .approvalResolved "input-1" true ""

/-- Providers of two sessions ask for an approval that they number alike. -/
def numberedAlike : List (EventEnvelope × MessageId) :=
  [approvalEvent "e1" "1" 1 10 inputRequest, approvalEvent "e2" "2" 1 11 inputRequest]

/-- The clock of the Node goes back between a request and its resolution. -/
def clockSetBack : List (EventEnvelope × MessageId) :=
  [approvalEvent "e1" "1" 1 10 inputRequest, approvalEvent "e2" "1" 2 9 inputResolution]

/-- The first session's log keeps the approval that the table gives to the second session. The view
    shows an approval that is resolved in Core. -/
theorem approvals_disagree :
    (∃ db, acceptAll twoNodes numberedAlike = .ok db ∧
      "input-1" ∈ pendingApprovals (loadEvents db.events "s1" 0) ∧
      "input-1" ∉ requestedApprovals db.approvals "s1") ∧
    ∃ db, acceptAll twoNodes clockSetBack = .ok db ∧
      "input-1" ∈ pendingApprovalIds compare (loadEvents db.events "s1" 0) ∧
      "input-1" ∉ pendingApprovals (loadEvents db.events "s1" 0) := by
  refine ⟨⟨_, rfl, by decide, by decide⟩, ⟨_, rfl, ?_, by decide⟩⟩
  have hnodup : (loadEvents ((acceptAll twoNodes clockSetBack).toOption.getD twoNodes).events
      "s1" 0).Nodup := by decide
  exact (mem_pendingApprovalIds hnodup).mpr (by unfold EndsRequested; decide)

/-- A request is resolved, while the other session asks for an approval of its own. -/
def numberedApart : List (EventEnvelope × MessageId) :=
  [approvalEvent "e1" "1" 1 10 inputRequest,
    approvalEvent "e2" "2" 1 11 (.approvalRequested "input-2" "Proceed?" none none none),
    approvalEvent "e3" "1" 2 12 inputResolution]

theorem pending_agree_iff_apart :
    ∃ db, acceptAll twoNodes numberedApart = .ok db ∧
      ((∀ sessionThreadId, PendingAgree compare db sessionThreadId) ↔
        ShownInOrder compare (acceptedEvents db) ∧ OwnApprovals (acceptedEvents db)) := by
  obtain ⟨db, h⟩ : ∃ db, acceptAll twoNodes numberedApart = .ok db := ⟨_, rfl⟩
  have hstart : NothingAccepted twoNodes := ⟨rfl, rfl, rfl⟩
  exact ⟨db, h, pending_agree_iff compare hstart h⟩

end Uprava.Web
