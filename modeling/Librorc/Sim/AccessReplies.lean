import Librorc.Sim.AccessMailbox

/-!
# Which reply a call returns with

The data a `get32` returns is what the simulator has sent with the reply that
ended its wait. While no two `get32` and no two `set32` overlap that is its own
reply, and the call can always return; every overlap can go wrong.
-/

namespace Librorc

open Librorc.Lib

namespace SimBar

variable {ι : Type*} [DecidableEq ι]

/-! ## The data -/

/-- The data under way, stored or returned is what the simulator has sent. -/
structure DataOwn (s : SimBar ι) : Prop where
  sent : ∀ r ∈ s.toHost, ∀ h, r.answer = .completion h →
    (r.ticket, Flisock.firstWord h) ∈ s.replied
  inHand : ∀ k, s.delivering = some k → s.dataSource = k ∧ (k, s.readFromDevData) ∈ s.replied
  announced : ∀ k, s.readFromDevDone = some k →
    s.dataSource = k ∧ (k, s.readFromDevData) ∈ s.replied
  taken : ∀ thread ticket saw data source, s.phase thread = .taken ticket saw data source →
    source = saw ∧ (saw, data) ∈ s.replied
  returned : ∀ r ∈ s.returned, r.kind = .read →
    ∃ data, r.result = some (data, r.saw) ∧ (r.saw, data) ∈ s.replied

namespace DataOwn

variable {s : SimBar ι}

theorem setPhase (own : DataOwn s) (thread : ι) {phase : CallPhase}
    (taken : ∀ ticket saw data source, phase = .taken ticket saw data source →
      source = saw ∧ (saw, data) ∈ s.replied) : DataOwn (s.setPhase thread phase) := by
  refine ⟨own.sent, own.inHand, own.announced, ?_, own.returned⟩
  intro other ticket saw data source here
  by_cases same : other = thread
  · subst same
    exact taken ticket saw data source ((Function.update_self ..).symm.trans here)
  · exact own.taken other ticket saw data source ((Function.update_of_ne same ..).symm.trans here)

omit [DecidableEq ι] in
theorem finish (own : DataOwn s) {r : Return}
    (result : r.kind = .read → ∃ data, r.result = some (data, r.saw) ∧ (r.saw, data) ∈ s.replied) :
    DataOwn (s.finish r) := by
  have returned : ∀ q ∈ s.returned ++ [r], q.kind = .read →
      ∃ data, q.result = some (data, q.saw) ∧ (q.saw, data) ∈ s.replied := by
    intro q mem
    rcases List.mem_append.mp mem with before | now
    · exact own.returned q before
    · rw [List.mem_singleton.mp now]
      exact result
  obtain ⟨kind, ticket, saw, value⟩ := r
  cases kind with
  | read =>
      refine ⟨own.sent, own.inHand, ?_, own.taken, returned⟩
      intro k none
      cases none
  | write => exact ⟨own.sent, own.inHand, own.announced, own.taken, returned⟩

omit [DecidableEq ι] in
/-- The monitor stores the data of a reply while the flag is clear. -/
theorem receive (own : DataOwn s) (orderly : (s.mailbox .read).Orderly) {r : Reply}
    {later : List Reply} (free : s.delivering = none) (queue : s.toHost = r :: later) :
    DataOwn (({ s with toHost := later } : SimBar ι).receive r.ticket r.answer) := by
  obtain ⟨ticket, answer⟩ := r
  have rest : ∀ q ∈ later, ∀ h, q.answer = .completion h →
      (q.ticket, Flisock.firstWord h) ∈ s.replied := by
    intro q mem
    exact own.sent q (queue ▸ List.mem_cons_of_mem _ mem)
  cases answer with
  | completion h =>
      have sent : (ticket, Flisock.firstWord h) ∈ s.replied :=
        own.sent ⟨ticket, .completion h⟩ (queue ▸ List.mem_cons_self) h rfl
      have first : s.transit .read =
          ticket :: (answered .read later ++ asked .read s.toDevice) := by
        rw [transit_of_toHost queue .read]
        simp only [SimBar.inHand, free]
        rfl
      obtain ⟨-, clear, -⟩ := orderly.single.of_transit first
      refine ⟨rest, ?_, ?_, own.taken, own.returned⟩
      · intro k stored
        obtain rfl := Option.some.inj stored
        exact ⟨rfl, sent⟩
      · intro k announced
        exact absurd (clear.symm.trans announced) (by simp)
  | acknowledge => exact ⟨rest, own.inHand, own.announced, own.taken, own.returned⟩

omit [DecidableEq ι] in
theorem serve (own : DataOwn s) {r : Request} {later : List Request} (h : TrnHeader) :
    DataOwn { s with
      toDevice := later
      toHost := s.toHost ++ [⟨r.ticket, r.access.answer h⟩]
      replied := s.replied ++ logged r.ticket (r.access.answer h) } := by
  have grows {p : Nat × Word32} (mem : p ∈ s.replied) :
      p ∈ s.replied ++ logged r.ticket (r.access.answer h) :=
    List.mem_append_left _ mem
  refine ⟨?_, ?_, ?_, ?_, ?_⟩
  · intro q mem h' completion
    rcases List.mem_append.mp mem with before | now
    · exact grows (own.sent q before h' completion)
    · obtain rfl := List.mem_singleton.mp now
      refine List.mem_append_right _ ?_
      rw [show r.access.answer h = .completion h' from completion]
      exact List.mem_singleton_self _
  · exact fun k inHand => (own.inHand k inHand).imp_right grows
  · exact fun k announced => (own.announced k announced).imp_right grows
  · exact fun thread ticket saw data source has =>
      (own.taken thread ticket saw data source has).imp_right grows
  · intro q mem read
    obtain ⟨data, result, sent⟩ := own.returned q mem read
    exact ⟨data, result, grows sent⟩

theorem step (own : DataOwn s) (orderly : (s.mailbox .read).Orderly) {a : AccessAction ι}
    {s' : SimBar ι} (taken : s.step a = some s') : DataOwn s' := by
  cases step_moves taken with
  | @send thread access idle =>
      have sent : DataOwn (s.request access) :=
        ⟨own.sent, own.inHand, own.announced, own.taken, own.returned⟩
      refine sent.setPhase thread ?_
      intro _ _ _ _ waiting
      cases waiting
  | wait => exact own
  | @see thread =>
      refine own.setPhase thread ?_
      intro _ _ _ _ seen
      cases seen
  | @take thread ticket saw seen =>
      have served : (s.mailbox .read).caller thread = .served ticket saw :=
        congrArg (CallPhase.caller .read) seen
      obtain ⟨rfl, full, -⟩ := orderly.single.of_served served
      refine own.setPhase thread ?_
      intro _ _ _ _ has
      cases has
      obtain ⟨source, sent⟩ := own.announced saw full
      exact ⟨source, sent⟩
  | @written thread =>
      refine (own.finish ?_).setPhase thread ?_
      · intro read
        cases read
      · intro _ _ _ _ idle
        cases idle
  | @read thread ticket saw source data has =>
      obtain ⟨rfl, sent⟩ := own.taken thread ticket saw data source has
      refine (own.finish ?_).setPhase thread ?_
      · exact fun _ => ⟨data, rfl, sent⟩
      · intro _ _ _ _ idle
        cases idle
  | serve h => exact own.serve h
  | receive free queue => exact own.receive orderly free queue
  | @deliver ticket delivering =>
      refine ⟨own.sent, ?_, ?_, own.taken, own.returned⟩
      · intro k none
        cases none
      · intro k announced
        obtain rfl := Option.some.inj announced
        exact own.inHand ticket delivering

end DataOwn

theorem dataOwn {s : SimBar ι} (reached : (accessSystem ι).Reached Apart s) : DataOwn s := by
  induction reached with
  | init initial =>
      refine ⟨?_, ?_, ?_, ?_, ?_⟩
      · rw [initial.toHost]
        exact fun r mem => absurd mem List.not_mem_nil
      · rw [initial.delivering]
        exact fun k none => absurd none (by simp)
      · intro k announced
        exact absurd ((initial.done .read).symm.trans announced) (by simp)
      · intro thread _ _ _ _ taken
        exact absurd ((initial.phase thread).symm.trans taken) (by simp)
      · rw [initial.returned]
        exact fun r mem => absurd mem List.not_mem_nil
  | step before _ taken own => exact own.step (mailbox_orderly before .read) taken

/-! ## Calls come to an end -/

/-- The way a reply still has to go. -/
def weight (s : SimBar ι) : Nat :=
  3 * s.toDevice.length + 2 * s.toHost.length + s.delivering.toList.length

theorem leads_step {s s' s'' : SimBar ι} {a : AccessAction ι} (taken : s.step a = some s')
    (apart : s.Apart a) (more : (accessSystem ι).Leads Apart s' s'') :
    (accessSystem ι).Leads Apart s s'' :=
  ActionSystem.Leads.head (M := accessSystem ι) taken apart more

/-- A step of the simulator or the monitor that raises the flag for the first
reply of a kind, or brings some reply further and leaves that kind alone. -/
structure Progress (s : SimBar ι) (kind : AccessKind) (k : Nat) (s₁ : SimBar ι) : Prop where
  step : ∃ a, s.step a = some s₁ ∧ s.Apart a
  phase : s₁.phase = s.phase
  closer : s₁.done kind = some k ∨ s₁.mailbox kind = s.mailbox kind ∧ s₁.weight < s.weight

/-- As long as a reply is on its way, there is such a step: what is in hand is
announced, else an answer is read, else a request is answered. -/
theorem exists_progress (s : SimBar ι) {kind : AccessKind} {k : Nat} {later : List Nat}
    (first : s.transit kind = k :: later) : ∃ s₁, Progress s kind k s₁ := by
  cases delivering : s.delivering with
  | some ticket =>
      have taken : s.step .deliver =
          some { s with delivering := none, readFromDevDone := some ticket } := by
        simp only [SimBar.step, delivering]
      cases kind with
      | read =>
          unfold transit inHand at first
          rw [delivering] at first
          obtain ⟨rfl⟩ := (List.cons.inj first).1
          exact ⟨_, ⟨_, taken, trivial⟩, rfl, .inl rfl⟩
      | write =>
          refine ⟨_, ⟨_, taken, trivial⟩, rfl, .inr ⟨rfl, ?_⟩⟩
          simp [weight, delivering]
  | none =>
      cases toHost : s.toHost with
      | cons r queue =>
          have taken : s.step .receive =
              some (({ s with toHost := queue } : SimBar ι).receive r.ticket r.answer) := by
            simp only [SimBar.step, delivering, toHost]
          obtain ⟨ticket, answer⟩ := r
          cases answer with
          | completion h =>
              refine ⟨_, ⟨_, taken, trivial⟩, rfl,
                .inr ⟨s.receive_completion_mailbox delivering toHost kind, ?_⟩⟩
              simp [weight, receive, delivering, toHost]
              omega
          | acknowledge =>
              cases kind with
              | read =>
                  refine ⟨_, ⟨_, taken, trivial⟩, rfl,
                    .inr ⟨s.receive_acknowledge_read toHost, ?_⟩⟩
                  simp [weight, receive, delivering, toHost]
              | write =>
                  rw [transit_of_toHost toHost .write] at first
                  obtain ⟨rfl⟩ := (List.cons.inj first).1
                  exact ⟨_, ⟨_, taken, trivial⟩, rfl, .inl rfl⟩
      | nil =>
          cases toDevice : s.toDevice with
          | cons r queue =>
              have taken : s.step (.serve ⟨0, 0⟩) = some { s with
                  toDevice := queue
                  toHost := s.toHost ++ [⟨r.ticket, r.access.answer ⟨0, 0⟩⟩]
                  replied := s.replied ++ logged r.ticket (r.access.answer ⟨0, 0⟩) } := by
                simp only [SimBar.step, toDevice]
              refine ⟨_, ⟨_, taken, trivial⟩, rfl,
                .inr ⟨s.serve_mailbox _ toDevice kind _, ?_⟩⟩
              simp [weight, delivering, toHost, toDevice]
              omega
          | nil =>
              have empty : s.transit kind = [] := by
                unfold transit inHand
                rw [toHost, toDevice, delivering]
                cases kind with
                | read => rfl
                | write => rfl
              cases empty.symm.trans first

/-- The simulator and the monitor bring the first reply of a kind to its flag. -/
theorem leads_delivered (s : SimBar ι) {kind : AccessKind} {k : Nat} {later : List Nat}
    (first : s.transit kind = k :: later) :
    ∃ s', (accessSystem ι).Leads Apart s s' ∧ s'.done kind = some k ∧ s'.phase = s.phase := by
  obtain ⟨n, weighs⟩ : ∃ n, s.weight = n := ⟨_, rfl⟩
  induction n using Nat.strong_induction_on generalizing s with
  | _ n ih =>
      obtain ⟨s₁, ⟨a, taken, allowed⟩, phase, delivered | ⟨same, less⟩⟩ := s.exists_progress first
      · exact ⟨s₁, leads_step taken allowed .refl, delivered, phase⟩
      · have first₁ : s₁.transit kind = k :: later := by
          rw [← first]
          exact congrArg Mailbox.transit same
        obtain ⟨s', leads, full, phases⟩ := ih _ (weighs ▸ less) s₁ first₁ rfl
        exact ⟨s', leads_step taken allowed leads, full, phases.trans phase⟩

/-- The same, when it may be there already. -/
theorem leads_full (s : SimBar ι) {kind : AccessKind} {k : Nat}
    (coming : (∃ later, s.transit kind = k :: later) ∨ s.done kind = some k) :
    ∃ s', (accessSystem ι).Leads Apart s s' ∧ s'.done kind = some k ∧ s'.phase = s.phase := by
  rcases coming with ⟨later, first⟩ | full
  · exact s.leads_delivered first
  · exact ⟨s, .refl, full, rfl⟩

/-- A thread that has read its data returns. -/
theorem leads_returned_of_taken (s : SimBar ι) {thread : ι} {ticket saw source : Nat}
    {data : Word32} (taken : s.phase thread = .taken ticket saw data source) :
    ∃ s', (accessSystem ι).Leads Apart s s' ∧ s'.phase thread = .idle ∧
      ∃ r ∈ s'.returned, r.ticket = ticket ∧ r.saw = saw := by
  have clear : s.step (.clear thread) =
      some ((s.finish ⟨.read, ticket, saw, some (data, source)⟩).setPhase thread .idle) := by
    simp only [SimBar.step, taken]
  exact ⟨_, leads_step clear trivial .refl, Function.update_self .., _,
    List.mem_append_right _ (List.mem_singleton_self _), rfl, rfl⟩

/-- A thread that has seen its flag returns. -/
theorem leads_returned_of_seen (s : SimBar ι) {thread : ι} {kind : AccessKind} {ticket saw : Nat}
    (seen : s.phase thread = .seen kind ticket saw) :
    ∃ s', (accessSystem ι).Leads Apart s s' ∧ s'.phase thread = .idle ∧
      ∃ r ∈ s'.returned, r.ticket = ticket ∧ r.saw = saw := by
  cases kind with
  | read =>
      have take : s.step (.take thread) =
          some (s.setPhase thread (.taken ticket saw s.readFromDevData s.dataSource)) := by
        simp only [SimBar.step, seen]
      obtain ⟨s', leads, returned⟩ := leads_returned_of_taken
        (s.setPhase thread (.taken ticket saw s.readFromDevData s.dataSource))
        (Function.update_self ..)
      exact ⟨s', leads_step take trivial leads, returned⟩
  | write =>
      have clear : s.step (.clear thread) =
          some ((s.finish ⟨.write, ticket, saw, none⟩).setPhase thread .idle) := by
        simp only [SimBar.step, seen]
      exact ⟨_, leads_step clear trivial .refl, Function.update_self .., _,
        List.mem_append_right _ (List.mem_singleton_self _), rfl, rfl⟩

/-- A thread returns when its flag is set, with whatever reply has set it. -/
theorem leads_returned (s : SimBar ι) {thread : ι} {kind : AccessKind} {ticket saw : Nat}
    (waiting : s.phase thread = .waiting kind ticket) (full : s.done kind = some saw) :
    ∃ s', (accessSystem ι).Leads Apart s s' ∧ s'.phase thread = .idle ∧
      ∃ r ∈ s'.returned, r.ticket = ticket ∧ r.saw = saw := by
  have poll : s.step (.poll thread) = some (s.setPhase thread (.seen kind ticket saw)) := by
    simp only [SimBar.step, waiting, full]
  obtain ⟨s', leads, returned⟩ := leads_returned_of_seen
    (s.setPhase thread (.seen kind ticket saw)) (Function.update_self ..)
  exact ⟨s', leads_step poll trivial leads, returned⟩

end SimBar

variable {ι : Type*} [DecidableEq ι]

/-- As long as no two `get32` and no two `set32` overlap, every call returns
with its own reply. -/
theorem SimBar.ownReplies {s : SimBar ι} (reached : (accessSystem ι).Reached SimBar.Apart s) :
    s.OwnReplies := by
  have own : ∀ r ∈ s.returned, r.saw = r.ticket := by
    intro r mem
    have gone : (r.ticket, r.saw) ∈ (s.mailbox r.kind).gone :=
      List.mem_map_of_mem (List.mem_filter.mpr ⟨mem, decide_eq_true rfl⟩)
    exact (SimBar.mailbox_orderly reached r.kind).own _ gone
  constructor
  · exact own
  · intro r mem read
    obtain ⟨data, result, sent⟩ := (SimBar.dataOwn reached).returned r mem read
    rw [own r mem] at result sent
    exact ⟨data, result, sent⟩
  · intro kind
    have once := (SimBar.mailbox_orderly reached kind).once
    rwa [SimBar.mailbox, List.map_map] at once
  · intro thread kind ticket waiting
    have here : (s.mailbox kind).caller thread = .waiting ticket :=
      (congrArg (CallPhase.caller kind) waiting).trans (if_pos rfl)
    rcases ((SimBar.mailbox_orderly reached kind).single.of_waiting here).2 with
      ⟨transit, -⟩ | ⟨-, full⟩
    · right
      rw [show s.transit kind = [ticket] from transit]
      exact List.mem_singleton_self ticket
    · exact .inl full

/-- Every call can return. -/
theorem SimBar.returns {s : SimBar ι} (reached : (accessSystem ι).Reached SimBar.Apart s)
    (thread : ι) : ∃ s', (accessSystem ι).Leads Apart s s' ∧ s'.phase thread = .idle := by
  cases here : s.phase thread with
  | idle => exact ⟨s, .refl, here⟩
  | waiting kind ticket =>
      have waiting : (s.mailbox kind).caller thread = .waiting ticket :=
        (congrArg (CallPhase.caller kind) here).trans (if_pos rfl)
      have coming := ((SimBar.mailbox_orderly reached kind).single.of_waiting waiting).2
      obtain ⟨s₁, leads, full, phase⟩ := s.leads_full
        (coming.imp (fun h => ⟨[], h.1⟩) fun h => h.2)
      obtain ⟨s₂, more, idle, -⟩ := s₁.leads_returned (by rw [phase, here]) full
      exact ⟨s₂, leads.trans more, idle⟩
  | seen kind ticket saw =>
      obtain ⟨s', leads, idle, -⟩ := s.leads_returned_of_seen here
      exact ⟨s', leads, idle⟩
  | taken ticket saw data source =>
      obtain ⟨s', leads, idle, -⟩ := s.leads_returned_of_taken here
      exact ⟨s', leads, idle⟩

/-- A call that overlaps one of its kind can return with the reply to that. -/
theorem SimBar.overlap_goes_wrong {s s' : SimBar ι}
    (reached : (accessSystem ι).Reached SimBar.Apart s) {thread : ι} {access : Access}
    (sent : s.step (.send thread access) = some s') (overlaps : ¬s.Apart (.send thread access)) :
    ∃ s'', (accessSystem ι).Leads Apart s' s'' ∧ ¬s''.OwnReplies := by
  obtain ⟨other, busy⟩ := not_forall.mp overlaps
  -- the older reply arrives first, and the new caller can be the one to see it
  obtain ⟨k, older, coming⟩ := (SimBar.mailbox_orderly reached access.kind).busy
    (CallPhase.caller_ne_away (not_not.mp busy))
  cases step_moves sent
  have queue : ((s.request access).setPhase thread
      (.waiting access.kind s.sends)).transit access.kind =
        s.transit access.kind ++ [s.sends] := by
    have view := congrArg Mailbox.transit (s.request_mailbox access access.kind)
    rwa [if_pos rfl] at view
  have first : (∃ later, ((s.request access).setPhase thread
      (.waiting access.kind s.sends)).transit access.kind = k :: later) ∨
        s.done access.kind = some k := by
    refine coming.imp (fun one => ⟨[s.sends], ?_⟩) id
    rw [queue, show s.transit access.kind = [k] from one]
    rfl
  obtain ⟨s₁, leads, full, phase⟩ := leads_full _ first
  have waiting : s₁.phase thread = .waiting access.kind s.sends := by
    rw [phase]
    exact Function.update_self ..
  obtain ⟨s₂, more, -, r, mem, ticket, saw⟩ := s₁.leads_returned waiting full
  refine ⟨s₂, leads.trans more, fun right => ?_⟩
  have own := right.own r mem
  rw [ticket, saw] at own
  exact absurd own (Nat.ne_of_lt older)

/-- While no two `get32` and no two `set32` overlap, every call returns with its
own reply; and a call that overlaps one of its kind can go wrong. -/
theorem access_own_replies :
    (∀ s, (accessSystem ι).Reached SimBar.Apart s → s.OwnReplies ∧
      ∀ thread, ∃ s', (accessSystem ι).Leads SimBar.Apart s s' ∧ s'.phase thread = .idle) ∧
    ∀ s s' thread access, (accessSystem ι).Reached SimBar.Apart s →
      s.step (.send thread access) = some s' → ¬s.Apart (.send thread access) →
      ∃ s'', (accessSystem ι).Leads SimBar.Apart s' s'' ∧ ¬s''.OwnReplies :=
  ⟨fun _ reached => ⟨SimBar.ownReplies reached, SimBar.returns reached⟩,
    fun _ _ _ _ reached sent overlaps => SimBar.overlap_goes_wrong reached sent overlaps⟩

namespace SimBar

/-- Two threads on a `bar_impl_sim` that has just been connected. -/
def connected : SimBar Bool where
  sends := 0
  toDevice := []
  toHost := []
  delivering := none
  readFromDevData := 0
  dataSource := 0
  readFromDevDone := none
  writeToDevDone := none
  phase := fun _ => .idle
  replied := []
  returned := []

theorem connected_initial : (accessSystem Bool).init connected :=
  ⟨fun _ => rfl, rfl, rfl, rfl, fun kind => by cases kind <;> rfl, rfl⟩

/-- A completion packet with the data word 0xcafe. -/
def cafe : TrnHeader := ⟨0, 0xfeca0000⟩

instance (s : SimBar Bool) : (a : AccessAction Bool) → Decidable (s.Apart a)
  | .send _ _ => inferInstanceAs (Decidable (∀ _ : Bool, _ ≠ _))
  | .poll _ | .take _ | .clear _ | .serve _ | .receive | .deliver => isTrue trivial

/-- A `set32` between the request of a `get32` and its return, and a second
`set32` before that too. -/
def readAndWrite : List (AccessAction Bool) :=
  [.send false (.get32 0), .send true (.set32 1 5), .serve cafe, .serve cafe, .receive,
    .deliver, .receive, .poll true, .poll false, .clear true, .send true (.set32 2 6),
    .take false, .serve cafe, .clear false, .receive, .poll true, .clear true]

end SimBar

open SimBar in
theorem access_own_replies_readAndWrite :
    ∃ s, (accessSystem Bool).run connected readAndWrite = some s ∧
      s.returned =
        [⟨.write, 1, 1, none⟩, ⟨.read, 0, 0, some (0xcafe, 0)⟩, ⟨.write, 2, 2, none⟩] ∧
      s.OwnReplies := by
  have keeps : (accessSystem Bool).Keeps Apart connected readAndWrite := by decide
  have reached := (ActionSystem.Reached.init connected_initial).run keeps rfl
  exact ⟨_, rfl, rfl, (access_own_replies.1 _ reached).1⟩

open SimBar in
/-- Two threads read at the same time: the second one sees the flag first, and
returns with the data of the first. -/
theorem get32_returns_foreign_data :
    ∃ s, (accessSystem Bool).run connected [.send false (.get32 0), .send true (.get32 1),
        .serve cafe, .receive, .deliver, .poll true, .take true, .clear true] = some s ∧
      s.returned = [⟨.read, 1, 0, some (0xcafe, 0)⟩] ∧ s.replied = [(0, 0xcafe)] ∧
      ¬s.OwnReplies := by
  refine ⟨_, rfl, rfl, rfl, fun right => ?_⟩
  have own := right.own ⟨.read, 1, 0, some (0xcafe, 0)⟩ (List.mem_singleton_self _)
  exact absurd own (by decide)

end Librorc
