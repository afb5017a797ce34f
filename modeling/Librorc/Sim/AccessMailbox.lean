import Librorc.Sim.Access

/-!
# The flags as mailboxes

Seen through one of the two flags, the threads are callers of a mailbox:
`mailbox_step` says what each step is there. As long as no two `get32` and no
two `set32` overlap, both mailboxes are orderly.
-/

namespace Librorc

open Librorc.Lib

/-- A phase as the mailbox of one kind sees it. -/
def CallPhase.caller (kind : AccessKind) : CallPhase → Mailbox.Caller
  | .idle => .away
  | .waiting k ticket => if k = kind then .waiting ticket else .away
  | .seen k ticket saw => if k = kind then .served ticket saw else .away
  | .taken ticket saw _ _ => if .read = kind then .served ticket saw else .away

theorem CallPhase.caller_away {kind : AccessKind} {p : CallPhase} (other : p.kind ≠ some kind) :
    p.caller kind = .away := by
  cases p with
  | idle => rfl
  | waiting k ticket => exact if_neg fun same => other (congrArg some same)
  | seen k ticket saw => exact if_neg fun same => other (congrArg some same)
  | taken ticket saw data source => exact if_neg fun same => other (congrArg some same)

theorem CallPhase.caller_ne_away {kind : AccessKind} {p : CallPhase} (mine : p.kind = some kind) :
    p.caller kind ≠ .away := by
  intro away
  cases p with
  | idle => cases mine
  | waiting k ticket => cases (if_pos (Option.some.inj mine)).symm.trans away
  | seen k ticket saw => cases (if_pos (Option.some.inj mine)).symm.trans away
  | taken ticket saw data source => cases (if_pos (Option.some.inj mine)).symm.trans away

theorem Access.answer_kind (a : Access) (h : TrnHeader) : (a.answer h).kind = a.kind := by
  cases a with
  | get32 address => rfl
  | set32 address data => rfl

namespace SimBar

variable {ι : Type*}

def mailbox (s : SimBar ι) (kind : AccessKind) : Mailbox ι where
  next := s.sends
  transit := s.transit kind
  slot := s.done kind
  caller := fun thread => (s.phase thread).caller kind
  gone := (s.returned.filter fun r => r.kind = kind).map fun r => (r.ticket, r.saw)

section
variable [DecidableEq ι]

theorem mailbox_setPhase (s : SimBar ι) (thread : ι) (phase : CallPhase) (kind : AccessKind) :
    (s.setPhase thread phase).mailbox kind = (s.mailbox kind).move thread (phase.caller kind) := by
  have callers : (fun t => ((s.setPhase thread phase).phase t).caller kind) =
      Function.update (fun t => (s.phase t).caller kind) thread (phase.caller kind) :=
    Function.comp_update (CallPhase.caller kind) s.phase thread phase
  unfold mailbox Mailbox.move
  rw [callers]
  rfl

/-- A thread that the mailbox of this kind does not see moves on. -/
theorem mailbox_setPhase_away (s : SimBar ι) {thread : ι} {phase : CallPhase} {kind : AccessKind}
    (before : (s.phase thread).kind ≠ some kind) (after : phase.kind ≠ some kind) :
    (s.setPhase thread phase).mailbox kind = s.mailbox kind := by
  rw [mailbox_setPhase, CallPhase.caller_away after]
  exact Mailbox.move_same (CallPhase.caller_away before)

end

/-- A queue of messages, of which some are counted, is added to. -/
theorem tickets_append {β : Type*} (counted : β → Prop) [DecidablePred counted] (ticket : β → Nat)
    (queue : List β) (r : β) :
    (queue ++ [r]).filterMap (fun r => if counted r then some (ticket r) else none) =
      queue.filterMap (fun r => if counted r then some (ticket r) else none) ++
        if counted r then [ticket r] else [] := by
  rw [List.filterMap_append]
  congr 1
  by_cases same : counted r
  · simp [same]
  · simp [same]

theorem tickets_cons {β : Type*} (counted : β → Prop) [DecidablePred counted] (ticket : β → Nat)
    (r : β) (queue : List β) :
    (r :: queue).filterMap (fun r => if counted r then some (ticket r) else none) =
      (if counted r then [ticket r] else []) ++
        queue.filterMap (fun r => if counted r then some (ticket r) else none) := by
  by_cases same : counted r
  · simp [same]
  · simp [same]

theorem asked_append (kind : AccessKind) (queue : List Request) (r : Request) :
    asked kind (queue ++ [r]) =
      asked kind queue ++ if r.access.kind = kind then [r.ticket] else [] :=
  tickets_append (fun r : Request => r.access.kind = kind) Request.ticket queue r

theorem asked_cons (kind : AccessKind) (r : Request) (queue : List Request) :
    asked kind (r :: queue) = (if r.access.kind = kind then [r.ticket] else []) ++
      asked kind queue :=
  tickets_cons (fun r : Request => r.access.kind = kind) Request.ticket r queue

theorem answered_append (kind : AccessKind) (queue : List Reply) (r : Reply) :
    answered kind (queue ++ [r]) =
      answered kind queue ++ if r.answer.kind = kind then [r.ticket] else [] :=
  tickets_append (fun r : Reply => r.answer.kind = kind) Reply.ticket queue r

theorem answered_cons (kind : AccessKind) (r : Reply) (queue : List Reply) :
    answered kind (r :: queue) = (if r.answer.kind = kind then [r.ticket] else []) ++
      answered kind queue :=
  tickets_cons (fun r : Reply => r.answer.kind = kind) Reply.ticket r queue

/-! ## What one step is for the mailbox of one kind -/

theorem request_mailbox (s : SimBar ι) (access : Access) (kind : AccessKind) :
    (s.request access).mailbox kind =
      { s.mailbox kind with
        next := s.sends + 1
        transit := s.transit kind ++ if access.kind = kind then [s.sends] else [] } := by
  have more : (s.request access).transit kind =
      s.transit kind ++ if access.kind = kind then [s.sends] else [] := by
    unfold transit request
    rw [asked_append]
    simp only [List.append_assoc]
    rfl
  unfold mailbox
  rw [more]
  rfl

theorem finish_mailbox (s : SimBar ι) (r : Return) :
    (s.finish r).mailbox r.kind =
      { s.mailbox r.kind with
        slot := none
        gone := (s.mailbox r.kind).gone ++ [(r.ticket, r.saw)] } := by
  obtain ⟨kind, ticket, saw, result⟩ := r
  cases kind with
  | read => simp [mailbox, finish, transit, inHand, done]
  | write => simp [mailbox, finish, transit, inHand, done]

theorem finish_mailbox_of_ne (s : SimBar ι) {r : Return} {kind : AccessKind}
    (other : r.kind ≠ kind) : (s.finish r).mailbox kind = s.mailbox kind := by
  obtain ⟨k, ticket, saw, result⟩ := r
  cases k with
  | read =>
      cases kind with
      | read => exact absurd rfl other
      | write => simp [mailbox, finish, transit, inHand, done]
  | write =>
      cases kind with
      | read => simp [mailbox, finish, transit, inHand, done]
      | write => exact absurd rfl other

/-- An answer changes nothing for the callers: it is still on its way. -/
theorem serve_mailbox (s : SimBar ι) {r : Request} {later : List Request} (h : TrnHeader)
    (queue : s.toDevice = r :: later) (kind : AccessKind) (replied : List (Nat × Word32)) :
    ({ s with
      toDevice := later
      toHost := s.toHost ++ [⟨r.ticket, r.access.answer h⟩]
      replied := replied } : SimBar ι).mailbox kind = s.mailbox kind := by
  have same : ({ s with
      toDevice := later
      toHost := s.toHost ++ [⟨r.ticket, r.access.answer h⟩]
      replied := replied } : SimBar ι).transit kind = s.transit kind := by
    unfold transit
    rw [queue, answered_append, asked_cons, Access.answer_kind, List.append_assoc]
    rfl
  unfold mailbox
  rw [same]
  rfl

/-- The first answer on the socket comes right after the one in hand. -/
theorem transit_of_toHost {s : SimBar ι} {r : Reply} {later : List Reply}
    (queue : s.toHost = r :: later) (kind : AccessKind) :
    s.transit kind = s.inHand kind ++ ((if r.answer.kind = kind then [r.ticket] else []) ++
      (answered kind later ++ asked kind s.toDevice)) := by
  unfold transit
  rw [queue, answered_cons, List.append_assoc]

/-- The data of a `get32` is still on its way when the monitor has stored it. -/
theorem receive_completion_mailbox (s : SimBar ι) {ticket : Nat} {h : TrnHeader}
    {later : List Reply} (free : s.delivering = none)
    (queue : s.toHost = ⟨ticket, .completion h⟩ :: later) (kind : AccessKind) :
    (({ s with toHost := later } : SimBar ι).receive ticket (.completion h)).mailbox kind =
      s.mailbox kind := by
  unfold mailbox
  rw [transit_of_toHost queue kind]
  cases kind with
  | read =>
      simp only [inHand, free]
      rfl
  | write => rfl

/-- Acknowledgements are nothing to the callers of `get32`. -/
theorem receive_acknowledge_read (s : SimBar ι) {ticket : Nat} {later : List Reply}
    (queue : s.toHost = ⟨ticket, .acknowledge⟩ :: later) :
    (({ s with toHost := later } : SimBar ι).receive ticket .acknowledge).mailbox .read =
      s.mailbox .read := by
  unfold mailbox
  rw [transit_of_toHost queue .read]
  rfl

variable [DecidableEq ι]

/-- An acknowledgement reaches its caller when it is read. -/
theorem receive_acknowledge_write (s : SimBar ι) {ticket : Nat} {later : List Reply}
    (queue : s.toHost = ⟨ticket, .acknowledge⟩ :: later) :
    (s.mailbox .write).step .deliver =
      some ((({ s with toHost := later } : SimBar ι).receive ticket .acknowledge).mailbox
        .write) :=
  Mailbox.step_deliver (transit_of_toHost queue .write)

/-- The data of a `get32` reaches its caller when it is announced. -/
theorem deliver_read (s : SimBar ι) {ticket : Nat} (delivering : s.delivering = some ticket) :
    (s.mailbox .read).step .deliver =
      some (({ s with delivering := none, readFromDevDone := some ticket } :
        SimBar ι).mailbox .read) := by
  have first : s.transit .read = ticket :: (answered .read s.toHost ++ asked .read s.toDevice) := by
    unfold transit inHand
    rw [delivering]
    rfl
  exact Mailbox.step_deliver first

/-- A call returns. -/
theorem leave_step (s : SimBar ι) {thread : ι} {r : Return} {phase : CallPhase}
    (here : s.phase thread = phase) (mine : phase.kind = some r.kind)
    (served : phase.caller r.kind = .served r.ticket r.saw) (kind : AccessKind) :
    ((s.finish r).setPhase thread .idle).mailbox kind = s.mailbox kind ∨
      (s.mailbox kind).step (.leave thread) =
        some (((s.finish r).setPhase thread .idle).mailbox kind) := by
  by_cases same : r.kind = kind
  · right
    subst same
    rw [mailbox_setPhase, finish_mailbox]
    refine Mailbox.step_leave ?_
    show (s.phase thread).caller r.kind = _
    rw [here, served]
  · left
    rw [mailbox_setPhase, finish_mailbox_of_ne s same]
    refine Mailbox.move_same (CallPhase.caller_away ?_)
    rw [here, mine]
    exact fun eq => same (Option.some.inj eq)

/-- What one step is for the mailbox of one kind. -/
theorem mailbox_step {s s' : SimBar ι} {a : AccessAction ι} (apart : s.Apart a)
    (taken : s.step a = some s') (kind : AccessKind) :
    s'.mailbox kind = s.mailbox kind ∨
      ∃ b, Mailbox.Alone (s.mailbox kind) b ∧
        (s.mailbox kind).step b = some (s'.mailbox kind) := by
  cases step_moves taken with
  | @send thread access idle =>
      right
      rw [mailbox_setPhase, request_mailbox]
      by_cases same : access.kind = kind
      · subst same
        refine ⟨.send thread, fun other => CallPhase.caller_away (apart other), ?_⟩
        have away : (s.mailbox access.kind).caller thread = .away :=
          congrArg (CallPhase.caller access.kind) idle
        rw [if_pos rfl, Mailbox.step_send away]
        exact congrArg (fun c => some (Mailbox.move _ thread c)) (if_pos rfl).symm
      · refine ⟨.elsewhere, trivial, ?_⟩
        have away : ({ s.mailbox kind with next := s.sends + 1 }).caller thread = .away :=
          congrArg (CallPhase.caller kind) idle
        have unseen : (CallPhase.waiting access.kind s.sends).kind ≠ some kind :=
          fun eq => same (Option.some.inj eq)
        rw [if_neg same, List.append_nil, CallPhase.caller_away unseen]
        exact congrArg some (Mailbox.move_same away).symm
  | wait => exact .inl rfl
  | @see thread k ticket saw waiting full =>
      by_cases same : k = kind
      · subst same
        refine .inr ⟨.look thread, trivial, ?_⟩
        have here : (s.mailbox k).caller thread = .waiting ticket :=
          (congrArg (CallPhase.caller k) waiting).trans (if_pos rfl)
        rw [mailbox_setPhase, Mailbox.step_look here full]
        exact congrArg (fun c => some (Mailbox.move _ thread c)) (if_pos rfl).symm
      · refine .inl (mailbox_setPhase_away s ?_ ?_)
        · rw [waiting]
          exact fun eq => same (Option.some.inj eq)
        · exact fun eq => same (Option.some.inj eq)
  | @take thread ticket saw seen =>
      left
      rw [mailbox_setPhase]
      refine Mailbox.move_same ?_
      show (s.phase thread).caller kind = _
      rw [seen]
      rfl
  | @written thread ticket saw seen =>
      rcases s.leave_step (r := ⟨.write, ticket, saw, none⟩) seen rfl rfl kind with same | left
      · exact .inl same
      · exact .inr ⟨.leave thread, trivial, left⟩
  | @read thread ticket saw source data has =>
      rcases s.leave_step (r := ⟨.read, ticket, saw, some (data, source)⟩) has rfl rfl kind
        with same | left
      · exact .inl same
      · exact .inr ⟨.leave thread, trivial, left⟩
  | serve h queue => exact .inl (s.serve_mailbox h queue kind _)
  | @receive r later free queue =>
      obtain ⟨ticket, answer⟩ := r
      cases answer with
      | completion h => exact .inl (s.receive_completion_mailbox free queue kind)
      | acknowledge =>
          cases kind with
          | read => exact .inl (s.receive_acknowledge_read queue)
          | write => exact .inr ⟨.deliver, trivial, s.receive_acknowledge_write queue⟩
  | deliver delivering =>
      cases kind with
      | read => exact .inr ⟨.deliver, trivial, s.deliver_read delivering⟩
      | write => exact .inl rfl

/-- Both flags are orderly as long as calls of one kind do not overlap. -/
theorem mailbox_orderly {s : SimBar ι} (reached : (accessSystem ι).Reached Apart s)
    (kind : AccessKind) : (s.mailbox kind).Orderly := by
  refine Lib.mailbox_orderly (reached.map (f := fun s => s.mailbox kind) ?_ ?_)
  · intro start initial
    refine ⟨fun thread => congrArg (CallPhase.caller kind) (initial.phase thread), ?_,
      initial.done kind, ?_⟩
    · show start.transit kind = []
      unfold transit
      rw [initial.toHost, initial.toDevice]
      cases kind with
      | read =>
          unfold inHand
          rw [initial.delivering]
          rfl
      | write => rfl
    · show (start.returned.filter _).map _ = []
      rw [initial.returned]
      rfl
  · intro before a after apart taken
    exact mailbox_step apart taken kind

end SimBar
end Librorc
