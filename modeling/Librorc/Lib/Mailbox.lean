import Librorc.Lib.ActionSystem
import Mathlib.Data.List.Nodup
import Mathlib.Logic.Function.Basic

/-!
# One slot for the replies of many callers

Callers send requests, and replies come back in the order of the requests. A
reply is put into a single slot, which every waiting caller looks at. A caller
that finds the slot full takes the reply for its own and empties the slot.

Nothing in the slot says whose reply it is: `Orderly.step` keeps the callers
apart as long as no request is sent while another caller is on its way.
-/

namespace Librorc.Lib

/-- How far a caller has come. -/
inductive Mailbox.Caller
  | away
  | waiting (ticket : ℕ)
  /-- The slot has been seen full, with the reply to `saw`. -/
  | served (ticket saw : ℕ)
deriving DecidableEq

/-- Requests carry tickets, and so do their replies. -/
structure Mailbox (ι : Type*) where
  next : ℕ
  /-- The requests whose replies are on their way, in the order they arrive. -/
  transit : List ℕ
  slot : Option ℕ
  caller : ι → Mailbox.Caller
  /-- The callers that have left, with the reply each has taken. -/
  gone : List (ℕ × ℕ)

namespace Mailbox

inductive Action (ι : Type*)
  /-- A ticket is drawn for another mailbox. -/
  | elsewhere
  | send (i : ι)
  | deliver
  | look (i : ι)
  | leave (i : ι)

def Caller.ticket : Caller → Option ℕ
  | .away => none
  | .waiting k => some k
  | .served k _ => some k

variable {ι : Type*}

/-- Where the only request is. -/
inductive Single (m : Mailbox ι) : Prop
  | none (callers : ∀ j, m.caller j = .away) (transit : m.transit = []) (slot : m.slot = none)
  | underway (i : ι) (k : ℕ) (caller : m.caller i = .waiting k)
      (others : ∀ j, j ≠ i → m.caller j = .away) (transit : m.transit = [k])
      (slot : m.slot = Option.none)
  | arrived (i : ι) (k : ℕ) (caller : m.caller i = .waiting k ∨ m.caller i = .served k k)
      (others : ∀ j, j ≠ i → m.caller j = .away) (transit : m.transit = [])
      (slot : m.slot = some k)

/-- Every caller that has left has taken the reply to its own request, once. -/
structure Orderly (m : Mailbox ι) : Prop where
  single : Single m
  own : ∀ p ∈ m.gone, p.2 = p.1
  once : (m.gone.map Prod.fst).Nodup
  old : ∀ p ∈ m.gone, p.1 < m.next
  fresh : ∀ i k, (m.caller i).ticket = some k → k < m.next ∧ k ∉ m.gone.map Prod.fst

/-- The caller that is not away is the only one. -/
theorem others_away {m : Mailbox ι} {i j : ι} (others : ∀ j, j ≠ i → m.caller j = .away)
    (here : m.caller j ≠ .away) : j = i := by
  by_contra ne
  exact here (others j ne)

namespace Single

variable {m : Mailbox ι} {i : ι} {k saw : ℕ}

/-- Only what the callers see matters. -/
theorem congr {m' : Mailbox ι} (single : Single m) (caller : m'.caller = m.caller)
    (transit : m'.transit = m.transit) (slot : m'.slot = m.slot) : Single m' := by
  cases single with
  | none callers t s => exact .none (caller ▸ callers) (transit.trans t) (slot.trans s)
  | underway i k here others t s =>
      exact .underway i k (caller ▸ here) (caller ▸ others) (transit.trans t) (slot.trans s)
  | arrived i k here others t s =>
      exact .arrived i k (caller ▸ here) (caller ▸ others) (transit.trans t) (slot.trans s)

/-- A reply that is looked at or taken is the caller's own. -/
theorem of_served (single : Single m) (here : m.caller i = .served k saw) :
    saw = k ∧ m.slot = some k ∧ m.transit = [] ∧ ∀ j, j ≠ i → m.caller j = .away := by
  have live : m.caller i ≠ .away := by
    rw [here]
    intro away
    cases away
  cases single with
  | none callers => cases (callers i).symm.trans here
  | underway j k' waiting others =>
      obtain rfl := others_away others live
      cases waiting.symm.trans here
  | arrived j k' arrived others transit slot =>
      obtain rfl := others_away others live
      rcases arrived with waiting | served
      · cases waiting.symm.trans here
      · cases served.symm.trans here
        exact ⟨rfl, slot, transit, others⟩

/-- While a caller waits its reply is on its way or in the slot. -/
theorem of_waiting (single : Single m) (here : m.caller i = .waiting k) :
    (∀ j, j ≠ i → m.caller j = .away) ∧
      (m.transit = [k] ∧ m.slot = Option.none ∨ m.transit = [] ∧ m.slot = some k) := by
  have live : m.caller i ≠ .away := by
    rw [here]
    intro away
    cases away
  cases single with
  | none callers => cases (callers i).symm.trans here
  | underway j k' waiting others transit slot =>
      obtain rfl := others_away others live
      cases waiting.symm.trans here
      exact ⟨others, .inl ⟨transit, slot⟩⟩
  | arrived j k' arrived others transit slot =>
      obtain rfl := others_away others live
      rcases arrived with waiting | served
      · cases waiting.symm.trans here
        exact ⟨others, .inr ⟨transit, slot⟩⟩
      · cases served.symm.trans here

/-- A reply on its way finds the slot empty. -/
theorem of_transit (single : Single m) {later : List ℕ} (transit : m.transit = k :: later) :
    later = [] ∧ m.slot = Option.none ∧
      ∃ i, m.caller i = .waiting k ∧ ∀ j, j ≠ i → m.caller j = .away := by
  cases single with
  | none callers empty => cases empty.symm.trans transit
  | underway i k' waiting others one slot =>
      cases one.symm.trans transit
      exact ⟨rfl, slot, i, waiting, others⟩
  | arrived i k' arrived others empty => cases empty.symm.trans transit

end Single

variable [DecidableEq ι]

/-- The caller moves on. -/
def move (m : Mailbox ι) (i : ι) (c : Caller) : Mailbox ι :=
  { m with caller := Function.update m.caller i c }

def step (m : Mailbox ι) : Action ι → Option (Mailbox ι)
  | .elsewhere => some { m with next := m.next + 1 }
  | .send i =>
      match m.caller i with
      | .away =>
          some ({ m with next := m.next + 1, transit := m.transit ++ [m.next] }.move i
            (.waiting m.next))
      | _ => none
  | .deliver =>
      match m.transit with
      | [] => none
      | k :: later => some { m with transit := later, slot := some k }
  | .look i =>
      match m.caller i, m.slot with
      | .waiting k, some saw => some (m.move i (.served k saw))
      | _, _ => none
  | .leave i =>
      match m.caller i with
      | .served k saw =>
          some ({ m with slot := none, gone := m.gone ++ [(k, saw)] }.move i .away)
      | _ => none

/-- A request is sent only while every caller is away. -/
def Alone (m : Mailbox ι) : Action ι → Prop
  | .send _ => ∀ j, m.caller j = .away
  | _ => True

@[simp] theorem move_self (m : Mailbox ι) (i : ι) (c : Caller) : (m.move i c).caller i = c :=
  Function.update_self ..

/-- A caller that stays where it is. -/
theorem move_same {m : Mailbox ι} {i : ι} {c : Caller} (here : m.caller i = c) :
    m.move i c = m := by
  subst here
  unfold move
  rw [Function.update_eq_self]

theorem move_of_ne (m : Mailbox ι) {i j : ι} (c : Caller) (ne : j ≠ i) :
    (m.move i c).caller j = m.caller j :=
  Function.update_of_ne ne ..

/-! The enabled steps. -/

theorem step_send {m : Mailbox ι} {i : ι} (away : m.caller i = .away) :
    m.step (.send i) = some ({ m with next := m.next + 1, transit := m.transit ++ [m.next] }.move i
      (.waiting m.next)) := by
  simp only [step, away]

theorem step_deliver {m : Mailbox ι} {k : ℕ} {later : List ℕ} (transit : m.transit = k :: later) :
    m.step .deliver = some { m with transit := later, slot := some k } := by
  simp only [step, transit]

theorem step_look {m : Mailbox ι} {i : ι} {k saw : ℕ} (waiting : m.caller i = .waiting k)
    (full : m.slot = some saw) : m.step (.look i) = some (m.move i (.served k saw)) := by
  simp only [step, waiting, full]

theorem step_leave {m : Mailbox ι} {i : ι} {k saw : ℕ} (served : m.caller i = .served k saw) :
    m.step (.leave i) =
      some ({ m with slot := none, gone := m.gone ++ [(k, saw)] }.move i .away) := by
  simp only [step, served]

namespace Orderly

variable {m m' : Mailbox ι} {i : ι}

omit [DecidableEq ι] in
/-- A step that sends nothing, and lets nobody leave. -/
theorem of_same (orderly : Orderly m) (single : Single m') (gone : m'.gone = m.gone)
    (next : m.next ≤ m'.next) (ticket : ∀ j, (m'.caller j).ticket = (m.caller j).ticket) :
    Orderly m' := by
  constructor
  · exact single
  · rw [gone]
    exact orderly.own
  · rw [gone]
    exact orderly.once
  · rw [gone]
    exact fun p mem => Nat.lt_of_lt_of_le (orderly.old p mem) next
  · intro j k here
    rw [ticket] at here
    obtain ⟨below, new⟩ := orderly.fresh j k here
    rw [gone]
    exact ⟨Nat.lt_of_lt_of_le below next, new⟩

omit [DecidableEq ι] in
/-- A caller that is not away has a reply coming, with an older ticket. -/
theorem busy (orderly : Orderly m) (here : m.caller i ≠ .away) :
    ∃ k < m.next, m.transit = [k] ∨ m.slot = some k := by
  cases orderly.single with
  | none callers => exact absurd (callers i) here
  | underway j k waiting _ transit =>
      exact ⟨k, (orderly.fresh j k (by rw [waiting]; rfl)).1, .inl transit⟩
  | arrived j k arrived _ _ slot =>
      refine ⟨k, (orderly.fresh j k ?_).1, .inr slot⟩
      rcases arrived with waiting | served
      · rw [waiting]
        rfl
      · rw [served]
        rfl

theorem send (orderly : Orderly m) (alone : ∀ j, m.caller j = .away) :
    Orderly ({ m with next := m.next + 1, transit := m.transit ++ [m.next] }.move i
      (.waiting m.next)) := by
  obtain ⟨empty, slot⟩ : m.transit = [] ∧ m.slot = none := by
    cases orderly.single with
    | none callers empty slot => exact ⟨empty, slot⟩
    | underway j k waiting => cases (alone j).symm.trans waiting
    | arrived j k arrived =>
        rcases arrived with waiting | served
        · cases (alone j).symm.trans waiting
        · cases (alone j).symm.trans served
  constructor
  · refine .underway i m.next (move_self ..) ?_ ?_ slot
    · exact fun j ne => (move_of_ne _ _ ne).trans (alone j)
    · show m.transit ++ [m.next] = [m.next]
      rw [empty, List.nil_append]
  · exact orderly.own
  · exact orderly.once
  · exact fun p mem => Nat.lt_succ_of_lt (orderly.old p mem)
  · intro j k here
    by_cases same : j = i
    · subst same
      rw [move_self] at here
      obtain rfl := Option.some.inj here
      refine ⟨Nat.lt_succ_self _, fun mem => ?_⟩
      obtain ⟨p, left, ticket⟩ := List.mem_map.mp mem
      exact absurd (orderly.old p left) (by rw [ticket]; exact Nat.lt_irrefl _)
    · rw [move_of_ne _ _ same] at here
      rw [show Mailbox.caller _ j = .away from alone j] at here
      cases here

theorem leave {k saw : ℕ} (orderly : Orderly m) (served : m.caller i = .served k saw) :
    Orderly ({ m with slot := none, gone := m.gone ++ [(k, saw)] }.move i .away) := by
  obtain ⟨rfl, -, transit, others⟩ := orderly.single.of_served served
  obtain ⟨below, new⟩ := orderly.fresh i saw (by rw [served]; rfl)
  have away (j : ι) : ({ m with slot := none, gone := m.gone ++ [(saw, saw)] }.move i
      .away).caller j = .away := by
    by_cases same : j = i
    · rw [same, move_self]
    · rw [move_of_ne _ _ same]
      exact others j same
  constructor
  · exact .none away transit rfl
  · intro p mem
    rcases List.mem_append.mp mem with left | now
    · exact orderly.own p left
    · rw [List.mem_singleton.mp now]
  · show ((m.gone ++ [(saw, saw)]).map Prod.fst).Nodup
    rw [List.map_append, List.map_singleton]
    exact orderly.once.append (List.nodup_singleton _) (List.disjoint_singleton.mpr new)
  · intro p mem
    rcases List.mem_append.mp mem with left | now
    · exact orderly.old p left
    · rw [List.mem_singleton.mp now]
      exact below
  · intro j k here
    rw [away] at here
    cases here

theorem step (orderly : Orderly m) {a : Action ι} (alone : Alone m a)
    (taken : m.step a = some m') : Orderly m' := by
  cases a with
  | elsewhere =>
      obtain rfl := Option.some.inj taken
      exact orderly.of_same (orderly.single.congr rfl rfl rfl) rfl (Nat.le_succ _) fun _ => rfl
  | send i =>
      simp only [Mailbox.step] at taken
      split at taken
      · obtain rfl := Option.some.inj taken
        exact orderly.send alone
      · cases taken
  | deliver =>
      simp only [Mailbox.step] at taken
      split at taken
      · cases taken
      · rename_i k later transit
        obtain rfl := Option.some.inj taken
        obtain ⟨rfl, -, i, waiting, others⟩ := orderly.single.of_transit transit
        exact orderly.of_same (.arrived i k (.inl waiting) others rfl rfl) rfl (Nat.le_refl _)
          fun _ => rfl
  | look i =>
      simp only [Mailbox.step] at taken
      split at taken
      · rename_i k saw waiting slot
        obtain rfl := Option.some.inj taken
        -- the slot holds the reply to the only caller
        obtain ⟨others, ⟨-, empty⟩ | ⟨transit, full⟩⟩ := orderly.single.of_waiting waiting
        · cases empty.symm.trans slot
        obtain rfl : saw = k := Option.some.inj (slot.symm.trans full)
        refine orderly.of_same (.arrived i saw (.inr (move_self ..)) ?_ transit full) rfl
          (Nat.le_refl _) ?_
        · exact fun j ne => (move_of_ne _ _ ne).trans (others j ne)
        · intro j
          by_cases same : j = i
          · rw [same, move_self, waiting]
            rfl
          · rw [move_of_ne _ _ same]
      · cases taken
  | leave i =>
      simp only [Mailbox.step] at taken
      split at taken
      · rename_i served
        obtain rfl := Option.some.inj taken
        exact orderly.leave served
      · cases taken

end Orderly

end Mailbox

/-- The callers of one mailbox, in any order of steps. -/
def mailboxSystem (ι : Type*) [DecidableEq ι] : ActionSystem (Mailbox ι) (Mailbox.Action ι) where
  init := fun m => (∀ i, m.caller i = .away) ∧ m.transit = [] ∧ m.slot = none ∧ m.gone = []
  step := Mailbox.step

/-- Callers that never overlap are never confused. -/
theorem mailbox_orderly {ι : Type*} [DecidableEq ι] {m : Mailbox ι}
    (reached : (mailboxSystem ι).Reached Mailbox.Alone m) : m.Orderly := by
  refine reached.invariant ?_ ?_
  · rintro start ⟨callers, transit, slot, gone⟩
    constructor
    · exact .none callers transit slot
    · intro p mem
      rw [gone] at mem
      cases mem
    · rw [gone]
      exact List.nodup_nil
    · intro p mem
      rw [gone] at mem
      cases mem
    · intro i k here
      rw [callers] at here
      cases here
  · intro before a after orderly alone taken
    exact orderly.step alone taken

end Librorc.Lib
