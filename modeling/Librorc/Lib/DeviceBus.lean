import Librorc.Lib.Throwing
import Mathlib.Logic.Function.Basic

/-!
# Clients of devices on a bus

Devices are told apart by an index and hold registers. A client reads one
register or writes one or two of them in an access, and goes on with what it has
read. `run` is what it does on a bus whose accesses may throw, `runOn` the same on
one device, and `exec` on a device that takes every access. A client that
addresses one device only does on the bus what it does on the device.
-/

namespace Librorc.Lib

variable {ι A B α β δ δ' ε ε' : Type}

/-- A device with registers `A` that hold values `B`. Reading may change it. -/
class RegDevice (A B : outParam Type) (δ : Type) where
  read : δ → A → B × δ
  write : δ → A → B → δ

/-- One or two registers written in one access. -/
def RegDevice.writeBoth [RegDevice A B δ] (d : δ) (addr : A) (value : B) (second : Option (A × B)) :
    δ :=
  let d := RegDevice.write d addr value
  second.elim d fun other => RegDevice.write d other.1 other.2

/-- A plain memory. -/
instance [DecidableEq A] : RegDevice A B (A → B) where
  read memory addr := (memory addr, memory)
  write memory addr value := Function.update memory addr value

/-- Devices of two kinds. -/
instance [RegDevice A B δ] [RegDevice A B δ'] : RegDevice A B (δ ⊕ δ') where
  read
    | .inl d, addr => let (value, d) := RegDevice.read d addr; (value, .inl d)
    | .inr d, addr => let (value, d) := RegDevice.read d addr; (value, .inr d)
  write
    | .inl d, addr, value => .inl (RegDevice.write d addr value)
    | .inr d, addr, value => .inr (RegDevice.write d addr value)

inductive BusClient (ι A B α : Type)
  | done (a : α)
  | read (i : ι) (addr : A) (next : B → BusClient ι A B α)
  | write (i : ι) (addr : A) (value : B) (second : Option (A × B)) (next : BusClient ι A B α)

namespace BusClient

def bind : BusClient ι A B α → (α → BusClient ι A B β) → BusClient ι A B β
  | done a, f => f a
  | read i addr next, f => read i addr fun value => (next value).bind f
  | write i addr value second next, f => write i addr value second (next.bind f)

instance : Monad (BusClient ι A B) where
  pure := done
  bind := bind

/-! ## What a client does -/

section Run

variable [RegDevice A B δ]

/-- Without exceptions, on one device. -/
def exec : BusClient ι A B α → δ → α × δ
  | done a, d => (a, d)
  | read _ addr next, d => let (value, d) := RegDevice.read d addr; (next value).exec d
  | write _ addr value second next, d => next.exec (RegDevice.writeBoth d addr value second)

/-- On one device. -/
def runOn (throwing : ℕ → Bool) (e : ε) : BusClient ι A B α → Throwing ε (Metered δ) α
  | done a => pure a
  | read _ addr next => do
      let value ← attempt throwing e fun d : δ => RegDevice.read d addr
      runOn throwing e (next value)
  | write _ addr value second next => do
      attempt throwing e fun d : δ => ((), RegDevice.writeBoth d addr value second)
      runOn throwing e next

variable [DecidableEq ι]

/-- An access to one of the devices. -/
def accessAt (i : ι) (access : δ → α × δ) (devices : ι → δ) : α × (ι → δ) :=
  let (a, d) := access (devices i)
  (a, Function.update devices i d)

/-- On all of them. -/
def run (throwing : ι → ℕ → Bool) (e : ι → ε) :
    BusClient ι A B α → Throwing ε (Metered (ι → δ)) α
  | done a => pure a
  | read i addr next => do
      let value ← attempt (throwing i) (e i) (accessAt i fun d : δ => RegDevice.read d addr)
      run throwing e (next value)
  | write i addr value second next => do
      attempt (throwing i) (e i)
        (accessAt i fun d : δ => ((), RegDevice.writeBoth d addr value second))
      run throwing e next

end Run

/-- Every access is to a device in `P`. -/
def Addresses (P : ι → Prop) : BusClient ι A B α → Prop
  | done _ => True
  | read i _ next => P i ∧ ∀ value, (next value).Addresses P
  | write i _ _ _ next => P i ∧ next.Addresses P

theorem addresses_bind {P : ι → Prop} {client : BusClient ι A B α} {f : α → BusClient ι A B β}
    (first : client.Addresses P) (rest : ∀ a, (f a).Addresses P) :
    (client >>= f).Addresses P := by
  induction client with
  | done a => exact rest a
  | read i addr next ih => exact ⟨first.1, fun value => ih value (first.2 value)⟩
  | write i addr value second next ih => exact ⟨first.1, ih first.2⟩

/-- Every write is one in `W`. -/
def Writes (W : A → B → Option (A × B) → Prop) : BusClient ι A B α → Prop
  | done _ => True
  | read _ _ next => ∀ value, (next value).Writes W
  | write _ addr value second next => W addr value second ∧ next.Writes W

theorem Writes.mono {W W' : A → B → Option (A × B) → Prop} {client : BusClient ι A B α}
    (writes : client.Writes W) (weaker : ∀ addr value second, W addr value second →
      W' addr value second) : client.Writes W' := by
  induction client with
  | done a => trivial
  | read i addr next ih => exact fun value => ih value (writes value)
  | write i addr value second next ih => exact ⟨weaker _ _ _ writes.1, ih writes.2⟩

theorem writes_bind {W : A → B → Option (A × B) → Prop} {client : BusClient ι A B α}
    {f : α → BusClient ι A B β} (first : client.Writes W) (rest : ∀ a, (f a).Writes W) :
    (client >>= f).Writes W := by
  induction client with
  | done a => exact rest a
  | read i addr next ih => exact fun value => ih value (first value)
  | write i addr value second next ih => exact ⟨first.1, ih first.2⟩

section Bind

variable [RegDevice A B δ]

theorem exec_bind (client : BusClient ι A B α) (f : α → BusClient ι A B β) (d : δ) :
    (client >>= f).exec d = (f (client.exec d).1).exec (client.exec d).2 := by
  induction client generalizing d with
  | done a => rfl
  | read i addr next ih => exact ih _ _
  | write i addr value second next ih => exact ih _

theorem runOn_bind (throwing : ℕ → Bool) (e : ε) (client : BusClient ι A B α)
    (f : α → BusClient ι A B β) :
    ((client >>= f).runOn throwing e : Throwing ε (Metered δ) β) =
      client.runOn throwing e >>= fun a => (f a).runOn throwing e := by
  induction client with
  | done a => rfl
  | read i addr next ih =>
      simp only [runOn, bind_assoc]
      exact congrArg _ (funext ih)
  | write i addr value second next ih =>
      simp only [runOn, bind_assoc]
      exact congrArg _ (funext fun _ => ih)

theorem runOn_forM {κ : Type} (throwing : ℕ → Bool) (e : ε) (is : List κ)
    (f : κ → BusClient ι A B Unit) :
    ((is.forM f).runOn throwing e : Throwing ε (Metered δ) Unit) =
      is.forM fun i => (f i).runOn throwing e := by
  induction is with
  | nil => rfl
  | cons i is ih =>
      rw [List.forM_eq_forM, List.forM_eq_forM] at ih ⊢
      rw [List.forM_cons, List.forM_cons, runOn_bind]
      exact congrArg _ (funext fun _ => ih)

end Bind

/-! ## One access -/

section Attempt

variable {throwing : ℕ → Bool} {access : δ → α × δ} {s : Metered δ}

theorem attempt_ok (e : ε) (quiet : throwing s.accesses = false) :
    (attempt throwing e access).run.run s =
      (.ok (access s.device).1, ⟨(access s.device).2, s.accesses + 1⟩) :=
  if_neg (by rw [quiet]; exact Bool.false_ne_true)

theorem attempt_error (e : ε) (throws : throwing s.accesses = true) :
    (attempt throwing e access).run.run s = (.error e, s) :=
  if_pos throws

end Attempt

/-! ## One device of the bus -/

section Devices

variable [RegDevice A B δ]

theorem runOn_read (throwing : ℕ → Bool) (e : ε) (i : ι) (addr : A) (next : B → BusClient ι A B α)
    (s : Metered δ) :
    ((read i addr next).runOn throwing e).run.run s =
      if throwing s.accesses then (.error e, s)
      else ((next (RegDevice.read s.device addr).1).runOn throwing e).run.run
        ⟨(RegDevice.read s.device addr).2, s.accesses + 1⟩ := by
  rw [runOn]
  split_ifs with throws
  · exact run_bind_error (attempt_error e throws)
  · exact run_bind_ok (attempt_ok e (Bool.eq_false_iff.mpr throws))

theorem runOn_write (throwing : ℕ → Bool) (e : ε) (i : ι) (addr : A) (value : B)
    (second : Option (A × B)) (next : BusClient ι A B α) (s : Metered δ) :
    ((write i addr value second next).runOn throwing e).run.run s =
      if throwing s.accesses then (.error e, s)
      else (next.runOn throwing e).run.run
        ⟨RegDevice.writeBoth s.device addr value second, s.accesses + 1⟩ := by
  rw [runOn]
  split_ifs with throws
  · exact run_bind_error (attempt_error e throws)
  · exact run_bind_ok (attempt_ok e (Bool.eq_false_iff.mpr throws))

/-- With another error for the same accesses. -/
theorem runOn_mapError (throwing : ℕ → Bool) (f : ε → ε') (e : ε) (client : BusClient ι A B α)
    (s : Metered δ) :
    (client.runOn throwing (f e)).run.run s =
      (((client.runOn throwing e).run.run s).1.mapError f,
        ((client.runOn throwing e).run.run s).2) := by
  induction client generalizing s with
  | done a => rfl
  | read i addr next ih =>
      rw [runOn_read, runOn_read]
      split_ifs
      · rfl
      · exact ih _ _
  | write i addr value second next ih =>
      rw [runOn_write, runOn_write]
      split_ifs
      · rfl
      · exact ih _

/-- A device of the first kind, seen as one of two. -/
theorem runOn_inl [RegDevice A B δ'] (throwing : ℕ → Bool) (e : ε) (client : BusClient ι A B α)
    (d : δ) (n : ℕ) :
    (client.runOn throwing e).run.run (⟨.inl d, n⟩ : Metered (δ ⊕ δ')) =
      let r := (client.runOn throwing e).run.run ⟨d, n⟩
      (r.1, ⟨.inl r.2.device, r.2.accesses⟩) := by
  induction client generalizing d n with
  | done a => rfl
  | read i addr next ih =>
      rw [runOn_read, runOn_read]
      split_ifs
      · rfl
      · exact ih _ _ _
  | write i addr value second next ih =>
      rw [runOn_write, runOn_write]
      split_ifs
      · rfl
      · cases second with
        | none => exact ih _ _
        | some other => exact ih _ _

/-- A client that returns has not been stopped. -/
theorem exec_of_runOn {throwing : ℕ → Bool} {e : ε} {client : BusClient ι A B α} {a : α}
    {s s' : Metered δ} (returned : (client.runOn throwing e).run.run s = (.ok a, s')) :
    client.exec s.device = (a, s'.device) := by
  induction client generalizing s with
  | done b =>
      cases returned
      rfl
  | read i addr next ih =>
      rw [runOn_read] at returned
      split_ifs at returned
      · cases returned
      · exact ih _ returned
  | write i addr value second next ih =>
      rw [runOn_write] at returned
      split_ifs at returned
      · cases returned
      · exact ih returned

/-- What reads and the writes of a client keep is kept, however it ends. -/
theorem runOn_keeps (Kept : δ → Prop) {throwing : ℕ → Bool} {e : ε}
    {W : A → B → Option (A × B) → Prop} (reads : ∀ d addr, Kept d → Kept (RegDevice.read d addr).2)
    (writes : ∀ d addr value second, W addr value second → Kept d →
      Kept (RegDevice.writeBoth d addr value second))
    {client : BusClient ι A B α} (only : client.Writes W) {s : Metered δ} (start : Kept s.device) :
    Kept ((client.runOn throwing e).run.run s).2.device := by
  induction client generalizing s with
  | done a => exact start
  | read i addr next ih =>
      rw [runOn_read]
      split_ifs
      · exact start
      · exact ih _ (only _) (reads _ _ start)
  | write i addr value second next ih =>
      rw [runOn_write]
      split_ifs
      · exact start
      · exact ih only.2 (writes _ _ _ _ only.1 start)

/-- A device that takes every access. -/
theorem runOn_quiet {throwing : ℕ → Bool} (quiet : ∀ k, throwing k = false) (e : ε)
    (client : BusClient ι A B α) (s : Metered δ) :
    ∃ n, (client.runOn throwing e).run.run s =
      (.ok (client.exec s.device).1, ⟨(client.exec s.device).2, n⟩) := by
  induction client generalizing s with
  | done a => exact ⟨s.accesses, rfl⟩
  | read i addr next ih =>
      obtain ⟨n, run⟩ := ih (RegDevice.read s.device addr).1
        ⟨(RegDevice.read s.device addr).2, s.accesses + 1⟩
      exact ⟨n, (run_bind_ok (attempt_ok e (quiet _))).trans run⟩
  | write i addr value second next ih =>
      obtain ⟨n, run⟩ := ih ⟨RegDevice.writeBoth s.device addr value second, s.accesses + 1⟩
      exact ⟨n, (run_bind_ok (attempt_ok e (quiet _))).trans run⟩

variable [DecidableEq ι] {throwing : ι → ℕ → Bool} {e : ι → ε}

theorem run_read (i : ι) (addr : A) (next : B → BusClient ι A B α) (s : Metered (ι → δ)) :
    ((read i addr next).run throwing e).run.run s =
      if throwing i s.accesses then (.error (e i), s)
      else ((next (RegDevice.read (s.device i) addr).1).run throwing e).run.run
        ⟨Function.update s.device i (RegDevice.read (s.device i) addr).2, s.accesses + 1⟩ := by
  rw [run]
  split_ifs with throws
  · exact run_bind_error (attempt_error (e i) throws)
  · exact run_bind_ok (attempt_ok (e i) (Bool.eq_false_iff.mpr throws))

theorem run_write (i : ι) (addr : A) (value : B) (second : Option (A × B))
    (next : BusClient ι A B α) (s : Metered (ι → δ)) :
    ((write i addr value second next).run throwing e).run.run s =
      if throwing i s.accesses then (.error (e i), s)
      else (next.run throwing e).run.run
        ⟨Function.update s.device i (RegDevice.writeBoth (s.device i) addr value second),
          s.accesses + 1⟩ := by
  rw [run]
  split_ifs with throws
  · exact run_bind_error (attempt_error (e i) throws)
  · exact run_bind_ok (attempt_ok (e i) (Bool.eq_false_iff.mpr throws))

/-- A client of one device leaves the others alone, and does to the one what it
does to it alone. -/
theorem run_of_addresses {i : ι} {client : BusClient ι A B α} (only : client.Addresses (· = i))
    (devices : ι → δ) (n : ℕ) :
    (client.run throwing e).run.run ⟨devices, n⟩ =
      let r := (client.runOn (throwing i) (e i)).run.run ⟨devices i, n⟩
      (r.1, ⟨Function.update devices i r.2.device, r.2.accesses⟩) := by
  induction client generalizing devices n with
  | done a => simp only [run, runOn, run_pure, Function.update_eq_self]
  | read j addr next ih =>
      obtain ⟨rfl, others⟩ := only
      rw [run_read, runOn_read]
      -- an access that is not made leaves the device in its place
      split_ifs
      · simp
      · rw [ih _ (others _)]
        simp
  | write j addr value second next ih =>
      obtain ⟨rfl, others⟩ := only
      rw [run_write, runOn_write]
      split_ifs
      · simp
      · rw [ih others]
        simp

/-- What a client does not address stays as it is. -/
theorem run_device_of_addresses {P : ι → Prop} {client : BusClient ι A B α}
    (only : client.Addresses P) {i : ι} (other : ¬P i) (s : Metered (ι → δ)) :
    ((client.run throwing e).run.run s).2.device i = s.device i := by
  induction client generalizing s with
  | done a => rfl
  | read j addr next ih =>
      have differ : i ≠ j := fun same => other (same ▸ only.1)
      rw [run_read]
      split_ifs
      · rfl
      · rw [ih _ (only.2 _)]
        exact Function.update_of_ne differ _ _
  | write j addr value second next ih =>
      have differ : i ≠ j := fun same => other (same ▸ only.1)
      rw [run_write]
      split_ifs
      · rfl
      · rw [ih only.2]
        exact Function.update_of_ne differ _ _

end Devices

end BusClient

/-! ## One call after the other -/

/-- The results of all calls, and the last state. -/
def callAll {κ ρ σ : Type} (call : κ → σ → ρ × σ) : List κ → σ → List ρ × σ
  | [], s => ([], s)
  | c :: rest, s =>
      let (result, s) := call c s
      let (results, s) := callAll call rest s
      (result :: results, s)

/-- What holds of the two sides of one call holds of a sequence. -/
theorem callAll_simulates {κ ρ σ τ : Type} {call : κ → σ → ρ × σ} {call' : κ → τ → ρ × τ}
    {Related : σ → τ → Prop}
    (each : ∀ c s t, Related s t →
      (call c s).1 = (call' c t).1 ∧ Related (call c s).2 (call' c t).2)
    (calls : List κ) {s : σ} {t : τ} (start : Related s t) :
    (callAll call calls s).1 = (callAll call' calls t).1 ∧
      Related (callAll call calls s).2 (callAll call' calls t).2 := by
  induction calls generalizing s t with
  | nil => exact ⟨rfl, start⟩
  | cons c rest ih =>
      obtain ⟨result, related⟩ := each c s t start
      obtain ⟨results, last⟩ := ih related
      exact ⟨congrArg₂ List.cons result results, last⟩

/-- What every call keeps is kept. -/
theorem callAll_keeps {κ ρ σ : Type} {call : κ → σ → ρ × σ} (Kept : σ → Prop) {calls : List κ}
    (each : ∀ c ∈ calls, ∀ s, Kept s → Kept (call c s).2) {s : σ} (start : Kept s) :
    Kept (callAll call calls s).2 := by
  induction calls generalizing s with
  | nil => exact start
  | cons c rest ih =>
      exact ih (fun c mem => each c (List.mem_cons_of_mem _ mem))
        (each c List.mem_cons_self s start)

end Librorc.Lib
