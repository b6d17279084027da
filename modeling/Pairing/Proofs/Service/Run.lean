import Pairing.Proofs.Service.Operations

/-!
# Runs of a service

An `Operation` is anything that can happen to a service: one of its six operations, an insertion into the
registry, a `take` or a purge, time that passes, and a source of randomness that gives way to another.  A run
is a list of operations.  Its `history` keeps every step as a `Moment`: an operation and the service that it
met.

All that later results need to know of a step is what it leaves under a handle `h`:

* the session it brought, if the step answered with `h` (`Moment.find?_next_of_issues`);
* nothing, if the step asked the registry for `h` (`Moment.find?_next_of_consumed`);
* otherwise what was there, unless the step sweeps and that has expired (`Moment.find?_next`).

The limits never change (`limits_run`), and the clock never goes back (`now_run`).
-/

namespace Pairing.Service

variable {E : Type} [ExchangeGroup E]

inductive Operation (E : Type) [ExchangeGroup E]
  | start (q : StartRequest)
  | exchange (q : ExchangeRequest)
  | finish (q : FinishRequest)
  | sealText (q : SealRequest)
  | openText (q : OpenRequest)
  | barcodeOf (q : BarcodeRequest)
  | insert (session : Session E)
  | take (h : Handle)
  | purge
  | advance (elapsed : Time)
  | supply (e : Entropy)

/-- The handle that an operation asks the registry for. -/
def Operation.consumed : Operation E → Option Handle
  | .finish q => some q.session
  | .take h => some h
  | _ => none

/-- The time that passes with an operation. -/
def Operation.elapsed : Operation E → Time
  | .advance elapsed => elapsed
  | _ => 0

/-- The time that passes in a run. -/
def elapsed : List (Operation E) → Time
  | [] => 0
  | op :: ops => op.elapsed + elapsed ops

/-- The service that an operation leaves. -/
def after (s : Service E) : Operation E → Service E
  | .start q => (s.start q).2
  | .exchange q => (s.exchange q).2
  | .finish q => (s.finish q).2
  | .sealText q => (s.sealText q).2
  | .openText _ => s
  | .barcodeOf _ => s
  | .insert session => (s.register session).2
  | .take h => (s.take h).2
  | .purge => s.purge.2
  | .advance elapsed => s.advance elapsed
  | .supply e => { s with entropy := s.entropy.continueWith e }

def run (s : Service E) (ops : List (Operation E)) : Service E := ops.foldl after s

/-- One step of a run: an operation and the service that it met. -/
structure Moment (E : Type) [ExchangeGroup E] where
  service : Service E
  operation : Operation E

def history (s : Service E) : List (Operation E) → List (Moment E)
  | [] => []
  | op :: ops => ⟨s, op⟩ :: history (s.after op) ops

namespace Moment

def time (m : Moment E) : Time := m.service.now

def next (m : Moment E) : Service E := m.service.after m.operation

/-- The session that a step brings before the registry: one that is inserted, or that of a start which
had its scalar. -/
def brought (m : Moment E) : Option (Session E) :=
  match m.operation with
  | .start q =>
    (Session.start (Bytes.ofText q.password) (contextOf q.context)
      m.service.entropy).1.toOption.map Prod.snd
  | .insert session => some session
  | _ => none

/-- The handle that a step answers with. -/
def given (m : Moment E) : Option Handle :=
  match m.operation with
  | .start q => (m.service.start q).1.toOption.map StartResponse.session
  | .insert session => (m.service.register session).1.toOption
  | _ => none

/-- The step answered with this handle for this session. -/
def Issues (m : Moment E) (h : Handle) (x : Session E) : Prop :=
  m.given = some h ∧ m.brought = some x

/-- Whether the step drops what has expired.  An insertion that fails does, too. -/
def sweeps (m : Moment E) : Bool :=
  match m.operation with
  | .purge => true
  | _ => m.brought.isSome

end Moment

/-! ### One step -/

theorem toOption_eq_some_iff {ε α : Type} {x : Except ε α} {a : α} :
    x.toOption = some a ↔ x = .ok a := by
  cases x with
  | error err => exact ⟨nofun, nofun⟩
  | ok b =>
    show some b = some a ↔ _
    rw [Option.some.injEq, Except.ok.injEq]

namespace Moment

/-- **What a step does to the registry**: it inserts a session, erases a handle, drops what has expired, or
nothing. -/
inductive Effect (m : Moment E) : Prop
  | inserted (x : Session E) (e : Entropy) (brought : m.brought = some x)
      (consumed : m.operation.consumed = none) (sweeps : m.sweeps = true)
      (given : ∀ k, m.given = some k ↔ (m.service.registry.insert x m.time e).1 = .ok k)
      (registry : m.next.registry = (m.service.registry.insert x m.time e).2.1)
  | erased (k : Handle) (given : m.given = none) (consumed : m.operation.consumed = some k)
      (sweeps : m.sweeps = false) (registry : m.next.registry = m.service.registry.erase k)
  | purged (given : m.given = none) (consumed : m.operation.consumed = none)
      (sweeps : m.sweeps = true) (registry : m.next.registry = m.service.registry.purged m.time)
  | kept (given : m.given = none) (consumed : m.operation.consumed = none)
      (sweeps : m.sweeps = false) (registry : m.next.registry = m.service.registry)

section Started

variable {s : Service E} {q : StartRequest} {message : Bytes} {x : Session E} {e : Entropy}
  (h : Session.start (Bytes.ofText q.password) (contextOf q.context) s.entropy = (.ok (message, x), e))
include h

theorem brought_of_session : brought ⟨s, .start q⟩ = some x := by
  simp only [brought, h]
  rfl

/-- A start that has its session gives what the registry gives for it. -/
theorem given_of_session :
    given ⟨s, .start q⟩ = (s.registry.insert x s.now e).1.toOption := by
  simp only [given, start_of_ok h]
  cases (s.registry.insert x s.now e).1 with
  | error err => rfl
  | ok k => rfl

end Started

theorem effect_start (s : Service E) (q : StartRequest) : Effect ⟨s, .start q⟩ := by
  rcases hstart : (Session.start (Bytes.ofText q.password) (contextOf q.context) s.entropy :
    Except Pairing.Error (Bytes × Session E) × Entropy) with ⟨err | ⟨message, x⟩, e⟩
  · have hbrought : brought (⟨s, .start q⟩ : Moment E) = none := by
      simp only [brought, hstart]
      rfl
    have hanswer := start_of_error hstart
    refine .kept ?_ rfl ?_ ?_
    · simp only [given, hanswer]
      rfl
    · simp only [sweeps, hbrought]
      rfl
    · show (s.start q).2.registry = s.registry
      rw [hanswer]
  · have hbrought := brought_of_session hstart
    refine .inserted x e hbrought rfl ?_ ?_ ?_
    · simp only [sweeps, hbrought]
      rfl
    · intro k
      rw [given_of_session hstart]
      exact toOption_eq_some_iff
    · show (s.start q).2.registry = (s.registry.insert x s.now e).2.1
      rw [start_of_ok hstart]

theorem effect (m : Moment E) : m.Effect := by
  obtain ⟨s, op⟩ := m
  cases op with
  | start q => exact effect_start s q
  | exchange q =>
    obtain ⟨e, he⟩ := s.exchange_snd q
    refine .kept rfl rfl rfl ?_
    show (s.exchange q).2.registry = s.registry
    rw [he]
  | finish q => exact .erased q.session rfl rfl rfl (congrArg Service.registry (s.finish_snd_eq q))
  | sealText q =>
    obtain ⟨e, he⟩ := s.sealText_snd q
    refine .kept rfl rfl rfl ?_
    show (s.sealText q).2.registry = s.registry
    rw [he]
  | openText q => exact .kept rfl rfl rfl rfl
  | barcodeOf q => exact .kept rfl rfl rfl rfl
  | insert x =>
    refine .inserted x s.entropy rfl rfl rfl ?_ rfl
    intro k
    exact toOption_eq_some_iff
  | take h => exact .erased h rfl rfl rfl (congrArg Service.registry (s.take_snd_eq h))
  | purge => exact .purged rfl rfl rfl rfl
  | advance elapsed => exact .kept rfl rfl rfl rfl
  | supply e => exact .kept rfl rfl rfl rfl

theorem limits_next (m : Moment E) : m.next.registry.limits = m.service.registry.limits := by
  cases m.effect with
  | inserted x e _ _ _ _ hr => rw [hr, Registry.limits_insert]
  | erased k _ _ _ hr =>
    rw [hr]
    rfl
  | purged _ _ _ hr =>
    rw [hr]
    rfl
  | kept _ _ _ hr => rw [hr]

theorem now_next (m : Moment E) : m.next.now = m.time + m.operation.elapsed := by
  obtain ⟨s, op⟩ := m
  show (s.after op).now = s.now + op.elapsed
  cases op with
  | start q =>
    show (s.start q).2.now = s.now
    exact now_start s q
  | exchange q =>
    obtain ⟨e, he⟩ := s.exchange_snd q
    show (s.exchange q).2.now = s.now
    rw [he]
  | finish q =>
    show (s.finish q).2.now = s.now
    rw [finish_snd_eq]
  | sealText q =>
    obtain ⟨e, he⟩ := s.sealText_snd q
    show (s.sealText q).2.now = s.now
    rw [he]
  | _ => rfl

theorem time_le_now_next (m : Moment E) : m.time ≤ m.next.now := by
  rw [now_next]
  exact Nat.le_add_right _ _

variable {m : Moment E} {h : Handle} {x : Session E}

/-- Only an insertion gives a handle out. -/
theorem exists_insert_of_given (hg : m.given = some h) :
    ∃ x e, m.brought = some x ∧ (m.service.registry.insert x m.time e).1 = .ok h ∧
      m.next.registry = (m.service.registry.insert x m.time e).2.1 := by
  cases m.effect with
  | inserted x e brought _ _ given registry => exact ⟨x, e, brought, (given h).mp hg, registry⟩
  | erased k given _ _ _ => cases given.symm.trans hg
  | purged given _ _ _ => cases given.symm.trans hg
  | kept given _ _ _ => cases given.symm.trans hg

theorem exists_issues (hg : m.given = some h) : ∃ x, m.Issues h x := by
  obtain ⟨x, -, hx, -, -⟩ := exists_insert_of_given hg
  exact ⟨x, hg, hx⟩

/-- No handle is given out that finds a session which has not expired. -/
theorem find?_purged_of_given (hg : m.given = some h) :
    (m.service.registry.purged m.time).find? h = none := by
  obtain ⟨x, e, -, hinsert, -⟩ := exists_insert_of_given hg
  have hfree := Registry.not_mem_handles_of_insert hinsert
  rw [Registry.mem_handles_iff] at hfree
  cases hy : (m.service.registry.purged m.time).find? h with
  | none => rfl
  | some y => exact absurd ⟨y, hy⟩ hfree

/-- **What a step brought stands under the handle it gave.** -/
theorem find?_next_of_issues (hm : m.Issues h x) :
    m.next.registry.find? h = some ⟨h, x, m.time⟩ := by
  obtain ⟨hg, hx⟩ := hm
  obtain ⟨y, e, hy, hinsert, hregistry⟩ := exists_insert_of_given hg
  cases hy.symm.trans hx
  rw [hregistry]
  exact Registry.find?_insert_of_ok hinsert

theorem find?_next_of_consumed (hm : m.operation.consumed = some h) :
    m.next.registry.find? h = none := by
  cases m.effect with
  | inserted y e _ consumed _ _ _ => cases consumed.symm.trans hm
  | erased k _ consumed _ registry =>
    cases consumed.symm.trans hm
    rw [registry, Registry.find?_erase_self]
  | purged _ consumed _ _ => cases consumed.symm.trans hm
  | kept _ consumed _ _ => cases consumed.symm.trans hm

/-- Under a handle that a step neither gave nor asked for, it can only drop what has expired. -/
theorem find?_next (hg : m.given ≠ some h) (hc : m.operation.consumed ≠ some h) :
    m.next.registry.find? h =
      if m.sweeps then (m.service.registry.purged m.time).find? h
      else m.service.registry.find? h := by
  cases m.effect with
  | inserted y e _ _ sweeps given registry =>
    rw [registry, if_pos sweeps]
    apply Registry.find?_insert_of_ne
    intro hi
    exact hg ((given h).mpr hi)
  | erased k _ consumed sweeps registry =>
    have hkh : h ≠ k := by
      rintro rfl
      exact hc consumed
    rw [registry, if_neg (by rw [sweeps]; exact Bool.false_ne_true), Registry.find?_erase_of_ne _ hkh]
  | purged _ _ sweeps registry => rw [registry, if_pos sweeps]
  | kept _ _ sweeps registry => rw [registry, if_neg (by rw [sweeps]; exact Bool.false_ne_true)]

end Moment

/-! ### Whole runs -/

variable {s : Service E} {ops : List (Operation E)}

/-- A kind of operation that a run lacks is neither its first step nor in the rest of it. -/
theorem of_forall_not_mem_cons {α : Type} {kind : α → Operation E} {op : Operation E}
    (h : ∀ a, kind a ∉ op :: ops) : (∀ a, op ≠ kind a) ∧ ∀ a, kind a ∉ ops := by
  constructor
  · rintro a rfl
    exact h a List.mem_cons_self
  · intro a ha
    exact h a (List.mem_cons_of_mem _ ha)

theorem limits_run (s : Service E) (ops : List (Operation E)) :
    (s.run ops).registry.limits = s.registry.limits := by
  induction ops generalizing s with
  | nil => rfl
  | cons op ops ih => exact (ih _).trans (Moment.limits_next ⟨s, op⟩)

/-- **The clock counts** the time that passes, and nothing else. -/
theorem now_run (s : Service E) (ops : List (Operation E)) :
    (s.run ops).now = s.now + elapsed ops := by
  induction ops generalizing s with
  | nil => rfl
  | cons op ops ih =>
    have hnext : (s.after op).now = s.now + op.elapsed := Moment.now_next ⟨s, op⟩
    calc
      ((s.after op).run ops).now = (s.after op).now + elapsed ops := ih _
      _ = s.now + op.elapsed + elapsed ops := by rw [hnext]
      _ = s.now + elapsed (op :: ops) := Nat.add_assoc _ _ _

theorem now_le_now_run (s : Service E) (ops : List (Operation E)) : s.now ≤ (s.run ops).now := by
  rw [now_run]
  exact Nat.le_add_right _ _

/-- A step of a run cuts the run in two. -/
theorem exists_run_of_history_eq {before later : List (Moment E)} {m : Moment E}
    (h : s.history ops = before ++ m :: later) :
    ∃ ops₁ ops₂, before = s.history ops₁ ∧ m.service = s.run ops₁ ∧
      later = m.next.history ops₂ ∧ s.run ops = m.next.run ops₂ := by
  induction before generalizing s ops with
  | nil =>
    cases ops with
    | nil => cases h
    | cons op ops =>
      cases h
      exact ⟨[], ops, rfl, rfl, rfl, rfl⟩
  | cons m₀ before ih =>
    cases ops with
    | nil => cases h
    | cons op ops =>
      rw [history, List.cons_append, List.cons.injEq] at h
      obtain ⟨hm₀, h⟩ := h
      obtain ⟨ops₁, ops₂, hbefore, hm, hlater, hrun⟩ := ih h
      refine ⟨op :: ops₁, ops₂, ?_, hm, hlater, hrun⟩
      rw [history, hm₀, hbefore]

theorem operation_mem_of_mem_history {m : Moment E} (h : m ∈ s.history ops) : m.operation ∈ ops := by
  induction ops generalizing s with
  | nil => cases h
  | cons op ops ih =>
    rcases List.mem_cons.mp h with rfl | h
    · exact List.mem_cons_self
    · exact List.mem_cons_of_mem _ (ih h)

theorem le_time_of_mem_history {m : Moment E} (h : m ∈ s.history ops) :
    s.now ≤ m.time ∧ m.time ≤ (s.run ops).now := by
  obtain ⟨before, later, hsplit⟩ := List.append_of_mem h
  obtain ⟨ops₁, ops₂, -, hm, -, hrun⟩ := exists_run_of_history_eq hsplit
  constructor
  · rw [Moment.time, hm]
    exact now_le_now_run s ops₁
  · rw [hrun]
    exact Nat.le_trans m.time_le_now_next (now_le_now_run _ ops₂)

theorem limits_of_mem_history {m : Moment E} (h : m ∈ s.history ops) :
    m.service.registry.limits = s.registry.limits := by
  obtain ⟨before, later, hsplit⟩ := List.append_of_mem h
  obtain ⟨ops₁, ops₂, -, hm, -, -⟩ := exists_run_of_history_eq hsplit
  rw [hm, limits_run]

end Pairing.Service
