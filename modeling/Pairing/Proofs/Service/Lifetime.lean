import Pairing.Proofs.Service.Run

/-!
# The life of a handle

What a registry finds under a handle follows from the steps since the handle was last given out: nothing,
if it was never given out (`find?_run_of_none`) or was asked for since (`find?_run_of_consumed`); nothing, if
some later step swept when the session had expired (`find?_run_of_swept`); and otherwise the session of that
step, however much else has happened (`find?_run_of_kept`).

So the answer of `finish` can be read off the history of a run, and a session that is still alive answers as
it would on its own: `finish_after_run`.
-/

namespace Pairing.Service

variable {E : Type} [ExchangeGroup E]

/-- What a step does not give out it keeps or drops. -/
theorem Moment.find?_next_eq_none_or {m : Moment E} {h : Handle} (hg : m.given ≠ some h) :
    m.next.registry.find? h = none ∨ m.next.registry.find? h = m.service.registry.find? h := by
  by_cases hc : m.operation.consumed = some h
  · exact Or.inl (Moment.find?_next_of_consumed hc)
  · rw [Moment.find?_next hg hc]
    cases m.sweeps with
    | false => exact Or.inr rfl
    | true =>
      rw [if_pos rfl]
      cases hx : m.service.registry.find? h with
      | none => exact Or.inl (Registry.find?_purged_of_none hx)
      | some x =>
        cases hexpired : x.isExpired m.service.registry.limits m.time with
        | false => exact Or.inr (Registry.find?_purged_of_live hx hexpired)
        | true => exact Or.inl (Registry.find?_purged_of_expired hx hexpired)

variable {s : Service E} {ops : List (Operation E)} {h : Handle} {x : Registry.Entry (Session E)}

theorem Moment.find?_next_of_kept {m : Moment E} (hx : m.service.registry.find? h = some x)
    (hg : m.given ≠ some h) (hc : m.operation.consumed ≠ some h)
    (hlive : m.sweeps = true → x.isExpired m.service.registry.limits m.time = false) :
    m.next.registry.find? h = some x := by
  rw [Moment.find?_next hg hc]
  cases hsweeps : m.sweeps with
  | false =>
    rw [if_neg Bool.false_ne_true]
    exact hx
  | true =>
    rw [if_pos rfl]
    exact Registry.find?_purged_of_live hx (hlive hsweeps)

/-! ### What a run leaves under a handle -/

theorem find?_run_of_none (hs : s.registry.find? h = none)
    (hg : ∀ m ∈ s.history ops, m.given ≠ some h) : (s.run ops).registry.find? h = none := by
  induction ops generalizing s with
  | nil => exact hs
  | cons op ops ih =>
    rw [history, List.forall_mem_cons] at hg
    apply ih _ hg.2
    rcases Moment.find?_next_eq_none_or hg.1 with hnone | hsame
    · exact hnone
    · exact hsame.trans hs

theorem find?_run_of_consumed (hg : ∀ m ∈ s.history ops, m.given ≠ some h)
    (hc : ∃ m ∈ s.history ops, m.operation.consumed = some h) :
    (s.run ops).registry.find? h = none := by
  obtain ⟨m, hm, hc⟩ := hc
  obtain ⟨before, later, hsplit⟩ := List.append_of_mem hm
  obtain ⟨ops₁, ops₂, -, -, hlater, hrun⟩ := exists_run_of_history_eq hsplit
  rw [hrun]
  apply find?_run_of_none (Moment.find?_next_of_consumed hc)
  intro m' hm'
  rw [← hlater] at hm'
  apply hg
  rw [hsplit]
  exact List.mem_append_right _ (List.mem_cons_of_mem _ hm')

/-- **A session stays** while nobody asks for it and nothing sweeps after its time. -/
theorem find?_run_of_kept (hx : s.registry.find? h = some x)
    (hg : ∀ m ∈ s.history ops, m.given ≠ some h)
    (hc : ∀ m ∈ s.history ops, m.operation.consumed ≠ some h)
    (hlive : ∀ m ∈ s.history ops, m.sweeps = true →
      x.isExpired m.service.registry.limits m.time = false) :
    (s.run ops).registry.find? h = some x := by
  induction ops generalizing s with
  | nil => exact hx
  | cons op ops ih =>
    rw [history, List.forall_mem_cons] at hg hc hlive
    exact ih (Moment.find?_next_of_kept hx hg.1 hc.1 hlive.1) hg.2 hc.2 hlive.2

theorem find?_run_of_swept (hx : s.registry.find? h = some x)
    (hg : ∀ m ∈ s.history ops, m.given ≠ some h)
    (hdead : ∃ m ∈ s.history ops, m.sweeps = true ∧
      x.isExpired m.service.registry.limits m.time = true) :
    (s.run ops).registry.find? h = none := by
  induction ops generalizing s with
  | nil =>
    obtain ⟨m, hm, -⟩ := hdead
    cases hm
  | cons op ops ih =>
    rw [history, List.forall_mem_cons] at hg
    obtain ⟨m, hm, hsweeps, hexpired⟩ := hdead
    rcases List.mem_cons.mp hm with rfl | hm
    · -- the step that sweeps is the first
      apply find?_run_of_none _ hg.2
      by_cases hc : op.consumed = some h
      · exact Moment.find?_next_of_consumed (m := ⟨s, op⟩) hc
      · have hnext := Moment.find?_next hg.1 hc
        rw [if_pos hsweeps] at hnext
        exact hnext.trans (Registry.find?_purged_of_expired hx hexpired)
    · rcases Moment.find?_next_eq_none_or hg.1 with hnone | hsame
      · exact find?_run_of_none (s := s.after op) hnone hg.2
      · exact ih (hsame.trans hx) hg.2 ⟨m, hm, hsweeps, hexpired⟩

/-- **A handle is not given out again** while its session stands and is alive. -/
theorem given_ne_of_live (hx : s.registry.find? h = some x)
    (hc : ∀ m ∈ s.history ops, m.operation.consumed ≠ some h)
    (hlive : ∀ m ∈ s.history ops, x.isExpired m.service.registry.limits m.time = false) :
    ∀ m ∈ s.history ops, m.given ≠ some h := by
  induction ops generalizing s with
  | nil => exact List.forall_mem_nil _
  | cons op ops ih =>
    rw [history, List.forall_mem_cons] at hc hlive ⊢
    have hg : (⟨s, op⟩ : Moment E).given ≠ some h := by
      intro hg
      have hnone := Moment.find?_purged_of_given hg
      rw [Registry.find?_purged_of_live hx hlive.1] at hnone
      cases hnone
    have hnext := Moment.find?_next_of_kept (m := ⟨s, op⟩) hx hg hc.1 fun _ => hlive.1
    exact ⟨hg, ih hnext hc.2 hlive.2⟩

/-! ### The last time a handle was given out -/

/-- In a history, `m` is the last step that gave out the handle `h`, for the session `y`, and `later` is
what came after it. -/
structure LastIssue (past : List (Moment E)) (h : Handle) (m : Moment E) (y : Session E)
    (later : List (Moment E)) : Prop where
  split : ∃ before, past = before ++ m :: later
  issues : m.Issues h y
  given_ne : ∀ m' ∈ later, m'.given ≠ some h

theorem given_ne_or_lastIssue (past : List (Moment E)) (h : Handle) :
    (∀ m ∈ past, m.given ≠ some h) ∨ ∃ m y later, LastIssue past h m y later := by
  induction past with
  | nil => exact Or.inl (List.forall_mem_nil _)
  | cons m past ih =>
    rcases ih with hnone | ⟨m', y, later, ⟨before, hsplit⟩, hissues, hlast⟩
    · by_cases hg : m.given = some h
      · obtain ⟨y, hy⟩ := Moment.exists_issues hg
        exact Or.inr ⟨m, y, past, ⟨[], rfl⟩, hy, hnone⟩
      · exact Or.inl (List.forall_mem_cons.mpr ⟨hg, hnone⟩)
    · refine Or.inr ⟨m', y, later, ⟨m :: before, ?_⟩, hissues, hlast⟩
      rw [hsplit, List.cons_append]

/-! ### What `finish` answers -/

section Issued

variable {m : Moment E} {y : Session E} {q : FinishRequest}

theorem limits_of_mem_later {m' : Moment E} (h : m' ∈ m.next.history ops) :
    m'.service.registry.limits = m.service.registry.limits := by
  rw [limits_of_mem_history h, Moment.limits_next]

theorem time_of_mem_later {m' : Moment E} (h : m' ∈ m.next.history ops) :
    m.time ≤ m'.time ∧ m'.time ≤ (m.next.run ops).now := by
  obtain ⟨hlow, hhigh⟩ := le_time_of_mem_history h
  exact ⟨Nat.le_trans m.time_le_now_next hlow, hhigh⟩

theorem finish_of_consumed (hg : ∀ m' ∈ m.next.history ops, m'.given ≠ some q.session)
    (hc : ∃ m' ∈ m.next.history ops, m'.operation.consumed = some q.session) :
    (m.next.run ops).finish q = (.error (.unknownSession q.session), m.next.run ops) :=
  finish_of_none (find?_run_of_consumed hg hc)

theorem isExpired_of_young (h : Handle) (y : Session E)
    (hyoung : (m.next.run ops).now - m.time < m.service.registry.limits.timeToLive) :
    ∀ m' ∈ m.next.history ops,
      Registry.Entry.isExpired m'.service.registry.limits m'.time ⟨h, y, m.time⟩ = false := by
  intro m' hm'
  obtain ⟨-, hle⟩ := time_of_mem_later hm'
  rw [limits_of_mem_later hm', Registry.Entry.isExpired_eq_false_iff]
  exact Nat.lt_of_le_of_lt (Nat.sub_le_sub_right hle _) hyoung

variable (hm : m.Issues q.session y)
include hm

/-- **A session that is young answers**, whatever else has happened since it was given its handle. -/
theorem finish_of_young (hc : ∀ m' ∈ m.next.history ops, m'.operation.consumed ≠ some q.session)
    (hyoung : (m.next.run ops).now - m.time < m.service.registry.limits.timeToLive) :
    ((m.next.run ops).finish q).1 = finishSession y q.messageB := by
  have hlive := isExpired_of_young q.session y hyoung
  have hentry := Moment.find?_next_of_issues hm
  have hstands := find?_run_of_kept hentry (given_ne_of_live hentry hc hlive) hc
    fun m' hm' _ => hlive m' hm'
  apply finish_of_live hstands
  rw [limits_run, Moment.limits_next, Registry.Entry.isExpired_eq_false_iff]
  exact hyoung

theorem finish_of_swept (hg : ∀ m' ∈ m.next.history ops, m'.given ≠ some q.session)
    (hdead : ∃ m' ∈ m.next.history ops, m'.sweeps = true ∧
      m.time + m.service.registry.limits.timeToLive ≤ m'.time) :
    (m.next.run ops).finish q = (.error (.unknownSession q.session), m.next.run ops) := by
  obtain ⟨m', hm', hsweeps, hold⟩ := hdead
  apply finish_of_none
  apply find?_run_of_swept (Moment.find?_next_of_issues hm) hg
  refine ⟨m', hm', hsweeps, ?_⟩
  rw [limits_of_mem_later hm', Registry.Entry.isExpired_eq_true_iff]
  exact Nat.le_sub_of_add_le' hold

theorem finish_of_unswept (hg : ∀ m' ∈ m.next.history ops, m'.given ≠ some q.session)
    (hc : ∀ m' ∈ m.next.history ops, m'.operation.consumed ≠ some q.session)
    (hold : m.service.registry.limits.timeToLive ≤ (m.next.run ops).now - m.time)
    (hlive : ∀ m' ∈ m.next.history ops, m'.sweeps = true →
      m'.time < m.time + m.service.registry.limits.timeToLive) :
    ((m.next.run ops).finish q).1 = .error (.sessionExpired q.session) := by
  have hentry : (m.next.run ops).registry.find? q.session = some ⟨q.session, y, m.time⟩ := by
    apply find?_run_of_kept (Moment.find?_next_of_issues hm) hg hc
    intro m' hm' hsweeps
    obtain ⟨hle, -⟩ := time_of_mem_later hm'
    have hlt := hlive m' hm' hsweeps
    rw [limits_of_mem_later hm', Registry.Entry.isExpired_eq_false_iff]
    exact Nat.sub_lt_left_of_lt_add hle hlt
  apply finish_of_expired hentry
  rw [limits_run, Moment.limits_next, Registry.Entry.isExpired_eq_true_iff]
  exact hold

end Issued

/-- **Every `finish` answers as its own session alone would, exactly once.**  In every case the handle
leaves the registry.  If it was never given out, or was asked for since, it is unknown.  Otherwise the
session that it was last given out for answers while it is younger than the time limit.  After that it is
unknown if some step has swept since its time was up, and expired if none has. -/
theorem finish_after_run (config : Config) (e : Entropy) (ops : List (Operation E))
    (q : FinishRequest) :
    let s := (new E config e).run ops
    let past := (new E config e).history ops
    let unknown := (Except.error (.unknownSession q.session), s)
    (s.finish q).2 = { s with registry := s.registry.erase q.session } ∧
    ((∀ m ∈ past, m.given ≠ some q.session) ∧ s.finish q = unknown ∨
      ∃ m y later, LastIssue past q.session m y later) ∧
    ∀ m y later, LastIssue past q.session m y later →
      ((∃ m' ∈ later, m'.operation.consumed = some q.session) → s.finish q = unknown) ∧
      ((∀ m' ∈ later, m'.operation.consumed ≠ some q.session) →
        (s.now - m.time < config.limits.timeToLive →
          (s.finish q).1 =
            ((Transport.decode q.messageB).bind fun message =>
              (y.finish message).1.map fun k => ⟨k.deriveKey⟩).mapError .pairing) ∧
        (config.limits.timeToLive ≤ s.now - m.time →
          ((∃ m' ∈ later, m'.sweeps = true ∧ m.time + config.limits.timeToLive ≤ m'.time) →
            s.finish q = unknown) ∧
          ((∀ m' ∈ later, m'.sweeps = true → m'.time < m.time + config.limits.timeToLive) →
            (s.finish q).1 = .error (.sessionExpired q.session)))) := by
  intro s past unknown
  refine ⟨finish_snd_eq s q, ?_, ?_⟩
  · rcases given_ne_or_lastIssue past q.session with hnone | hlast
    · exact Or.inl ⟨hnone, finish_of_none (find?_run_of_none rfl hnone)⟩
    · exact Or.inr hlast
  · rintro m y later ⟨⟨before, hsplit⟩, hm, hg⟩
    obtain ⟨ops₁, ops₂, -, hservice, rfl, hrun⟩ := exists_run_of_history_eq hsplit
    have hlimits : m.service.registry.limits = config.limits := by
      rw [hservice, limits_run]
      rfl
    have hs : s = m.next.run ops₂ := hrun
    simp only [unknown, hs, ← hlimits]
    refine ⟨finish_of_consumed hg, ?_⟩
    intro hc
    refine ⟨?_, ?_⟩
    · intro hyoung
      rw [← finishSession_eq]
      exact finish_of_young hm hc hyoung
    · intro hold
      exact ⟨finish_of_swept hm hg, finish_of_unswept hm hg hc hold⟩

end Pairing.Service
