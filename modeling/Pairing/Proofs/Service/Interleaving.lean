import Pairing.Proofs.Channel
import Pairing.Proofs.Handshake.Agreement
import Pairing.Proofs.Service.Lifetime

/-!
# Pairing among other things

A `World` is a family of services, and an `Event` is an operation at one of them; a list of events runs their
operations in any order.  The services share nothing, so that each place has a run of its own
(`World.run_apply`), and what a service does between a start and its `finish` is such a run.

Two parties with one password and one context come to one key in every such world: the service that started
keeps its session (`finish_of_young`), the answer to its message is one on which that session finishes
(`Session.finish_of_exchange`), and all texts survive the transport.  What one of them then seals, the
other opens: `pairing_completes`.
-/

namespace Pairing

open ExchangeGroup

/-- An operation and the place of the service that it is done at. -/
structure Service.Event (ι E : Type) [ExchangeGroup E] where
  place : ι
  operation : Service.Operation E

abbrev World (ι E : Type) [ExchangeGroup E] := ι → Service E

open Service

variable {ι E : Type} [ExchangeGroup E]

namespace World

variable [DecidableEq ι]

/-- The world after an event; all services but one stay as they are. -/
def after (w : World ι E) (v : Event ι E) : World ι E :=
  fun i => if i = v.place then (w i).after v.operation else w i

def run (w : World ι E) (events : List (Event ι E)) : World ι E := events.foldl after w

/-- The operations at one place, in their order. -/
def operationsAt (i : ι) : List (Event ι E) → List (Operation E)
  | [] => []
  | v :: events =>
    if i = v.place then v.operation :: operationsAt i events else operationsAt i events

theorem run_append (w : World ι E) (events events' : List (Event ι E)) :
    w.run (events ++ events') = (w.run events).run events' := List.foldl_append

theorem exists_of_mem_operationsAt {i : ι} {events : List (Event ι E)} {op : Operation E}
    (h : op ∈ operationsAt i events) : ∃ v ∈ events, v.place = i ∧ v.operation = op := by
  induction events with
  | nil => cases h
  | cons v events ih =>
    rw [operationsAt] at h
    by_cases hi : i = v.place
    · rw [if_pos hi] at h
      rcases List.mem_cons.mp h with rfl | h
      · exact ⟨v, List.mem_cons_self, hi.symm, rfl⟩
      · obtain ⟨v', hv', hv⟩ := ih h
        exact ⟨v', List.mem_cons_of_mem _ hv', hv⟩
    · rw [if_neg hi] at h
      obtain ⟨v', hv', hv⟩ := ih h
      exact ⟨v', List.mem_cons_of_mem _ hv', hv⟩

/-- **Each place has a run of its own.** -/
theorem run_apply (w : World ι E) (events : List (Event ι E)) (i : ι) :
    w.run events i = (w i).run (operationsAt i events) := by
  induction events generalizing w with
  | nil => rfl
  | cons v events ih =>
    show (w.after v).run events i = _
    rw [ih]
    by_cases hi : i = v.place
    · rw [operationsAt, after, if_pos hi, if_pos hi]
      rfl
    · rw [operationsAt, after, if_neg hi, if_neg hi]

/-- In a run of this world, a service was asked for an exchange and gave this answer. -/
def Answers (w : World ι E) (events : List (Event ι E)) (j : ι) (p : ExchangeRequest)
    (b : ExchangeResponse) : Prop :=
  ∃ before later, events = before ++ ⟨j, .exchange p⟩ :: later ∧
    ((w.run before j).exchange p).1 = .ok b

end World

namespace Service

/-- With enough randomness left, the service seals any text under the key `k`, and whoever holds the key
`k'` opens it to that text. -/
def SealsFor (s : Service E) (k k' : Key) : Prop :=
  s.entropy.used + 24 ≤ s.entropy.supply →
    ∀ text, ∃ c, (s.sealText ⟨k.bytes.1, text⟩).1 = .ok c ∧
      openText ⟨k'.bytes.1, c.sealedText⟩ = .ok ⟨text⟩

theorem sealsFor_self (s : Service E) (k : Key) : s.SealsFor k k := by
  intro hs text
  exact ⟨_, sealText_of_supply s k text hs, openText_sealedWith k _ text⟩

/-- An answered start has put a session behind its handle, and its text is that session's message. -/
theorem issues_of_start {s : Service E} {q : StartRequest} {a : StartResponse}
    (h : (s.start q).1 = .ok a) :
    ∃ y : Scalar E,
      let x := Session.opened .initiator (Bytes.ofText q.password) (contextOf q.context) y
      (⟨s, .start q⟩ : Moment E).Issues a.session x ∧ a.messageA = Transport.encode x.ownMessage := by
  rcases hstart : (Session.start (Bytes.ofText q.password) (contextOf q.context) s.entropy :
    Except Pairing.Error (Bytes × Session E) × Entropy) with ⟨err | ⟨message, x⟩, e⟩
  · rw [start_of_error hstart] at h
    cases h
  · obtain ⟨y, -, rfl, rfl⟩ := Session.start_eq_ok_iff.mp (congrArg Prod.fst hstart)
    refine ⟨y, ⟨?_, ?_⟩, ?_⟩
    · simp only [Moment.given, h]
      rfl
    · exact Moment.brought_of_session hstart
    · exact messageA_of_session hstart h

end Service

variable [DecidableEq ι] [LawfulExchangeGroup E]

/-- **Pairing under any interleaving.**  In a run of a world the service at `i` answers a start, and one at
`j`, which may be the same, an exchange on its message with the same password and context.  If the `finish`
on that answer comes before the session's time is up, and before any other call for its handle, it succeeds
with the key of the exchange, whatever else has been done at any place.  From then on each of the two
services seals for the other's key. -/
theorem pairing_completes {w : World ι E} {before later : List (Event ι E)} {i j : ι}
    {q : StartRequest} {a : StartResponse} {p : ExchangeRequest} {b : ExchangeResponse}
    (hstart : ((w.run before i).start q).1 = .ok a)
    (hpassword : p.password = q.password) (hcontext : contextOf p.context = contextOf q.context)
    (hmessage : p.messageA = a.messageA)
    (hexchange : w.Answers (before ++ ⟨i, .start q⟩ :: later) j p b)
    (hkept : ∀ v ∈ later, v.place = i → v.operation.consumed ≠ some a.session)
    (hyoung : (w.run (before ++ ⟨i, .start q⟩ :: later) i).now - (w.run before i).now <
      (w i).registry.limits.timeToLive) :
    let v := w.run (before ++ ⟨i, .start q⟩ :: later)
    ∃ f, ((v i).finish ⟨a.session, b.messageB⟩).1 = .ok f ∧ f.key = b.key ∧
      ∀ rest,
        let u := v.run (⟨i, .finish ⟨a.session, b.messageB⟩⟩ :: rest)
        (u i).SealsFor f.key b.key ∧ (u j).SealsFor b.key f.key := by
  intro v
  obtain ⟨y, hissues, htext⟩ := issues_of_start hstart
  obtain ⟨earlier, -, -, hanswer⟩ := hexchange
  obtain ⟨reply, k, hk, rfl⟩ := (exchange_eq_ok_iff (hmessage.trans htext)).mp hanswer
  rw [hpassword, hcontext] at hk
  obtain ⟨hfinish, -⟩ := Session.finish_of_exchange hk
  -- at `i` the start is followed by a run of its own, in which nobody asks for the handle
  let m : Moment E := ⟨w.run before i, .start q⟩
  have hrun : v i = m.next.run (World.operationsAt i later) := by
    show w.run (before ++ ⟨i, .start q⟩ :: later) i = _
    rw [World.run_append, World.run_apply, World.operationsAt, if_pos rfl]
    rfl
  have hc : ∀ m' ∈ m.next.history (World.operationsAt i later),
      m'.operation.consumed ≠ some a.session := by
    intro m' hm'
    obtain ⟨v', hv', hplace, hop⟩ :=
      World.exists_of_mem_operationsAt (operation_mem_of_mem_history hm')
    rw [← hop]
    exact hkept v' hv' hplace
  have hlimits : (w i).registry.limits = m.service.registry.limits := by
    show _ = (w.run before i).registry.limits
    rw [World.run_apply, limits_run]
  have hanswered : ((v i).finish ⟨a.session, Transport.encode reply⟩).1 = .ok ⟨k.deriveKey⟩ := by
    rw [hlimits] at hyoung
    rw [hrun, finish_of_young hissues hc (hrun ▸ hyoung)]
    exact finishSession_of_ok (congrArg Prod.fst hfinish)
  refine ⟨⟨k.deriveKey⟩, hanswered, rfl, ?_⟩
  intro rest u
  exact ⟨sealsFor_self _ _, sealsFor_self _ _⟩

/-- A start at one place and the exchange at the other, then a purge and some time at the first. -/
theorem residue_services_pair :
    let w : World Bool Residue := fun i =>
      new Residue {} (.ofBytes (if i then [9] else 5 :: List.replicate 16 1))
    ∃ a b f,
      ((w.run [] false).start ⟨"p", none⟩).1 = .ok a ∧
      ((w.run [⟨false, .start ⟨"p", none⟩⟩] true).exchange ⟨"p", none, a.messageA⟩).1 = .ok b ∧
      ((w.run [⟨false, .start ⟨"p", none⟩⟩, ⟨true, .exchange ⟨"p", none, a.messageA⟩⟩,
        ⟨false, .purge⟩, ⟨false, .advance 9⟩] false).finish ⟨a.session, b.messageB⟩).1 = .ok f ∧
      f.key = b.key := by
  have hy : Residue.sampleScalar (Entropy.ofBytes (5 :: List.replicate 16 1)) =
      (.ok 5, { Entropy.ofBytes (5 :: List.replicate 16 1) with used := 1 }) := rfl
  have hx : Residue.sampleScalar (Entropy.ofBytes [9]) =
      (.ok 9, { Entropy.ofBytes [9] with used := 1 }) := rfl
  have hshared : Residue.smul 9 (Residue.smul 5 (generatorOf (Bytes.ofText "p") .empty)) ≠
      identity := by
    decide
  have hk := Session.exchange_of_shared hx (Session.shared_of_ne hshared)
  intro w
  obtain ⟨a, ha, hmessage⟩ : ∃ a, ((w.run [] false).start ⟨"p", none⟩).1 = .ok a ∧
      a.messageA = Transport.encode (Session.opened (E := Residue) .initiator (Bytes.ofText "p")
        .empty (5 : Fin 251)).ownMessage :=
    ⟨_, start_of_room (s := w false) hy (by decide) (by decide) List.not_mem_nil, rfl⟩
  obtain ⟨b, hb⟩ : ∃ b, ((w.run [⟨false, .start ⟨"p", none⟩⟩] true).exchange
      ⟨"p", none, a.messageA⟩).1 = .ok b :=
    ⟨_, (exchange_eq_ok_iff (s := w true) hmessage).mpr ⟨_, _, congrArg Prod.fst hk, rfl⟩⟩
  let later : List (Event Bool Residue) := [⟨true, .exchange ⟨"p", none, a.messageA⟩⟩,
    ⟨false, .purge⟩, ⟨false, .advance 9⟩]
  have hkept : ∀ v ∈ later, v.place = false → v.operation.consumed ≠ some a.session := by
    intro v hv _
    have hnone : v.operation.consumed = none := by
      simp only [later, List.mem_cons, List.not_mem_nil, or_false] at hv
      rcases hv with rfl | rfl | rfl
      · rfl
      · rfl
      · rfl
    rw [hnone]
    exact nofun
  have hyoung : (w.run ([] ++ ⟨false, .start ⟨"p", none⟩⟩ :: later) false).now -
      (w.run [] false).now < (w false).registry.limits.timeToLive := by
    rw [World.run_apply, now_run]
    show 9 - 0 < Time.ofSeconds 300
    decide
  obtain ⟨f, hf, hkey, -⟩ := pairing_completes ha rfl rfl rfl
    ⟨[⟨false, .start ⟨"p", none⟩⟩], later.tail, rfl, hb⟩ hkept hyoung
  exact ⟨a, b, f, ha, hb, hf, hkey⟩

end Pairing
