import Pairing.Proofs.Handshake.Context
import Pairing.Service.Basic
import Pairing.Terminal.Arguments

/-!
# What a command line binds

A context without names is bare text, with nothing that tells it from a context that names both parties.  For
texts that can stand on a command line (`IsArgument`) the two are told apart all the same: the length of a name
starts with a zero byte, which no argument has (`contextOf_ne`).  Two contexts of one form give their parts back
(`contextOf_eq_iff_of_names`, `contextOf_eq_iff_of_nameless`).  So two command lines bind their handshakes to
the same context exactly if they say the same about names and context: `contexts_agree_iff`.

That a command line names both parties or neither, and binds only what can stand on it, is a fact about how it
is read (`isGiven_of_parse`).  The induction is on the arguments; an option's value is an argument or the end
of one, and the end of an argument could stand as one (`IsArgument.of_suffix`).
-/

namespace Pairing.Terminal

/-- What an operating system passes on as one argument has no null character and fewer than `2 ^ 24` bytes. -/
def IsArgument (t : String) : Prop :=
  '\x00' ∉ t.toList ∧ (Bytes.ofText t).length < Nat.pow 2 24

instance (t : String) : Decidable (IsArgument t) :=
  inferInstanceAs (Decidable ('\x00' ∉ t.toList ∧ (Bytes.ofText t).length < Nat.pow 2 24))

namespace IsArgument

theorem fitsPrefix {t : String} (h : IsArgument t) : Context.FitsPrefix t :=
  Nat.lt_of_lt_of_le h.2 (by decide)

theorem getD_empty {t? : Option String} (h : ∀ t ∈ t?, IsArgument t) : IsArgument (t?.getD "") := by
  cases t? with
  | none => decide
  | some t => exact h t rfl

theorem of_suffix {t : String} {l : List Char} (h : IsArgument t) (hl : l <:+ t.toList) :
    IsArgument (String.ofList l) := by
  obtain ⟨front, hfront⟩ := hl
  obtain ⟨hnull, hlength⟩ := h
  rw [← hfront] at hnull
  rw [← String.ofList_toList (s := t), ← hfront, Bytes.ofText_ofList, List.flatMap_append,
    List.length_append] at hlength
  constructor
  · rw [String.toList_ofList]
    exact fun hmem => hnull (List.mem_append_right front hmem)
  · rw [Bytes.ofText_ofList]
    omega

end IsArgument

namespace Settings

def Names (s : Settings) (initiator responder : String) : Prop :=
  s.initiator = some initiator ∧ s.responder = some responder

def Nameless (s : Settings) : Prop := s.initiator = none ∧ s.responder = none

/-- Settings as a command line gives them. -/
structure IsGiven (s : Settings) : Prop where
  names : (∃ i r, s.Names i r) ∨ s.Nameless
  context : ∀ t ∈ s.context, IsArgument t
  initiator : ∀ t ∈ s.initiator, IsArgument t
  responder : ∀ t ∈ s.responder, IsArgument t

theorem names_or_nameless {s : Settings} (h : s.initiator.isSome = s.responder.isSome) :
    (∃ i r, s.Names i r) ∨ s.Nameless := by
  cases hi : s.initiator with
  | none =>
    rw [hi] at h
    exact Or.inr ⟨hi, Option.isNone_iff_eq_none.mp (Option.isSome_eq_false_iff.mp h.symm)⟩
  | some i =>
    rw [hi] at h
    obtain ⟨r, hr⟩ := Option.isSome_iff_exists.mp h.symm
    exact Or.inl ⟨i, r, hi, hr⟩

end Settings

/-! ### Reading a command line -/

namespace Given

/-- All values that one side of the command holds can stand on a command line. -/
def IsWritten (g : Given) : Prop := ∀ p ∈ g.values, IsArgument p.2

theorem IsWritten.value? {g : Given} (h : g.IsWritten) {option t : String}
    (ht : g.value? option = some t) : IsArgument t := by
  obtain ⟨before, behind, hvalues, -⟩ := List.lookup_eq_some_iff.mp ht
  apply h (option, t)
  rw [hvalues]
  exact List.mem_append_right before List.mem_cons_self

theorem IsWritten.add? {g g' : Given} {o : Opt} {v : String} (h : g.IsWritten)
    (hv : IsArgument v) (hadd : g.add? o v = some g') : g'.IsWritten := by
  rw [Given.add?] at hadd
  split at hadd
  · cases hadd
    intro p hp
    rcases List.mem_append.mp hp with hold | hnew
    · exact h p hold
    · rw [List.mem_singleton.mp hnew]
      exact hv
  · cases hadd

end Given

namespace Grammar

variable {g : Grammar}

theorem exists_suffix_of_longPiece {text : List Char} {o : Opt} {v : String}
    (h : g.longPiece text = .option o (some v)) : ∃ l, l <:+ text ∧ v = String.ofList l := by
  simp only [longPiece] at h
  split at h
  · obtain ⟨-, hvalue⟩ := Piece.option.inj h
    split at hvalue
    · cases hvalue
    · next c l hrest =>
      have hl : l <:+ text := (List.suffix_cons c l).trans (hrest ▸ List.dropWhile_suffix _)
      exact ⟨l, hl, (Option.some.inj hvalue).symm⟩
  · repeat' split at h
    all_goals cases h

theorem exists_suffix_of_shortPiece {c : Char} {text : List Char} {o : Opt} {v : String}
    (h : g.shortPiece c text = .option o (some v)) : ∃ l, l <:+ text ∧ v = String.ofList l := by
  simp only [shortPiece] at h
  split at h
  · obtain ⟨-, hvalue⟩ := Piece.option.inj h
    split at hvalue
    · cases hvalue
    · next l => exact ⟨l, List.suffix_cons '=' l, (Option.some.inj hvalue).symm⟩
    · exact ⟨_, List.suffix_refl _, (Option.some.inj hvalue).symm⟩
  · repeat' split at h
    all_goals cases h

theorem isArgument_of_piece {a v : String} {o : Opt} (ha : IsArgument a)
    (h : g.piece a = .option o (some v)) : IsArgument v := by
  rw [piece] at h
  split at h
  · next text hdashed =>
    obtain ⟨l, hl, rfl⟩ := exists_suffix_of_longPiece h
    apply ha.of_suffix
    rw [hdashed]
    exact (hl.trans (List.suffix_cons _ _)).trans (List.suffix_cons _ _)
  · next c text _ hdashed =>
    obtain ⟨l, hl, rfl⟩ := exists_suffix_of_shortPiece h
    apply ha.of_suffix
    rw [hdashed]
    exact (hl.trans (List.suffix_cons _ _)).trans (List.suffix_cons _ _)
  · cases h

/-- Reading one side makes up no values, and what it leaves behind the command are arguments. -/
theorem read_isWritten {l l' : Given} {args : List String} {rest : Option (String × List String)}
    (hl : l.IsWritten) (hargs : ∀ a ∈ args, IsArgument a) (h : g.read l args = .ok (l', rest)) :
    l'.IsWritten ∧ ∀ p ∈ rest, ∀ a ∈ p.2, IsArgument a := by
  fun_induction Grammar.read g l args with
  | case1 l =>
    cases h
    exact ⟨hl, fun p hp => nomatch hp⟩
  | case2 l r hroom =>
    cases h
    exact ⟨hl, fun p hp => nomatch hp⟩
  | case5 l a r hdash hword hcommand =>
    cases h
    refine ⟨hl, fun p hp b hb => ?_⟩
    cases hp
    exact hargs b (List.mem_cons_of_mem a hb)
  | case7 l a r hdash hword hcommand hhelp hroom ih =>
    exact ih hl (fun b hb => hargs b (List.mem_cons_of_mem a hb)) h
  | case9 l a r hdash o v hpiece l₁ hadd ih =>
    have hv : IsArgument v := isArgument_of_piece (hargs a List.mem_cons_self) hpiece
    exact ih (hl.add? hv hadd) (fun b hb => hargs b (List.mem_cons_of_mem a hb)) h
  | case13 l a hdash o hpiece v r hvalue l₁ hadd ih =>
    have hv : IsArgument v := hargs v (List.mem_cons_of_mem a List.mem_cons_self)
    exact ih (hl.add? hv hadd)
      (fun b hb => hargs b (List.mem_cons_of_mem a (List.mem_cons_of_mem v hb))) h
  | case3 | case4 | case6 | case8 | case10 | case11 | case12 | case14 => cases h

end Grammar

namespace Settings

variable {s t : Settings} {i r i' r' : String} {outer inner : Given}

theorem isArgument_of_orElse {option v : String} (hinner : inner.IsWritten)
    (houter : outer.IsWritten) (hv : (inner.value? option <|> outer.value? option) = some v) :
    IsArgument v := by
  cases hvalue : inner.value? option with
  | none =>
    rw [hvalue] at hv
    exact houter.value? hv
  | some v' =>
    rw [hvalue] at hv
    cases hv
    exact hinner.value? hvalue

theorem isGiven_ofGiven (houter : outer.IsWritten) (hinner : inner.IsWritten)
    (hnames : outer.namesBothParties = true) (hnames' : inner.namesBothParties = true) :
    (Settings.ofGiven outer inner).IsGiven where
  names := by
    rw [Given.namesBothParties, beq_iff_eq] at hnames hnames'
    apply names_or_nameless
    simp only [ofGiven, Option.orElse_eq_orElse, Option.orElse_eq_or, Option.isSome_or, hnames,
      hnames']
  context _ hv := isArgument_of_orElse hinner houter hv
  initiator _ hv := isArgument_of_orElse hinner houter hv
  responder _ hv := isArgument_of_orElse hinner houter hv

/-- **A command line that is read names both parties or neither**, and binds only what can stand on it. -/
theorem isGiven_of_parse {args : List String} {c : Command} (hargs : ∀ a ∈ args, IsArgument a)
    (h : parse args = .ok (s, c)) : s.IsGiven := by
  have hnothing : ({} : Given).IsWritten := fun p hp => nomatch hp
  rw [parse] at h
  split at h
  · cases h
  · cases h
  · next outer command rest hread =>
    obtain ⟨houter, hrest⟩ := Grammar.read_isWritten hnothing hargs hread
    split at h
    · cases h
    · next inner _ hread' =>
      obtain ⟨hinner, -⟩ := Grammar.read_isWritten hnothing (hrest _ rfl) hread'
      split at h
      · next hboth =>
        obtain ⟨hnames, hnames'⟩ := Bool.and_eq_true_iff.mp hboth
        split at h
        · cases h
          exact isGiven_ofGiven houter hinner hnames hnames'
        · cases h
      · cases h

/-! ### The two forms of a context -/

theorem contextOf_of_names (h : s.Names i r) :
    Service.contextOf s.binding = Context.forParties i r (Bytes.ofText (s.context.getD "")) := by
  rw [binding, h.1, h.2]
  rfl

theorem contextOf_of_nameless (h : s.Nameless) :
    Service.contextOf s.binding = ⟨Bytes.ofText (s.context.getD "")⟩ := by
  rw [binding, h.1, h.2]
  cases s.context <;> rfl

theorem contextOf_ne (hs : s.IsGiven) (ht : t.IsGiven) (hnone : s.Nameless) (h : t.Names i r) :
    Service.contextOf s.binding ≠ Service.contextOf t.binding := by
  rw [contextOf_of_nameless hnone, contextOf_of_names h]
  have hname : IsArgument i := ht.initiator i h.1
  have hplain : IsArgument (s.context.getD "") := .getD_empty hs.context
  exact (Context.forParties_ne_of_zero_not_mem hname.2 (Bytes.zero_not_mem_ofText hplain.1)).symm

theorem contextOf_eq_iff_of_names (hs : s.IsGiven) (ht : t.IsGiven) (h : s.Names i r)
    (h' : t.Names i' r') :
    Service.contextOf s.binding = Service.contextOf t.binding ↔
      i = i' ∧ r = r' ∧ s.context.getD "" = t.context.getD "" := by
  rw [contextOf_of_names h, contextOf_of_names h']
  constructor
  · intro heq
    obtain ⟨hi, hr, hdata⟩ := Context.forParties_inj (hs.initiator i h.1).fitsPrefix
      (hs.responder r h.2).fitsPrefix (ht.initiator i' h'.1).fitsPrefix
      (ht.responder r' h'.2).fitsPrefix heq
    exact ⟨hi, hr, Bytes.ofText_inj hdata⟩
  · rintro ⟨rfl, rfl, hcontext⟩
    rw [hcontext]

theorem contextOf_eq_iff_of_nameless (h : s.Nameless) (h' : t.Nameless) :
    Service.contextOf s.binding = Service.contextOf t.binding ↔
      s.context.getD "" = t.context.getD "" := by
  rw [contextOf_of_nameless h, contextOf_of_nameless h']
  constructor
  · intro heq
    exact Bytes.ofText_inj (congrArg Context.bytes heq)
  · intro heq
    rw [heq]

/-- **Command lines bind to the same context exactly if they say the same about it**: both name the same
parties in the same roles, or neither names any, and the context, empty if there is none, is the same.  So a
bare context is never one with names, and parties that take each other's roles do not meet. -/
theorem contexts_agree_iff (hs : s.IsGiven) (ht : t.IsGiven) :
    (Service.contextOf s.binding = Service.contextOf t.binding ↔
      (∃ i r, s.Names i r ∧ t.Names i r ∧ s.context.getD "" = t.context.getD "") ∨
        (s.Nameless ∧ t.Nameless ∧ s.context.getD "" = t.context.getD "")) ∧
      (∀ i r, s.Nameless → t.Names i r →
        Service.contextOf s.binding ≠ Service.contextOf t.binding) ∧
      (∀ i r, i ≠ r → s.Names i r → t.Names r i →
        Service.contextOf s.binding ≠ Service.contextOf t.binding) := by
  refine ⟨?_, fun i r hnone h => contextOf_ne hs ht hnone h, ?_⟩
  · constructor
    · intro heq
      rcases hs.names with ⟨i, r, h⟩ | hnone
      · rcases ht.names with ⟨i', r', h'⟩ | hnone'
        · obtain ⟨rfl, rfl, hcontext⟩ := (contextOf_eq_iff_of_names hs ht h h').mp heq
          exact Or.inl ⟨i, r, h, h', hcontext⟩
        · exact absurd heq.symm (contextOf_ne ht hs hnone' h)
      · rcases ht.names with ⟨i', r', h'⟩ | hnone'
        · exact absurd heq (contextOf_ne hs ht hnone h')
        · exact Or.inr ⟨hnone, hnone', (contextOf_eq_iff_of_nameless hnone hnone').mp heq⟩
    · rintro (⟨i, r, h, h', hcontext⟩ | ⟨hnone, hnone', hcontext⟩)
      · exact (contextOf_eq_iff_of_names hs ht h h').mpr ⟨rfl, rfl, hcontext⟩
      · exact (contextOf_eq_iff_of_nameless hnone hnone').mpr hcontext
  · intro i r hne h h' heq
    exact hne ((contextOf_eq_iff_of_names hs ht h h').mp heq).1

theorem swapped_roles_do_not_meet :
    (IsGiven { initiator := some "alice", responder := some "bob" } ∧
      IsGiven { initiator := some "bob", responder := some "alice" }) ∧
      Service.contextOf (binding { initiator := some "alice", responder := some "bob" }) ≠
        Service.contextOf (binding { initiator := some "bob", responder := some "alice" }) := by
  let demo : Command := .demo "correct horse" "hello"
  have hargs : ∀ a ∈ ["--initiator-id", "alice", "--responder-id", "bob", "demo"], IsArgument a := by
    decide
  have hargs' : ∀ a ∈ ["--initiator-id", "bob", "--responder-id", "alice", "demo"], IsArgument a := by
    decide
  have hs : IsGiven { initiator := some "alice", responder := some "bob" } :=
    isGiven_of_parse (c := demo) hargs rfl
  have ht : IsGiven { initiator := some "bob", responder := some "alice" } :=
    isGiven_of_parse (c := demo) hargs' rfl
  exact ⟨⟨hs, ht⟩, (contexts_agree_iff hs ht).2.2 _ _ (by decide) ⟨rfl, rfl⟩ ⟨rfl, rfl⟩⟩

end Settings

end Pairing.Terminal
