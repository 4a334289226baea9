import Mathlib.Data.List.Nodup
import TraitCatalog.Proofs.Handoff.Nested

namespace TraitCatalog
namespace Handoff

-- What became of a parcel, once some events have happened and left an exchange.
inductive Met (p : Parcel) (happened : List Event) (final : Exchange) : Prop
  | waits (slot : final.pending = some p)
  | passed (called : .called h p ∈ happened)
  | taken (answered : .answered .takePending e within (.ok (.catalog (some p.catalog))) ∈ happened)
    (waiting : e.pending = some p)
  | replaced (answered : .answered (.offer q) e within (.ok (.outcome .pending)) ∈ happened)
    (unbound : e.hook = none) (waiting : e.pending = some p)

variable {s s' : Scene} {number : Nat} {within : List Parcel} {h : Hook} {p : Parcel} {d : Deed}
variable {happened : List Event} {result : Except Trouble Answer}

-- A parcel that only waited has met what the events behind have for it.
theorem Met.followed (met : Met p happened e) (behind : happened ⊆ happened')
    (waits : e.pending = some p → Met p happened' e') : Met p happened' e' := by
  cases met
  case waits slot                        => exact waits slot
  case passed called                     => exact .passed (behind called)
  case taken answered waiting            => exact .taken (behind answered) waiting
  case replaced answered unbound waiting => exact .replaced (behind answered) unbound waiting

theorem Deed.Comes.met (comes : d.Comes number within s happened result s')
    (waiting : (s.exchange number).pending = some p)
    (during : ∀ within (s₁ : Scene), number < s₁.exchanges.length →
      (s₁.exchange number).pending = some p →
      Met p (events number within d.during s₁) ((after number d.during s₁).exchange number)) :
    Met p (happened ++ [.answered d.move (s.exchange number) within result]) (s'.exchange number) := by
  cases comes
  case delivered call =>
    have met := during within _ call.free (by rw [call.exchange, waiting])
    refine met.followed ?_ .waits
    exact fun ev mem => List.mem_append_left _ (List.mem_cons_of_mem _ mem)
  case parked unbound next     => exact .replaced (List.mem_singleton_self _) unbound waiting
  case attached empty next     => nomatch empty.symm.trans waiting
  case handedOver waiting' _ _ =>
    cases waiting'.symm.trans waiting
    exact .passed (List.mem_cons_self ..)
  case kept waiting' _ =>
    cases waiting'.symm.trans waiting
    exact .passed (List.mem_cons_self ..)
  case notCallable next => exact .waits (next.exchange ▸ waiting)
  case detached next    => exact .waits (next.exchange ▸ waiting)
  case taken next =>
    rw [waiting]
    exact .taken (List.mem_singleton_self _) waiting

-- What waits at some point is not lost, whatever is being handed over there.
theorem met_of_waiting (deeds : List Deed) (free : number < s.exchanges.length) (within : List Parcel)
    (waiting : (s.exchange number).pending = some p) :
    Met p (events number within deeds s) ((after number deeds s).exchange number) := by
  induction deeds using Deed.list_induction generalizing s within
  case nil => exact .waits waiting
  case cons d deeds during ih =>
    have comes := d.done free within
    have free' := d.free_after free
    have first := comes.met waiting fun within _ free => during free within
    rw [events_cons, List.append_cons]
    refine first.followed (List.subset_append_left _ _) fun slot => ?_
    exact (ih free' within slot).followed (List.subset_append_right _ _) .waits

theorem cons_suffix_append {x : α} {back as bs : List α} (suffix : x :: back <:+ as ++ bs) :
    (∃ back', x :: back' <:+ as ∧ back = back' ++ bs) ∨ x :: back <:+ bs := by
  obtain inner | ⟨front, split⟩ := List.suffix_or_suffix_of_suffix suffix (List.suffix_append as bs)
  case inl => exact .inr inner
  case inr =>
    cases front
    case nil => exact .inr (split ▸ List.suffix_rfl)
    case cons y front =>
      cases split
      exact .inl ⟨front, List.suffix_append_self_iff.mp suffix, rfl⟩

-- The induction is on where the offer is made: inside the first deed, by it, or behind it. Inside, the bindings
-- around the offer come to their ends one after the other, and none of them settles what was parked there.
theorem met_of_parked (deeds : List Deed) (free : number < s.exchanges.length)
    (parked : .answered (.offer p) e w (.ok (.outcome .pending)) :: back <:+ events number within deeds s)
    (others : ∀ q ∈ w, q.serial ≠ p.serial) : Met p back ((after number deeds s).exchange number) := by
  induction deeds using Deed.list_induction generalizing s within back
  case nil => nomatch List.suffix_nil.mp parked
  case cons d deeds during ih =>
    have comes := d.done free within
    have free' := d.free_after free
    rw [events_cons] at parked
    obtain ⟨back', inside, rfl⟩ | behind := cons_suffix_append parked
    case inl =>
      have first := inside.subset (List.mem_cons_self ..)
      obtain ⟨s₁, handing, calls⟩ := comes.calls (List.ne_nil_of_mem first)
      obtain ⟨h, q, happened⟩ := calls.call
      rw [happened, List.suffix_cons_iff] at inside
      have inside := inside.resolve_left nofun
      have around := within_subset d.during calls.free (inside.subset (List.mem_cons_self ..))
      refine (during calls.free inside).followed (List.subset_append_left _ _) fun slot => ?_
      have slot' := calls.keeps p (fun q mem => others q (around mem)) slot
      have rest := met_of_waiting deeds free' within slot'
      exact rest.followed (fun ev mem => List.mem_append_right _ (List.mem_cons_of_mem _ mem)) .waits
    case inr =>
      obtain answer | rest := List.suffix_cons_iff.mp behind
      case inl =>
        injection answer with answer rest
        injection answer with move _ _ pending
        rw [rest]
        exact met_of_waiting deeds free' within (comes.slot_of_pending move.symm pending.symm)
      case inr => exact ih free' rest

def Move.serials : Move → List Nat
  | offer p => [p.serial]
  | _       => []

mutual

def Deed.serials : Deed → List Nat
  | .mk m deeds _ => m.serials ++ serials deeds

-- The serial numbers of all parcels that some deeds offer, or would offer if their hooks were called.
def serials : List Deed → List Nat
  | [] => []
  | d :: deeds => d.serials ++ serials deeds

end

theorem Deed.serials_eq (d : Deed) : d.serials = d.move.serials ++ Handoff.serials d.during := by
  cases d
  rfl

-- What waits after a deed waited before, or the deed offered it.
theorem Deed.Comes.waiting (comes : d.Comes number within s happened result s')
    (during : ∀ s₁ : Scene, number < s₁.exchanges.length →
      ((after number d.during s₁).exchange number).pending = some p →
        (s₁.exchange number).pending = some p ∨ p.serial ∈ Handoff.serials d.during)
    (slot : (s'.exchange number).pending = some p) :
    (s.exchange number).pending = some p ∨ p.serial ∈ d.serials := by
  have inside : ∀ made e s₁, s.Leads number made e s₁ → e.pending = (s.exchange number).pending →
      ((after number d.during s₁).exchange number).pending = some p →
        (s.exchange number).pending = some p ∨ p.serial ∈ d.serials := by
    intro made e s₁ call same slot
    rw [← same, ← call.exchange, d.serials_eq]
    exact (during s₁ call.free slot).imp_right (List.mem_append_right _)
  cases comes
  case delivered call => exact inside _ _ _ call rfl slot
  case kept call      => exact inside _ _ _ call rfl slot
  case handedOver call returned =>
    subst returned
    rw [Scene.exchange_put (after_free _ call.free)] at slot
    exact inside _ _ _ call rfl (Exchange.pending_of_settle slot)
  case parked next =>
    rw [next.exchange] at slot
    cases slot
    exact .inr (List.mem_cons_self ..)
  case attached next =>
    rw [next.exchange] at slot
    exact .inl slot
  case notCallable next =>
    rw [next.exchange] at slot
    exact .inl slot
  case detached next =>
    rw [next.exchange] at slot
    exact .inl slot
  case taken next =>
    rw [next.exchange] at slot
    nomatch slot

theorem waiting_or_offered (deeds : List Deed) (free : number < s.exchanges.length)
    (slot : ((after number deeds s).exchange number).pending = some p) :
    (s.exchange number).pending = some p ∨ p.serial ∈ serials deeds := by
  induction deeds using Deed.list_induction generalizing s
  case nil => exact .inl slot
  case cons d deeds during ih =>
    rw [serials, List.mem_append, ← or_assoc]
    refine (ih (d.free_after free) slot).imp_left fun slot => ?_
    exact (d.done free []).waiting (fun _ free => during free) slot

-- If no parcel is offered twice, then what the bindings around an offer hand over is not what is offered.
theorem serial_ne_of_once (deeds : List Deed) (free : number < s.exchanges.length)
    (once : (serials deeds).Nodup)
    (new : ∀ q, q ∈ within ∨ (s.exchange number).pending = some q → q.serial ∉ serials deeds)
    (mem : .answered (.offer p) e w result ∈ events number within deeds s) :
    p.serial ∈ serials deeds ∧ ∀ q ∈ w, q.serial ≠ p.serial := by
  induction deeds using Deed.list_induction generalizing s within
  case nil => nomatch mem
  case cons d deeds during ih =>
    rw [events_cons, List.mem_append, List.mem_cons] at mem
    rw [serials] at once new ⊢
    simp only [List.mem_append, not_or] at new ⊢
    obtain inside | answer | rest := mem
    case inl =>
      obtain ⟨s₁, handing, calls⟩ := (d.done free within).calls (List.ne_nil_of_mem inside)
      obtain ⟨h, q, happened⟩ := calls.call
      rw [happened, List.mem_cons] at inside
      rw [d.serials_eq] at once new ⊢
      have once' := once.of_append_left.of_append_right
      have new' : ∀ q, q ∈ handing ∨ (s₁.exchange number).pending = some q →
          q.serial ∉ serials d.during := by
        intro q around mem
        rw [calls.slot] at around
        have known := around.elim (calls.handed q) .inr
        exact (new q known).left (List.mem_append_right _ mem)
      obtain ⟨offered, others⟩ := during calls.free once' new' (inside.resolve_left nofun)
      exact ⟨.inl (List.mem_append_right _ offered), others⟩
    case inr.inl =>
      injection answer with move _ around _
      have offered : p.serial ∈ d.serials := by
        rw [d.serials_eq, ← move]
        exact List.mem_cons_self ..
      refine ⟨.inl offered, fun q mem same => ?_⟩
      exact (new q (.inl (around ▸ mem))).left (same ▸ offered)
    case inr.inr =>
      have disjoint := List.disjoint_of_nodup_append once
      have new' : ∀ q, q ∈ within ∨
          ((run (d.perform number) s).2.exchange number).pending = some q →
            q.serial ∉ serials deeds := by
        rintro q (around | slot) mem
        case inl => exact (new q (.inl around)).right mem
        case inr =>
          obtain waited | offered := (d.done free []).waiting (fun _ => waiting_or_offered _) slot
          case inl => exact (new q (.inr waited)).right mem
          case inr => exact disjoint offered mem
      obtain ⟨offered, others⟩ := ih (d.free_after free) once.of_append_right new' rest
      exact ⟨.inr offered, others⟩

-- So if no parcel is offered twice, every one that is parked is met.
theorem met_of_once (deeds : List Deed) (free : number < s.exchanges.length)
    (once : (serials deeds).Nodup)
    (new : ∀ q, (s.exchange number).pending = some q → q.serial ∉ serials deeds)
    (parked : .answered (.offer p) e w (.ok (.outcome .pending)) :: back <:+ events number [] deeds s) :
    Met p back ((after number deeds s).exchange number) := by
  have mem := parked.subset (List.mem_cons_self ..)
  have new' : ∀ q, q ∈ [] ∨ (s.exchange number).pending = some q → q.serial ∉ serials deeds :=
    fun q known => new q (known.resolve_left nofun)
  exact met_of_parked deeds free parked (serial_ne_of_once deeds free once new' mem).right

-- No offer that was parked gets lost, however the hooks act that are called on the way. The exception is
-- a parcel that is offered again while a binding around the offer is handing it over.
theorem events_met (free : number < s.exchanges.length) (deeds : List Deed) :
    (after number deeds s).journal =
      s.journal ++ (events number [] deeds s).filterMap Event.call? ∧
    ∀ p e within back,
      .answered (.offer p) e within (.ok (.outcome .pending)) :: back <:+ events number [] deeds s →
        (∀ q ∈ within, q.serial ≠ p.serial) → Met p back ((after number deeds s).exchange number) :=
  ⟨(after_leads deeds free []).journal, fun _ _ _ _ parked others => met_of_parked deeds free parked others⟩

-- A parcel is offered and handed over to a hook, which unbinds itself and offers a parcel in its turn.
def refilling (p q : Parcel) : List Deed :=
  [.mk (.offer p) [] none,
    .mk (.bind (.hook "table")) [.mk .unbind [] none, .mk (.offer q) [] none] none]

theorem parked_refilling (p q : Parcel) :
    .answered (.offer q) ⟨none, some p⟩ [p] (.ok (.outcome .pending)) ::
      [.answered (.bind (.hook "table")) ⟨none, some p⟩ [] (.ok (.catalog (some p.catalog)))] <:+
        events standing [] (refilling p q) (.initial []) :=
  ⟨[.answered (.offer p) .unbound [] (.ok (.outcome .pending)), .called "table" p,
    .answered .unbind ⟨some "table", some p⟩ [p] (.ok (.hook (some "table")))], rfl⟩

theorem after_refilling (p q : Parcel) :
    (after standing (refilling p q) (.initial [])).exchange standing =
      Exchange.settle ⟨none, some q⟩ p := rfl

theorem events_met_refilled :
    standing < (Scene.initial []).exchanges.length ∧
    (∀ q ∈ [(⟨0, .empty⟩ : Parcel)], q.serial ≠ 1) ∧
    Met ⟨1, .empty⟩
      [.answered (.bind (.hook "table")) ⟨none, some ⟨0, .empty⟩⟩ [] (.ok (.catalog (some .empty)))]
      ((after standing (refilling ⟨0, .empty⟩ ⟨1, .empty⟩) (.initial [])).exchange standing) := by
  have others : ∀ q ∈ [(⟨0, .empty⟩ : Parcel)], q.serial ≠ 1 := by decide
  have free : standing < (Scene.initial []).exchanges.length := by decide
  have met := (events_met free (refilling ⟨0, .empty⟩ ⟨1, .empty⟩)).right
  exact ⟨free, others, met _ _ _ _ (parked_refilling _ _) others⟩

-- If it is the parcel that it was called with, then the slot is cleared behind it: the offer was answered
-- to be pending, and nothing has become of it.
theorem events_unmet : ∃ back,
    .answered (.offer ⟨0, .empty⟩) ⟨none, some ⟨0, .empty⟩⟩ [⟨0, .empty⟩] (.ok (.outcome .pending)) :: back <:+
      events standing [] (refilling ⟨0, .empty⟩ ⟨0, .empty⟩) (.initial []) ∧
    ¬Met ⟨0, .empty⟩ back
      ((after standing (refilling ⟨0, .empty⟩ ⟨0, .empty⟩) (.initial [])).exchange standing) := by
  refine ⟨_, parked_refilling _ _, ?_⟩
  rw [after_refilling]
  intro met
  cases met
  case waits slot            => nomatch slot
  case passed called         => nomatch List.mem_singleton.mp called
  case taken answered _      => nomatch List.mem_singleton.mp answered
  case replaced answered _ _ => nomatch List.mem_singleton.mp answered

end Handoff
end TraitCatalog
