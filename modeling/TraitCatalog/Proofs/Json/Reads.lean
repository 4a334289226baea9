import TraitCatalog.Proofs.Except
import TraitCatalog.Proofs.Json.Grammar
import TraitCatalog.Proofs.Json.Quoted

namespace TraitCatalog
namespace Json

theorem mem_spaces_iff : c ∈ spaces ↔ isSpace c = true := by
  simp [spaces, Text.ofString, isSpace, Code.is_iff, or_assoc]

theorem blank_nil : Blank [] :=
  nofun

namespace State

-- The reader takes in `t` and goes from `s` to `s'`.
def Reads (s : State) (t : Text) (s' : State) : Prop :=
  t.foldlM step s = .ok s'

theorem Reads.nil : Reads s [] s :=
  rfl

theorem reads_cons (h : s.step c = .ok s₁) : Reads s (c :: t) s₂ ↔ Reads s₁ t s₂ := by
  simp [Reads, List.foldlM_cons, h]

theorem Reads.cons (h : s.step c = .ok s₁) (hs : Reads s₁ t s₂) : Reads s (c :: t) s₂ :=
  (reads_cons h).mpr hs

theorem Reads.append (h₁ : Reads s t s₁) (h₂ : Reads s₁ u s₂) : Reads s (t ++ u) s₂ := by
  unfold Reads at *
  rw [List.foldlM_append, h₁]
  exact h₂

theorem read_of_reads (h : Reads initial t s) : Json.read t = s.finish := by
  unfold Reads at h
  simp [Json.read, h]

-- Where blanks between the tokens change nothing.
def Skips (s : State) : Prop :=
  ∀ c, isSpace c = true → s.step c = .ok s

theorem Skips.reads {s : State} (h : s.Skips) (ht : Blank t) : Reads s t s := by
  induction t
  case nil => exact .nil
  case cons c t ih =>
    obtain ⟨first, others⟩ := List.forall_mem_cons.mp ht
    exact .cons (h c (mem_spaces_iff.mp first)) (ih others)

variable (st : List Frame)

theorem skips_value : Skips ⟨.value, st⟩ :=
  fun c h => by simp [step, h]

theorem skips_arrayStart : Skips ⟨.arrayStart, st⟩ :=
  fun c h => by simp [step, h]

theorem skips_objectStart : Skips ⟨.objectStart, st⟩ :=
  fun c h => by simp [step, h]

theorem skips_key (fields : Keyed Json) : Skips ⟨.key fields, st⟩ :=
  fun c h => by simp [step, h]

theorem skips_afterItem (items : List Json) : Skips ⟨.afterItem items, st⟩ :=
  fun c h => by simp [step, between, h]

theorem skips_afterMember (fields : Keyed Json) : Skips ⟨.afterMember fields, st⟩ :=
  fun c h => by simp [step, between, h]

theorem skips_done (v : Json) : Skips ⟨.done v, st⟩ :=
  fun c h => by simp [step, between, h]

theorem Reads.text (st : List Frame) (h : Quoted.Passes q w q') :
    Reads ⟨.text q, st⟩ w ⟨.text q', st⟩ := by
  induction h
  case nil            => exact .nil
  case cons hs _ ih => exact .cons (by simp [step, hs]) ih

theorem Reads.keyText (fields : Keyed Json) (st : List Frame) (h : Quoted.Passes q w q') :
    Reads ⟨.keyText fields q, st⟩ w ⟨.keyText fields q', st⟩ := by
  induction h
  case nil            => exact .nil
  case cons hs _ ih => exact .cons (by simp [step, hs]) ih

end State
end Json
end TraitCatalog
