import TraitCatalog.Proofs.Json.Written

namespace TraitCatalog
namespace Json

mutual

-- The value with an empty text in the place of each of its texts and keys.
def hollow : Json → Json
  | string _      => string []
  | array items   => array (hollowItems items)
  | object fields => object (hollowFields fields)
  | v             => v

def hollowItems : List Json → List Json
  | []         => []
  | v :: items => hollow v :: hollowItems items

def hollowFields : List (Text × Json) → List (Text × Json)
  | []               => []
  | (_, v) :: fields => ([], hollow v) :: hollowFields fields

end

-- What stands around the strings of a compact text.
def signs : Text :=
  "truefals[]\x7b\x7d,:"

-- Text that is made of signs and strings, and the same text with nothing in the strings.
inductive Woven : Text → Text → Prop
  | nil    : Woven [] []
  | sign   : c ∈ signs → Woven w r → Woven (c :: w) (c :: r)
  | string : Woven w r → Woven (writeString t ++ w) (writeString [] ++ r)

theorem Woven.append (h : Woven v q) (h' : Woven w r) : Woven (v ++ w) (q ++ r) := by
  induction h
  case nil           => exact h'
  case sign mem _ ih => exact .sign mem ih
  case string ih =>
    rw [List.append_assoc, List.append_assoc]
    exact .string ih

theorem woven_of_subset (w : Text) (h : w ⊆ signs) : Woven w w := by
  induction w
  case nil => exact .nil
  case cons c w ih =>
    obtain ⟨first, others⟩ := List.cons_subset.mp h
    exact .sign first (ih others)

theorem woven_writeItems (depth : Nat)
    (h : ∀ v ∈ items, Woven (write .compact depth v) (write .compact depth v.hollow)) :
    Woven (writeItems .compact depth items) (writeItems .compact depth (hollowItems items)) := by
  induction items
  case nil => exact .nil
  case cons v items ih =>
    obtain ⟨first, others⟩ := List.forall_mem_cons.mp h
    simp only [hollowItems, writeItems_cons, Layout.newline, List.nil_append]
    exact .sign (by decide) (first.append (ih others))

theorem woven_colon : Woven Layout.compact.colon Layout.compact.colon :=
  woven_of_subset _ (by decide)

theorem woven_writeFields (depth : Nat)
    (h : ∀ p ∈ fields, Woven (write .compact depth p.2) (write .compact depth p.2.hollow)) :
    Woven (writeFields .compact depth fields) (writeFields .compact depth (hollowFields fields)) := by
  induction fields
  case nil => exact .nil
  case cons p fields ih =>
    obtain ⟨key, v⟩ := p
    obtain ⟨first, others⟩ := List.forall_mem_cons.mp h
    simp only [hollowFields, writeFields_cons, Layout.newline, List.nil_append]
    exact .sign (by decide) (.string (woven_colon.append (first.append (ih others))))

-- The text of a value is that of the value without its texts but for what stands in the strings.
theorem woven_write (h : Plain n v) (depth : Nat) :
    Woven (write .compact depth v) (write .compact depth v.hollow) := by
  induction h generalizing depth
  case bool b =>
    cases b
    case false => exact woven_of_subset "false" (by decide)
    case true  => exact woven_of_subset "true" (by decide)
  case string t =>
    have alone : Woven (writeString t ++ []) (writeString [] ++ []) := .string .nil
    rwa [List.append_nil, List.append_nil] at alone
  case array items _ _ ih =>
    cases items
    case nil => exact woven_of_subset "[]" (by decide)
    case cons v items _ =>
      obtain ⟨first, others⟩ := List.forall_mem_cons.mp ih
      have others := woven_writeItems (depth + 1) fun w hw => others w hw (depth + 1)
      have all := (first (depth + 1)).append (others.append (woven_of_subset "]" (by decide)))
      simp only [hollow, hollowItems, write_array, Layout.newline, List.nil_append]
      exact .sign (by decide) all
  case object fields _ _ _ ih =>
    cases fields
    case nil => exact woven_of_subset "\x7b\x7d" (by decide)
    case cons p fields _ _ =>
      obtain ⟨key, v⟩ := p
      obtain ⟨first, others⟩ := List.forall_mem_cons.mp ih
      have others := woven_writeFields (depth + 1) fun q hq => others q hq (depth + 1)
      have all := (first (depth + 1)).append (others.append (woven_of_subset "\x7d" (by decide)))
      simp only [hollow, hollowFields, write_object, Layout.newline, List.nil_append]
      exact .sign (by decide) (.string (woven_colon.append all))

end Json
end TraitCatalog
