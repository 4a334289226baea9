import TraitCatalog.Proofs.Files.Written

namespace TraitCatalog

-- Whatever stands somewhere in the first tree stands there in the second one.
def FileTree.Keeps (tree tree' : FileTree) : Prop :=
  ∀ place node, tree.at? place = some node → tree'.at? place = some node

namespace FileTree.Keeps

variable {tree tree₁ tree₂ : FileTree}

theorem refl (tree : FileTree) : tree.Keeps tree :=
  fun _ _ => id

theorem trans (h₁ : tree.Keeps tree₁) (h₂ : tree₁.Keeps tree₂) : tree.Keeps tree₂ :=
  fun place node h => h₂ place node (h₁ place node h)

-- What is put where nothing is takes nothing away.
theorem put (free : tree.at? place = none) (node : Node) : tree.Keeps (tree.put place node) := by
  intro q n h
  cases hq : q.names.isEmpty
  case true => simpa [at?, hq] using h
  case false =>
    have other : q ≠ place := by
      rintro rfl
      cases free.symm.trans h
    rwa [at?_put hq, if_neg other]

end FileTree.Keeps

namespace Change

variable {tree tree' : FileTree}

theorem run_tryCatch_ok {x : Change α} {f : FileFault → Change α} (h : run x tree = (.ok a, tree')) :
    run (tryCatch x f) tree = (.ok a, tree') :=
  ExceptT.run_tryCatch_ok h

theorem run_tryCatch_error {x : Change α} {f : FileFault → Change α} (h : run x tree = (.error e, tree')) :
    run (tryCatch x f) tree = run (f e) tree' :=
  ExceptT.run_tryCatch_error h

-- The change keeps all that is there, whether it fails or not.
def Adds (x : Change α) : Prop :=
  ∀ tree : FileTree, tree.Keeps (run x tree).2

namespace Adds

theorem pure (a : α) : Adds (pure a : Change α) :=
  FileTree.Keeps.refl

theorem throw (fault : FileFault) : Adds (throw fault : Change α) :=
  FileTree.Keeps.refl

theorem get : Adds (get : Change FileTree) :=
  FileTree.Keeps.refl

theorem lift (r : Except FileFault α) : Adds (liftM r : Change α) := by
  cases r <;> exact FileTree.Keeps.refl

theorem bind {x : Change α} {f : α → Change β} (first : Adds x) (rest : ∀ a, Adds (f a)) :
    Adds (x >>= f) := by
  intro tree
  have kept := first tree
  cases ran : run x tree with | mk result tree₁
  rw [ran] at kept
  cases result
  case error => rwa [run_bind_error ran]
  case ok a =>
    rw [run_bind_ok ran]
    exact kept.trans (rest a tree₁)

theorem tryCatch {x : Change α} {f : FileFault → Change α} (first : Adds x) (rest : ∀ e, Adds (f e)) :
    Adds (tryCatch x f) := by
  intro tree
  have kept := first tree
  cases ran : run x tree with | mk result tree₁
  rw [ran] at kept
  cases result
  case ok => rwa [run_tryCatch_ok ran]
  case error e =>
    rw [run_tryCatch_error ran]
    exact kept.trans (rest e tree₁)

-- A directory is made only where nothing is.
theorem makeLast (path : Path) : Adds (makeLast path) := by
  intro tree
  have got : run MonadState.get tree = (.ok tree, tree) := rfl
  rw [Change.makeLast, run_bind_ok got]
  cases entered : tree.entry path
  case error => exact .refl tree
  case ok place =>
    have lifted : run (liftM (.ok place : Except FileFault (Option Place))) tree = (.ok place, tree) := rfl
    rw [run_bind_ok lifted]
    cases place
    case none => exact .refl tree
    case some place =>
      cases there : tree.at? place
      case some =>
        simp only [there, Option.isSome_some, if_true]
        exact FileTree.Keeps.refl tree
      case none =>
        simp only [there, Option.isSome_none, Bool.false_eq_true, if_false]
        exact FileTree.Keeps.put there .directory

theorem unlessDirectory (path : Path) (fault : FileFault) : Adds (unlessDirectory path fault) := by
  refine get.bind fun tree => (lift (tree.find path)).bind fun found => ?_
  split
  case isTrue  => exact throw fault
  case isFalse => exact pure PUnit.unit

theorem unlessFound (path : Path) (fault : FileFault) : Adds (unlessFound path fault) := by
  unfold Change.unlessFound
  split
  case h_1 => exact throw _
  case h_2 => exact throw _
  case h_3 => exact unlessDirectory path fault

theorem makeNamed (anchor : Anchor) (room : Nat) (names : List Text) : Adds (makeNamed anchor room names) := by
  induction names generalizing room
  case nil => exact (makeLast _).tryCatch (unlessFound _)
  case cons name above ih =>
    refine (makeLast _).tryCatch fun fault => ?_
    split
    case h_2 => exact unlessFound _ _
    case h_1 =>
      split
      case' isTrue => refine (throw .tooDeep).bind fun _ => ?_
      -- In both branches the directory above comes first, and then the same attempt once more.
      all_goals
        refine (ih _).bind fun _ => (makeLast _).tryCatch fun fault => ?_
        split
        case h_1 => exact throw .missing
        case h_2 => exact unlessDirectory _ _

theorem makeDirectory (path : Path) : Adds (makeDirectory path) :=
  makeNamed path.anchor mostAbove path.names.reverse

end Adds

end Change

namespace FileTree

-- Whatever stands somewhere else than at the place stays there.
def KeepsBeside (tree tree' : FileTree) (place : Place) : Prop :=
  ∀ q node, q ≠ place → tree.at? q = some node → tree'.at? q = some node

-- The path leads to a file with the content, and nothing else has changed.
structure Rewrites (tree tree' : FileTree) (path : Path) (content : Bytes) : Prop where
  node   : tree'.node path = .ok (.file content)
  others : ∃ place, tree'.entry path = .ok (some place) ∧ tree.KeepsBeside tree' place

variable {tree tree₁ : FileTree} {place d : Place} {path : Path}

theorem Keeps.put_beside (h : tree.Keeps tree₁) (node : Node) :
    tree.KeepsBeside (tree₁.put place node) place := by
  intro q n other there
  have kept := h q n there
  cases hq : q.names.isEmpty
  case true  => simpa [at?, hq] using kept
  case false => rwa [at?_put hq, if_neg other]

theorem LeadsInto.entry (h : tree.LeadsInto path d name) : tree.entry path = .ok (some (d.enter name)) := by
  have last : path.names.getLast? = some name := by rw [h.names, List.getLast?_concat]
  simp [FileTree.entry, h.fine, h.followed, h.directory, last, h.down, h.short]

-- A file at the end of a path does not change where the path leads.
theorem LeadsInto.put (h : tree.LeadsInto path d name) (hp : tree.at? place ≠ some .directory) (node : Node) :
    (tree.put place node).LeadsInto path d name :=
  { h with
    followed  := follow_put hp h.followed
    directory := directory_put hp h.directory }

end FileTree

namespace Change

variable {tree tree' : FileTree} {path : Path}

-- A file that cannot be written leaves at most more directories than there were before.
theorem keeps_or_rewrites (h : run (write path content) tree = (result, tree')) :
    (∃ fault, result = .error fault ∧ tree.Keeps tree') ∨
      result = .ok ⟨⟩ ∧ tree.Rewrites tree' path content := by
  have wrote := h
  have kept := Adds.makeDirectory path.parent tree
  rw [run_write] at h
  cases made : run (makeDirectory path.parent) tree with | mk done tree₁
  rw [made] at h kept
  cases done
  case error fault =>
    cases h
    exact .inl ⟨fault, rfl, kept⟩
  case ok =>
    dsimp only at h
    split at h
    case h_1 fault _ =>
      cases h
      exact .inl ⟨fault, rfl, kept⟩
    case h_2 =>
      cases h
      exact .inl ⟨.isDirectory, rfl, kept⟩
    case h_3 place entered =>
      split at h
      case isTrue =>
        cases h
        exact .inl ⟨.isDirectory, rfl, kept⟩
      case isFalse hp =>
        cases h
        obtain ⟨d, name, leads, rfl⟩ := FileTree.leadsInto_of_entry entered
        exact .inr ⟨rfl, node_of_write wrote, d.enter name, (leads.put hp _).entry, kept.put_beside _⟩

theorem keeps_of_write_error (h : run (write path content) tree = (.error fault, tree')) : tree.Keeps tree' := by
  obtain ⟨_, -, kept⟩ | ⟨⟨⟩, -⟩ := keeps_or_rewrites h
  exact kept

theorem rewrites_of_write (h : run (write path content) tree = (.ok ⟨⟩, tree')) :
    tree.Rewrites tree' path content := by
  obtain ⟨_, ⟨⟩, -⟩ | ⟨-, rewrites⟩ := keeps_or_rewrites h
  exact rewrites

-- A text is written as far as its bytes can be.
theorem run_writeText_error {t : Text} (h : run (write path (t.utf8?.getD [])) tree = (.error fault, tree')) :
    run (writeText path t) tree = (.error fault, tree') :=
  run_bind_error h

theorem run_writeText_unencodable {t : Text} (none : t.utf8? = none)
    (h : run (write path []) tree = (.ok ⟨⟩, tree')) :
    run (writeText path t) tree = (.error .unencodable, tree') := by
  rw [writeText, none]
  exact run_bind_ok h

end Change
end TraitCatalog
