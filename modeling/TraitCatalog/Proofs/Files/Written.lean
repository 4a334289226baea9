import TraitCatalog.Files.Change
import TraitCatalog.Proofs.Except

namespace TraitCatalog
namespace FileTree

variable {tree : FileTree} {place q : Place} {node : Node}

theorem lookup_map_put (nodes : List (Place × Node)) :
    (nodes.map fun (p, n) => if p = place then (p, node) else (p, n)).lookup q =
      if q = place then (nodes.lookup q).map fun _ => node else nodes.lookup q := by
  induction nodes
  case nil => simp
  case cons p nodes ih =>
    obtain ⟨p, n⟩ := p
    rw [List.map_cons, List.lookup_cons, List.lookup_cons]
    by_cases hq : q = p
    case pos =>
      subst hq
      by_cases hp : q = place <;> simp [hp]
    case neg =>
      have other : (q == p) = false := beq_eq_false_iff_ne.mpr hq
      by_cases hp : p = place
      case pos => simpa [hp, hp ▸ other] using ih
      case neg => simpa [hp, other] using ih

theorem isSome_lookup_iff {nodes : List (Place × Node)} :
    (nodes.lookup place).isSome ↔ nodes.any (·.fst = place) = true := by
  rw [List.lookup_isSome_iff, List.any_eq_true]
  exact exists_congr fun p => by rw [beq_iff_eq, decide_eq_true_eq, eq_comm]

theorem lookup_put : (tree.put place node).nodes.lookup q =
    if q = place then some node else tree.nodes.lookup q := by
  unfold put
  split
  case isTrue h =>
    obtain ⟨n, hn⟩ := Option.isSome_iff_exists.mp (isSome_lookup_iff.mpr h)
    rw [lookup_map_put]
    by_cases hq : q = place <;> simp [hq, hn]
  case isFalse h =>
    have unknown : tree.nodes.lookup place = none := by
      rwa [← isSome_lookup_iff, Option.not_isSome_iff_eq_none] at h
    rw [List.lookup_append, List.lookup_cons]
    by_cases hq : q = place
    case pos => simp [hq, unknown]
    case neg => simp [hq, beq_eq_false_iff_ne.mpr hq]

-- A place holds what was put there last.
theorem at?_put (hq : q.names.isEmpty = false) :
    (tree.put place node).at? q = if q = place then some node else tree.at? q := by
  simp only [at?, hq, Bool.false_eq_true, if_false, lookup_put]

theorem isSome_at?_put (h : (tree.at? q).isSome) : ((tree.put place node).at? q).isSome := by
  cases hq : q.names.isEmpty
  case false =>
    rw [at?_put hq]
    split
    case isTrue  => rfl
    case isFalse => exact h
  case true => simp [at?, hq]

-- Directories stay where something else is put at a place that is none.
theorem directory_put (hp : tree.at? place ≠ some .directory) (h : tree.at? q = some .directory) :
    (tree.put place node).at? q = some .directory := by
  cases hq : q.names.isEmpty
  case false =>
    have other : q ≠ place := by
      rintro rfl
      exact hp h
    rw [at?_put hq, if_neg other, h]
  case true => simp [at?, hq]

-- What one name of a path asks for.
theorem follow_cons_eq_ok_iff {place d : Place} : tree.follow place (name :: names) = .ok d ↔
    tree.at? place = some .directory ∧ Path.isLongName name = false ∧
      (tree.at? (place.enter name)).isSome ∧ tree.follow (place.enter name) names = .ok d := by
  rw [follow]
  by_cases directory : tree.at? place = some .directory
  case neg => simp [directory]
  case pos =>
    cases long : Path.isLongName name
    case true => simp [directory]
    case false =>
      cases next : tree.at? (place.enter name)
      case none   => simp [directory, next]
      case some n => simp [directory, next]

-- A way through directories leads to the same place as before.
theorem follow_put (hp : tree.at? place ≠ some .directory) {names : List Text} {start d : Place}
    (h : tree.follow start names = .ok d) : (tree.put place node).follow start names = .ok d := by
  induction names generalizing start
  case nil => exact h
  case cons name names ih =>
    obtain ⟨directory, short, next, rest⟩ := follow_cons_eq_ok_iff.mp h
    exact follow_cons_eq_ok_iff.mpr ⟨directory_put hp directory, short, isSome_at?_put next, ih rest⟩

theorem follow_concat {names : List Text} {start d d' : Place}
    (h : tree.follow start names = .ok d) (last : tree.follow d [name] = .ok d') :
    tree.follow start (names ++ [name]) = .ok d' := by
  induction names generalizing start
  case nil =>
    cases h
    exact last
  case cons first names ih =>
    obtain ⟨directory, short, next, rest⟩ := follow_cons_eq_ok_iff.mp h
    exact follow_cons_eq_ok_iff.mpr ⟨directory, short, next, ih rest⟩

-- A path whose last name is to be looked up, or made, in the directory `d`.
structure LeadsInto (tree : FileTree) (path : Path) (d : Place) (name : Text) : Prop where
  fine      : path.fault? = none
  names     : path.names = path.parent.names ++ [name]
  followed  : tree.follow (start path.anchor) path.parent.names = .ok d
  directory : tree.at? d = some .directory
  short     : Path.isLongName name = false
  down      : name ≠ ".."

theorem leadsInto_of_entry {path : Path} (h : tree.entry path = .ok (some place)) :
    ∃ d name, tree.LeadsInto path d name ∧ d.enter name = place := by
  cases fine : path.fault?
  case some fault => simp [entry, fine] at h
  case none =>
    simp only [entry, fine, Except.bind_eq_ok_iff] at h
    obtain ⟨d, followed, h⟩ := h
    by_cases directory : tree.at? d = some .directory
    case neg => simp [directory] at h
    case pos =>
      cases last : path.names.getLast?
      case none => simp [directory, last] at h
      case some name =>
        have names : path.names = path.parent.names ++ [name] := by
          obtain ⟨front, hf⟩ := List.getLast?_eq_some_iff.mp last
          simp [Path.parent, hf]
        by_cases up : name = ".."
        case pos => simp [directory, last, up] at h
        case neg =>
          cases long : Path.isLongName name
          case true => simp [directory, last, up, long] at h
          case false =>
            simp [directory, last, up, long] at h
            exact ⟨d, name, ⟨fine, names, followed, directory, long, up⟩, h⟩

-- A file that is put at the end of a path is what the path leads to.
theorem LeadsInto.node_put {path : Path} (h : tree.LeadsInto path d name)
    (hp : tree.at? (d.enter name) ≠ some .directory) (content : Bytes) :
    (tree.put (d.enter name) (.file content)).node path = .ok (.file content) := by
  have named : (d.enter name).names.isEmpty = false := by
    simp [Place.enter, h.down]
  have there : (tree.put (d.enter name) (.file content)).at? (d.enter name) = some (.file content) := by
    rw [at?_put named, if_pos rfl]
  have last : (tree.put (d.enter name) (.file content)).follow d [name] = .ok (d.enter name) := by
    rw [follow_cons_eq_ok_iff, there]
    exact ⟨directory_put hp h.directory, h.short, rfl, rfl⟩
  have followed := follow_concat (follow_put hp h.followed) last
  rw [← h.names] at followed
  simp [node, h.fine, followed, there]

end FileTree

namespace Change

variable {tree : FileTree} {path : Path}

theorem run_bind_ok {x : Change α} {f : α → Change β} (h : run x tree = (.ok a, tree')) :
    run (x >>= f) tree = run (f a) tree' :=
  ExceptT.run_bind_ok h

theorem run_bind_error {x : Change α} {f : α → Change β} (h : run x tree = (.error e, tree')) :
    run (x >>= f) tree = (.error e, tree') :=
  ExceptT.run_bind_error h

-- A file is written if its directories can be made and its path leads into one of them.
theorem run_write (path : Path) (content : Bytes) (tree : FileTree) :
    run (write path content) tree = match run (makeDirectory path.parent) tree with
      | (.error fault, tree') => (.error fault, tree')
      | (.ok _, tree') => match tree'.entry path with
        | .error fault => (.error fault, tree')
        | .ok none => (.error .isDirectory, tree')
        | .ok (some place) =>
          if tree'.at? place = some .directory then (.error .isDirectory, tree')
          else (.ok ⟨⟩, tree'.put place (.file content)) := by
  rw [write]
  cases made : run (makeDirectory path.parent) tree with | mk result tree'
  cases result
  case error fault => rw [run_bind_error made]
  case ok =>
    have got : run get tree' = (.ok tree', tree') := rfl
    rw [run_bind_ok made, run_bind_ok got]
    cases entered : tree'.entry path
    case error fault =>
      simp only [entered]
      rfl
    case ok place =>
      have lifted : run (liftM (.ok place : Except FileFault (Option Place))) tree' =
        (.ok place, tree') := rfl
      rw [run_bind_ok lifted]
      simp only [entered]
      cases place
      case none => rfl
      case some place =>
        by_cases directory : tree'.at? place = some .directory
        case pos => simp only [directory, if_true]; rfl
        case neg => simp only [directory, if_false]; rfl

theorem node_of_write (h : run (write path content) tree = (.ok ⟨⟩, tree')) :
    tree'.node path = .ok (.file content) := by
  rw [run_write] at h
  split at h
  case h_1 => cases h
  case h_2 made _ =>
    split at h
    case h_1 => cases h
    case h_2 => cases h
    case h_3 place entered =>
      split at h
      case isTrue  => cases h
      case isFalse hp =>
        cases h
        obtain ⟨d, name, leads, rfl⟩ := FileTree.leadsInto_of_entry entered
        exact leads.node_put hp content

-- Text that has a UTF-8 form is written as its bytes.
theorem run_writeText {t : Text} (encoded : t.utf8? = some bytes) (path : Path) (tree : FileTree) :
    run (writeText path t) tree = run (write path bytes) tree := by
  rw [writeText, encoded]
  cases written : run (write path bytes) tree with | mk result tree'
  cases result
  case error fault => exact run_bind_error written
  case ok          => exact run_bind_ok written

end Change

-- A file with the bytes of a text is read as that text, apart from the ends of its lines.
theorem FileTree.readText_of_node {tree : FileTree} {path : Path} {t : Text}
    (node : tree.node path = .ok (.file bytes)) (encoded : t.utf8? = some bytes) :
    tree.readText path = .ok t.unifyNewlines := by
  simp [readText, find, node, contentOf, Text.ofUtf8?_utf8? encoded]

end TraitCatalog
