import Slipway.Proofs.FileTree.Upwards
import Slipway.Proofs.Manifest.Workspaces

/-!
# Where the workspace of a package lies

The search for a workspace goes up the text of a path, while the manifests on the way are opened in
the tree. The workspace that it finds lies in the directory of the package or in one that encloses
it if what the path adds to the ancestor enters again all that it leaves, and so for every path
without `..` (`serves_from_above`). A path that leads down into a directory and back up again has
this directory among its ancestors, and then a package inherits from a manifest below it
(`not_serves_from_above`).
-/

namespace Slipway.Manifest

open FileTree (namesOf)

variable {tree : FileTree} {dir above p : Path} {m : Manifest} {offered : Inheritance}

theorem exists_file_of_load (h : load tree p = .ok m) :
    ∃ names contents, tree.resolve p = .ok names ∧ tree.node? names = some (.file contents) := by
  rw [load] at h
  cases hread : tree.read p with
  | error e =>
    rw [FileTree.readText, hread] at h; cases h
  | ok contents =>
    rw [FileTree.read] at hread
    cases hnames : tree.resolve p with
    | error e => rw [hnames] at hread; cases hread
    | ok names =>
      rw [hnames] at hread
      simp only [bind, Except.bind] at hread
      split at hread
      · next found hfound => exact ⟨names, found, rfl, hfound⟩
      · cases hread
      · cases hread

/-- A manifest lies in the directory that the path leads to. -/
theorem resolve_of_load (h : load tree (dir.join fileName) = .ok m) :
    tree.resolve (dir.join fileName) = .ok (tree.leadsTo dir ++ [fileName]) := by
  obtain ⟨names, contents, hresolve, -⟩ := exists_file_of_load h
  have hnames : namesOf fileName = [fileName] := by decide
  rw [hresolve, FileTree.eq_leadsTo_of_resolve hresolve,
    FileTree.leadsTo_join hnames (by decide) (by decide)]

theorem Serves.mem_ancestors (h : Serves tree dir m above offered) : above ∈ dir.ancestors := by
  cases h with
  | own => exact Path.self_mem_ancestors dir
  | further hm hs hp ho =>
    refine List.mem_of_mem_tail ?_
    rw [hs]
    exact List.mem_append_right _ List.mem_cons_self

theorem Serves.exists_load (h : Serves tree dir m above offered)
    (hload : load tree (dir.join fileName) = .ok m) :
    ∃ m', load tree (above.join fileName) = .ok m' ∧ m'.workspace = some offered := by
  cases h with
  | own hm => exact ⟨m, hload, hm⟩
  | further hm hs hp ho => exact ho.2

/-- A package that inherits takes its fields from a directory that is found in the text of its
path. The manifest there and that of the package lie where the two paths lead, be they absolute or
not. What the path of the package adds to the other one leads on from there, first up and then down,
and the manifest lies in the directory of the package or in one that encloses it exactly if the way
down enters again all that the way up has left. A path without `..` leads up nowhere. -/
theorem serves_from_above (h : load tree (dir.join fileName) = .ok m) (hi : m.inherits = true) :
    (∀ package, readPackage tree dir = .ok package → ∃ above offered p,
        Serves tree dir m above offered ∧ m.package = some p ∧ package = p.settled offered) ∧
      ∀ above offered, Serves tree dir m above offered →
        (∃ p, m.package = some p ∧ readPackage tree dir = .ok (p.settled offered)) ∧
        ∃ (names below rest : List String) (route : Route),
          tree.resolve (above.join fileName) = .ok (names ++ [fileName]) ∧
          tree.resolve (dir.join fileName) = .ok (below ++ [fileName]) ∧
          namesOf dir = namesOf above ++ rest ∧ route = .ofSteps rest ∧
          below = names.take (names.length - route.up) ++ route.down ∧
          (names <+: below ↔ names.drop (names.length - route.up) <+: route.down) ∧
          (".." ∉ namesOf dir → route.up = 0 ∧ names <+: below) := by
  obtain ⟨p, hp⟩ := exists_package_of_inherits hi
  refine ⟨fun package hread => ?_, fun above offered hs => ⟨⟨p, hp, ?_⟩, ?_⟩⟩
  · cases hw : findWorkspace tree dir m with
    | error f =>
      rw [readPackage_of_findWorkspace_eq_error h hi hw] at hread
      cases hread
    | ok offered =>
      obtain ⟨above, hs⟩ := findWorkspace_eq_ok_iff.1 hw
      rw [readPackage_of_findWorkspace h hi hp hw] at hread
      exact ⟨above, offered, p, hs, hp, (Except.ok.inj hread).symm⟩
  · exact readPackage_of_findWorkspace h hi hp (findWorkspace_eq_ok_iff.2 ⟨above, hs⟩)
  · obtain ⟨m', hload', -⟩ := hs.exists_load h
    obtain ⟨rest, hrest, hfollow⟩ := tree.leadsTo_of_mem_ancestors hs.mem_ancestors
    refine ⟨_, _, rest, _, resolve_of_load hload', resolve_of_load h, hrest, rfl, hfollow, ?_, ?_⟩
    · rw [hfollow]
      exact Route.prefix_follow_iff
    · intro hup
      have hrestUp : ".." ∉ rest := fun hmem => hup (hrest ▸ List.mem_append_right _ hmem)
      rw [hfollow]
      exact ⟨Route.up_ofSteps hrestUp, Route.prefix_follow_of_no_up hrestUp⟩

/-- An absolute path that leads into a directory, back up and into another one. -/
theorem serves_from_above_back :
    let tree := ((FileTree.addFile { cwd := ["home"] } "ws/Cargo.toml"
      (.text "[workspace.package]\n")).addFile "ws/c/Cargo.toml"
      (.text "[package]\nname = \"p\"\nversion.workspace = true\n")).addDir "ws/b"
    ∃ names below,
      tree.resolve (Path.join "/home/ws/b/.." fileName) = .ok (names ++ [fileName]) ∧
      tree.resolve (Path.join "/home/ws/b/../c" fileName) = .ok (below ++ [fileName]) ∧
      names <+: below := by
  intro tree
  obtain ⟨m, hload, hm⟩ : ∃ m, load tree (Path.join "/home/ws/b/../c" fileName) = .ok m ∧
      (m.inherits && m.workspace.isNone) = true := exists_of_any_toOption (by decide +kernel)
  obtain ⟨hi, hnone⟩ := Bool.and_eq_true_iff.1 hm
  obtain ⟨m', hload', hm'⟩ : ∃ m, load tree (Path.join "/home/ws/b/.." fileName) = .ok m ∧
      m.workspace.isSome = true := exists_of_any_toOption (by decide +kernel)
  obtain ⟨offered, hoffered⟩ := Option.isSome_iff_exists.1 hm'
  have hanc : (Path.ancestors "/home/ws/b/../c").tail =
      [] ++ "/home/ws/b/.." :: ["/home/ws/b", "/home/ws", "/home", "/"] := by decide +kernel
  have hs : Serves tree "/home/ws/b/../c" m "/home/ws/b/.." offered :=
    .further (Option.isNone_iff_eq_none.1 hnone) hanc (List.forall_mem_nil _)
      ⟨by decide +kernel, m', hload', hoffered⟩
  obtain ⟨-, names, below, rest, route, hnames, hbelow, hrest, rfl, -, hprefix, -⟩ :=
    (serves_from_above hload hi).2 "/home/ws/b/.." offered hs
  have hpath : namesOf "/home/ws/b/../c" = namesOf "/home/ws/b/.." ++ ["c"] := by decide +kernel
  obtain rfl : ["c"] = rest := List.append_cancel_left (hpath.symm.trans hrest)
  refine ⟨names, below, hnames, hbelow, hprefix.2 ?_⟩
  rw [show (Route.ofSteps ["c"]).up = 0 from rfl, Nat.sub_zero, List.drop_length]
  exact List.nil_prefix

/-- A package inherits from a manifest in a directory below it, which its path leads into and out
of again. -/
theorem not_serves_from_above :
    ¬ ∀ (tree : FileTree) (dir : Path) (m : Manifest) (above : Path) (offered : Inheritance)
        (names below : List String), load tree (dir.join fileName) = .ok m → m.inherits = true →
        Serves tree dir m above offered →
        tree.resolve (above.join fileName) = .ok (names ++ [fileName]) →
        tree.resolve (dir.join fileName) = .ok (below ++ [fileName]) →
          names <+: below := by
  intro hall
  let tree := ((FileTree.addFile { cwd := ["home"] } "Cargo.toml" (.text "[workspace]\n")).addFile
    "ws/Cargo.toml" (.text "[package]\nname = \"p\"\nversion.workspace = true\n")).addFile
    "ws/a/Cargo.toml" (.text "[workspace]\n")
  obtain ⟨m, hload, hm⟩ : ∃ m, load tree (Path.join "ws/a/.." fileName) = .ok m ∧
      (m.inherits && m.workspace.isNone) = true := exists_of_any_toOption (by decide +kernel)
  obtain ⟨hi, hnone⟩ := Bool.and_eq_true_iff.1 hm
  obtain ⟨m', hload', hm'⟩ : ∃ m, load tree (Path.join "ws/a" fileName) = .ok m ∧
      m.workspace.isSome = true := exists_of_any_toOption (by decide +kernel)
  obtain ⟨offered, hoffered⟩ := Option.isSome_iff_exists.1 hm'
  have hanc : (Path.ancestors "ws/a/..").tail = [] ++ "ws/a" :: ["ws", ""] := by decide +kernel
  have hs : Serves tree "ws/a/.." m "ws/a" offered :=
    .further (Option.isNone_iff_eq_none.1 hnone) hanc (List.forall_mem_nil _)
      ⟨by decide +kernel, m', hload', hoffered⟩
  have hbelow : ["home", "ws", "a"] <+: ["home", "ws"] :=
    hall tree "ws/a/.." m "ws/a" offered ["home", "ws", "a"] ["home", "ws"] hload hi hs rfl rfl
  exact absurd hbelow (by decide)

end Slipway.Manifest
