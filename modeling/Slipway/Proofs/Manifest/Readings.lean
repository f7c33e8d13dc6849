import Slipway.Proofs.Manifest.Workspaces
import Slipway.Proofs.Toml.Keys

/-!
# Two readings of a manifest

The text of a manifest is read on its own (`packageOfText`) or where it lies in a tree
(`readPackage`). Both settle the same manifest and differ only in the workspace that they look at,
which plays no part unless a field is inherited (`resolve_of_not_inherits`). So they agree wherever
the text declares a workspace of its own or inherits nothing. Otherwise the tree supplies the
workspace, and the text on its own is settled in the same way once it is extended by a workspace
that offers the same (`Extends`, `ofText_of_extends`).
-/

namespace Slipway.Manifest

variable {tree : FileTree} {dir above p : Path} {text text' : String} {m : Manifest}
  {offered : Inheritance} {table table' : Toml.Table} {workspace : Toml.Value} {fault : Fault}

/-! ### One text -/

theorem ofText_eq_ok_iff :
    ofText text = .ok m ↔
      ∃ table, Toml.parse? .strict text = some table ∧ ofTable table = .ok m := by
  rw [ofText]
  cases Toml.parse? .strict text with
  | none => simp
  | some table => cases h : ofTable table <;> simp [h]

theorem load_of_ok (h : tree.readText p = .ok text) (hm : ofText text = .ok m) :
    load tree p = .ok m := by
  rw [load, h]
  simp only [ioResult, Except.mapError, bind, Except.bind, hm]
  rfl

theorem load_of_error (h : tree.readText p = .ok text) (hf : ofText text = .error fault) :
    load tree p = .error ⟨.manifest fault, some ("Invalid manifest " ++ p)⟩ := by
  rw [load, h]
  simp only [ioResult, Except.mapError, bind, Except.bind, hf]
  rfl

theorem packageOfText_of_ok (hm : ofText text = .ok m) :
    packageOfText text = m.resolve m.workspace := by
  rw [packageOfText]
  simp only [hm]

theorem packageOfText_of_error (hf : ofText text = .error fault) :
    packageOfText text = .error ⟨.manifest fault, none⟩ := by
  rw [packageOfText]
  simp only [hf]

/-! ### Workspaces that play no part -/

theorem resolve_of_not_inherits (hi : m.inherits = false) (workspace : Option Inheritance) :
    m.resolve workspace = m.resolve none := by
  cases workspace with
  | none => rfl
  | some offered =>
    rw [resolve, resolve]
    cases hp : m.package with
    | none => rfl
    | some p =>
      rw [inherits, hp, Option.any_some, Bool.or_eq_false_iff] at hi
      simp only [resolveVersion_some, resolvePublish_some, hi.1, hi.2, Bool.false_eq_true, if_false]

theorem readPackage_of_own (h : load tree (dir.join fileName) = .ok m) (hi : m.inherits = true)
    (hm : m.workspace = some offered) :
    readPackage tree dir =
      withContext ("Invalid manifest " ++ dir.join fileName) (m.resolve (some offered)) := by
  have hfind : findWorkspace tree dir m = .ok offered :=
    findWorkspace_eq_ok_iff.2 ⟨dir, .own hm⟩
  rw [readPackage]
  simp only [h, hi, if_true, hfind]

/-! ### Extended texts -/

/-- Whether a text says all that another one says, and declares a workspace that offers this
besides. -/
def Extends (text text' : String) (offered : Inheritance) : Prop :=
  ∃ table table' workspace, Toml.parse? .strict text = some table ∧
    Toml.parse? .strict text' = some table' ∧ table'.Perm (("workspace", workspace) :: table) ∧
    workspaceTable workspace = .ok offered

theorem checkOthers_eq_ok_iff {keys : List String} {u : Unit} :
    checkOthers keys table = .ok u ↔
      ∀ e ∈ table, keys.contains e.1 = true ∨ e.2.isReadable = true := by
  rw [checkOthers]
  split
  · next h => simpa using h
  · next h => simpa using h

theorem ofTable_eq_ok_iff :
    ofTable table = .ok m ↔ optional packageFields (table.lookup "package") = .ok m.package ∧
      optional workspaceTable (table.lookup "workspace") = .ok m.workspace ∧
      checkOthers ["package", "workspace"] table = .ok () := by
  obtain ⟨package, workspace⟩ := m
  rw [ofTable]
  cases optional packageFields (table.lookup "package") with
  | error fault => simp [bind, Except.bind]
  | ok package' =>
    cases optional workspaceTable (table.lookup "workspace") with
    | error fault => simp [bind, Except.bind]
    | ok workspace' =>
      cases checkOthers ["package", "workspace"] table <;>
        simp [bind, Except.bind, pure, Except.pure]

theorem ofTable_extended (hm : ofTable table = .ok m) (hn : (table'.map (·.1)).Nodup)
    (hperm : table'.Perm (("workspace", workspace) :: table))
    (hw : workspaceTable workspace = .ok offered) :
    ofTable table' = .ok { m with workspace := some offered } := by
  rw [ofTable_eq_ok_iff] at hm ⊢
  obtain ⟨hpackage, -, hothers⟩ := hm
  have hne : ("package" == "workspace") = false := by decide
  refine ⟨?_, ?_, checkOthers_eq_ok_iff.2 fun e he => ?_⟩
  · rw [Toml.lookup_perm hn hperm, List.lookup_cons, hne]
    exact hpackage
  · rw [Toml.lookup_perm hn hperm, List.lookup_cons_self, optional, hw]
    rfl
  · rcases List.mem_cons.1 (hperm.mem_iff.1 he) with rfl | he
    · exact .inl (List.contains_iff_mem.2 (by simp))
    · exact checkOthers_eq_ok_iff.1 hothers e he

theorem ofText_of_extends (hm : ofText text = .ok m) (h : Extends text text' offered) :
    ofText text' = .ok { m with workspace := some offered } := by
  obtain ⟨table, table', workspace, hparse, hparse', hperm, hw⟩ := h
  obtain ⟨found, hfound, htable⟩ := ofText_eq_ok_iff.1 hm
  obtain rfl : table = found := Option.some.inj (hparse.symm.trans hfound)
  -- the order of the entries plays no part, since no key comes twice
  have hn : (table'.map (·.1)).Nodup := by
    cases Toml.distinct_of_parse? hparse' with
    | plain _ h => exact absurd rfl (h table')
    | table hn _ => exact hn
  exact ofText_eq_ok_iff.2 ⟨table', hparse', ofTable_extended htable hn hperm hw⟩

/-! ### Readings compared -/

theorem readPackage_eq_packageOfText (h : tree.readText (dir.join fileName) = .ok text)
    (hown : ∀ m, ofText text = .ok m → m.workspace.isSome = true ∨ m.inherits = false) :
    readPackage tree dir =
      withContext ("Invalid manifest " ++ dir.join fileName) (packageOfText text) := by
  cases hm : ofText text with
  | error fault =>
    rw [readPackage, load_of_error h hm, packageOfText_of_error hm]
    rfl
  | ok m =>
    have hload : load tree (dir.join fileName) = .ok m := load_of_ok h hm
    rw [packageOfText_of_ok hm]
    cases hi : m.inherits with
    | false => rw [readPackage_of_not_inherits hload hi, resolve_of_not_inherits hi m.workspace]
    | true =>
      have hsome : m.workspace.isSome = true :=
        (hown m hm).resolve_right fun hf => Bool.false_ne_true (hf.symm.trans hi)
      obtain ⟨offered, hw⟩ := Option.isSome_iff_exists.1 hsome
      rw [readPackage_of_own hload hi hw, hw]

theorem exists_serves_of_readPackage {package : Package}
    (h : load tree (dir.join fileName) = .ok m) (hi : m.inherits = true)
    (hread : readPackage tree dir = .ok package) :
    ∃ above offered, Serves tree dir m above offered := by
  cases hw : findWorkspace tree dir m with
  | error f =>
    rw [readPackage_of_findWorkspace_eq_error h hi hw] at hread
    cases hread
  | ok offered =>
    obtain ⟨above, hs⟩ := findWorkspace_eq_ok_iff.1 hw
    exact ⟨above, offered, hs⟩

theorem Serves.mem_tail_ancestors (h : Serves tree dir m above offered) (hm : m.workspace = none) :
    above ∈ dir.ancestors.tail := by
  cases h with
  | own hown =>
    rw [hm] at hown
    cases hown
  | further _ hsplit _ _ =>
    rw [hsplit]
    exact List.mem_append_right _ List.mem_cons_self

/-- Where a text declares a workspace, inherits nothing or cannot be read, it gives the same package
in a tree as on its own, or the same failure but for the context. Otherwise, a package that is read
in the tree is served by a directory above; and if one serves it, the package is the one of the same
manifest with the workspace of this directory, and the one of each text that extends the text by a
workspace that offers the same. The text on its own gives a package of the same name. -/
theorem readPackage_of_readText (h : tree.readText (dir.join fileName) = .ok text) :
    ((∀ m, ofText text = .ok m → m.workspace.isSome = true ∨ m.inherits = false) →
      readPackage tree dir =
        withContext ("Invalid manifest " ++ dir.join fileName) (packageOfText text)) ∧
    ∀ m, ofText text = .ok m → m.workspace = none → m.inherits = true →
      (∀ package, readPackage tree dir = .ok package →
        ∃ above offered, above ∈ dir.ancestors.tail ∧ Serves tree dir m above offered) ∧
      ∀ above offered, Serves tree dir m above offered →
        ∃ package alone, readPackage tree dir = .ok package ∧
          ({ m with workspace := some offered } : Manifest).resolve (some offered) = .ok package ∧
          (∀ text', Extends text text' offered → packageOfText text' = .ok package) ∧
          packageOfText text = .ok alone ∧ alone.name = package.name := by
  refine ⟨readPackage_eq_packageOfText h, fun m hm hnone hi => ?_⟩
  have hload : load tree (dir.join fileName) = .ok m := load_of_ok h hm
  refine ⟨fun package hread => ?_, fun above offered hs => ?_⟩
  · obtain ⟨above, offered, hs⟩ := exists_serves_of_readPackage hload hi hread
    exact ⟨above, offered, hs.mem_tail_ancestors hnone, hs⟩
  · obtain ⟨p, hp⟩ := exists_package_of_inherits hi
    have hread : readPackage tree dir = .ok (p.settled offered) :=
      readPackage_of_findWorkspace hload hi hp (findWorkspace_eq_ok_iff.2 ⟨above, hs⟩)
    have hsettled : ({ m with workspace := some offered } : Manifest).resolve (some offered) =
        .ok (p.settled offered) := resolve_eq_settled hp offered
    have halone : packageOfText text =
        .ok ⟨p.name, resolveVersion none p.version, resolvePublish none p.publish⟩ := by
      rw [packageOfText_of_ok hm, resolve, hp, hnone]
    refine ⟨p.settled offered, _, hread, hsettled, fun text' htext => ?_, halone, rfl⟩
    rw [packageOfText_of_ok (ofText_of_extends hm htext)]
    exact hsettled

/-- A package that is served by the directory above it, and this directory, which holds a workspace
but no package. -/
theorem readPackage_of_readText_above :
    let workspace := "[workspace.package]\nversion = \"1\"\n"
    let inner := "[package]\nname = \"p\"\nversion.workspace = true\n"
    let tree := (FileTree.addFile { cwd := ["home"] } "/ws/Cargo.toml" (.text workspace)).addFile
      "/ws/a/Cargo.toml" (.text inner)
    (∃ package, readPackage tree "/ws/a" = .ok package ∧
      packageOfText (inner ++ workspace) = .ok package) ∧
    readPackage tree "/ws" =
      withContext "Invalid manifest /ws/Cargo.toml" (packageOfText workspace) := by
  intro workspace inner tree
  let offered : Inheritance := ⟨some "1", none⟩
  let inherited : Toml.Value := .table [("workspace", .boolean true)]
  let fields : PackageFields := ⟨"p", some inherited, none⟩
  let declared : Toml.Table :=
    [("package", .table [("name", .string "p"), ("version", inherited)])]
  let offer : Toml.Value := .table [("package", .table [("version", .string "1")])]
  have hworkspace : ofText workspace = .ok ⟨none, some offered⟩ :=
    ofText_eq_ok_iff.2 ⟨[("workspace", offer)], by decide +kernel, rfl⟩
  have hparse : Toml.parse? .strict inner = some declared := by decide +kernel
  have hinner : ofText inner = .ok ⟨some fields, none⟩ :=
    ofText_eq_ok_iff.2 ⟨declared, hparse, rfl⟩
  have hboth : Toml.parse? .strict (inner ++ workspace) =
      some (declared ++ [("workspace", offer)]) := by decide +kernel
  have hextends : Extends inner (inner ++ workspace) offered :=
    ⟨declared, _, offer, hparse, hboth, List.perm_append_comm, rfl⟩
  have htext : tree.readText (Path.join "/ws" fileName) = .ok workspace := rfl
  have htext' : tree.readText (Path.join "/ws/a" fileName) = .ok inner := rfl
  have hserves : Serves tree "/ws/a" ⟨some fields, none⟩ "/ws" offered := by
    have hanc : (Path.ancestors "/ws/a").tail = [] ++ "/ws" :: ["/"] := by decide +kernel
    exact .further rfl hanc (List.forall_mem_nil _)
      ⟨by decide +kernel, _, load_of_ok htext hworkspace, rfl⟩
  constructor
  · obtain ⟨-, hserved⟩ := (readPackage_of_readText htext').2 _ hinner rfl rfl
    obtain ⟨package, -, hread, -, hsame, -⟩ := hserved "/ws" offered hserves
    exact ⟨package, hread, hsame _ hextends⟩
  · refine (readPackage_of_readText htext).1 fun m hm => .inl ?_
    rw [hworkspace] at hm
    cases hm
    rfl

end Slipway.Manifest
