import Slipway.Manifest.Lookup

/-!
# Where inherited fields come from

A directory on the way up from a package is passed over, or its manifest declares a workspace, or
its manifest cannot be read (`passes_or`). The search ends at the first directory that is not passed
over, so what it finds depends on the directories up to that one only (`SameAt.findAbove`), and the
package is what its manifest says with the inherited fields of that workspace
(`PackageFields.settled`).
-/

namespace Slipway

/-- The package with its inherited fields taken from a workspace and the others as they are
written. -/
def PackageFields.settled (p : PackageFields) (offered : Inheritance) : Package where
  name := p.name
  version :=
    if p.version.any Manifest.isInherited then offered.version
    else Manifest.resolveVersion none p.version
  publishable :=
    if p.publish.any Manifest.isInherited then
      (offered.publish.map Manifest.allowsPublishing).getD true
    else Manifest.resolvePublish none p.publish

namespace Manifest

variable {tree tree' : FileTree} {dir above : Path} {dirs before later : List Path} {m : Manifest}
  {p : PackageFields} {offered : Inheritance} {f : Failure}

/-! ### One directory -/

/-- The directory has no manifest, or one that declares no workspace. -/
def Passes (tree : FileTree) (dir : Path) : Prop :=
  tree.isFile (dir.join fileName) = true →
    ∃ m, load tree (dir.join fileName) = .ok m ∧ m.workspace = none

def Offers (tree : FileTree) (dir : Path) (offered : Inheritance) : Prop :=
  tree.isFile (dir.join fileName) = true ∧
    ∃ m, load tree (dir.join fileName) = .ok m ∧ m.workspace = some offered

def Breaks (tree : FileTree) (dir : Path) (f : Failure) : Prop :=
  tree.isFile (dir.join fileName) = true ∧ load tree (dir.join fileName) = .error f

theorem passes_or (tree : FileTree) (dir : Path) :
    Passes tree dir ∨ (∃ offered, Offers tree dir offered) ∨ ∃ f, Breaks tree dir f := by
  by_cases hfile : tree.isFile (dir.join fileName) = true
  · cases hload : load tree (dir.join fileName) with
    | error f => exact .inr (.inr ⟨f, hfile, hload⟩)
    | ok m =>
      cases hw : m.workspace with
      | none => exact .inl fun _ => ⟨m, hload, hw⟩
      | some offered => exact .inr (.inl ⟨offered, hfile, m, hload, hw⟩)
  · exact .inl fun h => absurd h hfile

theorem Passes.not_offers (h : Passes tree dir) : ¬ Offers tree dir offered := by
  rintro ⟨hfile, m, hload, hw⟩
  obtain ⟨m', hload', hw'⟩ := h hfile
  obtain rfl : m' = m := Except.ok.inj (hload'.symm.trans hload)
  rw [hw'] at hw; cases hw

theorem Passes.not_breaks (h : Passes tree dir) : ¬ Breaks tree dir f := by
  rintro ⟨hfile, hload⟩
  obtain ⟨m, hload', -⟩ := h hfile
  rw [hload'] at hload; cases hload

theorem findAbove_cons_of_passes (h : Passes tree dir) (dirs : List Path) :
    findAbove tree (dir :: dirs) = findAbove tree dirs := by
  rw [findAbove]
  by_cases hfile : tree.isFile (dir.join fileName) = true
  · obtain ⟨m, hload, hw⟩ := h hfile
    simp only [if_pos hfile, hload, hw]
  · simp only [if_neg hfile]

theorem findAbove_cons_of_offers (h : Offers tree dir offered) (dirs : List Path) :
    findAbove tree (dir :: dirs) = .ok (some offered) := by
  obtain ⟨hfile, m, hload, hw⟩ := h
  rw [findAbove]
  simp only [if_pos hfile, hload, hw]

theorem findAbove_cons_of_breaks (h : Breaks tree dir f) (dirs : List Path) :
    findAbove tree (dir :: dirs) = .error f := by
  rw [findAbove]
  simp only [if_pos h.1, h.2]

/-! ### The search -/

theorem findAbove_append (h : ∀ d ∈ before, Passes tree d) (dirs : List Path) :
    findAbove tree (before ++ dirs) = findAbove tree dirs := by
  induction before with
  | nil => rfl
  | cons d before ih =>
    rw [List.cons_append, findAbove_cons_of_passes (h d List.mem_cons_self),
      ih fun e he => h e (List.mem_cons_of_mem d he)]

theorem findAbove_of_passes (h : ∀ d ∈ dirs, Passes tree d) : findAbove tree dirs = .ok none := by
  rw [← List.append_nil dirs, findAbove_append h]
  rfl

/-- Either all directories are passed over, or there is a first one that is not. -/
theorem exists_first (tree : FileTree) (dirs : List Path) :
    (∀ d ∈ dirs, Passes tree d) ∨
      ∃ before above later, dirs = before ++ above :: later ∧ (∀ d ∈ before, Passes tree d) ∧
        ((∃ offered, Offers tree above offered) ∨ ∃ f, Breaks tree above f) := by
  induction dirs with
  | nil => exact .inl nofun
  | cons d dirs ih =>
    rcases passes_or tree d with hd | hd
    · rcases ih with ih | ⟨before, above, later, rfl, hp, ha⟩
      · exact .inl (List.forall_mem_cons.2 ⟨hd, ih⟩)
      · exact .inr ⟨d :: before, above, later, rfl, List.forall_mem_cons.2 ⟨hd, hp⟩, ha⟩
    · exact .inr ⟨[], d, dirs, rfl, nofun, hd⟩

/-! ### Trees that agree -/

/-- Whether two trees have the same manifest in a directory, or none. -/
structure SameAt (tree tree' : FileTree) (dir : Path) : Prop where
  isFile : tree'.isFile (dir.join fileName) = tree.isFile (dir.join fileName)
  readText : tree'.readText (dir.join fileName) = tree.readText (dir.join fileName)

theorem load_congr (h : tree'.readText dir = tree.readText dir) :
    load tree' dir = load tree dir := by
  rw [load, load, h]

namespace SameAt

theorem load (h : SameAt tree tree' dir) :
    load tree' (dir.join fileName) = load tree (dir.join fileName) :=
  load_congr h.readText

theorem passes (h : SameAt tree tree' dir) (hp : Passes tree dir) : Passes tree' dir := by
  rw [Passes, h.isFile, h.load]
  exact hp

theorem offers (h : SameAt tree tree' dir) (ho : Offers tree dir offered) :
    Offers tree' dir offered := by
  rw [Offers, h.isFile, h.load]
  exact ho

theorem breaks (h : SameAt tree tree' dir) (hb : Breaks tree dir f) : Breaks tree' dir f := by
  rw [Breaks, h.isFile, h.load]
  exact hb

theorem forall_iff : (∀ d ∈ dir :: (before ++ [above]), SameAt tree tree' d) ↔
    SameAt tree tree' dir ∧ (∀ d ∈ before, SameAt tree tree' d) ∧ SameAt tree tree' above := by
  rw [List.forall_mem_cons, List.forall_mem_append, List.forall_mem_singleton]

end SameAt

/-! ### Settling -/

theorem resolveVersion_some (offered : Inheritance) (v : Option Toml.Value) :
    resolveVersion (some offered) v =
      if v.any isInherited then offered.version else resolveVersion none v := by
  cases v with
  | none => rfl
  | some v =>
    rw [Option.any_some]
    cases v with
    | string s => rfl
    | _ =>
      simp only [resolveVersion]
      split <;> rfl

theorem resolvePublish_some (offered : Inheritance) (v : Option Toml.Value) :
    resolvePublish (some offered) v =
      if v.any isInherited then (offered.publish.map allowsPublishing).getD true
      else resolvePublish none v := by
  cases v with
  | none => rfl
  | some v =>
    rw [Option.any_some, resolvePublish, resolvePublish]
    split <;> rfl

theorem resolve_eq_settled (hp : m.package = some p) (offered : Inheritance) :
    m.resolve (some offered) = .ok (p.settled offered) := by
  rw [resolve, hp]
  simp only [resolveVersion_some, resolvePublish_some]
  rfl

theorem exists_package_of_inherits (h : m.inherits = true) : ∃ p, m.package = some p := by
  rw [inherits] at h
  cases hp : m.package with
  | none => rw [hp] at h; cases h
  | some p => exact ⟨p, rfl⟩

section
variable (h : load tree (dir.join fileName) = .ok m)
include h

theorem readPackage_of_not_inherits (hi : m.inherits = false) :
    readPackage tree dir =
      withContext ("Invalid manifest " ++ dir.join fileName) (m.resolve none) := by
  rw [readPackage]
  simp only [h, hi, Bool.false_eq_true, if_false]

theorem readPackage_of_findWorkspace (hi : m.inherits = true) (hp : m.package = some p)
    (hw : findWorkspace tree dir m = .ok offered) :
    readPackage tree dir = .ok (p.settled offered) := by
  rw [readPackage]
  simp only [h, hi, if_true, hw, resolve_eq_settled hp]
  rfl

theorem readPackage_of_findWorkspace_eq_error (hi : m.inherits = true)
    (hw : findWorkspace tree dir m = .error f) : readPackage tree dir = .error f := by
  rw [readPackage]
  simp only [h, hi, if_true, hw]

end

/-! ### The workspace of a package -/

/-- Whether a package directory inherits from the workspace of `above`: its own, or that of the
first directory further up which is not passed over. -/
inductive Serves (tree : FileTree) (dir : Path) (m : Manifest) : Path → Inheritance → Prop where
  | own {offered : Inheritance} (h : m.workspace = some offered) : Serves tree dir m dir offered
  | further {before later : List Path} {above : Path} {offered : Inheritance}
      (hm : m.workspace = none) (hs : dir.ancestors.tail = before ++ above :: later)
      (hp : ∀ d ∈ before, Passes tree d) (ho : Offers tree above offered) :
      Serves tree dir m above offered

theorem findWorkspace_of_none (hm : m.workspace = none) :
    findWorkspace tree dir m =
      (findAbove tree dir.ancestors.tail).bind fun
        | some offered => .ok offered
        | none => .error ⟨.invalidConfiguration
            ("package inherits fields from a workspace, but no workspace manifest was found above "
              ++ dir), none⟩ := by
  rw [findWorkspace]
  simp only [hm]
  rcases findAbove tree dir.ancestors.tail with f | _ | offered <;> rfl

theorem findWorkspace_eq_ok_iff :
    findWorkspace tree dir m = .ok offered ↔ ∃ above, Serves tree dir m above offered := by
  constructor
  · intro h
    cases hm : m.workspace with
    | some own =>
      rw [findWorkspace] at h
      simp only [hm] at h
      obtain rfl := Except.ok.inj h
      exact ⟨dir, .own hm⟩
    | none =>
      rw [findWorkspace_of_none hm] at h
      rcases exists_first tree dir.ancestors.tail with
        hp | ⟨before, above, later, hs, hp, ⟨offered', ho⟩ | ⟨f, hb⟩⟩
      · rw [findAbove_of_passes hp] at h; cases h
      · rw [hs, findAbove_append hp, findAbove_cons_of_offers ho] at h
        obtain rfl := Except.ok.inj h
        exact ⟨above, .further hm hs hp ho⟩
      · rw [hs, findAbove_append hp, findAbove_cons_of_breaks hb] at h; cases h
  · rintro ⟨above, h⟩
    cases h with
    | own hm => rw [findWorkspace]; simp only [hm]
    | further hm hs hp ho =>
      rw [findWorkspace_of_none hm, hs, findAbove_append hp, findAbove_cons_of_offers ho]
      rfl

section
variable (h : load tree (dir.join fileName) = .ok m) (hi : m.inherits = true)
  (hm : m.workspace = none) (hs : dir.ancestors.tail = before ++ above :: later)
  (hpass : ∀ d ∈ before, Passes tree d)
include h hi hm hs hpass

theorem readPackage_of_offers (hp : m.package = some p) (ho : Offers tree above offered) :
    readPackage tree dir = .ok (p.settled offered) :=
  readPackage_of_findWorkspace h hi hp (findWorkspace_eq_ok_iff.2 ⟨above, .further hm hs hpass ho⟩)

theorem readPackage_of_breaks (hb : Breaks tree above f) : readPackage tree dir = .error f := by
  refine readPackage_of_findWorkspace_eq_error h hi ?_
  rw [findWorkspace_of_none hm, hs, findAbove_append hpass, findAbove_cons_of_breaks hb]
  rfl

end

theorem readPackage_of_passes (h : load tree (dir.join fileName) = .ok m) (hi : m.inherits = true)
    (hm : m.workspace = none) (hpass : ∀ d ∈ dir.ancestors.tail, Passes tree d) :
    readPackage tree dir = .error ⟨.invalidConfiguration
      ("package inherits fields from a workspace, but no workspace manifest was found above "
        ++ dir), none⟩ := by
  refine readPackage_of_findWorkspace_eq_error h hi ?_
  rw [findWorkspace_of_none hm, findAbove_of_passes hpass]
  rfl

/-- A package that inherits nothing is read from its own manifest. One that inherits, without a
workspace of its own, is settled by the first directory further up that is not passed over: by what
its manifest offers, or it is refused as this manifest is; and no directory beyond that one plays a
part. There may be no such directory, and then the package is refused. A workspace that withholds
its packages withholds each one that inherits this. -/
theorem readPackage_of_load (h : load tree (dir.join fileName) = .ok m) :
    (m.inherits = false → ∀ tree' : FileTree,
      tree'.readText (dir.join fileName) = tree.readText (dir.join fileName) →
        readPackage tree' dir = readPackage tree dir) ∧
    (m.inherits = true → m.workspace = none →
      (∃ before above later, dir.ancestors.tail = before ++ above :: later ∧
        (∀ d ∈ before, Passes tree d) ∧
        ((∃ offered p, Offers tree above offered ∧ m.package = some p ∧
            readPackage tree dir = .ok (p.settled offered)) ∨
          ∃ f, Breaks tree above f ∧ readPackage tree dir = .error f) ∧
        ∀ tree' : FileTree, (∀ d ∈ dir :: (before ++ [above]), SameAt tree tree' d) →
          readPackage tree' dir = readPackage tree dir) ∨
      (∀ d ∈ dir.ancestors.tail, Passes tree d) ∧
        readPackage tree dir = .error ⟨.invalidConfiguration
          ("package inherits fields from a workspace, but no workspace manifest was found above "
            ++ dir), none⟩) ∧
    ∀ p above offered, m.package = some p → p.publish.any isInherited = true →
      Serves tree dir m above offered →
      offered.publish = some (.boolean false) ∨ offered.publish = some (.array []) →
        ∃ package, readPackage tree dir = .ok package ∧ package.publishable = false := by
  refine ⟨fun hi tree' hsame => ?_, fun hi hm => ?_, fun p above offered hp hpub hs hoff => ?_⟩
  · have h' : load tree' (dir.join fileName) = .ok m := (load_congr hsame).trans h
    rw [readPackage_of_not_inherits h hi, readPackage_of_not_inherits h' hi]
  · obtain ⟨p, hp⟩ := exists_package_of_inherits hi
    rcases exists_first tree dir.ancestors.tail with
      hall | ⟨before, above, later, hs, hpass, ⟨offered, ho⟩ | ⟨f, hb⟩⟩
    · exact .inr ⟨hall, readPackage_of_passes h hi hm hall⟩
    · have hread : readPackage tree dir = .ok (p.settled offered) :=
        readPackage_of_offers h hi hm hs hpass hp ho
      refine .inl ⟨before, above, later, hs, hpass, .inl ⟨offered, p, ho, hp, hread⟩, ?_⟩
      intro tree' hsame
      obtain ⟨hdir, hbefore, habove⟩ := SameAt.forall_iff.1 hsame
      have hpass' : ∀ d ∈ before, Passes tree' d := fun d hd => (hbefore d hd).passes (hpass d hd)
      rw [hread, readPackage_of_offers (hdir.load.trans h) hi hm hs hpass' hp (habove.offers ho)]
    · have hread : readPackage tree dir = .error f := readPackage_of_breaks h hi hm hs hpass hb
      refine .inl ⟨before, above, later, hs, hpass, .inr ⟨f, hb, hread⟩, ?_⟩
      intro tree' hsame
      obtain ⟨hdir, hbefore, habove⟩ := SameAt.forall_iff.1 hsame
      have hpass' : ∀ d ∈ before, Passes tree' d := fun d hd => (hbefore d hd).passes (hpass d hd)
      rw [hread, readPackage_of_breaks (hdir.load.trans h) hi hm hs hpass' (habove.breaks hb)]
  · have hi : m.inherits = true := by
      rw [inherits, hp, Option.any_some, hpub, Bool.or_true]
    refine ⟨_, readPackage_of_findWorkspace h hi hp (findWorkspace_eq_ok_iff.2 ⟨above, hs⟩), ?_⟩
    rw [PackageFields.settled, if_pos hpub]
    rcases hoff with hoff | hoff
    · rw [hoff]; rfl
    · rw [hoff]; rfl

theorem allowsPublishing_eq_false_iff {v : Toml.Value} :
    allowsPublishing v = false ↔ v = .boolean false ∨ v = .array [] := by
  cases v with
  | boolean b => simp [allowsPublishing]
  | array registries => simp [allowsPublishing]
  | _ => simp [allowsPublishing]

theorem exists_of_any_toOption {α : Type} {r : Except Failure α} {P : α → Bool}
    (h : r.toOption.any P = true) : ∃ a, r = .ok a ∧ P a = true := by
  cases r with
  | error f => cases h
  | ok a => exact ⟨a, rfl, h⟩

/-- The manifest between the package and its workspace is passed over, and what is above the
workspace does not matter. -/
theorem readPackage_of_load_between :
    let workspace : Contents := .text "[workspace.package]\npublish = false\n"
    let between : Contents := .text "[package]\nname = \"mid\"\n"
    let inner : Contents := .text "[package]\nname = \"p\"\npublish.workspace = true\n"
    let tree := (((FileTree.addFile { cwd := ["home"] } "/ws/Cargo.toml" workspace).addFile
      "/ws/mid/Cargo.toml" between).addFile "/ws/mid/in/Cargo.toml" inner).addFile
      "/Cargo.toml" (.text "[workspace]\n")
    (∃ package, readPackage tree "/ws/mid/in" = .ok package ∧ package.publishable = false) ∧
      ∀ tree' : FileTree, (∀ d ∈ ["/ws/mid/in", "/ws/mid", "/ws"], SameAt tree tree' d) →
        readPackage tree' "/ws/mid/in" = readPackage tree "/ws/mid/in" := by
  intro workspace between inner tree
  have hanc : Path.ancestors "/ws/mid/in" = ["/ws/mid/in", "/ws/mid", "/ws", "/"] := by
    decide +kernel
  obtain ⟨m, hload, hm⟩ : ∃ m, load tree (Path.join "/ws/mid/in" fileName) = .ok m ∧
      (m.inherits && m.workspace.isNone &&
        m.package.any fun p => p.publish.any isInherited) = true :=
    exists_of_any_toOption (by decide +kernel)
  simp only [Bool.and_eq_true, Option.isNone_iff_eq_none, Option.any_eq_true] at hm
  obtain ⟨⟨hi, hnone⟩, p, hp, v, hv, hinh⟩ := hm
  have hpass : Passes tree "/ws/mid" := by
    obtain ⟨m, hload, hm⟩ : ∃ m, load tree (Path.join "/ws/mid" fileName) = .ok m ∧
        m.workspace.isNone = true := exists_of_any_toOption (by decide +kernel)
    exact fun _ => ⟨m, hload, Option.isNone_iff_eq_none.1 hm⟩
  obtain ⟨offered, hoffers, hoff⟩ : ∃ offered, Offers tree "/ws" offered ∧
      (offered.publish = some (.boolean false) ∨ offered.publish = some (.array [])) := by
    obtain ⟨m, hload, hm⟩ : ∃ m, load tree (Path.join "/ws" fileName) = .ok m ∧
        (m.workspace.any fun w => w.publish.any fun v => !allowsPublishing v) = true :=
      exists_of_any_toOption (by decide +kernel)
    simp only [Option.any_eq_true, Bool.not_eq_true'] at hm
    obtain ⟨offered, hw, v, hpub, hv⟩ := hm
    refine ⟨offered, ⟨by decide +kernel, m, hload, hw⟩, ?_⟩
    rcases allowsPublishing_eq_false_iff.1 hv with rfl | rfl
    · exact .inl hpub
    · exact .inr hpub
  obtain ⟨-, hup, hpublish⟩ := readPackage_of_load hload
  refine ⟨hpublish p "/ws" offered hp (by rw [hv]; exact hinh) ?_ hoff, ?_⟩
  · have hsplit : (Path.ancestors "/ws/mid/in").tail = ["/ws/mid"] ++ "/ws" :: ["/"] := by
      rw [hanc]; rfl
    exact .further hnone hsplit (by simpa using hpass) hoffers
  · rw [hanc] at hup
    rcases hup hi hnone with ⟨before, above, later, hs, hbefore, hend, hsame⟩ | ⟨hall, -⟩
    · rcases before with _ | ⟨d, _ | ⟨e, before⟩⟩
      · obtain ⟨rfl, -⟩ := List.cons.inj hs
        rcases hend with ⟨o, q, ho, -, -⟩ | ⟨f, hb, -⟩
        · exact absurd ho hpass.not_offers
        · exact absurd hb hpass.not_breaks
      · obtain ⟨rfl, hs'⟩ := List.cons.inj hs
        obtain ⟨rfl, -⟩ := List.cons.inj hs'
        exact hsame
      · obtain ⟨-, hs'⟩ := List.cons.inj hs
        obtain ⟨rfl, -⟩ := List.cons.inj hs'
        exact absurd hoffers (hbefore "/ws" (by simp)).not_offers
    · exact absurd hoffers (hall "/ws" (by simp)).not_offers

end Manifest

end Slipway
